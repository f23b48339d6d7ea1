import Inquiry.Expert
import Inquiry.Proofs.Commands
import Inquiry.Proofs.Truth

/-!
# Negated conditions

A condition is negated in several ways: inequality for equality, presence for
absence, a negated group for everything else, and for a country two columns that
are searched together. All of them give the opposite of the condition that is
not negated, under every coherent truth assignment, with the same tokens left
behind it and with the same failures.

Words behind no operator are the exception (`words_are_searched_or_compared`): a
value of plain words in a text column is searched for, but its negation is that
the column is not equal to it.
-/

namespace Inquiry

/-- Truth under which inequality is the opposite of equality, and presence that
of absence. -/
structure Coherent (truth : Predicate → Bool) : Prop where
  notEquals : ∀ field value named, truth ⟨field, .compare .notEquals value, named⟩ =
    !truth ⟨field, .compare .equals value, named⟩
  isNotNull : ∀ field named, truth ⟨field, .isNotNull, named⟩ = !truth ⟨field, .isNull, named⟩

/-- Nodes of which exactly one holds, whatever the predicates say. -/
def Node.Opposes (node other : Node) : Prop :=
  ∀ truth, Coherent truth → node.value truth = !other.value truth

namespace Request

theorem opposite?_cases {test other : Test} (h : opposite? test = some other) :
    (∃ value, test = .compare .equals value ∧ other = .compare .notEquals value) ∨
      (∃ value, test = .compare .notEquals value ∧ other = .compare .equals value) ∨
      test = .isNull ∧ other = .isNotNull ∨ test = .isNotNull ∧ other = .isNull := by
  unfold opposite? at h
  split at h <;> cases h <;> simp

theorem opposes_of_opposite? {p : Predicate} {test : Test} (h : opposite? p.test = some test) :
    (Node.predicate { p with test }).Opposes (.predicate p) := by
  obtain ⟨field, own, named⟩ := p
  intro truth coherent
  rcases opposite?_cases h with ⟨value, rfl, rfl⟩ | ⟨value, rfl, rfl⟩ | ⟨rfl, rfl⟩ | ⟨rfl, rfl⟩
  · exact coherent.notEquals field value named
  · simp [coherent.notEquals]
  · exact coherent.isNotNull field named
  · simp [coherent.isNotNull]

/-! ## The rules -/

/-- Rules that keep what a predicate says up to its opposite, and that look at
the digits of a value only. -/
structure Rules.Faithful (rules : Rules) (r : Report) : Prop where
  counts : ∀ p, (rules.expand p r).Counts
  opposes : ∀ p test, opposite? p.test = some test →
    (rules.expand { p with test } r).Opposes (rules.expand p r)
  redirect : ∀ field value, value.raw.toList.any Text.isDigit = false →
    rules.redirect field value r = field

theorem Rules.faithful_none (r : Report) : ({} : Rules).Faithful r :=
  ⟨Node.counts_predicate, fun _ _ => opposes_of_opposite?, fun _ _ _ => rfl⟩

theorem Rules.isBrokerNumber_eq_false {text : String}
    (noDigit : text.toList.any Text.isDigit = false) : isBrokerNumber text = false := by
  have none {cs : List Char} (sub : cs ⊆ text.toList) :
      (decide (4 ≤ cs.length) && cs.all Text.isDigit) = false := by
    cases cs with
    | nil => rfl
    | cons c rest =>
        have first := List.any_eq_false.mp noDigit c (sub List.mem_cons_self)
        rw [List.all_cons, Bool.eq_false_iff.mpr first]
        simp
  rw [isBrokerNumber]
  split
  · next c rest heq =>
      split
      · exact none (heq ▸ List.subset_cons_self c rest)
      · exact none (List.Subset.refl _)
  · exact none (List.nil_subset _)

/-- A country in two columns is negated with both of them. -/
theorem Rules.faithful_cover (r : Report) : Rules.cover.Faithful r := by
  refine ⟨?_, ?_, ?_⟩
  · intro p
    simp only [cover, expandCountry]
    split
    · split
      · exact List.cons_ne_nil _ _
      · exact Node.counts_predicate p
    · exact Node.counts_predicate p
  · intro p test opposite
    simp only [cover, expandCountry]
    split
    · obtain ⟨field, own, named⟩ := p
      -- Equality and inequality ask both columns, and only the group is negated.
      rcases opposite?_cases opposite with
        ⟨value, rfl, rfl⟩ | ⟨value, rfl, rfl⟩ | ⟨rfl, rfl⟩ | ⟨rfl, rfl⟩
      · intro truth _
        simp [countryTest?, Group.valuesOf]
      · intro truth _
        simp [countryTest?, Group.valuesOf]
      · exact opposes_of_opposite? opposite
      · exact opposes_of_opposite? opposite
    · exact opposes_of_opposite? opposite
  · intro field value noDigit
    change redirectBroker field value r = field
    rw [redirectBroker, if_neg]
    rintro ⟨-, number, -⟩
    rw [isBrokerNumber_eq_false noDigit] at number
    cases number

/-! ## Two readings of one condition -/

/-- The same failure, or nodes of which exactly one holds. -/
inductive Opposed : Except Failure Node → Except Failure Node → Prop where
  | failed (failure : Failure) : Opposed (.error failure) (.error failure)
  | read {node other : Node} (opposes : node.Opposes other) : Opposed (.ok node) (.ok other)

/-- The same failure, no condition twice, or opposite conditions with the same
tokens behind them. -/
inductive Complementary :
    Except Failure (Option (Node × List Token)) → Except Failure (Option (Node × List Token)) →
      Prop where
  | failed (failure : Failure) : Complementary (.error failure) (.error failure)
  | nothing : Complementary (.ok none) (.ok none)
  | read {node other : Node} (opposes : node.Opposes other) (rest : List Token) :
      Complementary (.ok (some (node, rest))) (.ok (some (other, rest)))

/-- What holds of one condition does not hold of the other. -/
theorem Complementary.value_eq {read other : Except Failure (Option (Node × List Token))}
    (h : Complementary read other) {truth : Predicate → Bool} (coherent : Coherent truth)
    {holds : Bool} (value : other.map (·.map (·.1.value truth)) = .ok (some holds)) :
    read.map (·.map (·.1.value truth)) = .ok (some !holds) := by
  cases h with
  | failed failure => cases value
  | nothing => cases value
  | read opposes rest =>
      simp only [Except.map, Option.map_some, Except.ok.injEq, Option.some.injEq] at value ⊢
      rw [opposes truth coherent, value]

namespace Opposed

/-- Two readings that begin alike and go on opposed. -/
theorem bind {α : Type} (first : Except Failure α) {next next' : α → Except Failure Node}
    (h : ∀ a, first = .ok a → Opposed (next a) (next' a)) :
    Opposed (first >>= next) (first >>= next') := by
  cases first with
  | error failure => exact .failed failure
  | ok a => exact h a rfl

theorem map (first : Except Failure Predicate) {next next' : Predicate → Node}
    (h : ∀ p, (next p).Opposes (next' p)) : Opposed (first.map next) (first.map next') := by
  cases first with
  | error failure => exact .failed failure
  | ok p => exact .read (h p)

theorem reading {node other : Except Failure Node} (h : Opposed node other)
    (rest : List Token) : Complementary (Scope.reading node rest) (Scope.reading other rest) := by
  cases h with
  | failed failure => exact .failed failure
  | read opposes => exact .read opposes rest

end Opposed

/-- A value of plain words without digits and wildcards, in a text column. -/
structure Scope.IsPlainText (scope : Scope) (field : String) (value : Token) : Prop where
  word : value.kind = .word
  noDigit : value.raw.toList.any Text.isDigit = false
  noWildcard : Literal.hasWildcard value.raw = false
  text : ∃ column, scope.report.column? field = some column ∧ column.numeric = false

/-- What values mean behind no operator does not depend on a negation, except for
plain words in a text column. -/
theorem defaultRelation_eq {column : Column} {first : Token} {others : List Token}
    (ofKind : first.isValue = true ∨ first.kind = .word)
    (told : others = [] → first.kind = .word → first.raw.toList.any Text.isDigit = false →
      Literal.hasWildcard first.raw = false → column.numeric = true) (negate : Bool) :
    defaultRelation column negate first others = defaultRelation column false first others := by
  simp only [defaultRelation]
  split
  · rfl
  · next alone =>
      split
      · rfl
      · next text =>
          split
          · rfl
          · next noPattern =>
              have equality : first.isValue = true ∨ first.raw.toList.any Text.isDigit = true := by
                by_contra neither
                obtain ⟨noValue, noDigit⟩ := not_or.mp neither
                have word := ofKind.resolve_left noValue
                refine text (told (not_not.mp alone) word (Bool.eq_false_iff.mpr noDigit) ?_)
                exact Bool.eq_false_iff.mpr fun wildcard => noPattern ⟨word, wildcard⟩
              rcases equality with value | digit <;> simp [*]

/-- What is settled about values is negated or not with the condition. -/
theorem settled_eq {column : Column} {relation : Option Relation} {first : Token}
    {others : List Token} (ofKind : first.isValue = true ∨ first.kind = .word)
    (told : relation = none → others = [] → first.kind = .word →
      first.raw.toList.any Text.isDigit = false → Literal.hasWildcard first.raw = false →
        column.numeric = true) :
    ∃ meant flips, ∀ negate,
      settled column relation negate first others = (meant, negate != flips) := by
  have searched {relation : Option Relation} (meant : Relation) (flips : Bool)
      (h : ∀ negate, settled column relation negate first others =
        let hasPattern := (first :: others).any fun v =>
          v.kind == .word && Literal.hasWildcard v.raw
        if (meant = .compare .equals ∨ meant = .oneOf) ∧ hasPattern then
          (.compare .contains, negate != flips)
        else (meant, negate != flips)) :
      ∃ meant flips, ∀ negate,
        settled column relation negate first others = (meant, negate != flips) := by
    refine ⟨if (meant = .compare .equals ∨ meant = .oneOf) ∧ ((first :: others).any fun v =>
      v.kind == .word && Literal.hasWildcard v.raw) then .compare .contains else meant, flips, ?_⟩
    intro negate
    rw [h negate]
    simp only
    split <;> rfl
  match relation with
  | none =>
      refine searched (defaultRelation column false first others) false fun negate => ?_
      rw [settled, defaultRelation_eq ofKind (told rfl) negate, Bool.bne_false]
  | some meant =>
      by_cases equals : meant = .compare .equals
      · subst equals
        refine searched (if others = [] then .compare .equals else .oneOf) false fun negate => ?_
        rw [settled, Bool.bne_false]
      · by_cases unequal : meant = .compare .notEquals
        · subst unequal
          refine searched (if others = [] then .compare .equals else .oneOf) true fun negate => ?_
          rw [settled, Bool.bne_true]
        · refine searched meant false fun negate => ?_
          rw [settled, Bool.bne_false]
          · exact equals
          · exact unequal

namespace Scope

variable {scope : Scope}

theorem value_finish (faithful : scope.rules.Faithful scope.report) {truth : Predicate → Bool}
    (coherent : Coherent truth) (negate : Bool) (p : Predicate) :
    (scope.finish negate p).value truth =
      (negate != (scope.rules.expand p scope.report).value truth) := by
  cases negate with
  | false => simp [finish]
  | true =>
      simp only [finish, if_true]
      split
      · next test opposite => simp [faithful.opposes p test opposite truth coherent]
      · rw [Node.value_group, Group.value_addNode_mk truth (faithful.counts p)]

/-- What is finished both ways is opposite. -/
theorem finish_opposes (faithful : scope.rules.Faithful scope.report) (negate : Bool)
    (p : Predicate) : (scope.finish (!negate) p).Opposes (scope.finish negate p) := by
  intro truth coherent
  rw [value_finish faithful coherent, value_finish faithful coherent]
  simp

/-- Searches for several values count in the group that they make. -/
theorem counts_of_searches (faithful : scope.rules.Faithful scope.report) {field : String}
    {column : Column} {first : Token} {others : List Token} {nodes : List Node}
    (h : (first :: others).mapM (fun v => do
      let value ← bound column field true v
      let p ← Predicate.of field (.compare .contains value)
      return scope.rules.expand p scope.report) = .ok nodes) :
    (Node.group (nodes.foldl Group.addNode ⟨[], [], .or, false⟩)).Counts := by
  rw [List.mapM_cons] at h
  obtain ⟨node, searched, h⟩ := ok_of_bind h
  obtain ⟨more, -, ⟨⟩⟩ := ok_of_bind h
  obtain ⟨value, -, searched⟩ := ok_of_bind searched
  obtain ⟨p, -, ⟨⟩⟩ := ok_of_bind searched
  obtain ⟨own, member⟩ := List.exists_mem_of_ne_nil _ (faithful.counts p)
  refine List.ne_nil_of_mem (a := own) ((Group.mem_allPredicates_addNodes _ _ own).mpr ?_)
  exact .inr ⟨_, List.mem_cons_self, member⟩

theorem value_wrapped {truth : Predicate → Bool} {g : Group} (counts : (Node.group g).Counts)
    (negate : Bool) :
    (if negate then (⟨[], [g], .and, true⟩ : Group) else g).value truth =
      (negate != g.value truth) := by
  cases negate with
  | false => simp
  | true => exact Group.value_addNode_mk truth counts .and true

theorem conclude_opposed (faithful : scope.rules.Faithful scope.report) (field : String)
    (relation : Option Relation) (negate : Bool) (first : Token) (others : List Token)
    (ofKind : first.isValue = true ∨ first.kind = .word)
    (told : relation = none → others = [] → ¬ scope.IsPlainText field first) :
    Opposed (scope.conclude field relation (!negate) first others)
      (scope.conclude field relation negate first others) := by
  simp only [conclude]
  refine Opposed.bind (scope.column _) fun column found => ?_
  obtain ⟨meant, flips, settled⟩ : ∃ meant flips, ∀ negate,
      settled column relation negate first others = (meant, negate != flips) := by
    refine settled_eq ofKind fun silent alone word noDigit noWildcard => ?_
    rw [faithful.redirect field first noDigit] at found
    by_contra text
    refine told silent alone ⟨word, noDigit, noWildcard, column, ?_, Bool.eq_false_iff.mpr text⟩
    rw [Scope.column] at found
    split at found <;> cases found
    assumption
  rw [settled, settled]
  simp only
  have turned : ((!negate) != flips) = !(negate != flips) := Bool.not_bne negate flips
  have finished (p : Predicate) : (scope.finish ((!negate) != flips) p).Opposes
      (scope.finish (negate != flips) p) := turned ▸ finish_opposes faithful (negate != flips) p
  split
  · exact .failed _
  · cases meant with
    | oneOf =>
        simp only
        refine Opposed.bind _ fun value _ => Opposed.bind _ fun values _ => ?_
        exact Opposed.bind _ fun p _ => .read (finished p)
    | compare comparison =>
        simp only
        split
        · refine Opposed.bind _ fun value _ => ?_
          exact Opposed.bind _ fun p _ => .read (finished p)
        · split
          · refine Opposed.bind _ fun nodes searched => .read fun truth _ => ?_
            have counts := counts_of_searches faithful searched
            rw [Node.value_group, Node.value_group, value_wrapped counts, value_wrapped counts]
            simp
          · exact .failed _

theorem between_opposed (faithful : scope.rules.Faithful scope.report) (field : String)
    (negate : Bool) (low high : Token) :
    Opposed (scope.between field (!negate) low high) (scope.between field negate low high) := by
  simp only [between]
  refine Opposed.bind (scope.column _) fun column _ => ?_
  refine Opposed.bind (bound column _ false low) fun lowest _ => ?_
  refine Opposed.bind (bound column _ false high) fun highest _ => ?_
  refine Opposed.bind (Predicate.of _ _) fun p _ => ?_
  exact .read (finish_opposes faithful negate p)

theorem presence_opposed (faithful : scope.rules.Faithful scope.report) (field : String)
    (negate : Bool) (test : Test) :
    Opposed ((Predicate.of field test).map (scope.finish (!negate)))
      ((Predicate.of field test).map (scope.finish negate)) :=
  Opposed.map _ (finish_opposes faithful negate)

/-- A value is a number, a date, a quoted text, or made of words. -/
theorem kind_of_value? {tokens rest : List Token} {value : Token}
    (h : scope.value? tokens = some (value, rest)) :
    value.isValue = true ∨ value.kind = .word := by
  have plain (tokens : List Token) (h : scope.plainValue? tokens = some (value, rest)) :
      value.kind = .word := by
    rw [plainValue?] at h
    split at h
    · cases h
    · next first others left words =>
        cases h
        split
        · cases tokens with
          | nil => cases words
          | cons t rest =>
              rw [plainWords] at words
              split at words
              · next starts =>
                  cases words
                  simp only [startsPlainWord, Bool.and_eq_true, beq_iff_eq] at starts
                  exact starts.1.1
              · cases words
        · rfl
  cases tokens with
  | nil => cases h
  | cons t left =>
      rw [value?] at h
      split at h
      · next kind => cases h; simp [Token.isValue, kind]
      · next kind => cases h; simp [Token.isValue, kind]
      · next kind => cases h; simp [Token.isValue, kind]
      all_goals exact .inr (plain _ h)

theorem kind_of_values {andToo : Bool} {tokens others rest : List Token} {first : Token}
    (h : scope.values andToo tokens = (first :: others, rest)) :
    first.isValue = true ∨ first.kind = .word := by
  rw [values] at h
  split at h
  · cases h
  · next read =>
      cases h
      exact kind_of_value? read

/-! ## The condition behind a field -/

/-- What is left of a condition without `ist` and a negation. -/
def affirmed (tokens : List Token) : List Token :=
  skipWord negatingWords (skipWord beingWords tokens)

/-- Tokens that are read as one value of plain words behind no operator. -/
def HasOnlyWords (scope : Scope) (field : String) (tokens : List Token) : Prop :=
  let o := opening (beginsWith beingWords tokens) (affirmed tokens)
  o.relation = none ∧
    ∃ value rest, scope.values o.andToo o.rest = ([value], rest) ∧ scope.IsPlainText field value

theorem condition?_opposed (faithful : scope.rules.Faithful scope.report) (field : String)
    (negate : Bool) {tokens : List Token} (told : ¬ scope.HasOnlyWords field tokens) :
    Complementary (scope.condition? field (!negate) tokens)
      (scope.condition? field negate tokens) := by
  simp only [condition?, Bool.not_bne]
  simp only [HasOnlyWords, affirmed, not_and, not_exists] at told
  generalize (negate != beginsWith negatingWords (skipWord beingWords tokens)) = negate
  generalize skipWord negatingWords (skipWord beingWords tokens) = core at told ⊢
  split
  · exact (presence_opposed faithful field negate .isNull).reading _
  split
  · exact (presence_opposed faithful field negate .isNotNull).reading _
  split
  · split
    · exact .failed _
    · next low high rest _ => exact (between_opposed faithful field negate low high).reading rest
  split
  · split
    · exact .failed _
    · exact .nothing
  · next first others rest read =>
      have kind := kind_of_values read
      refine (conclude_opposed faithful field _ negate first others kind ?_).reading rest
      rintro silent rfl
      exact told silent first rest read

/-- A negation that opens a condition, alone or behind `ist`, before a condition
that opens with neither of them. -/
structure OpensNegated (being : List Token) (negation : Token) (core : List Token) : Prop where
  negates : negation.isWordIn negatingWords = true
  affirms : beginsWith negatingWords core = false
  being : being = [] ∧ beginsWith beingWords core = false ∨
    ∃ b, being = [b] ∧ b.isWordIn beingWords = true

/-- A negation that opens a condition turns a negation before the field around. -/
theorem OpensNegated.condition?_eq {being core : List Token} {negation : Token}
    (opens : OpensNegated being negation core) (field : String) (negate : Bool) :
    scope.condition? field negate (being ++ negation :: core) =
      scope.condition? field (!negate) (being ++ core) := by
  obtain ⟨negates, affirms, being⟩ := opens
  have begins : beginsWith negatingWords (negation :: core) = true := negates
  have skipped : skipWord negatingWords (negation :: core) = core := skipWord_of_begins negates
  have unchanged := skipWord_of_not_begins affirms
  rcases being with ⟨rfl, notBeing⟩ | ⟨b, rfl, isBeing⟩
  · have other : beginsWith beingWords (negation :: core) = false :=
      isWordIn_of_apart negates (by decide)
    simp only [condition?, List.nil_append, other, notBeing, skipWord_of_not_begins other,
      skipWord_of_not_begins notBeing, begins, affirms, skipped, unchanged, Bool.bne_true,
      Bool.bne_false]
  · have behind (rest : List Token) : beginsWith beingWords (b :: rest) = true := isBeing
    simp only [condition?, List.singleton_append, behind, skipWord_of_begins isBeing, begins,
      affirms, skipped, unchanged, Bool.bne_true, Bool.bne_false]

/-- A negated condition is the opposite of the condition, unless it is one value
of plain words behind no operator: both fail alike, both say nothing, or exactly
one of them holds, under the rules of every domain. And a negation that opens the
condition cancels one before the field. -/
theorem condition?_complementary (ruled : scope.rules = {} ∨ scope.rules = .cover)
    (field : String) :
    (∀ tokens, ¬ scope.HasOnlyWords field tokens →
      Complementary (scope.condition? field true tokens) (scope.condition? field false tokens)) ∧
    ∀ being negation core, OpensNegated being negation core → ∀ negate,
      scope.condition? field negate (being ++ negation :: core) =
        scope.condition? field (!negate) (being ++ core) := by
  have faithful : scope.rules.Faithful scope.report := by
    rcases ruled with none | cover
    · exact none ▸ Rules.faithful_none scope.report
    · exact cover ▸ Rules.faithful_cover scope.report
  exact ⟨fun tokens told => condition?_opposed faithful field false told,
    fun being negation core opens negate => opens.condition?_eq field negate⟩

/-- All towns but Bonn and Ulm, in two wordings of the negation. -/
theorem condition?_complementary_towns :
    Complementary
      (towns.condition? "ort" true
        [⟨"Bonn", "bonn", .quoted⟩, ⟨",", ",", .comma⟩, ⟨"Ulm", "ulm", .quoted⟩])
      (towns.condition? "ort" false
        [⟨"Bonn", "bonn", .quoted⟩, ⟨",", ",", .comma⟩, ⟨"Ulm", "ulm", .quoted⟩]) ∧
    towns.condition? "ort" true
        [⟨"sind", "sind", .word⟩, ⟨"nicht", "nicht", .word⟩, ⟨"Bonn", "bonn", .quoted⟩] =
      towns.condition? "ort" false [⟨"sind", "sind", .word⟩, ⟨"Bonn", "bonn", .quoted⟩] := by
  obtain ⟨complementary, cancels⟩ := @condition?_complementary towns (.inl rfl) "ort"
  refine ⟨complementary _ ?_, cancels [⟨"sind", "sind", .word⟩] _ _ ⟨?_, ?_, ?_⟩ true⟩
  · rintro ⟨-, value, rest, read, -⟩
    have two : (towns.values false
        [⟨"Bonn", "bonn", .quoted⟩, ⟨",", ",", .comma⟩, ⟨"Ulm", "ulm", .quoted⟩]).1.length = 2 := by
      decide +kernel
    have one : (towns.values false _).1.length = 1 := congrArg (·.1.length) read
    exact absurd (one.symm.trans two) (by decide)
  · decide
  · decide
  · exact .inr ⟨_, rfl, by decide⟩

/-- Two plain words are searched for, and their negation asks for inequality. So
both conditions hold for a town with more in its name. -/
theorem words_are_searched_or_compared :
    (∃ truth, Coherent truth ∧ ∀ negate,
      (towns.condition? "ort" negate
          [⟨"Bad", "bad", .word⟩, ⟨"Honnef", "honnef", .word⟩]).map
        (·.map (·.1.value truth)) = .ok (some true)) ∧
    ¬ Complementary
      (towns.condition? "ort" true [⟨"Bad", "bad", .word⟩, ⟨"Honnef", "honnef", .word⟩])
      (towns.condition? "ort" false [⟨"Bad", "bad", .word⟩, ⟨"Honnef", "honnef", .word⟩]) := by
  have both : ∃ truth, Coherent truth ∧ ∀ negate,
      (towns.condition? "ort" negate [⟨"Bad", "bad", .word⟩, ⟨"Honnef", "honnef", .word⟩]).map
        (·.map (·.1.value truth)) = .ok (some true) := by
    refine ⟨fun p => p.test.operator ≠ .compare .equals ∧ p.test.operator ≠ .isNull, ?_, ?_⟩
    · exact ⟨fun _ _ _ => by simp [Test.operator], fun _ _ => by simp [Test.operator]⟩
    · decide +kernel
  refine ⟨both, fun complementary => ?_⟩
  obtain ⟨truth, coherent, holds⟩ := both
  have negated := complementary.value_eq coherent (holds false)
  rw [holds true] at negated
  cases negated

end Scope

end Request

end Inquiry
