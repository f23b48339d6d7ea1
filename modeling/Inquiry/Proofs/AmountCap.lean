import Inquiry.Proofs.Comparisons
import Inquiry.Proofs.Exclusion
import Inquiry.Proofs.Negation
import Inquiry.Proofs.SortBlock

/-!
# Amounts with a cap

The word `maximal` limits the rows, but behind a field it compares. Two passes have to
agree about that: the row limit, which comes first and looks back for a field, and the
reader of conditions. They do if the field, or `ist` behind it, stands right before
the word: whatever else the request says, the number stays where it is and caps the
field (`readTokens_cap`).

The reader of conditions accepts a negation before the word as well. The row limit
does not look behind it, and takes the number away (`negated_cap_limits`).
-/

namespace Inquiry.Request

namespace Scope

variable {scope : Scope} {front rest before left phrase : List Token} {field : String}
  {being negation : Option Token} {maximal number t : Token} {n : Option Int}

/-! ## The row limit -/

theorem sublist_of_limitBehind {tokens : List Token}
    (h : scope.limitBehind before tokens = .ok (n, left)) : left.Sublist (before ++ tokens) := by
  induction tokens generalizing before with
  | nil =>
      cases h
      rw [List.append_nil]
  | cons t rest ih =>
      rcases limitBehind_cases h with passed | ⟨u, after, found, -, rfl⟩
      · rw [List.append_cons]
        exact ih passed
      · exact ((List.sublist_cons_self u after).trans (afterAnyPhrase?_sublist found)).append_left _

/-- Tokens that are passed over, and that no marker before them takes, are kept. -/
theorem kept_of_limitBehind {kept : List Token} (plain : ∀ t ∈ kept.head?,
      t.kind ≠ .number ∧ t.isWordIn commandWords = false) (nonempty : kept ≠ [])
    (passes : ∀ before, scope.limitBehind before (kept ++ rest) =
      scope.limitBehind (before ++ kept) rest)
    (h : scope.limitBehind before (front ++ (kept ++ rest)) = .ok (n, left)) :
    ∃ front' rest', left = before ++ (front' ++ (kept ++ rest')) ∧ front'.Sublist front ∧
      rest'.Sublist rest := by
  induction front generalizing before with
  | nil =>
      rw [List.nil_append, passes] at h
      obtain ⟨rest', rfl⟩ := prefix_of_limitBehind h
      have sub := (List.append_sublist_append_left _).mp (sublist_of_limitBehind h)
      exact ⟨[], rest', by simp, .refl [], sub⟩
  | cons t front ih =>
      rcases limitBehind_cases h with passed | ⟨u, after, found, number, rfl⟩
      · obtain ⟨front', rest', rfl, sub, sub'⟩ := ih passed
        exact ⟨t :: front', rest', by simp, sub.cons_cons t, sub'⟩
      · obtain ⟨marker, known, found⟩ := List.exists_of_findSome?_eq_some found
        obtain ⟨words, spelt, split⟩ := afterPhrase?_eq_some_iff.mp found
        obtain ⟨first, others, rfl⟩ := List.exists_cons_of_ne_nil nonempty
        obtain ⟨noNumber, noCommand⟩ := plain first rfl
        change (t :: front) ++ (first :: others ++ rest) = words ++ u :: after at split
        rcases List.append_eq_append_iff.mp split with ⟨more, rfl, goesOn⟩ | ⟨more, inside, goesOn⟩
        · cases more with
          | nil => exact absurd ((List.cons.inj goesOn).1 ▸ number) noNumber
          | cons w more =>
              obtain ⟨rfl, -⟩ := List.cons.inj goesOn
              have isWord := isWordIn_of_spelt spelt
                (List.mem_append_right (t :: front) (List.mem_cons_self (a := first)))
              have listed : ∀ marker ∈ limitMarkers, marker ⊆ commandWords := by decide
              rw [isWordIn_mono isWord (listed marker known)] at noCommand
              cases noCommand
        · cases more with
          | nil => exact absurd ((List.cons.inj goesOn).1 ▸ number) noNumber
          | cons w more =>
              obtain ⟨rfl, rfl⟩ := List.cons.inj goesOn
              refine ⟨more, rest, rfl, ?_, .refl rest⟩
              rw [inside]
              exact (List.sublist_cons_self u more).trans (List.sublist_append_right words _)

/-- Tokens that put a cap on a field: a phrase for it, `ist` and a negation if they are
there, `maximal`, and a number. -/
structure Caps (scope : Scope) (field : String) (phrase : List Token)
    (being negation : Option Token) (maximal number : Token) : Prop where
  names : scope.Names phrase field (being.or (negation.or (some maximal)))
  opens : ∀ t ∈ phrase.head?, t.kind ≠ .number
  ends : ∀ t ∈ phrase.getLast?, t.isWordIn beingWords = false
  being : ∀ t ∈ being, t.isWordIn beingWords = true
  negation : ∀ t ∈ negation, t.isWordIn negatingWords = true
  maximal : maximal.isWordIn comparingLimitWords = true
  number : number.kind = .number

/-- The tokens of a cap. -/
def capTokens (phrase : List Token) (being negation : Option Token) (maximal number : Token) :
    List Token :=
  phrase ++ being.toList ++ negation.toList ++ [maximal, number]

/-- Whether a phrase for a field ends where the tokens begin. -/
def EndsField (scope : Scope) (before tokens : List Token) : Prop :=
  ∃ phrase, phrase ≠ [] ∧ phrase <:+ before ∧
    (scope.fieldAt (phrase ++ tokens)).map (·.length) = some phrase.length

/-- The row limit looks for a field that ends here, or in front of `ist`. -/
theorem followsField_iff {before tokens : List Token} :
    scope.followsField before tokens = true ↔
      if before.getLast?.any (·.isWordIn beingWords) then
        scope.EndsField before.dropLast (before.getLast?.toList ++ tokens)
      else scope.EndsField before tokens := by
  have looked (before tokens : List Token) : ((List.range before.length).any fun n =>
      ((scope.fieldAt (before.drop n ++ tokens)).map (·.length)) == some (before.length - n)) =
        true ↔ scope.EndsField before tokens := by
    simp only [List.any_eq_true, List.mem_range, beq_iff_eq, EndsField, List.suffix_iff_eq_drop]
    constructor
    · rintro ⟨n, bound, found⟩
      exact ⟨before.drop n, by simpa using bound, by simp; omega, by simpa using found⟩
    · rintro ⟨phrase, ne, suffix, found⟩
      have length := congrArg List.length suffix
      have positive := List.length_pos_iff.mpr ne
      rw [List.length_drop] at length
      refine ⟨before.length - phrase.length, by omega, ?_⟩
      rw [← suffix, found, ← length]
  by_cases behind : before.getLast?.any (·.isWordIn beingWords) = true
  · simp only [followsField, behind, if_true]
    exact looked before.dropLast _
  · simp only [followsField, behind]
    exact looked before tokens

/-- A field is found right before what follows it. -/
theorem followsField_of_names {behind : List Token}
    (names : scope.Names phrase field (being.toList ++ behind).head?)
    (ends : ∀ t ∈ phrase.getLast?, t.isWordIn beingWords = false)
    (isBeing : ∀ t ∈ being, t.isWordIn beingWords = true) (before : List Token) :
    scope.followsField (before ++ (phrase ++ being.toList)) behind = true := by
  have found : scope.EndsField (before ++ phrase) (being.toList ++ behind) := by
    refine ⟨phrase, names.ends.ne_nil, List.suffix_append before phrase, ?_⟩
    rw [fieldAt_of_matchAt names.ends.matchAt_eq names.field]
    simp [Keyword.Index.matchFor]
  rw [followsField_iff]
  cases being with
  | none =>
      have last : (before ++ phrase).getLast?.any (·.isWordIn beingWords) = false := by
        rw [List.getLast?_append_of_ne_nil _ names.ends.ne_nil, Option.any_eq_false]
        simpa using ends
      rw [Option.toList_none, List.append_nil, last]
      exact found
  | some b =>
      have last : b.isWordIn beingWords = true := isBeing b rfl
      have split : before ++ (phrase ++ [b]) = before ++ phrase ++ [b] := by simp
      rw [Option.toList_some, split, List.getLast?_concat, List.dropLast_concat, Option.any_some,
        last]
      exact found

/-- What is found as a field, up to the end, is a phrase. -/
theorem registered_of_fieldAt {tokens : List Token}
    (found : (scope.fieldAt (phrase ++ tokens)).map (·.length) = some phrase.length) :
    phrase.map (·.key) ∈ scope.index.phrases := by
  obtain ⟨m, found, length⟩ := Option.map_eq_some_iff.mp found
  obtain ⟨known, -⟩ := Keyword.Index.mem_phrases_of_matchAt (matchAt_of_fieldAt found)
  rwa [length, List.take_left] at known

/-- A negation hides the field before it, unless a phrase ends with it. -/
theorem followsField_eq_false {word : Token} (negates : word.isWordIn negatingWords = true)
    (hides : ∀ keys ∈ scope.index.phrases, ∀ key ∈ keys.getLast?, key ∉ negatingWords)
    (before behind : List Token) : scope.followsField (before ++ [word]) behind = false := by
  have noBeing : word.isWordIn beingWords = false := isWordIn_of_apart negates (by decide)
  rw [Bool.eq_false_iff, ne_eq, followsField_iff, List.getLast?_concat, Option.any_some, noBeing,
    if_neg Bool.false_ne_true]
  rintro ⟨phrase, ne, ⟨front, split⟩, found⟩
  have last : phrase.getLast? = some word := by
    rw [← List.getLast?_append_of_ne_nil front ne, split, List.getLast?_concat]
  refine hides _ (registered_of_fieldAt found) word.key ?_ (isWordIn_iff.mp negates).2
  rw [List.getLast?_map, last]
  rfl

/-- What follows an amount with its currency: the further values, and the rest. -/
def behindAmount (scope : Scope) (rest : List Token) : List Token × List Token :=
  scope.furtherValues false (rest.dropWhile fun u => u.kind == .word && isCurrency u.key)

namespace Caps

/-- The row limit finds its marker before the number. -/
theorem marker_found (caps : scope.Caps field phrase being negation maximal number)
    (rest : List Token) :
    afterAnyPhrase? limitMarkers (maximal :: number :: rest) = some (number :: rest) := by
  obtain ⟨word, key⟩ := isWordIn_iff.mp caps.maximal
  have key : maximal.key = "maximal" := by simpa [comparingLimitWords] using key
  simp [afterAnyPhrase?, limitMarkers, afterPhrase?, word, key]

/-- Without a negation the row limit passes over the cap. -/
theorem limitBehind_eq (caps : scope.Caps field phrase being none maximal number)
    (before rest : List Token) :
    scope.limitBehind before (capTokens phrase being none maximal number ++ rest) =
      scope.limitBehind (before ++ capTokens phrase being none maximal number) rest := by
  have plain : Plain (phrase ++ being.toList) := by
    refine caps.names.plain.append fun t member => ?_
    exact isWordIn_of_apart (caps.being t (Option.mem_toList.mp member)) (by decide)
  have next : scope.Names phrase field (being.toList ++ maximal :: number :: rest).head? := by
    have next := caps.names
    cases being <;> exact next
  have follows := followsField_of_names next caps.ends caps.being before
  have compares := List.contains_iff_mem.mpr (isWordIn_iff.mp caps.maximal).2
  have none : afterAnyPhrase? limitMarkers (number :: rest) = none :=
    afterAnyPhrase?_eq_none _ (by decide) (isWordIn_of_kind (by simp [caps.number]) _) rest
  have split : capTokens phrase being .none maximal number ++ rest =
      (phrase ++ being.toList) ++ maximal :: number :: rest := by simp [capTokens]
  rw [split, limitBehind_append plain, limitBehind, caps.marker_found]
  simp only [compares, follows, Bool.and_true, if_true]
  rw [limitBehind, none]
  simp [capTokens]

/-- The reader of conditions reads the cap, negated if there is a negation. -/
theorem condition?_eq (caps : scope.Caps field phrase being negation maximal number)
    (negate : Bool) (rest : List Token) :
    scope.condition? field negate (being.toList ++ negation.toList ++ maximal :: number :: rest) =
      reading (scope.conclude field (some (.compare .lessOrEqual)) (negate != negation.isSome)
        number (scope.behindAmount rest).1) (scope.behindAmount rest).2 := by
  have apart {words : List String} (h : ∀ w ∈ comparingLimitWords, words.contains w = false) :
      beginsWith words (maximal :: number :: rest) = false := isWordIn_of_apart caps.maximal h
  have noWord (words : List String) : number.isWordIn words = false :=
    isWordIn_of_kind (by simp [caps.number]) words
  have spelt : Spelt ["maximal"] [maximal] := by
    obtain ⟨word, key⟩ := isWordIn_iff.mp caps.maximal
    exact .cons ⟨word, by simpa [comparingLimitWords] using key⟩ .nil
  have found : operatorAt (maximal :: number :: rest) =
      ⟨some (.compare .lessOrEqual), true, false, number :: rest⟩ :=
    operatorAt_phrase (by decide) spelt (noWord _) rest
  have read : scope.values false (number :: rest) =
      (number :: (scope.behindAmount rest).1, (scope.behindAmount rest).2) := by
    simp only [values, value?, caps.number, behindAmount]
  have affirmed (negate : Bool) :
      scope.condition? field negate (being.toList ++ maximal :: number :: rest) =
        reading (scope.conclude field (some (.compare .lessOrEqual)) negate number
          (scope.behindAmount rest).1) (scope.behindAmount rest).2 := by
    have opened (explicit : Bool) : opening explicit (maximal :: number :: rest) =
        ⟨some (.compare .lessOrEqual), true, false, number :: rest⟩ :=
      opening_of_operatorAt (noWord articles) found rfl
    refine condition?_of_opening ?_ ?_ (opened _) read field negate
    · cases being with
      | none => exact skipWord_of_not_begins (apart (by decide))
      | some b => exact skipWord_of_begins (caps.being b rfl)
    · have free : ∀ words ∈ [negatingWords, emptyWords, presentWords, ["zwischen"]],
          ∀ w ∈ comparingLimitWords, words.contains w = false := by decide
      exact fun words member => apart (free words member)
  cases negation with
  | none => simpa using affirmed negate
  | some negation =>
      have opens : OpensNegated being.toList negation (maximal :: number :: rest) := by
        refine ⟨caps.negation negation rfl, apart (by decide), ?_⟩
        cases being with
        | none => exact .inl ⟨rfl, apart (by decide)⟩
        | some b => exact .inr ⟨b, rfl, caps.being b rfl⟩
      rw [Option.toList_some, List.append_assoc, List.singleton_append, opens.condition?_eq,
        affirmed]
      simp

/-- Without a negation the cap is left for the reader of conditions, whatever else is
taken away. -/
theorem left_of_rowLimit (caps : scope.Caps field phrase being none maximal number)
    (h : scope.rowLimit (front ++ (capTokens phrase being none maximal number ++ rest)) =
      .ok (n, left)) :
    ∃ front' rest', left = front' ++ (capTokens phrase being none maximal number ++ rest') ∧
      front'.Sublist front ∧ rest'.Sublist rest := by
  have passes (before : List Token) := caps.limitBehind_eq before rest
  refine kept_of_limitBehind ?_ (by simp [capTokens]) passes h
  obtain ⟨t, others, split⟩ := List.exists_cons_of_ne_nil caps.names.ends.ne_nil
  rw [capTokens, split]
  rintro u ⟨⟩
  exact ⟨caps.opens t (by rw [split]; rfl), caps.names.plain t (by rw [split]; simp)⟩

/-- Wherever the reading reaches the cap, it is one of the conditions. -/
theorem condition_of_mentions (caps : scope.Caps field phrase being negation maximal number)
    {s s' : Progress} (valued : s.lacks = false)
    (read : scope.mentions s (capTokens phrase being negation maximal number ++ rest) = .ok s') :
    ∃ node alternative, (node, alternative) ∈ s'.conditions ∧
      scope.conclude field (some (.compare .lessOrEqual)) (s.excludes != negation.isSome) number
        (scope.behindAmount rest).1 = .ok node := by
  have names : scope.Names phrase field
      (being.toList ++ negation.toList ++ maximal :: number :: rest).head? := by
    have next := caps.names
    cases being <;> cases negation <;> exact next
  have split : capTokens phrase being negation maximal number ++ rest =
      phrase ++ (being.toList ++ negation.toList ++ maximal :: number :: rest) := by
    simp [capTokens]
  rw [split, names.mentions_eq] at read
  obtain ⟨⟨s₁, left⟩, mentioned, read⟩ := ok_of_bind read
  simp only [mention, valued, Bool.false_eq_true, if_false, caps.condition?_eq] at mentioned
  cases concluded : scope.conclude field (some (.compare .lessOrEqual))
      (s.excludes != negation.isSome) number (scope.behindAmount rest).1 with
  | error failure =>
      rw [concluded] at mentioned
      cases mentioned
  | ok node =>
      rw [concluded] at mentioned
      cases mentioned
      have kept := (conditions_of_mentions read).subset
      exact ⟨node, _, kept (List.mem_append_right _ (List.mem_singleton_self _)), rfl⟩

/-- A negation hides the field from the row limit, unless a phrase ends with it: the
number limits the rows, and nothing is left of the cap. -/
theorem rowLimit_eq {word : Token} (caps : scope.Caps field phrase being (some word) maximal number)
    (unlimited : Unmarked limitMarkers front [])
    (hides : ∀ keys ∈ scope.index.phrases, ∀ key ∈ keys.getLast?, key ∉ negatingWords) :
    scope.rowLimit (front ++ (capTokens phrase being (some word) maximal number ++ rest)) =
      (limit number.raw).map fun n =>
        (some n, front ++ (phrase ++ being.toList ++ [word]) ++ rest) := by
  have negates := caps.negation word rfl
  have unmarked : Unmarked limitMarkers (front ++ (phrase ++ being.toList ++ [word]))
      (maximal :: number :: rest) := by
    refine Unmarked.append ?_ (.of_heads (by decide) ?_ _)
    · obtain ⟨t, others, split⟩ := List.exists_cons_of_ne_nil caps.names.ends.ne_nil
      have noCommand := caps.names.plain t (by rw [split]; exact List.mem_cons_self)
      rw [split]
      exact unlimited.before (isWordIn_of_subset noCommand (by decide)) _
    · intro t member
      simp only [List.mem_append, List.mem_singleton, Option.mem_toList] at member
      rcases member with (member | member) | rfl
      · exact isWordIn_of_subset (caps.names.plain t member) (by decide)
      · exact isWordIn_of_apart (caps.being t member) (by decide)
      · exact isWordIn_of_apart negates (by decide)
  have hidden : scope.followsField (front ++ (phrase ++ being.toList ++ [word]))
      (maximal :: number :: rest) = false := by
    rw [← List.append_assoc]
    exact followsField_eq_false negates hides _ _
  have split : front ++ (capTokens phrase being (some word) maximal number ++ rest) =
      front ++ (phrase ++ being.toList ++ [word]) ++ maximal :: number :: rest := by
    simp [capTokens]
  rw [rowLimit, split, limitBehind_unmarked unmarked, List.nil_append, limitBehind,
    caps.marker_found]
  simp only [hidden, Bool.and_false, Bool.false_eq_true, if_false, caps.number, if_true]

end Caps

/-- One value behind the cap, as the column of the field holds it, is what the field is
at most, or is not at most. -/
theorem conclude_cap {target : String} {column : Column} {value : Scalar}
    (redirected : scope.rules.redirect field number scope.report = target)
    (found : scope.report.column? target = some column) (named : target ≠ "")
    (binds : bound column target false number = .ok value) (negate : Bool) :
    scope.conclude field (some (.compare .lessOrEqual)) negate number [] =
      let node := scope.rules.expand ⟨target, .compare .lessOrEqual value, named⟩ scope.report
      .ok (if negate then .group ((Group.mk [] [] .and true).addNode node) else node) := by
  simp only [conclude, redirected, column_eq found, bind, Except.bind]
  simp [settled, binds, Predicate.of, named, finish, opposite?, pure, Except.pure]

/-- The two passes and the word `maximal` behind a field, in a request without a sort
block. The reader of conditions takes it for a cap, negated behind a negation. And so
does the row limit without a negation: whatever it takes away before and behind the
cap, the cap is left, and where the reading reaches it, it is one of the conditions of
the query. But behind a negation that belongs to no keyword, the number is the row limit
if no marker stands before it. -/
theorem readTokens_cap (caps : scope.Caps field phrase being negation maximal number)
    (unsorted : Unmarked sortMarkers
      (front ++ capTokens phrase being negation maximal number ++ rest) []) :
    (∀ negate behind, scope.condition? field negate
        (being.toList ++ negation.toList ++ maximal :: number :: behind) =
      reading (scope.conclude field (some (.compare .lessOrEqual)) (negate != negation.isSome)
        number (scope.behindAmount behind).1) (scope.behindAmount behind).2) ∧
    ∀ query, scope.readTokens
        (front ++ capTokens phrase being negation maximal number ++ rest) = .ok query →
      (negation = none → ∃ front' rest', front'.Sublist front ∧ rest'.Sublist rest ∧
        scope.Leaves (front ++ capTokens phrase being negation maximal number ++ rest)
          (front' ++ capTokens phrase being negation maximal number ++ rest') ∧
        ∀ s, scope.Reaches {} (front' ++ capTokens phrase being negation maximal number ++ rest') s
            (capTokens phrase being negation maximal number ++ rest') → s.lacks = false →
          ∃ node, scope.conclude field (some (.compare .lessOrEqual)) s.excludes number
              (scope.behindAmount rest').1 = .ok node ∧
            ∀ p ∈ node.predicates, p ∈ query.main.allPredicates) ∧
      (negation ≠ none → Unmarked limitMarkers front [] →
        (∀ keys ∈ scope.index.phrases, ∀ key ∈ keys.getLast?, key ∉ negatingWords) →
          (limit number.raw).map some = .ok query.limit) := by
  refine ⟨caps.condition?_eq, fun query read => ?_⟩
  have sorted := scope.sorting_of_unmarked unsorted
  rw [List.append_assoc] at read sorted
  obtain ⟨_, left, s', sorted', limited, mentioned, main, -⟩ := passes_of_readTokens read
  obtain rfl := congrArg Prod.snd (Except.ok.inj (sorted.symm.trans sorted'))
  refine ⟨?_, ?_⟩
  · rintro rfl
    obtain ⟨front', rest', rfl, sub, sub'⟩ := caps.left_of_rowLimit limited
    simp only [List.append_assoc (_ : List Token) (capTokens phrase being none maximal number)]
    refine ⟨front', rest', sub, sub', ⟨_, _, _, sorted, limited⟩, fun s reaches valued => ?_⟩
    rw [reaches.mentions_eq] at mentioned
    obtain ⟨node, alternative, member, concluded⟩ := caps.condition_of_mentions valued mentioned
    rw [Option.isSome_none, Bool.bne_false] at concluded
    refine ⟨node, concluded, fun p own => ?_⟩
    rw [main]
    exact (mem_gathered _ p).mpr ⟨_, member, own⟩
  · intro negated unlimited hides
    obtain ⟨word, rfl⟩ := Option.ne_none_iff_exists'.mp negated
    rw [caps.rowLimit_eq unlimited hides] at limited
    obtain ⟨n, read, heq⟩ := ok_of_map limited
    have same : some n = query.limit := congrArg Prod.fst heq
    rw [read, ← same]
    rfl

/-- The first three towns of at most 5000 people: the row limit before the cap is taken
away, and the cap is left. -/
theorem readTokens_cap_towns :
    ∃ query, towns.readTokens
        [⟨"Top", "top", .word⟩, ⟨"3", "3", .number⟩, ⟨"Einwohner", "einwohner", .word⟩,
          ⟨"sind", "sind", .word⟩, ⟨"maximal", "maximal", .word⟩, ⟨"5000", "5000", .number⟩] =
        .ok query ∧ query.limit = some 3 ∧
      ⟨"einwohner", .compare .lessOrEqual (.number (.whole 5000)), by decide⟩ ∈
        query.main.allPredicates := by
  have caps : towns.Caps "einwohner" [⟨"Einwohner", "einwohner", .word⟩]
      (some ⟨"sind", "sind", .word⟩) none ⟨"maximal", "maximal", .word⟩ ⟨"5000", "5000", .number⟩ :=
    ⟨⟨by decide +kernel, by decide +kernel, by decide⟩, by decide, by decide, by decide, by simp,
      by decide, rfl⟩
  have unsorted := @Unmarked.of_heads sortMarkers
    [⟨"Top", "top", .word⟩, ⟨"3", "3", .number⟩, ⟨"Einwohner", "einwohner", .word⟩,
      ⟨"sind", "sind", .word⟩, ⟨"maximal", "maximal", .word⟩, ⟨"5000", "5000", .number⟩]
    (by decide) (by decide) []
  have limited : (towns.readTokens
      [⟨"Top", "top", .word⟩, ⟨"3", "3", .number⟩, ⟨"Einwohner", "einwohner", .word⟩,
        ⟨"sind", "sind", .word⟩, ⟨"maximal", "maximal", .word⟩, ⟨"5000", "5000", .number⟩]).map
      (·.limit) = .ok (some 3) := by decide +kernel
  have taken : towns.rowLimit
      [⟨"Top", "top", .word⟩, ⟨"3", "3", .number⟩, ⟨"Einwohner", "einwohner", .word⟩,
        ⟨"sind", "sind", .word⟩, ⟨"maximal", "maximal", .word⟩, ⟨"5000", "5000", .number⟩] =
      .ok (some 3, [⟨"Einwohner", "einwohner", .word⟩, ⟨"sind", "sind", .word⟩,
        ⟨"maximal", "maximal", .word⟩, ⟨"5000", "5000", .number⟩]) := by decide +kernel
  obtain ⟨query, read, limit⟩ := ok_of_map limited
  refine ⟨query, read, limit, ?_⟩
  obtain ⟨-, reads⟩ := @readTokens_cap towns [⟨"Top", "top", .word⟩, ⟨"3", "3", .number⟩] []
    _ _ _ _ _ _ caps unsorted
  obtain ⟨front', rest', -, sub, ⟨_, _, _, sorted, left⟩, capped⟩ := (reads query read).1 rfl
  obtain rfl := List.sublist_nil.mp sub
  have unchanged := (towns.sorting_of_unmarked unsorted).symm.trans sorted
  obtain rfl := congrArg Prod.snd (Except.ok.inj unchanged)
  have same := congrArg Prod.snd (Except.ok.inj (taken.symm.trans left))
  obtain rfl : front' = [] := by simpa [capTokens] using congrArg List.length same
  obtain ⟨node, concluded, kept⟩ := capped {} (.refl _ _) rfl
  have alone : towns.behindAmount [] = ([], []) := by
    rw [behindAmount, List.dropWhile_nil, furtherValues]
  have binds : bound
      { source := "T.EINW", header := "Einwohner", keywords := ["einwohner"], numeric := true }
      "einwohner" false ⟨"5000", "5000", .number⟩ = .ok (.number (.whole 5000)) := by
    decide +kernel
  rw [alone, conclude_cap rfl rfl (by decide) binds false] at concluded
  cases concluded
  exact kept _ (List.mem_singleton_self _)

/-- The reader of conditions takes a negated cap for a condition, and the row limit takes
it away. -/
theorem negated_cap_limits :
    (towns.condition? "einwohner" false
        [⟨"nicht", "nicht", .word⟩, ⟨"maximal", "maximal", .word⟩, ⟨"5000", "5000", .number⟩]).map
      (·.map (·.1.predicates)) =
        .ok (some [⟨"einwohner", .compare .lessOrEqual (.number (.whole 5000)), by decide⟩]) ∧
    (∀ holds, (towns.condition? "einwohner" false
        [⟨"nicht", "nicht", .word⟩, ⟨"maximal", "maximal", .word⟩, ⟨"5000", "5000", .number⟩]).map
      (·.map (·.1.value fun _ => holds)) = .ok (some !holds)) ∧
    (towns.read "Orte mit Einwohner nicht maximal 5000").map
        (fun q => (q.limit, q.main.isEmpty, q.projections)) =
      .ok (some 5000, true, [⟨"einwohner", false, none⟩]) := by
  decide +kernel

end Scope

end Inquiry.Request
