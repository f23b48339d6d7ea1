import Inquiry.Proofs.OperatorBounds

/-!
# Articles before a value

Behind an operator articles are skipped before the first value, so a condition is the same
with and without them. What stands in front of the operator is read without regard to what
stands behind it: each part of the reader has the same result whatever follows, or it stops
in front of the operator and leaves it with all that follows (`Steady`). Hence all mentions of
columns are the same with articles before a quoted text or a date
(`Scope.mentions_articled`), if no keyword reaches over the operator
(`Keyword.Index.Spares`) or begins with one of the articles (`Scope.IsArticle`).
-/

namespace Inquiry

namespace Request

/-- A value that is written out: a quoted text or a date. -/
def IsLiteral (v : Token) : Prop := v.kind = .quoted ∨ v.kind = .date

theorem IsLiteral.kind_ne_word {v : Token} (literal : IsLiteral v) : v.kind ≠ .word := by
  rcases literal with kind | kind <;> simp [kind]

/-- An article with which no keyword begins. -/
structure Scope.IsArticle (scope : Scope) (a : Token) : Prop where
  word : a.isWordIn articles = true
  spared : scope.index.Spares [] a

/-- A value with any number of articles in front of it, and what follows. -/
def Scope.Articled (scope : Scope) (v : Token) (rest behind : List Token) : Prop :=
  ∃ skipped, (∀ a ∈ skipped, scope.IsArticle a) ∧ behind = skipped ++ v :: rest

/-- A reading of tokens up to an operator, with what follows the operator left open: for all
that follows and is of one kind it is the same, or stops among the tokens and leaves the
operator with what follows it. -/
inductive Steady (front : List Token) (o : Token) (Ends : List Token → Prop) {α β : Type}
    (pack : α × List Token → β) (read : List Token → Except Failure β) : Prop
  | same (result : Except Failure β) (eq : ∀ behind, Ends behind → read behind = result) :
      Steady front o Ends pack read
  | kept (value : α) (left : List Token) (suffix : left <:+ front)
      (eq : ∀ behind, Ends behind → read behind = .ok (pack (value, left ++ o :: behind))) :
      Steady front o Ends pack read

namespace Steady

variable {front own : List Token} {o : Token} {Ends : List Token → Prop} {α β : Type}
  {pack : α × List Token → β} {read read' : List Token → Except Failure β}

theorem congr (h : Steady front o Ends pack read)
    (eq : ∀ behind, Ends behind → read' behind = read behind) : Steady front o Ends pack read' := by
  cases h with
  | same result same =>
      exact .same result fun behind ends => (eq behind ends).trans (same behind ends)
  | kept value left suffix kept =>
      exact .kept value left suffix fun behind ends => (eq behind ends).trans (kept behind ends)

theorem of_suffix (h : Steady own o Ends pack read) (suffix : own <:+ front) :
    Steady front o Ends pack read := by
  cases h with
  | same result same => exact .same result same
  | kept value left inside kept => exact .kept value left (inside.trans suffix) kept

/-- A reading that goes on where another one stops. -/
theorem bind {α' β' : Type} {pack' : α' × List Token → β'} {next : β → Except Failure β'}
    (h : Steady front o Ends pack read)
    (further : ∀ value left, left <:+ front →
      Steady left o Ends pack' fun behind => next (pack (value, left ++ o :: behind))) :
    Steady front o Ends pack' fun behind => (read behind).bind next := by
  cases h with
  | same result same => exact .same (result.bind next) fun behind ends => by rw [same behind ends]
  | kept value left suffix kept =>
      refine ((further value left suffix).congr fun behind ends => ?_).of_suffix suffix
      rw [kept behind ends]
      rfl

theorem map {α' : Type} {read : List Token → Except Failure (α × List Token)}
    (h : Steady front o Ends id read) (f : α → α') :
    Steady front o Ends id fun behind => (read behind).map fun (a, rest) => (f a, rest) := by
  cases h with
  | same result same => exact .same _ fun behind ends => by rw [same behind ends]
  | kept value left suffix kept =>
      exact .kept (f value) left suffix fun behind ends => by rw [kept behind ends]; rfl

end Steady

namespace Scope.Articled

variable {scope : Scope} {v : Token} {rest behind : List Token}

theorem dropWhile_eq (ends : scope.Articled v rest behind) (literal : IsLiteral v) :
    behind.dropWhile (·.isWordIn articles) = v :: rest := by
  obtain ⟨skipped, skips, rfl⟩ := ends
  have noArticle : v.isWordIn articles = false := isWordIn_of_kind literal.kind_ne_word _
  rw [List.dropWhile_append_of_pos fun a member => (skips a member).word,
    List.dropWhile_cons_of_neg (by simp [noArticle])]

/-- What comes first is no number and no sign, and no word but an article. -/
theorem exists_head (ends : scope.Articled v rest behind) (literal : IsLiteral v) :
    ∃ t more, behind = t :: more ∧ t.kind ≠ .operator ∧ t.kind ≠ .number ∧
      ∀ words : List String, (∀ w ∈ articles, words.contains w = false) →
        t.isWordIn words = false := by
  obtain ⟨skipped, skips, rfl⟩ := ends
  cases skipped with
  | nil =>
      refine ⟨v, rest, rfl, ?_, ?_, fun words _ => isWordIn_of_kind literal.kind_ne_word words⟩
      all_goals rcases literal with kind | kind <;> simp [kind]
  | cons a skipped =>
      have article := (skips a List.mem_cons_self).word
      have kind := (isWordIn_iff.mp article).1
      exact ⟨a, _, rfl, by simp [kind], by simp [kind], fun words => isWordIn_of_apart article⟩

/-- A phrase with no article behind its first word ends before them. -/
theorem afterAnyPhrase?_eq (ends : scope.Articled v rest behind) (literal : IsLiteral v)
    {phrases : List (List String)}
    (apart : ∀ w ∈ articles, (phrases.flatMap (·.tail)).contains w = false) (t : Token)
    (front : List Token) :
    afterAnyPhrase? phrases (t :: front ++ behind) =
      (afterAnyPhrase? phrases (t :: front)).map (· ++ behind) := by
  obtain ⟨u, more, rfl, -, -, noWord⟩ := ends.exists_head literal
  exact afterAnyPhrase?_behind_first (noWord _ apart) t front more

end Scope.Articled

namespace Scope

variable {scope : Scope} {front rest : List Token} {o v : Token}

/-! ## Conditions -/

/-- The condition that an opening and the values behind it make. -/
def opened (scope : Scope) (field : String) (negate : Bool) (o : Opening) :
    Except Failure (Option (Node × List Token)) :=
  match scope.values o.andToo o.rest with
  | ([], _) =>
    if o.strict then .error (.valueMissing field ((o.rest.head?.map (·.raw)).getD ""))
    else .ok none
  | (first :: others, rest) =>
    reading (scope.conclude field o.relation negate first others) rest

/-- What a condition says behind `ist` and a negation. -/
def affirmation (scope : Scope) (field : String) (explicit negate : Bool) (tokens : List Token) :
    Except Failure (Option (Node × List Token)) :=
  let presence (test : Test) : Except Failure Node :=
    (Predicate.of field test).map (scope.finish negate)
  if beginsWith emptyWords tokens then reading (presence .isNull) (tokens.drop 1)
  else if beginsWith presentWords tokens then reading (presence .isNotNull) (tokens.drop 1)
  else if beginsWith ["zwischen"] tokens then
    match scope.bounds? (tokens.drop 1) with
    | none => .error (.rangeIncomplete field)
    | some (low, high, rest) => reading (scope.between field negate low high) rest
  else scope.opened field negate (opening explicit tokens)

theorem condition?_eq_affirmation (scope : Scope) (field : String) (negate : Bool)
    (tokens : List Token) :
    scope.condition? field negate tokens =
      scope.affirmation field (beginsWith beingWords tokens)
        (negate != beginsWith negatingWords (skipWord beingWords tokens)) (affirmed tokens) := rfl

theorem steady_reading (node : Except Failure Node) {left : List Token} (suffix : left <:+ front)
    {Ends : List Token → Prop} :
    Steady front o Ends some fun behind => reading node (left ++ o :: behind) := by
  cases node with
  | error failure => exact .same (.error failure) fun _ _ => rfl
  | ok node => exact .kept node left suffix fun _ _ => rfl

theorem drop_before {words : List String} (begins : beginsWith words front = true)
    (behind : List Token) : (front ++ behind).drop 1 = front.drop 1 ++ behind := by
  cases front with
  | nil => cases begins
  | cons t front => rfl

/-- An operator that takes all tokens says how the field is compared. -/
theorem relation_of_rest_eq_nil (operates : Operates o) (front : List Token)
    (nil : (operatorAt (front ++ [o])).rest = []) :
    (operatorAt (front ++ [o])).relation ≠ none := by
  obtain ⟨t, more, split⟩ := List.exists_cons_of_ne_nil (List.concat_ne_nil o front)
  rw [split] at nil ⊢
  simp only [operatorAt] at nil ⊢
  split at nil
  · next word => simp [word]
  · next noIn =>
      simp only [noIn]
      split at nil
      · next kind =>
          obtain rfl : more = [] := nil
          obtain ⟨rfl, ⟨⟩⟩ := List.append_inj' (show front ++ [o] = [] ++ [t] from split) rfl
          cases operates with
          | sign _ _ known =>
              have isKnown : ∀ sign ∈ comparingSigns.map (·.1),
                  comparingSigns.lookup sign ≠ none := by decide
              simpa [kind] using isKnown _ known
          | word links => simp [(isWordIn_iff.mp links).1] at kind
      · next noSign =>
          simp only [noSign]
          split at nil
          · simp
          · cases nil

section Conditions

variable (literal : IsLiteral v) (operates : Operates o) (rest : List Token)

include literal operates

/-- A condition opens in front of the operator, or it opens with it and takes the value
behind the articles. -/
theorem opening_before (explicit : Bool) (front : List Token) :
    ∃ op : Opening,
      (∀ behind, scope.Articled v rest behind →
        opening explicit (front ++ o :: behind) = { op with rest := v :: rest }) ∨
      ∃ left, left <:+ front ∧ ∀ behind, scope.Articled v rest behind →
        opening explicit (front ++ o :: behind) = { op with rest := left ++ o :: behind } := by
  have found (behind : List Token) (ends : scope.Articled v rest behind) :
      operatorAt (front ++ o :: behind) =
        { operatorAt (front ++ [o]) with rest := (operatorAt (front ++ [o])).rest ++ behind } := by
    obtain ⟨t, more, rfl, -, -, noWord⟩ := ends.exists_head literal
    obtain ⟨u, others, split⟩ := List.exists_cons_of_ne_nil (List.concat_ne_nil o front)
    rw [List.append_cons, split]
    exact operatorAt_behind_first (noWord _ (by decide)) u others more
  have noArticle : o.isWordIn articles = false := operates.notIn (by decide)
  have complete := relation_of_rest_eq_nil operates front
  have suffix := suffix_operatorAt (front ++ [o])
  generalize operatorAt (front ++ [o]) = op at found complete suffix
  cases settles : op.relation.or (if explicit then some (.compare .equals) else none) with
  | none =>
      obtain ⟨silent, -⟩ := Option.or_eq_none_iff.mp settles
      rcases List.suffix_concat_iff.mp suffix with nil | ⟨left, split, inside⟩
      · exact absurd silent (complete nil)
      · refine ⟨op, .inr ⟨left, inside, fun behind ends => ?_⟩⟩
        simp only [opening, found behind ends, settles, split, List.append_assoc,
          List.singleton_append]
  | some relation =>
      refine ⟨{ op with relation := some relation }, ?_⟩
      rcases List.suffix_concat_iff.mp suffix with nil | ⟨left, split, inside⟩
      · refine .inl fun behind ends => ?_
        simp only [opening, found behind ends, settles, nil, List.nil_append,
          ends.dropWhile_eq literal]
      · refine .inr ⟨_, (List.dropWhile_suffix (·.isWordIn articles)).trans inside,
          fun behind ends => ?_⟩
        have skipped := dropWhile_before (p := (·.isWordIn articles)) noArticle left behind
        simp only [opening, found behind ends, settles, split, List.append_assoc,
          List.singleton_append, skipped]

variable (spares : scope.index.Spares front o)

include spares

theorem steady_opened (field : String) (explicit negate : Bool) :
    Steady front o (scope.Articled v rest) some fun behind =>
      scope.opened field negate (opening explicit (front ++ o :: behind)) := by
  obtain ⟨op, taken | ⟨left, inside, stops⟩⟩ :=
    opening_before literal operates rest explicit front
  · exact .same _ fun behind ends => by rw [taken behind ends]
  · have read (behind : List Token) :=
      values_before (spares.of_suffix inside) behind operates op.andToo
    cases found : scope.values op.andToo left with
    | mk values behindValues =>
        cases values with
        | nil =>
            let shown := ((left ++ [o]).head?.map (·.raw)).getD ""
            refine .same (if op.strict then .error (.valueMissing field shown) else .ok none)
              fun behind ends => ?_
            rw [stops behind ends]
            simp only [opened, read, found]
            cases left <;> rfl
        | cons first others =>
            have suffix := (scope.suffix_values op.andToo left).trans inside
            rw [found] at suffix
            refine (steady_reading (scope.conclude field op.relation negate first others)
              suffix).congr fun behind ends => ?_
            rw [stops behind ends]
            simp only [opened, read, found]

theorem steady_affirmation (field : String) (explicit negate : Bool) :
    Steady front o (scope.Articled v rest) some fun behind =>
      scope.affirmation field explicit negate (front ++ o :: behind) := by
  have begins {words : List String} (apart : ∀ w ∈ linkingWords, words.contains w = false)
      (behind : List Token) :
      beginsWith words (front ++ o :: behind) = beginsWith words front :=
    beginsWith_before (fun _ => operates.notIn apart) behind
  have empties := @begins emptyWords (by decide)
  have presents := @begins presentWords (by decide)
  have ranges := @begins ["zwischen"] (by decide)
  have suffix := List.drop_suffix 1 front
  simp only [affirmation, empties, presents, ranges]
  split
  · next empty =>
      exact (steady_reading _ suffix).congr fun behind _ => by rw [drop_before empty]
  split
  · next present =>
      exact (steady_reading _ suffix).congr fun behind _ => by rw [drop_before present]
  split
  · next range =>
      have read (behind : List Token) := bounds?_before (spares.of_suffix suffix) behind operates
      simp only [drop_before range, read]
      cases found : scope.bounds? (front.drop 1) with
      | none => exact .same _ fun _ _ => rfl
      | some bounds =>
          obtain ⟨low, high, left⟩ := bounds
          exact steady_reading _ ((suffix_of_bounds? found).trans suffix)
  · exact steady_opened literal operates rest spares field explicit negate

/-- A condition in front of an operator ends before it, or takes the value behind the
articles. -/
theorem steady_condition? (field : String) (negate : Bool) :
    Steady front o (scope.Articled v rest) some fun behind =>
      scope.condition? field negate (front ++ o :: behind) := by
  by_cases other : front = [] → o.isWordIn beingWords = false
  · have noNegation : o.isWordIn negatingWords = false := operates.notIn (by decide)
    have explicit := beginsWith_before other
    have skipped := skipWord_before other
    have negated := @beginsWith_before (skipWord beingWords front) o _ fun _ => noNegation
    have affirms := @skipWord_before (skipWord beingWords front) o _ fun _ => noNegation
    have suffix := (suffix_skipWord negatingWords _).trans (suffix_skipWord beingWords front)
    simp only [condition?_eq_affirmation, affirmed, explicit, skipped, negated, affirms]
    exact (steady_affirmation literal operates rest (spares.of_suffix suffix) field _ _).of_suffix
      suffix
  · -- The condition is `ist` alone.
    obtain ⟨rfl, isBeing⟩ : front = [] ∧ o.isWordIn beingWords = true := by
      simpa only [not_forall, exists_prop, Bool.not_eq_false] using other
    have read : scope.values false (v :: rest) =
        (v :: (scope.furtherValues false rest).1, (scope.furtherValues false rest).2) := by
      rcases literal with kind | kind <;> simp only [values, value?, kind]
    refine .same (reading (scope.conclude field (some (.compare .equals)) negate v
      (scope.furtherValues false rest).1) (scope.furtherValues false rest).2) fun behind ends => ?_
    obtain ⟨t, more, rfl, noSign, -, noWord⟩ := ends.exists_head literal
    have begins : beginsWith beingWords (o :: t :: more) = true := isBeing
    have apart : ∀ words ∈ [negatingWords, emptyWords, presentWords, ["zwischen"]],
        ∀ w ∈ articles, words.contains w = false := by decide
    have free : ∀ words ∈ [negatingWords, emptyWords, presentWords, ["zwischen"]],
        beginsWith words (t :: more) = false :=
      fun words member => noWord words (apart words member)
    have opens : opening (beginsWith beingWords (o :: t :: more)) (t :: more) =
        ⟨some (.compare .equals), false, false, v :: rest⟩ := by
      simp only [begins, opening, operatorAt_of_none (noWord _ (by decide)) noSign,
        Option.none_or, if_true, ends.dropWhile_eq literal]
    exact condition?_of_opening (skipWord_of_begins isBeing) free opens read field negate

end Conditions

/-! ## Mentions -/

/-- Words that steer the reading of mentions. -/
def mentionWords : List String := fieldListMarkers.filterMap (·.head?) ++ steeringWords

/-- A token that neither steers nor begins a keyword is passed over, or refused where every
word has to be a field. -/
theorem step_unsteering {t : Token} (noComma : t.kind ≠ .comma)
    (unsteering : t.isWordIn mentionWords = false) (spares : scope.index.Spares [] t)
    (s : Progress) (rest : List Token) :
    scope.step s t rest =
      if t.isWordIn stopWords then .ok (s, rest)
      else if s.listing ∧ t.kind = .word then .error (scope.unknownField t)
      else .ok ({ s.endRuns with excludes := false, lacks := false }, rest) := by
  have found : scope.index.matchAt (t :: rest) = none := spares.matchAt_eq rest
  have marker : afterAnyPhrase? fieldListMarkers (t :: rest) = none :=
    afterAnyPhrase?_eq_none _ (by decide) (isWordIn_of_subset unsteering (by decide)) rest
  have steers := Progress.steer?_eq_none_of_unmarked marker
    (isWordIn_of_subset unsteering (List.subset_append_right _ steeringWords)) s
  rw [step, if_neg noComma, steers]
  simp only [found]

/-- Articles are passed over. -/
theorem mentions_skipped {skipped : List Token} (skips : ∀ a ∈ skipped, scope.IsArticle a)
    (s : Progress) (behind : List Token) :
    scope.mentions s (skipped ++ behind) = scope.mentions s behind := by
  induction skipped with
  | nil => rfl
  | cons a skipped ih =>
      obtain ⟨article, spared⟩ := skips a List.mem_cons_self
      have kind := (isWordIn_iff.mp article).1
      have stops : a.isWordIn stopWords = true := isWordIn_mono article (by decide)
      rw [List.cons_append, ← ih fun b member => skips b (List.mem_cons_of_mem a member)]
      apply mentions_of_step
      rw [step_unsteering (by simp [kind]) (isWordIn_of_apart article (by decide)) spared,
        if_pos stops]

theorem steer?_before (operates : Operates o) (t : Token) (front behind : List Token)
    (s : Progress) :
    s.steer? t (front ++ o :: behind) =
      (s.steer? t front).map fun (s, rest) => (s, rest ++ o :: behind) := by
  have later : o.isWordIn (fieldListMarkers.flatMap (·.tail)) = false :=
    operates.notIn (by decide)
  have marker := afterAnyPhrase?_behind_first later t front behind
  rw [List.cons_append] at marker
  rw [Progress.steer?, marker, Progress.steer?]
  split
  · rfl
  · cases afterAnyPhrase? fieldListMarkers (t :: front) with
    | some rest => rfl
    | none =>
        simp only [Option.map_none]
        repeat' split
        all_goals rfl

theorem suffix_of_steer? {s s' : Progress} {t : Token} {tokens behind : List Token}
    (h : s.steer? t tokens = some (s', behind)) : behind <:+ tokens := by
  rw [Progress.steer?] at h
  split at h
  · cases h
  · split at h
    · next found =>
        cases h
        obtain ⟨-, _, own, -, -, split⟩ := exists_of_afterAnyPhrase? (by decide) found
        exact ⟨own, split.symm⟩
    · repeat' split at h
      all_goals cases h
      all_goals exact List.suffix_refl tokens

/-- Behind an operator that belongs to no condition, articles say nothing. -/
theorem mentions_operator (operates : Operates o) {behind : List Token}
    (ends : scope.Articled v rest behind) (spares : scope.index.Spares [] o) (s : Progress) :
    scope.mentions s (o :: behind) = scope.mentions s (o :: v :: rest) := by
  obtain ⟨skipped, skips, rfl⟩ := ends
  have noComma : o.kind ≠ .comma := by rcases operates.kind_eq with kind | kind <;> simp [kind]
  have read (tokens : List Token) :=
    step_unsteering noComma (operates.notIn (by decide)) spares s tokens
  by_cases stops : o.isWordIn stopWords = true
  · simp only [stops, if_true] at read
    rw [mentions_of_step (read _), mentions_of_step (read _), mentions_skipped skips]
  · by_cases refused : s.listing ∧ o.kind = .word
    · simp only [stops, refused] at read
      rw [mentions_of_failed_step (read _), mentions_of_failed_step (read _)]
    · simp only [stops, refused, if_false] at read
      rw [mentions_of_step (read _), mentions_of_step (read _), mentions_skipped skips]

section Mentions

variable (literal : IsLiteral v) (operates : Operates o) (rest : List Token)

include literal operates

theorem steady_mention (spares : scope.index.Spares front o) (s : Progress) (field : String) :
    Steady front o (scope.Articled v rest) id fun behind =>
      scope.mention s field (front ++ o :: behind) := by
  have projected (s : Progress) (exclude : Bool) (behind : List Token) :
      s.project field exclude (front ++ o :: behind) = s.project field exclude (front ++ [o]) := by
    cases front <;> rfl
  simp only [mention, projected]
  split
  · cases Predicate.of field .isNull with
    | error failure => exact .same (.error failure) fun _ _ => rfl
    | ok p => exact .kept _ front (List.suffix_refl front) fun _ _ => rfl
  · cases steady_condition? literal operates rest spares field s.excludes with
    | kept node left suffix eq =>
        refine .kept (s.constrain node) left suffix fun behind ends => ?_
        rw [eq behind ends]
        rfl
    | same result eq =>
        cases result with
        | error failure => exact .same (.error failure) fun behind ends => by rw [eq behind ends]
        | ok found =>
            cases found with
            | some read => exact .same _ fun behind ends => by rw [eq behind ends]
            | none =>
                let plain : Progress := { s with excludes := false, lacks := false }
                refine .kept (plain.project field (s.excludes || s.excludeRun) (front ++ [o])) front
                  (List.suffix_refl front) fun behind ends => ?_
                rw [eq behind ends]
                rfl

theorem steady_step {t : Token} (spares : scope.index.Spares (t :: front) o) (s : Progress) :
    Steady front o (scope.Articled v rest) id fun behind =>
      scope.step s t (front ++ o :: behind) := by
  have found (behind : List Token) :
      scope.index.matchAt (t :: (front ++ o :: behind)) = scope.index.matchAt (t :: front) :=
    spares.matchAt_eq behind
  have within := spares.of_suffix (List.suffix_cons t front)
  simp only [step, steer?_before operates, found]
  split
  · exact .kept s front (List.suffix_refl front) fun _ _ => rfl
  cases steered : s.steer? t front with
  | some next => exact .kept next.1 next.2 (suffix_of_steer? steered) fun _ _ => rfl
  | none =>
      cases matched : scope.index.matchAt (t :: front) with
      | none =>
          simp only [Option.map_none]
          split
          · exact .kept s front (List.suffix_refl front) fun _ _ => rfl
          · split
            · exact .same _ fun _ _ => rfl
            · exact .kept _ front (List.suffix_refl front) fun _ _ => rfl
      | some m =>
          have fits := (Keyword.Index.mem_phrases_of_matchAt matched).2
          have fits' : m.length - 1 ≤ front.length := by
            rw [List.length_cons] at fits
            omega
          have resolved (behind : List Token) :
              scope.resolve (t :: (front ++ o :: behind)) m = scope.resolve (t :: front) m := by
            rw [resolve, ← List.cons_append, List.take_append_of_le_length fits, resolve]
          have suffix := List.drop_suffix (m.length - 1) front
          simp only [Option.map_none, List.drop_append_of_le_length fits', resolved]
          split
          · split
            · exact .same _ fun _ _ => rfl
            · exact (steady_mention literal operates rest (within.of_suffix suffix) s _).of_suffix
                suffix
          · exact .kept s _ suffix fun _ _ => rfl

/-- The mentions of a request are those without the articles. -/
theorem mentions_articled {behind : List Token} (ends : scope.Articled v rest behind)
    (spares : scope.index.Spares front o) (s : Progress) :
    scope.mentions s (front ++ o :: behind) = scope.mentions s (front ++ o :: v :: rest) := by
  have plain : scope.Articled v rest (v :: rest) := ⟨[], by simp, rfl⟩
  -- The induction is on the number of tokens before the operator: a step may take several.
  induction n : front.length using Nat.strong_induction_on generalizing front s with
  | _ n ih =>
      cases front with
      | nil => exact mentions_operator operates ends spares s
      | cons t front =>
          rw [List.cons_append, List.cons_append]
          cases steady_step literal operates rest spares s with
          | same result eq =>
              have long := eq behind ends
              have short := eq _ plain
              cases result with
              | error failure => rw [mentions_of_failed_step long, mentions_of_failed_step short]
              | ok next => rw [mentions_of_step long, mentions_of_step short]
          | kept s' left suffix eq =>
              have shorter := suffix.length_le
              rw [List.length_cons] at n
              rw [mentions_of_step (eq behind ends), mentions_of_step (eq _ plain)]
              exact ih left.length (by omega)
                (spares.of_suffix (suffix.trans (List.suffix_cons t front))) s' rfl

end Mentions

/-! ## The sort block -/

theorem direction_before (operates : Operates o) (front behind : List Token) :
    direction (front ++ o :: behind) =
      ((direction front).1, (direction front).2 ++ o :: behind) := by
  have descends : o.isWordIn descendingWords = false := operates.notIn (by decide)
  have ascends : o.isWordIn ascendingWords = false := operates.notIn (by decide)
  rw [direction, beginsWith_before (fun _ => descends), beginsWith_before (fun _ => ascends),
    direction]
  split
  · next begins => rw [drop_before begins]
  · split
    · next begins => rw [drop_before begins]
    · rfl

theorem startsUnknownWord_before (spares : scope.index.Spares front o) (behind : List Token) :
    scope.startsUnknownWord (front ++ o :: behind) =
      scope.startsUnknownWord (front ++ [o]) := by
  have long := spares.matchAt_eq behind
  have short := spares.matchAt_eq []
  cases front with
  | nil =>
      rw [List.nil_append] at long short ⊢
      simp only [startsUnknownWord, long, short, List.nil_append]
  | cons t front =>
      rw [List.cons_append] at long short ⊢
      simp only [startsUnknownWord, long, short, List.cons_append]

/-- Whether a condition can begin in front of the operator or with it does not depend on the
articles. -/
theorem startsCondition_before (operates : Operates o) (spares : scope.index.Spares front o)
    {behind : List Token} (ends : scope.Articled v rest behind) (literal : IsLiteral v) :
    scope.startsCondition (front ++ o :: behind) = scope.startsCondition (front ++ [o]) := by
  have long := startsPlainWord_before spares behind operates
  have short := startsPlainWord_before spares [] operates
  obtain ⟨t, others, split⟩ := List.exists_cons_of_ne_nil (List.concat_ne_nil o front)
  have phrase : afterAnyPhrase? (comparingPhrases.map (·.1)) (t :: others ++ behind) = _ :=
    ends.afterAnyPhrase?_eq literal (by decide) t others
  rw [List.append_cons] at long ⊢
  rw [split] at long short ⊢
  rw [List.cons_append] at long phrase ⊢
  simp only [startsCondition, phrase, long, short, Option.isSome_map]

section SortKeys

variable (literal : IsLiteral v) (operates : Operates o) (rest : List Token)

include literal operates

/-- A sort key whose phrase stands before the operator. -/
theorem steady_sortKey {m : Keyword.Match} (fits : m.length ≤ front.length)
    (spares : scope.index.Spares (front.drop m.length) o) :
    Steady (front.drop m.length) o (scope.Articled v rest) id fun behind =>
      scope.sortKey (front ++ o :: behind) m := by
  have resolved (behind : List Token) :
      scope.resolve (front ++ o :: behind) m = scope.resolve front m := by
    rw [resolve, List.take_append_of_le_length fits, resolve]
  simp only [sortKey, resolved, List.drop_append_of_le_length fits, direction_before operates]
  have suffix : (direction (front.drop m.length)).2 <:+ front.drop m.length := by
    simp only [direction]
    split
    · exact List.drop_suffix 1 _
    · split
      · exact List.drop_suffix 1 _
      · exact List.suffix_refl _
  generalize direction (front.drop m.length) = turned at suffix
  obtain ⟨turn, left⟩ := turned
  cases scope.resolve front m with
  | error failure => exact .same _ fun _ _ => rfl
  | ok field =>
      have starts (behind : List Token) (ends : scope.Articled v rest behind) :=
        startsCondition_before operates (spares.of_suffix suffix) ends literal
      have limits (behind : List Token) : beginsWith comparingLimitWords (left ++ o :: behind) =
          beginsWith comparingLimitWords (left ++ [o]) := by
        cases left <;> rfl
      have head (behind : List Token) : (left ++ o :: behind).head? = (left ++ [o]).head? := by
        cases left <;> rfl
      by_cases refused : (!beginsWith comparingLimitWords (left ++ [o]) &&
          scope.startsCondition (left ++ [o])) = true
      · refine .same (.error (.valueAfterSortField field
          (((left ++ [o]).head?.map (·.raw)).getD ""))) fun behind ends => ?_
        simp only [limits, starts behind ends, refused, if_true, head]
      · refine .kept ⟨field, turn⟩ left suffix fun behind ends => ?_
        simp only [limits, starts behind ends, refused]
        rfl

/-- Where the next sort key begins before the operator. -/
theorem steady_nextSortKey (spares : scope.index.Spares front o) :
    Steady front o (scope.Articled v rest) (fun next : Unit × List Token => some next.2)
      fun behind => scope.nextSortKey (front ++ o :: behind) := by
  have noSeparator : separatesSortKeys o = false := by
    have noWord : o.isWordIn ["und", "dann"] = false := operates.notIn (by decide)
    rcases operates.kind_eq with kind | kind <;> simp [separatesSortKeys, kind, noWord]
  have skipped := dropWhile_before noSeparator front
  have suffix := List.dropWhile_suffix separatesSortKeys (l := front)
  simp only [nextSortKey, skipped]
  generalize front.dropWhile separatesSortKeys = next at suffix
  have spared := spares.of_suffix suffix
  have length (behind : List Token) :
      ((next ++ o :: behind).length = (front ++ o :: behind).length ∨ next ++ o :: behind = []) ↔
        next.length = front.length := by
    simp
  simp only [length, fieldAt_before spared]
  split
  · exact .same (.ok none) fun _ _ => rfl
  cases found : scope.fieldAt next with
  | some m =>
      have fits := (Keyword.Index.mem_phrases_of_matchAt (matchAt_of_fieldAt found)).2
      have starts (behind : List Token) (ends : scope.Articled v rest behind) :=
        startsCondition_before operates (spared.of_suffix (List.drop_suffix m.length next)) ends
          literal
      simp only [List.drop_append_of_le_length fits]
      by_cases filters : scope.startsCondition (next.drop m.length ++ [o]) = true
      · exact .same (.ok none) fun behind ends => by rw [starts behind ends, if_pos filters]
      · exact .kept () next suffix fun behind ends => by rw [starts behind ends, if_neg filters]
  | none =>
      have unknown := startsUnknownWord_before spared
      simp only [unknown]
      cases next <;> exact .same _ fun _ _ => rfl

omit literal operates in
/-- Where no field begins behind the articles, the sort block ends before the operator, or the word
there is refused. -/
theorem steady_sortKeys_of_no_field {here : List Token} (spares : scope.index.Spares here o)
    (skipped : ∀ behind,
      (front ++ o :: behind).dropWhile (·.isWordIn articles) = here ++ o :: behind)
    (none : ∀ behind,
      scope.fieldAt ((front ++ o :: behind).dropWhile (·.isWordIn articles)) = .none) :
    Steady here o (scope.Articled v rest) id fun behind =>
      scope.sortKeys (front ++ o :: behind) := by
  have unknown := startsUnknownWord_before spares
  have read (behind : List Token) := sortKeys_of_no_field (none behind)
  simp only [read, skipped]
  obtain ⟨t, others, first⟩ := List.exists_cons_of_ne_nil (List.concat_ne_nil o here)
  have split (behind : List Token) : here ++ o :: behind = t :: (others ++ behind) := by
    rw [List.append_cons, first, List.cons_append]
  by_cases refused : scope.startsUnknownWord (here ++ [o]) = true
  · refine .same (.error (scope.unknownField t)) fun behind _ => ?_
    simp only [split]
    rw [← split, unknown, if_pos refused]
  · refine .kept [] here (List.suffix_refl here) fun behind _ => ?_
    simp only [split]
    rw [← split, unknown, if_neg refused]
    rfl

/-- The keys of a sort block before the operator. -/
theorem steady_sortKeys (spares : scope.index.Spares front o) :
    Steady front o (scope.Articled v rest) id fun behind =>
      scope.sortKeys (front ++ o :: behind) := by
  have noArticle : o.isWordIn articles = false := operates.notIn (by decide)
  -- The induction is on the number of tokens: each key takes some of them.
  induction n : front.length using Nat.strong_induction_on generalizing front with
  | _ n ih =>
      have skipped := dropWhile_before (p := (·.isWordIn articles)) noArticle front
      have suffix := List.dropWhile_suffix (·.isWordIn articles) (l := front)
      have shorter := suffix.length_le
      generalize front.dropWhile (·.isWordIn articles) = here at skipped suffix shorter
      have spared := spares.of_suffix suffix
      refine Steady.of_suffix ?_ suffix
      have field (behind : List Token) :
          scope.fieldAt ((front ++ o :: behind).dropWhile (·.isWordIn articles)) =
            scope.fieldAt here := by
        rw [skipped, fieldAt_before spared]
      cases found : scope.fieldAt here with
      | none =>
          exact steady_sortKeys_of_no_field rest spared skipped fun behind =>
            (field behind).trans found
      | some m =>
          have matched := matchAt_of_fieldAt found
          have fits := (Keyword.Index.mem_phrases_of_matchAt matched).2
          have positive := Keyword.Index.length_pos_of_matchAt matched
          have read (behind : List Token) := sortKeys_of_fieldAt ((field behind).trans found)
          simp only [read, skipped]
          have inside := List.drop_suffix m.length here
          refine (Steady.bind (steady_sortKey literal operates rest fits (spared.of_suffix inside))
            fun key left suffix => ?_).of_suffix inside
          have left_le := suffix.length_le
          rw [List.length_drop] at left_le
          cases steady_nextSortKey literal operates rest
            (spared.of_suffix (suffix.trans inside)) with
          | kept _ next suffix' eq =>
              have next_le := suffix'.length_le
              have further := ih next.length (by omega)
                (spared.of_suffix (suffix'.trans (suffix.trans inside))) rfl
              refine ((further.map (key :: ·)).congr fun behind ends => ?_).of_suffix suffix'
              simp only [id_eq, eq behind ends, Except.bind]
          | same result eq =>
              rcases result with failure | none | next
              · exact .same (.error failure) fun behind ends => by
                  simp only [id_eq, eq behind ends, Except.bind]
              · exact .kept [key] left (List.suffix_refl left) fun behind ends => by
                  simp only [id_eq, eq behind ends, Except.bind]
              · refine .same ((scope.sortKeys next).map fun read => (key :: read.1, read.2))
                  fun behind ends => ?_
                simp only [id_eq, eq behind ends, Except.bind]

end SortKeys

end Scope

end Request

end Inquiry
