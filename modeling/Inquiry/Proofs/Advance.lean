import Inquiry.Proofs.AmountCap
import Inquiry.Proofs.Articles

/-!
# Readers advance

A request is read from left to right. Readers hand on the tokens that they leave, and
where these begin is the place that a reader has come to. Every reader that reads
something comes to a later place, none goes beyond the end of the tokens, and each step
of the scan starts where the one before it has stopped. So the scan ends, and what it
reads for one condition it reads for no other.

`ReadApart` is the one statement about a run that values, sort keys and conditions share:
each thing has been read from tokens of its own. What a step reads is added at its front
(`ReadApart.cons`).
-/

namespace Inquiry.Request

/-! ## Places -/

section Places

variable {tokens rest : List Token} {start stop : Nat}

/-- What a reader leaves begins at a later place than the one where it has started, and at
the end of the tokens at the latest; what it has read, it has read up to there. -/
def Advances (tokens : List Token) (start : Nat) (rest : List Token) (Reads : Nat → Prop) :
    Prop :=
  ∃ stop, start < stop ∧ stop ≤ tokens.length ∧ rest = tokens.drop stop ∧ Reads stop

/-- What is left behind a place begins at a place. -/
theorem exists_place (suffix : rest <:+ tokens.drop start) (within : start ≤ tokens.length) :
    ∃ stop, start ≤ stop ∧ stop ≤ tokens.length ∧ rest = tokens.drop stop := by
  obtain ⟨own, split⟩ := suffix
  have length := congrArg List.length split
  rw [List.length_append, List.length_drop] at length
  refine ⟨start + own.length, Nat.le_add_right _ _, by omega, ?_⟩
  rw [← List.drop_drop, ← split, List.drop_left]

/-- A reader that takes tokens comes to a later place. -/
theorem exists_later_place (suffix : rest <:+ tokens.drop start)
    (shorter : rest.length < (tokens.drop start).length) :
    ∃ stop, start < stop ∧ stop ≤ tokens.length ∧ rest = tokens.drop stop := by
  rw [List.length_drop] at shorter
  obtain ⟨stop, after, bounded, rfl⟩ := exists_place suffix (by omega)
  rw [List.length_drop] at shorter
  exact ⟨stop, by omega, bounded, rfl⟩

theorem lt_length_of_drop {t : Token} (here : tokens.drop start = t :: rest) :
    start < tokens.length := by
  have length := congrArg List.length here
  rw [List.length_drop, List.length_cons] at length
  omega

theorem drop_succ_of_drop {t : Token} (here : tokens.drop start = t :: rest) :
    rest = tokens.drop (start + 1) := by
  rw [← List.drop_drop, here, List.drop_one, List.tail_cons]

end Places

/-! ## Things read one after the other -/

/-- Several things are read between two places, each from tokens of its own: none begins
before the one before it has ended. -/
def ReadApart {α : Type} (Reads : Nat → Nat → α → Prop) (start stop : Nat) (read : List α) :
    Prop :=
  ∃ places : List (Nat × Nat), List.Forall₂ (fun place a => Reads place.1 place.2 a) places read ∧
    places.Pairwise (fun earlier later => earlier.2 ≤ later.1) ∧
    ∀ place ∈ places, start ≤ place.1 ∧ place.1 < place.2 ∧ place.2 ≤ stop

namespace ReadApart

variable {α : Type} {Reads : Nat → Nat → α → Prop} {start stop first behind : Nat} {a : α}
  {read : List α}

theorem nil : ReadApart Reads start stop [] := ⟨[], .nil, .nil, by simp⟩

/-- What is read first comes before everything that is read behind it. -/
theorem cons (own : Reads first behind a) (onward : start ≤ first) (forward : first < behind)
    (upTo : behind ≤ stop) (further : ReadApart Reads behind stop read) :
    ReadApart Reads start stop (a :: read) := by
  obtain ⟨places, reads, apart, within⟩ := further
  refine ⟨(first, behind) :: places, .cons own reads, .cons ?_ apart, ?_⟩
  · exact fun place member => (within place member).1
  · refine List.forall_mem_cons.mpr ⟨⟨onward, forward, upTo⟩, fun place member => ?_⟩
    have := within place member
    omega

theorem widen (h : ReadApart Reads first behind read) (onward : start ≤ first)
    (upTo : behind ≤ stop) : ReadApart Reads start stop read := by
  obtain ⟨places, reads, apart, within⟩ := h
  refine ⟨places, reads, apart, fun place member => ?_⟩
  have := within place member
  omega

end ReadApart

namespace Scope

variable {scope : Scope} {tokens rest : List Token} {field : String}

/-! ## Values -/

/-- A value is the first token that it takes, or all of them joined. -/
theorem own_of_value? {v : Token} (h : scope.value? tokens = some (v, rest)) :
    ∃ own, own ≠ [] ∧ tokens = own ++ rest ∧ (own.head? = some v ∨ v = joinWords own) := by
  have plain (h : scope.plainValue? tokens = some (v, rest)) :
      ∃ own, own ≠ [] ∧ tokens = own ++ rest ∧ (own.head? = some v ∨ v = joinWords own) := by
    have parts := scope.plainWords_eq tokens
    rw [plainValue?] at h
    split at h
    · cases h
    · next first others _ words =>
        rw [words] at parts
        cases h
        refine ⟨first :: others, List.cons_ne_nil _ _, parts.symm, ?_⟩
        split
        · exact .inl rfl
        · exact .inr rfl
  cases tokens with
  | nil => cases h
  | cons t tokens =>
      rw [value?] at h
      split at h
      · cases h
        refine ⟨v :: tokens.takeWhile fun u => u.kind == .word && isCurrency u.key,
          List.cons_ne_nil _ _, ?_, .inl rfl⟩
        rw [List.cons_append, List.takeWhile_append_dropWhile]
      · cases h
        exact ⟨[v], List.cons_ne_nil _ _, rfl, .inl rfl⟩
      · cases h
        exact ⟨[v], List.cons_ne_nil _ _, rfl, .inl rfl⟩
      all_goals exact plain h

/-- A value is read between two places, and from nothing but the tokens between them. -/
structure ReadsValue (scope : Scope) (tokens : List Token) (start stop : Nat) (v : Token) :
    Prop where
  read : scope.value? (tokens.drop start) = some (v, tokens.drop stop)
  own : tokens[start]? = some v ∨ v = joinWords ((tokens.drop start).take (stop - start))

variable {start : Nat}

theorem advances_of_value? {v : Token} (h : scope.value? (tokens.drop start) = some (v, rest)) :
    Advances tokens start rest fun stop => scope.ReadsValue tokens start stop v := by
  obtain ⟨stop, forward, fits, rfl⟩ :=
    exists_later_place (suffix_of_value? h) (length_lt_of_value? h)
  obtain ⟨own, ne, split, made⟩ := own_of_value? h
  have length := congrArg List.length split
  rw [List.length_append, List.length_drop, List.length_drop] at length
  refine ⟨stop, forward, fits, rfl, h, made.imp (fun head => ?_) fun joined => ?_⟩
  · rw [← List.head?_drop, split, List.head?_append, head, Option.some_or]
  · rw [split, List.take_left' (by omega), joined]

theorem readApart_furtherValues (andToo : Bool) (within : start ≤ tokens.length) :
    ∃ stop, start ≤ stop ∧ stop ≤ tokens.length ∧
      (scope.furtherValues andToo (tokens.drop start)).2 = tokens.drop stop ∧
      ReadApart (scope.ReadsValue tokens) start stop
        (scope.furtherValues andToo (tokens.drop start)).1 := by
  generalize here : tokens.drop start = left
  fun_induction furtherValues scope andToo left generalizing start with
  | case1 => exact ⟨start, Nat.le_refl start, within, here.symm, .nil⟩
  | case2 separator after _ value behind found more left read ih =>
      obtain rfl := drop_succ_of_drop here
      obtain ⟨next, forward, fits, rfl, own⟩ := advances_of_value? found
      obtain ⟨stop, onward, bounded, left, further⟩ := ih fits rfl
      rw [read] at left further
      exact ⟨stop, by omega, bounded, left, further.cons own (Nat.le_succ start) forward onward⟩
  | case3 => exact ⟨start, Nat.le_refl start, within, here.symm, .nil⟩
  | case4 => exact ⟨start, Nat.le_refl start, within, here.symm, .nil⟩

/-- The values of a list are read from tokens of their own. -/
theorem advances_of_values {andToo : Bool} {v : Token} {others : List Token}
    (h : scope.values andToo (tokens.drop start) = (v :: others, rest)) :
    Advances tokens start rest fun stop =>
      ReadApart (scope.ReadsValue tokens) start stop (v :: others) := by
  rw [values] at h
  split at h
  · cases h
  · next found =>
      obtain ⟨next, forward, fits, rfl, own⟩ := advances_of_value? found
      obtain ⟨stop, onward, bounded, left, further⟩ := scope.readApart_furtherValues andToo fits
      cases h
      exact ⟨stop, by omega, bounded, left, further.cons own (Nat.le_refl start) forward onward⟩

/-- The two values of a range are read from tokens of their own. -/
theorem advances_of_bounds? {low high : Token}
    (h : scope.bounds? (tokens.drop start) = some (low, high, rest)) :
    Advances tokens start rest fun stop =>
      ReadApart (scope.ReadsValue tokens) start stop [low, high] := by
  rw [bounds?] at h
  split at h
  · cases h
  · next found =>
      obtain ⟨middle, forward, fits, rfl, first⟩ := advances_of_value? found
      split at h
      · obtain ⟨⟨_, _⟩, next, ⟨⟩⟩ := Option.map_eq_some_iff.mp h
        rw [List.drop_drop] at next
        obtain ⟨stop, forward', bounded, rfl, second⟩ := advances_of_value? next
        refine ⟨stop, by omega, bounded, rfl, ?_⟩
        exact .cons first (Nat.le_refl start) forward (by omega)
          (.cons second (Nat.le_succ middle) forward' (Nat.le_refl stop) .nil)
      · cases h

/-! ## Conditions -/

/-- What a condition on a field is made from: whether there is a value needs none, a range
needs two, and a relation has those that are listed. -/
inductive MadeFrom (scope : Scope) (field : String) : List Token → Node → Prop where
  | presence {test : Test} {p : Predicate} (negate : Bool)
      (asks : test = .isNull ∨ test = .isNotNull) (made : Predicate.of field test = .ok p) :
      MadeFrom scope field [] (scope.finish negate p)
  | range {negate : Bool} {low high : Token} {node : Node}
      (made : scope.between field negate low high = .ok node) :
      MadeFrom scope field [low, high] node
  | related {relation : Option Relation} {negate : Bool} {first : Token} {others : List Token}
      {node : Node} (made : scope.conclude field relation negate first others = .ok node) :
      MadeFrom scope field (first :: others) node

/-- The values of a condition are read one after the other, between two places. -/
def ReadsNode (scope : Scope) (tokens : List Token) (field : String) (start stop : Nat)
    (node : Node) : Prop :=
  ∃ values, ReadApart (scope.ReadsValue tokens) start stop values ∧
    scope.MadeFrom field values node

theorem suffix_opening (explicit : Bool) (tokens : List Token) :
    (opening explicit tokens).rest <:+ tokens := by
  simp only [opening]
  cases (operatorAt tokens).relation.or _ with
  | none => exact suffix_operatorAt tokens
  | some relation => exact (List.dropWhile_suffix _).trans (suffix_operatorAt tokens)

theorem ok_of_reading {result : Except Failure Node} {node : Node} {left : List Token}
    (h : reading result left = .ok (some (node, rest))) : result = .ok node ∧ rest = left := by
  obtain ⟨_, made, heq⟩ := ok_of_map h
  cases heq
  exact ⟨made, rfl⟩

/-- A condition takes tokens, and its values are read from among them. -/
theorem advances_of_condition? {negate : Bool} {node : Node}
    (h : scope.condition? field negate (tokens.drop start) = .ok (some (node, rest))) :
    Advances tokens start rest fun stop => scope.ReadsNode tokens field start stop node := by
  have shorter := length_lt_of_condition? h
  have within : start ≤ tokens.length := by
    rw [List.length_drop] at shorter
    omega
  -- where the words that open a condition end
  have skipped : skipWord negatingWords (skipWord beingWords (tokens.drop start)) <:+
      tokens.drop start := (suffix_skipWord _ _).trans (suffix_skipWord _ _)
  obtain ⟨first, onward, fits, opened⟩ := exists_place skipped within
  have asked {test : Test} {negate : Bool} (asks : test = .isNull ∨ test = .isNotNull)
      (h : reading ((Predicate.of field test).map (scope.finish negate))
        ((tokens.drop first).drop 1) = .ok (some (node, rest))) :
      Advances tokens start rest fun stop => scope.ReadsNode tokens field start stop node := by
    obtain ⟨made, rfl⟩ := ok_of_reading h
    obtain ⟨p, formed, rfl⟩ := ok_of_map made
    have suffix : (tokens.drop first).drop 1 <:+ tokens.drop start :=
      (List.drop_suffix _ _).trans (opened ▸ skipped)
    obtain ⟨stop, forward, bounded, left⟩ := exists_later_place suffix shorter
    exact ⟨stop, forward, bounded, left, [], .nil, .presence negate asks formed⟩
  simp only [condition?] at h
  rw [opened] at h
  split at h
  · exact asked (.inl rfl) h
  split at h
  · exact asked (.inr rfl) h
  split at h
  · split at h
    · cases h
    · next bounds =>
        obtain ⟨made, rfl⟩ := ok_of_reading h
        rw [List.drop_drop] at bounds
        obtain ⟨stop, forward, bounded, left, apart⟩ := advances_of_bounds? bounds
        refine ⟨stop, by omega, bounded, left, _, ?_, .range made⟩
        exact apart.widen (by omega) (Nat.le_refl stop)
  · split at h
    · split at h <;> cases h
    · next read =>
        obtain ⟨made, rfl⟩ := ok_of_reading h
        obtain ⟨next, onward', fits', values⟩ := exists_place (suffix_opening _ _) fits
        rw [values] at read
        obtain ⟨stop, forward, bounded, left, apart⟩ := advances_of_values read
        refine ⟨stop, by omega, bounded, left, _, ?_, .related made⟩
        exact apart.widen (by omega) (Nat.le_refl stop)

/-- What becomes of a mention: the field is said to have no value, a condition follows it, or
it is listed. -/
theorem outcomes_of_mention {s s' : Progress} {behind : List Token}
    (h : scope.mention s field behind = .ok (s', rest)) :
    (rest = behind ∧ ∃ p alternative, Predicate.of field .isNull = .ok p ∧
        s'.conditions = s.conditions ++ [(scope.finish false p, alternative)]) ∨
      (∃ node alternative, scope.condition? field s.excludes behind = .ok (some (node, rest)) ∧
        s'.conditions = s.conditions ++ [(node, alternative)]) ∨
      (rest = behind ∧ s'.conditions = s.conditions) := by
  simp only [mention] at h
  split at h
  · obtain ⟨p, made, heq⟩ := ok_of_map h
    cases heq
    exact .inl ⟨rfl, p, _, made, rfl⟩
  · split at h
    · cases h
    · next node left read =>
        cases h
        exact .inr (.inl ⟨node, _, read, rfl⟩)
    · cases h
      exact .inr (.inr ⟨rfl, Progress.conditions_project ..⟩)

/-- A mention ends where its field ends, or behind its condition. The condition that it adds
is read from what stands between. -/
theorem advances_of_mention {s s' : Progress} (within : start ≤ tokens.length)
    (h : scope.mention s field (tokens.drop start) = .ok (s', rest)) :
    ∃ stop, start ≤ stop ∧ stop ≤ tokens.length ∧ rest = tokens.drop stop ∧
      (s'.conditions = s.conditions ∨ ∃ c, s'.conditions = s.conditions ++ [c] ∧
        scope.ReadsNode tokens field start stop c.1) := by
  obtain ⟨rfl, p, _, made, added⟩ | ⟨node, _, read, added⟩ | ⟨rfl, kept⟩ := outcomes_of_mention h
  · refine ⟨start, Nat.le_refl start, within, rfl, .inr ⟨_, added, [], .nil, ?_⟩⟩
    exact .presence false (.inl rfl) made
  · obtain ⟨stop, forward, fits, left, own⟩ := advances_of_condition? read
    exact ⟨stop, Nat.le_of_lt forward, fits, left, .inr ⟨_, added, own⟩⟩
  · exact ⟨start, Nat.le_refl start, within, rfl, .inl kept⟩

/-! ## The scan -/

theorem place_of_matchAt {m : Keyword.Match}
    (found : scope.index.matchAt (tokens.drop start) = some m) :
    start < start + m.length ∧ start + m.length ≤ tokens.length := by
  have positive := Keyword.Index.length_pos_of_matchAt found
  have bound := (Keyword.Index.mem_phrases_of_matchAt found).2
  rw [List.length_drop] at bound
  omega

/-- A condition is read between two places: the phrase for its field begins at the first
one, and its values are read behind the phrase, up to the second one. -/
def ReadsCondition (scope : Scope) (tokens : List Token) (start stop : Nat)
    (condition : Node × Bool) : Prop :=
  ∃ m field, scope.index.matchAt (tokens.drop start) = some m ∧
    scope.resolve (tokens.drop start) m = .ok field ∧ start + m.length ≤ stop ∧
    scope.ReadsNode tokens field (start + m.length) stop condition.1

/-- What a step does: it passes over tokens, or it comes to a mention. -/
theorem outcomes_of_step {s s' : Progress} {t : Token} {behind : List Token}
    (h : scope.step s t rest = .ok (s', behind)) :
    (behind <:+ rest ∧ s'.conditions = s.conditions) ∨
      ∃ m field, scope.index.matchAt (t :: rest) = some m ∧
        scope.resolve (t :: rest) m = .ok field ∧
        scope.mention s field (rest.drop (m.length - 1)) = .ok (s', behind) := by
  rw [step] at h
  split at h
  · cases h
    exact .inl ⟨List.suffix_refl _, rfl⟩
  · split at h
    · next steered =>
        cases h
        exact .inl ⟨suffix_of_steer? steered, (Progress.steer?_eq steered).1⟩
    · split at h
      · next m found =>
          simp only at h
          split at h
          · split at h
            · cases h
            · next field resolved => exact .inr ⟨m, field, found, resolved, h⟩
          · cases h
            exact .inl ⟨List.drop_suffix _ _, rfl⟩
      · repeat' split at h
        all_goals cases h
        all_goals exact .inl ⟨List.suffix_refl _, rfl⟩

/-- A step comes to a later place. It adds nothing, or one condition that it has read from
the tokens it takes. -/
theorem advances_of_step {s s' : Progress} {t : Token} {behind : List Token}
    (here : tokens.drop start = t :: rest) (h : scope.step s t rest = .ok (s', behind)) :
    Advances tokens start behind fun stop =>
      s'.conditions = s.conditions ∨ ∃ c, s'.conditions = s.conditions ++ [c] ∧
        scope.ReadsCondition tokens start stop c := by
  have next := drop_succ_of_drop here
  obtain ⟨suffix, kept⟩ | ⟨m, field, found, resolved, mentioned⟩ := outcomes_of_step h
  · rw [next] at suffix
    obtain ⟨stop, onward, fits, left⟩ := exists_place suffix (lt_length_of_drop here)
    exact ⟨stop, onward, fits, left, .inl kept⟩
  · rw [← here] at found resolved
    obtain ⟨positive, fits⟩ := place_of_matchAt found
    have behindPhrase : rest.drop (m.length - 1) = tokens.drop (start + m.length) := by
      rw [next, List.drop_drop]
      congr 1
      omega
    rw [behindPhrase] at mentioned
    obtain ⟨stop, onward, bounded, left, added⟩ := advances_of_mention fits mentioned
    refine ⟨stop, by omega, bounded, left, added.imp_right ?_⟩
    exact fun ⟨c, one, own⟩ => ⟨c, one, m, field, found, resolved, onward, own⟩

/-- The places that the scan comes to, one after every step, until the tokens are read or a
step fails. -/
inductive Scans (scope : Scope) (tokens : List Token) :
    Nat → Progress → List Nat → Except Failure Progress → Prop where
  | done (s : Progress) : Scans scope tokens tokens.length s [] (.ok s)
  | refused {start : Nat} {s : Progress} {t : Token} {rest : List Token} {failure : Failure}
      (here : tokens.drop start = t :: rest) (fails : scope.step s t rest = .error failure) :
      Scans scope tokens start s [] (.error failure)
  | step {start stop : Nat} {s s' : Progress} {t : Token} {rest : List Token} {stops : List Nat}
      {result : Except Failure Progress} (here : tokens.drop start = t :: rest)
      (reads : scope.step s t rest = .ok (s', tokens.drop stop)) (forward : start < stop)
      (within : stop ≤ tokens.length) (further : Scans scope tokens stop s' stops result) :
      Scans scope tokens start s (stop :: stops) result

/-- Each step of the scan comes to a later place. -/
theorem Scans.forward {s : Progress} {stops : List Nat} {result : Except Failure Progress}
    (h : scope.Scans tokens start s stops result) :
    (start :: stops).Pairwise (· < ·) ∧ ∀ stop ∈ stops, stop ≤ tokens.length := by
  induction h with
  | done => simp
  | refused => simp
  | @step start stop _ _ _ _ _ _ _ _ forward within _ ih =>
      obtain ⟨ascending, bounded⟩ := ih
      refine ⟨List.pairwise_cons.mpr ⟨?_, ascending⟩, List.forall_mem_cons.mpr ⟨within, bounded⟩⟩
      refine List.forall_mem_cons.mpr ⟨forward, fun next member => ?_⟩
      exact Nat.lt_trans forward (List.rel_of_pairwise_cons ascending member)

/-- Places that ascend up to the end are no more than there are tokens. -/
theorem Scans.length_le {s : Progress} {stops : List Nat} {result : Except Failure Progress}
    (h : scope.Scans tokens start s stops result) (within : start ≤ tokens.length) :
    start + stops.length ≤ tokens.length := by
  induction h with
  | done => simp
  | refused => simpa using within
  | step _ _ forward fits _ ih =>
      have := ih fits
      rw [List.length_cons]
      omega

/-- The scan gets through: from every place it comes to its result step by step. -/
theorem exists_scans (s : Progress) (within : start ≤ tokens.length) :
    ∃ stops, scope.Scans tokens start s stops (scope.mentions s (tokens.drop start)) := by
  generalize here : tokens.drop start = left
  fun_induction mentions scope s left generalizing start with
  | case1 s =>
      have ends : start = tokens.length :=
        Nat.le_antisymm within (List.drop_eq_nil_iff.mp here)
      exact ⟨[], ends ▸ .done s⟩
  | case2 s t rest failure fails => exact ⟨[], .refused here fails⟩
  | case3 s t rest s' behind reads ih =>
      obtain ⟨stop, forward, fits, rfl, -⟩ := advances_of_step here reads
      obtain ⟨stops, further⟩ := ih fits rfl
      exact ⟨stop :: stops, .step here reads forward fits further⟩

/-- The conditions that the scan adds are read from tokens of their own. -/
theorem readApart_of_mentions {s s' : Progress} (within : start ≤ tokens.length)
    (h : scope.mentions s (tokens.drop start) = .ok s') :
    ∃ added, s'.conditions = s.conditions ++ added ∧
      ReadApart (scope.ReadsCondition tokens) start tokens.length added := by
  generalize here : tokens.drop start = left at h
  fun_induction mentions scope s left generalizing start with
  | case1 s =>
      cases h
      exact ⟨[], (List.append_nil _).symm, .nil⟩
  | case2 => cases h
  | case3 s t rest s₁ behind reads ih =>
      obtain ⟨stop, forward, fits, rfl, kept | ⟨c, one, own⟩⟩ := advances_of_step here reads
      all_goals obtain ⟨added, all, apart⟩ := ih fits rfl h
      · exact ⟨added, by rw [all, kept], apart.widen (Nat.le_of_lt forward) (Nat.le_refl _)⟩
      · refine ⟨c :: added, ?_, apart.cons own (Nat.le_refl start) forward fits⟩
        rw [all, one, List.append_assoc, List.singleton_append]

/-! ## The sort block -/

/-- A sort key is read between two places, from the phrase for its field on. -/
def ReadsSortKey (scope : Scope) (tokens : List Token) (start stop : Nat) (key : SortKey) :
    Prop :=
  ∃ m, scope.fieldAt (tokens.drop start) = some m ∧
    scope.sortKey (tokens.drop start) m = .ok (key, tokens.drop stop)

theorem suffix_direction (tokens : List Token) : (direction tokens).2 <:+ tokens := by
  rw [direction]
  split
  · exact List.drop_suffix 1 tokens
  · split
    · exact List.drop_suffix 1 tokens
    · exact List.suffix_refl tokens

theorem advances_of_sortKey {m : Keyword.Match} {key : SortKey}
    (found : scope.fieldAt (tokens.drop start) = some m)
    (h : scope.sortKey (tokens.drop start) m = .ok (key, rest)) :
    Advances tokens start rest fun stop => scope.ReadsSortKey tokens start stop key := by
  have suffix : rest <:+ tokens.drop start := by
    rw [sortKey] at h
    split at h
    · cases h
    · simp only at h
      split at h
      · cases h
      · cases h
        exact (suffix_direction _).trans (List.drop_suffix _ _)
  obtain ⟨stop, forward, fits, rfl⟩ := exists_later_place suffix (length_lt_of_sortKey found h)
  exact ⟨stop, forward, fits, rfl, m, found, h⟩

/-- Between two sort keys at least one separator is passed over. -/
theorem place_of_nextSortKey {next : List Token}
    (h : scope.nextSortKey (tokens.drop start) = .ok (some next)) :
    ∃ stop, start < stop ∧ stop ≤ tokens.length ∧ next = tokens.drop stop := by
  simp only [nextSortKey] at h
  split at h
  · cases h
  · next goesOn =>
      have suffix := List.dropWhile_suffix (l := tokens.drop start) separatesSortKeys
      have shorter := Nat.lt_of_le_of_ne suffix.length_le (not_or.mp goesOn).1
      split at h
      · split at h <;> cases h
        exact exists_later_place suffix shorter
      · split at h <;> cases h
      · cases h

/-- The sort keys are read one after the other, each from tokens of its own. -/
theorem readApart_of_sortKeys {keys : List SortKey} (within : start ≤ tokens.length)
    (h : scope.sortKeys (tokens.drop start) = .ok (keys, rest)) :
    ∃ stop, start ≤ stop ∧ stop ≤ tokens.length ∧ rest = tokens.drop stop ∧
      ReadApart (scope.ReadsSortKey tokens) start stop keys := by
  induction size : tokens.length - start using Nat.strong_induction_on generalizing start keys with
  | _ n ih =>
      subst size
      obtain ⟨first, onward, fits, here⟩ :=
        exists_place (List.dropWhile_suffix (·.isWordIn articles)) within
      cases found : scope.fieldAt ((tokens.drop start).dropWhile (·.isWordIn articles)) with
      | none =>
          rw [sortKeys_of_no_field found, here] at h
          refine ⟨first, onward, fits, ?_⟩
          split at h
          · split at h <;> cases h
            next ends _ => exact ⟨ends.symm, .nil⟩
          · cases h
            next ends => exact ⟨ends.symm, .nil⟩
      | some m =>
          rw [sortKeys_of_fieldAt found] at h
          obtain ⟨⟨key, behind⟩, read, h⟩ := ok_of_bind h
          obtain ⟨next, goesOn, h⟩ := ok_of_bind h
          rw [here] at found read
          obtain ⟨middle, forward, bounded, rfl, own⟩ := advances_of_sortKey found read
          cases next with
          | none =>
              cases h
              exact ⟨middle, by omega, bounded, rfl,
                .cons own onward forward (Nat.le_refl middle) .nil⟩
          | some next =>
              obtain ⟨⟨keys, left⟩, further, heq⟩ := ok_of_map h
              cases heq
              obtain ⟨second, later, bounded', rfl⟩ := place_of_nextSortKey goesOn
              obtain ⟨stop, last, bounded'', rfl, apart⟩ :=
                ih _ (by omega) bounded' further rfl
              refine ⟨stop, by omega, bounded'', rfl, .cons own onward forward (by omega) ?_⟩
              exact apart.widen (Nat.le_of_lt later) (Nat.le_refl stop)

/-- A value that is refused behind a sort field is a token of the request. -/
theorem mem_of_valueAfterSortField {m : Keyword.Match} {found : String}
    (h : scope.sortKey tokens m = .error (.valueAfterSortField field found)) :
    ∃ t ∈ tokens, found = t.raw := by
  rw [sortKey] at h
  split at h
  · next resolved =>
      cases h
      simp only [resolve] at resolved
      split at resolved
      · cases resolved
      · cases resolved
  · simp only at h
    split at h
    · next value =>
        cases h
        have suffix := (suffix_direction (tokens.drop m.length)).trans (List.drop_suffix _ _)
        cases behind : (direction (tokens.drop m.length)).2 with
        | nil =>
            rw [behind] at value
            simp [startsCondition] at value
        | cons t others => exact ⟨t, suffix.subset (by simp [behind]), rfl⟩
    · cases h

/-- The sort block is one part of the tokens, from its marker to the end of its last key, and
the other tokens are left. -/
theorem places_of_sorting {keys : List SortKey} {left : List Token} (within : start ≤ tokens.length)
    (h : scope.sorting (tokens.drop start) = .ok (keys, left)) :
    (keys = [] ∧ left = tokens.drop start) ∨
      ∃ first behind stop, start ≤ first ∧ first < behind ∧ behind ≤ stop ∧
        stop ≤ tokens.length ∧ tokens.take start ++ left = tokens.take first ++ tokens.drop stop ∧
        ReadApart (scope.ReadsSortKey tokens) behind stop keys := by
  generalize here : tokens.drop start = rest at h
  induction rest generalizing start left with
  | nil =>
      cases h
      exact .inl ⟨rfl, rfl⟩
  | cons t rest ih =>
      rw [sorting] at h
      split at h
      · next behind marked =>
          obtain ⟨-, _, own, -, -, rfl⟩ := exists_of_afterAnyPhrase? (by decide) marked
          have suffix : behind <:+ tokens.drop (start + 1) :=
            drop_succ_of_drop here ▸ List.suffix_append own behind
          obtain ⟨middle, onward, fits, rfl⟩ := exists_place suffix (lt_length_of_drop here)
          obtain ⟨stop, block, bounded, rfl, apart⟩ := readApart_of_sortKeys fits h
          exact .inr ⟨start, middle, stop, Nat.le_refl start, onward, block, bounded, rfl, apart⟩
      · obtain ⟨⟨keys, others⟩, further, heq⟩ := ok_of_map h
        cases heq
        obtain ⟨rfl, same⟩ | ⟨first, behind, stop, onward, marker, block, fits, left, apart⟩ :=
          ih (lt_length_of_drop here) (drop_succ_of_drop here).symm further
        · exact .inl ⟨rfl, by rw [same]⟩
        · have place : tokens[start]? = some t := by rw [← List.head?_drop, here, List.head?_cons]
          refine .inr ⟨first, behind, stop, by omega, marker, block, fits, ?_, apart⟩
          rw [← left, List.take_add_one, place, Option.toList_some, List.append_assoc,
            List.singleton_append]

/-! ## Reading advances -/

/-- Every reader of values, conditions and mentions advances, from every place of the tokens,
and reads from the tokens up to the place it comes to. -/
structure ReadersAdvance (scope : Scope) (tokens : List Token) : Prop where
  value {start : Nat} {v : Token} {rest : List Token}
    (h : scope.value? (tokens.drop start) = some (v, rest)) :
    Advances tokens start rest fun stop => scope.ReadsValue tokens start stop v
  values {start : Nat} {andToo : Bool} {v : Token} {others rest : List Token}
    (h : scope.values andToo (tokens.drop start) = (v :: others, rest)) :
    Advances tokens start rest fun stop =>
      ReadApart (scope.ReadsValue tokens) start stop (v :: others)
  range {start : Nat} {low high : Token} {rest : List Token}
    (h : scope.bounds? (tokens.drop start) = some (low, high, rest)) :
    Advances tokens start rest fun stop =>
      ReadApart (scope.ReadsValue tokens) start stop [low, high]
  condition {start : Nat} {field : String} {negate : Bool} {node : Node} {rest : List Token}
    (h : scope.condition? field negate (tokens.drop start) = .ok (some (node, rest))) :
    Advances tokens start rest fun stop => scope.ReadsNode tokens field start stop node
  phrase {start : Nat} {m : Keyword.Match}
    (h : scope.index.matchAt (tokens.drop start) = some m) :
    start < start + m.length ∧ start + m.length ≤ tokens.length
  mention {start : Nat} {field : String} {s s' : Progress} {rest : List Token}
    (within : start ≤ tokens.length)
    (h : scope.mention s field (tokens.drop start) = .ok (s', rest)) :
    ∃ stop, start ≤ stop ∧ stop ≤ tokens.length ∧ rest = tokens.drop stop ∧
      (s'.conditions = s.conditions ∨ ∃ c, s'.conditions = s.conditions ++ [c] ∧
        scope.ReadsNode tokens field start stop c.1)
  step {start : Nat} {s s' : Progress} {t : Token} {rest behind : List Token}
    (here : tokens.drop start = t :: rest) (h : scope.step s t rest = .ok (s', behind)) :
    Advances tokens start behind fun stop =>
      s'.conditions = s.conditions ∨ ∃ c, s'.conditions = s.conditions ++ [c] ∧
        scope.ReadsCondition tokens start stop c

theorem readersAdvance (scope : Scope) (tokens : List Token) : scope.ReadersAdvance tokens where
  value := advances_of_value?
  values := advances_of_values
  range := advances_of_bounds?
  condition := advances_of_condition?
  phrase := place_of_matchAt
  mention := advances_of_mention
  step := advances_of_step

/-- The reader of the sort block advances with every key. -/
structure SortAdvances (scope : Scope) (tokens : List Token) : Prop where
  key {start : Nat} {m : Keyword.Match} {key : SortKey} {rest : List Token}
    (found : scope.fieldAt (tokens.drop start) = some m)
    (h : scope.sortKey (tokens.drop start) m = .ok (key, rest)) :
    Advances tokens start rest fun stop => scope.ReadsSortKey tokens start stop key
  next {start : Nat} {next : List Token}
    (h : scope.nextSortKey (tokens.drop start) = .ok (some next)) :
    ∃ stop, start < stop ∧ stop ≤ tokens.length ∧ next = tokens.drop stop
  keys {start : Nat} {keys : List SortKey} {rest : List Token} (within : start ≤ tokens.length)
    (h : scope.sortKeys (tokens.drop start) = .ok (keys, rest)) :
    ∃ stop, start ≤ stop ∧ stop ≤ tokens.length ∧ rest = tokens.drop stop ∧
      ReadApart (scope.ReadsSortKey tokens) start stop keys
  refused {start : Nat} {m : Keyword.Match} {field found : String}
    (h : scope.sortKey (tokens.drop start) m = .error (.valueAfterSortField field found)) :
    ∃ t ∈ tokens, found = t.raw

theorem sortAdvances (scope : Scope) (tokens : List Token) : scope.SortAdvances tokens where
  key := advances_of_sortKey
  next := place_of_nextSortKey
  keys := readApart_of_sortKeys
  refused h :=
    have ⟨t, member, same⟩ := mem_of_valueAfterSortField h
    ⟨t, List.mem_of_mem_drop member, same⟩

/-- A request is read to its end: every reader advances and stays within the tokens, the scan
comes to later and later places until it is done, and no two conditions, and no two sort
keys, are read from the same tokens. -/
theorem reading_advances (scope : Scope) (tokens : List Token) :
    scope.ReadersAdvance tokens ∧ scope.SortAdvances tokens ∧
      (∀ s, ∃ stops, scope.Scans tokens 0 s stops (scope.mentions s tokens) ∧
        (0 :: stops).Pairwise (· < ·) ∧ (∀ stop ∈ stops, stop ≤ tokens.length) ∧
        stops.length ≤ tokens.length) ∧
      (∀ s, scope.mentions {} tokens = .ok s →
        ReadApart (scope.ReadsCondition tokens) 0 tokens.length s.conditions) ∧
      (∀ query, scope.readTokens tokens = .ok query →
        ∃ (unsorted left : List Token) (s : Progress),
        (query.sortKeys = [] ∧ unsorted = tokens ∨ ∃ first behind stop, first < behind ∧
          behind ≤ stop ∧ stop ≤ tokens.length ∧
          unsorted = tokens.take first ++ tokens.drop stop ∧
          ReadApart (scope.ReadsSortKey tokens) behind stop query.sortKeys) ∧
        left.Sublist unsorted ∧ scope.mentions {} left = .ok s ∧
        query.main = gathered s.conditions ∧
        ReadApart (scope.ReadsCondition left) 0 left.length s.conditions) := by
  have apart {tokens : List Token} {s : Progress} (h : scope.mentions {} tokens = .ok s) :
      ReadApart (scope.ReadsCondition tokens) 0 tokens.length s.conditions := by
    obtain ⟨added, all, apart⟩ := readApart_of_mentions (Nat.zero_le tokens.length) h
    rw [all]
    exact apart
  refine ⟨scope.readersAdvance tokens, scope.sortAdvances tokens, fun s => ?_, fun _ => apart,
    fun query read => ?_⟩
  · obtain ⟨stops, scans⟩ := scope.exists_scans s (Nat.zero_le tokens.length)
    have within := scans.length_le (Nat.zero_le _)
    rw [Nat.zero_add] at within
    exact ⟨stops, scans, scans.forward.1, scans.forward.2, within⟩
  · obtain ⟨unsorted, left, s, sorted, limited, mentioned, main, -⟩ := passes_of_readTokens read
    refine ⟨unsorted, left, s, ?_, ?_, mentioned, main, apart mentioned⟩
    · have sorted : scope.sorting (tokens.drop 0) = .ok (query.sortKeys, unsorted) := sorted
      refine (places_of_sorting (Nat.zero_le tokens.length) sorted).imp_right ?_
      exact fun ⟨first, behind, stop, _, marker, block, fits, split, keys⟩ =>
        ⟨first, behind, stop, marker, block, fits, split, keys⟩
    · exact sublist_of_limitBehind limited

/-- The five tokens of a request about two fields make two conditions, and share none. -/
theorem reading_advances_towns :
    ∃ s, towns.mentions {} [⟨"Ort", "ort", .word⟩, ⟨"Bonn", "bonn", .word⟩,
        ⟨"Einwohner", "einwohner", .word⟩, ⟨"sind", "sind", .word⟩, ⟨"5000", "5000", .number⟩] =
        .ok s ∧ s.conditions.length = 2 ∧
      ReadApart (towns.ReadsCondition [⟨"Ort", "ort", .word⟩, ⟨"Bonn", "bonn", .word⟩,
        ⟨"Einwohner", "einwohner", .word⟩, ⟨"sind", "sind", .word⟩, ⟨"5000", "5000", .number⟩])
        0 5 s.conditions := by
  have read : (towns.mentions {} [⟨"Ort", "ort", .word⟩, ⟨"Bonn", "bonn", .word⟩,
      ⟨"Einwohner", "einwohner", .word⟩, ⟨"sind", "sind", .word⟩, ⟨"5000", "5000", .number⟩]).map
      (·.conditions.length) = .ok 2 := by decide +kernel
  obtain ⟨s, mentioned, two⟩ := ok_of_map read
  exact ⟨s, mentioned, two, (towns.reading_advances _).2.2.2.1 s mentioned⟩

end Scope

end Inquiry.Request
