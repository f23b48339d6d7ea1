import Inquiry.Request.Condition

/-!
# Field mentions

What is left of a request once the order and the number of rows are taken out is a sequence of field
mentions. A field with a condition filters; a field without one is shown, or left out behind a word
like `ohne`. Words before a field steer what becomes of it: they open a list of fields, give a
place, exclude, negate, or link a condition to the one before as an alternative. A comma or `und`
keeps a list going, anything else ends it.
-/

namespace Inquiry.Request

/-- What has been read of a request, and what the words before the next field say about it. -/
structure Progress where
  projections : List Projection := []
  /-- The conditions in order, each with whether it is an alternative to the one before. -/
  conditions : List (Node × Bool) := []
  /-- A word before the field excludes or negates it. -/
  excludes : Bool := false
  /-- A word before the field says that it has no value. -/
  lacks : Bool := false
  /-- A comma continues a list of excluded fields. -/
  excludeRun : Bool := false
  /-- A list of fields has been opened, where every word has to be a field. -/
  listing : Bool := false
  /-- The next condition is an alternative. -/
  alternative : Bool := false
  /-- The place of the next field that is shown. -/
  place : Option Int := none

namespace Progress

/-- Ends every list of fields. -/
def endRuns (s : Progress) : Progress :=
  { s with listing := false, excludeRun := false, alternative := false, place := none }

/-- Adds a condition. The first condition is no alternative. -/
def emit (s : Progress) (node : Node) : Progress :=
  { s with
    conditions := s.conditions ++ [(node, s.alternative && !s.conditions.isEmpty)]
    alternative := false }

/-- The place after all places given so far. -/
def nextPlace (s : Progress) : Int :=
  match s.projections.filterMap (·.order) with
  | [] => 0
  | first :: others => others.foldl max first + 1

/-- Adds a field that is shown or left out. What follows decides whether the lists go on: a comma
continues all of them, `und` and words like `dann` all but a list of excluded fields. -/
def project (s : Progress) (field : String) (exclude : Bool) (behind : List Token) : Progress :=
  let s : Progress :=
    if exclude then
      { s with projections := s.projections ++ [⟨field, true, none⟩], excludeRun := true }
    else
      { s with
        projections := s.projections ++ [⟨field, false, s.place⟩]
        place := s.place.map (· + 1) }
  let s := { s with alternative := false }
  if behind.head?.any (·.kind == .comma) then s
  else if beginsWith ("und" :: nextWords) behind then { s with excludeRun := false }
  else { s with excludeRun := false, listing := false, place := none }

/-- What a steering word or phrase at the beginning of the tokens does, and the rest. -/
def steer? (s : Progress) (t : Token) (rest : List Token) : Option (Progress × List Token) :=
  if t.kind ≠ .word then none
  else
    match afterAnyPhrase? fieldListMarkers (t :: rest) with
    | some behind => some ({ s with listing := true }, behind)
    | none =>
      if firstWords.contains t.key then some ({ s with place := some s.nextPlace }, rest)
      else if nextWords.contains t.key ∨ t.key = "und" then some (s, rest)
      else if t.key = "oder" then some ({ s with alternative := true }, rest)
      else if excludingWords.contains t.key ∨ negatingWords.contains t.key then
        some ({ s with excludes := true }, rest)
      else if lackingWords.contains t.key then some ({ s with lacks := true }, rest)
      else none

/-- A steering word takes at least one token. -/
theorem length_le_of_steer? {s s' : Progress} {t : Token} {rest behind : List Token}
    (h : s.steer? t rest = some (s', behind)) : behind.length ≤ rest.length := by
  unfold steer? at h
  split at h
  · simp at h
  · split at h
    · next hphrase =>
      simp only [Option.some.injEq, Prod.mk.injEq] at h
      have := length_lt_of_afterAnyPhrase? (by decide) hphrase
      rw [← h.2]
      exact Nat.le_of_lt_succ this
    · repeat' split at h
      all_goals simp only [Option.some.injEq, Prod.mk.injEq, reduceCtorEq] at h
      all_goals exact Nat.le_of_eq (congrArg List.length h.2.symm)

end Progress

namespace Scope

/-- What becomes of a field that has been mentioned, by what follows it. -/
def mention (scope : Scope) (s : Progress) (field : String) (behind : List Token) :
    Except Failure (Progress × List Token) :=
  let plain := { s with excludes := false, lacks := false }
  if s.lacks then
    (Predicate.of field .isNull).map fun p =>
      ((plain.emit (scope.rules.expand p scope.report)).endRuns, behind)
  else
    match scope.condition? field s.excludes behind with
    | .error failure => .error failure
    | .ok (some (node, rest)) =>
      .ok ({ plain.emit node with listing := false, excludeRun := false, place := none }, rest)
    | .ok none => .ok (plain.project field (s.excludes || s.excludeRun) behind, behind)

/-- A mention leaves no more tokens than follow the field. -/
theorem length_le_of_mention {scope : Scope} {s s' : Progress} {field : String}
    {behind rest : List Token} (h : scope.mention s field behind = .ok (s', rest)) :
    rest.length ≤ behind.length := by
  unfold mention at h
  simp only at h
  split at h
  · match hp : Predicate.of field .isNull with
    | .error _ => simp [hp, Except.map] at h
    | .ok _ =>
      simp only [hp, Except.map, Except.ok.injEq, Prod.mk.injEq] at h
      exact Nat.le_of_eq (congrArg List.length h.2.symm)
  · split at h
    · simp at h
    · next hcondition =>
      simp only [Except.ok.injEq, Prod.mk.injEq] at h
      rw [← h.2]
      exact Nat.le_of_lt (length_lt_of_condition? hcondition)
    · simp only [Except.ok.injEq, Prod.mk.injEq] at h
      exact Nat.le_of_eq (congrArg List.length h.2.symm)

/-- Reads on from one token: a comma, a steering word, a keyword, a stop word, or anything else,
which ends all lists. -/
def step (scope : Scope) (s : Progress) (t : Token) (rest : List Token) :
    Except Failure (Progress × List Token) :=
  if t.kind = .comma then .ok (s, rest)
  else
    match s.steer? t rest with
    | some next => .ok next
    | none =>
      match scope.index.matchAt (t :: rest) with
      | some m =>
        let behind := rest.drop (m.length - 1)
        if m.fieldsOf scope.report ≠ [] ∨ !m.isMain then
          match scope.resolve (t :: rest) m with
          | .error failure => .error failure
          | .ok field => scope.mention s field behind
        else .ok (s, behind)
      | none =>
        if t.isWordIn stopWords then .ok (s, rest)
        else if s.listing ∧ t.kind = .word then .error (scope.unknownField t)
        else .ok ({ s.endRuns with excludes := false, lacks := false }, rest)

/-- A step takes at least one token. -/
theorem length_le_of_step {scope : Scope} {s s' : Progress} {t : Token} {rest behind : List Token}
    (h : scope.step s t rest = .ok (s', behind)) : behind.length ≤ rest.length := by
  have heq {a : Progress × List Token} (hle : a.2.length ≤ rest.length)
      (ha : Except.ok (ε := Failure) a = .ok (s', behind)) : behind.length ≤ rest.length := by
    simp only [Except.ok.injEq] at ha
    rw [ha] at hle
    exact hle
  unfold step at h
  split at h
  · exact heq (Nat.le_refl _) h
  · split at h
    · next hsteer =>
      simp only [Except.ok.injEq] at h
      rw [h] at hsteer
      exact Progress.length_le_of_steer? hsteer
    · split at h
      · simp only at h
        split at h
        · split at h
          · simp at h
          · exact Nat.le_trans (length_le_of_mention h) (by simp)
        · exact heq (by simp) h
      · repeat' split at h
        · exact heq (Nat.le_refl _) h
        · simp at h
        · exact heq (Nat.le_refl _) h

/-- Reads all mentions. -/
def mentions (scope : Scope) (s : Progress) (tokens : List Token) : Except Failure Progress :=
  match tokens with
  | [] => .ok s
  | t :: rest =>
    match _h : scope.step s t rest with
    | .error failure => .error failure
    | .ok (s, behind) => scope.mentions s behind
  termination_by tokens.length
  decreasing_by exact Nat.lt_succ_of_le (length_le_of_step _h)

end Scope

/-- The conditions in runs of alternatives. -/
def runs : List (Node × Bool) → List (List Node)
  | [] => []
  | (node, _) :: rest =>
    if rest.head?.any (·.2) then
      match runs rest with
      | run :: more => (node :: run) :: more
      | [] => [[node]]
    else [node] :: runs rest

/-- The group of all conditions. A run of several alternatives is a group of its own. -/
def gathered (conditions : List (Node × Bool)) : Group :=
  (runs conditions).foldl (fun group run =>
    match run with
    | [node] => group.addNode node
    | nodes => group.addGroup (nodes.foldl Group.addNode ⟨[], [], .or, false⟩)) .empty

end Inquiry.Request
