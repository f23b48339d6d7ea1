import Inquiry.Request.Value

/-!
# The sort block

A request may say once by which fields the rows are ordered: a sort marker, and fields with their
directions, separated by commas, `und` or `dann`. The block ends before the first field that has a
condition of its own, because that is a filter again, and before anything that is no field. A word
that nobody knows is refused, and so is a value behind a field of the block.
-/

namespace Inquiry.Request

/-- Whether a token separates the fields of a sort block. -/
def separatesSortKeys (t : Token) : Bool := t.kind == .comma || t.isWordIn ["und", "dann"]

/-- The direction at the beginning of the tokens, and the rest; ascending unless a word says
otherwise. -/
def direction (tokens : List Token) : Direction × List Token :=
  if beginsWith descendingWords tokens then (.descending, tokens.drop 1)
  else if beginsWith ascendingWords tokens then (.ascending, tokens.drop 1)
  else (.ascending, tokens)

/-- A direction leaves no more tokens than there were. -/
theorem length_direction_le (tokens : List Token) :
    (direction tokens).2.length ≤ tokens.length := by
  unfold direction
  split
  · simp
  · split
    · simp
    · exact Nat.le_refl _

namespace Scope

/-- The sort key at the beginning of the tokens, whose phrase has been found, and the rest. -/
def sortKey (scope : Scope) (tokens : List Token) (m : Keyword.Match) :
    Except Failure (SortKey × List Token) :=
  match scope.resolve tokens m with
  | .error failure => .error failure
  | .ok field =>
    let (direction, rest) := direction (tokens.drop m.length)
    if !beginsWith comparingLimitWords rest && scope.startsCondition rest then
      .error (.valueAfterSortField field ((rest.head?.map (·.raw)).getD ""))
    else .ok (⟨field, direction⟩, rest)

/-- The places where another sort key begins behind the last one, behind the separators. -/
def nextSortKey (scope : Scope) (rest : List Token) : Except Failure (Option (List Token)) :=
  let next := rest.dropWhile separatesSortKeys
  if next.length = rest.length ∨ next = [] then .ok none
  else
    match scope.fieldAt next, next with
    | some m, _ => .ok (if scope.startsCondition (next.drop m.length) then none else some next)
    | none, t :: _ =>
      if scope.startsUnknownWord next ∧ t.key ∉ ["limit", "top"] then
        .error (scope.unknownField t)
      else .ok none
    | none, [] => .ok none

/-- A sort key takes at least one token. -/
theorem length_lt_of_sortKey {scope : Scope} {tokens rest : List Token} {m : Keyword.Match}
    {key : SortKey} (hm : scope.fieldAt tokens = some m)
    (h : scope.sortKey tokens m = .ok (key, rest)) : rest.length < tokens.length := by
  have hpos : 0 < m.length := by
    simp only [fieldAt, Option.filter_eq_some_iff] at hm
    exact Keyword.Index.length_pos_of_matchAt hm.1
  have hne : tokens ≠ [] := by
    rintro rfl
    simp [fieldAt, Keyword.Index.matchAt] at hm
  unfold sortKey at h
  split at h
  · simp at h
  · simp only at h
    split at h
    · simp at h
    · simp only [Except.ok.injEq, Prod.mk.injEq] at h
      rw [← h.2]
      have h1 := length_direction_le (tokens.drop m.length)
      have h2 := List.length_pos_iff.mpr hne
      simp only [List.length_drop] at h1
      omega

/-- What is left where another sort key begins is not longer than the rest. -/
theorem length_le_of_nextSortKey {scope : Scope} {rest next : List Token}
    (h : scope.nextSortKey rest = .ok (some next)) : next.length ≤ rest.length := by
  have hle := (List.dropWhile_sublist separatesSortKeys (l := rest)).length_le
  unfold nextSortKey at h
  simp only at h
  split at h
  · simp at h
  · split at h
    · split at h <;> simp only [Except.ok.injEq, Option.some.injEq, reduceCtorEq] at h
      rw [← h]
      exact hle
    · split at h <;> simp at h
    · simp at h

/-- The sort keys behind a marker, and the rest. -/
def sortKeys (scope : Scope) (tokens : List Token) : Except Failure (List SortKey × List Token) :=
  let here := tokens.dropWhile (·.isWordIn articles)
  match _hm : scope.fieldAt here with
  | none =>
    match here with
    | t :: _ =>
      if scope.startsUnknownWord here then .error (scope.unknownField t) else .ok ([], here)
    | [] => .ok ([], [])
  | some m =>
    match _hk : scope.sortKey here m with
    | .error failure => .error failure
    | .ok (key, rest) =>
      match _hn : scope.nextSortKey rest with
      | .error failure => .error failure
      | .ok none => .ok ([key], rest)
      | .ok (some next) => (scope.sortKeys next).map fun (keys, rest) => (key :: keys, rest)
  termination_by tokens.length
  decreasing_by
    have h1 := length_lt_of_sortKey _hm _hk
    have h2 := length_le_of_nextSortKey _hn
    have h3 : here.length ≤ tokens.length := (List.dropWhile_sublist _).length_le
    omega

/-- The sort keys of a request, and the request without its sort block. Only the first sort marker
counts. -/
def sorting (scope : Scope) : List Token → Except Failure (List SortKey × List Token)
  | [] => .ok ([], [])
  | t :: rest =>
    match afterAnyPhrase? sortMarkers (t :: rest) with
    | some behind => scope.sortKeys behind
    | none => (scope.sorting rest).map fun (keys, rest) => (keys, t :: rest)

end Scope

end Inquiry.Request
