import Inquiry.Request.Value

/-!
# Conditions in a request

What follows a field may be a condition on it: `ist` or `sind`, a negation, and then a word about
the presence of a value, a range, or an operator with values. Without an operator the values decide:
several are alternatives, words are searched for, and everything else has to be equal.

A condition is negated by its opposite where there is one, and otherwise by a negated group.
-/

namespace Inquiry.Request

/-- What an operator of a request says about the values behind it. -/
inductive Relation where
  | oneOf
  | compare (comparison : Comparison)
  deriving DecidableEq, Repr

/-- The name of the operator. -/
def Relation.name : Relation → String
  | .oneOf => Operator.oneOf.name
  | .compare comparison => (Operator.compare comparison).name

/-- How a condition opens, before its values. -/
structure Opening where
  /-- Without an operator the values decide. -/
  relation : Option Relation
  /-- Whether a value has to follow. -/
  strict : Bool
  /-- Whether `und` separates values. -/
  andToo : Bool
  rest : List Token

/-- The operator at the beginning of the tokens, and the rest. -/
def operatorAt (tokens : List Token) : Opening :=
  match tokens with
  | [] => ⟨none, false, false, []⟩
  | t :: rest =>
    if t.isWordIn ["in"] then ⟨some .oneOf, false, true, rest⟩
    else if t.kind = .operator then
      ⟨(comparingSigns.lookup t.raw).map .compare, true, false, rest⟩
    else
      match comparingPhrases.findSome? fun (phrase, comparison) =>
        (afterPhrase? phrase (t :: rest)).map (comparison, ·) with
      | some (comparison, after) => ⟨some (.compare comparison), true, false, after⟩
      | none => ⟨none, false, false, t :: rest⟩

/-- How a condition opens. The word `ist` alone is an equality. Articles between an operator and its
values are skipped. -/
def opening (explicit : Bool) (tokens : List Token) : Opening :=
  let o := operatorAt tokens
  match o.relation.or (if explicit then some (.compare .equals) else none) with
  | some relation =>
    { o with relation := some relation, rest := o.rest.dropWhile (·.isWordIn articles) }
  | none => o

/-- An operator leaves no more tokens than there were. -/
theorem length_operatorAt_le (tokens : List Token) :
    (operatorAt tokens).rest.length ≤ tokens.length := by
  unfold operatorAt
  split
  · exact Nat.le_refl _
  · split
    · exact Nat.le_succ _
    · split
      · exact Nat.le_succ _
      · split
        · next hfind =>
          obtain ⟨_, _, hrest⟩ := List.exists_of_findSome?_eq_some hfind
          simp only [Option.map_eq_some_iff, Prod.mk.injEq] at hrest
          obtain ⟨_, hafter, -, rfl⟩ := hrest
          exact length_le_of_afterPhrase? hafter
        · exact Nat.le_refl _

/-- The opening of a condition leaves no more tokens than there were. -/
theorem length_opening_le (explicit : Bool) (tokens : List Token) :
    (opening explicit tokens).rest.length ≤ tokens.length := by
  simp only [opening]
  generalize (operatorAt tokens).relation.or _ = relation
  cases relation with
  | none => exact length_operatorAt_le tokens
  | some relation =>
    exact Nat.le_trans (List.dropWhile_sublist _).length_le (length_operatorAt_le tokens)

/-- The opposite of a test, where it is a test too. -/
def opposite? : Test → Option Test
  | .compare .equals value => some (.compare .notEquals value)
  | .compare .notEquals value => some (.compare .equals value)
  | .isNull => some .isNotNull
  | .isNotNull => some .isNull
  | _ => none

/-- The relation that values have to a column when no operator says so. -/
def defaultRelation (column : Column) (negate : Bool) (first : Token) (others : List Token) :
    Relation :=
  let isPattern := first.kind = .word ∧ Literal.hasWildcard first.raw
  if others ≠ [] then .oneOf
  else if column.numeric then .compare .equals
  else if isPattern then .compare .contains
  else if first.isValue ∨ first.raw.toList.any Text.isDigit ∨ negate then .compare .equals
  else .compare .contains

/-- The relation that is meant, and whether it is negated: inequality is negated equality, equality
with several values is membership, and words with wildcards are searched for. -/
def settled (column : Column) (relation : Option Relation) (negate : Bool) (first : Token)
    (others : List Token) : Relation × Bool :=
  let (relation, negate) := match relation with
    | none => (defaultRelation column negate first others, negate)
    | some (.compare .equals) =>
      (if others = [] then .compare .equals else .oneOf, negate)
    | some (.compare .notEquals) =>
      (if others = [] then .compare .equals else .oneOf, !negate)
    | some other => (other, negate)
  let hasPattern := (first :: others).any fun v => v.kind == .word && Literal.hasWildcard v.raw
  if (relation = .compare .equals ∨ relation = .oneOf) ∧ hasPattern then
    (.compare .contains, negate)
  else (relation, negate)

namespace Scope

/-- A predicate, or its negation, under the rules of the domain. -/
def finish (scope : Scope) (negate : Bool) (p : Predicate) : Node :=
  let expand (p : Predicate) : Node := scope.rules.expand p scope.report
  if negate then
    match opposite? p.test with
    | some test => expand { p with test }
    | none => .group (Group.mk [] [] .and true |>.addNode (expand p))
  else expand p

/-- The condition that a relation and its values make on a field. -/
def conclude (scope : Scope) (field : String) (relation : Option Relation) (negate : Bool)
    (first : Token) (others : List Token) : Except Failure Node := do
  let field := scope.rules.redirect field first scope.report
  let column ← scope.column field
  let raws := (first :: others).map (·.raw)
  let (relation, negate) := settled column relation negate first others
  if relation = .compare .contains ∧ column.numeric then
    throw (.textSearchInNumbers field raws)
  match relation with
  | .oneOf =>
    let value ← bound column field false first
    let values ← others.mapM (bound column field false)
    let p ← Predicate.of field (.oneOf value values)
    return scope.finish negate p
  | .compare comparison =>
    if others = [] then
      let value ← bound column field (comparison = .contains) first
      let p ← Predicate.of field (.compare comparison value)
      return scope.finish negate p
    else if comparison = .contains then
      let nodes ← (first :: others).mapM fun v => do
        let value ← bound column field true v
        let p ← Predicate.of field (.compare .contains value)
        return scope.rules.expand p scope.report
      let group := nodes.foldl Group.addNode ⟨[], [], .or, false⟩
      return .group (if negate then ⟨[], [group], .and, true⟩ else group)
    else throw (.tooManyValues (Relation.compare comparison).name field raws)

/-- The two values of a range, with `und` between them, and the rest. -/
def bounds? (scope : Scope) (tokens : List Token) : Option (Token × Token × List Token) :=
  match scope.value? tokens with
  | none => none
  | some (low, rest) =>
    if beginsWith ["und"] rest then
      (scope.value? (rest.drop 1)).map fun (high, rest) => (low, high, rest)
    else none

/-- The condition that a field lies between two values. -/
def between (scope : Scope) (field : String) (negate : Bool) (low high : Token) :
    Except Failure Node := do
  let field := scope.rules.redirect field low scope.report
  let column ← scope.column field
  let lowest ← bound column field false low
  let highest ← bound column field false high
  let p ← Predicate.of field (.between lowest highest)
  return scope.finish negate p

/-- The tokens without one of the words at their beginning. -/
def skipWord (words : List String) (tokens : List Token) : List Token :=
  if beginsWith words tokens then tokens.drop 1 else tokens

/-- A condition together with what follows it. -/
def reading (node : Except Failure Node) (rest : List Token) :
    Except Failure (Option (Node × List Token)) :=
  node.map fun n => some (n, rest)

/-- The condition on a field at the beginning of the tokens, if there is one, and the rest. -/
def condition? (scope : Scope) (field : String) (negate : Bool) (tokens : List Token) :
    Except Failure (Option (Node × List Token)) :=
  let explicit := beginsWith beingWords tokens
  let tokens := skipWord beingWords tokens
  let negate := negate != beginsWith negatingWords tokens
  let tokens := skipWord negatingWords tokens
  let presence (test : Test) : Except Failure Node :=
    (Predicate.of field test).map (scope.finish negate)
  if beginsWith emptyWords tokens then reading (presence .isNull) (tokens.drop 1)
  else if beginsWith presentWords tokens then reading (presence .isNotNull) (tokens.drop 1)
  else if beginsWith ["zwischen"] tokens then
    match scope.bounds? (tokens.drop 1) with
    | none => .error (.rangeIncomplete field)
    | some (low, high, rest) => reading (scope.between field negate low high) rest
  else
    let o := opening explicit tokens
    match scope.values o.andToo o.rest with
    | ([], _) =>
      if o.strict then .error (.valueMissing field ((o.rest.head?.map (·.raw)).getD ""))
      else .ok none
    | (first :: others, rest) =>
      reading (scope.conclude field o.relation negate first others) rest

/-- Skipping a word leaves no more tokens than there were. -/
theorem length_skipWord_le (words : List String) (tokens : List Token) :
    (skipWord words tokens).length ≤ tokens.length := by
  unfold skipWord
  split
  · simp
  · exact Nat.le_refl _

/-- Tokens that begin with a word are fewer without it. -/
theorem length_drop_one_lt {words : List String} {tokens : List Token}
    (h : beginsWith words tokens = true) : (tokens.drop 1).length < tokens.length := by
  match tokens with
  | [] => simp [beginsWith] at h
  | _ :: _ => simp

/-- The bounds of a range take tokens. -/
theorem length_lt_of_bounds? {scope : Scope} {tokens rest : List Token} {low high : Token}
    (h : scope.bounds? tokens = some (low, high, rest)) : rest.length < tokens.length := by
  unfold bounds? at h
  split at h
  · simp at h
  · next after heq =>
    split at h
    · simp only [Option.map_eq_some_iff, Prod.mk.injEq, Prod.exists] at h
      obtain ⟨value, rest', hvalue, -, -, rfl⟩ := h
      have h1 := length_lt_of_value? heq
      have h2 := length_lt_of_value? hvalue
      simp only [List.length_drop] at h2
      omega
    · simp at h

/-- What follows a condition is what it was read with. -/
theorem eq_of_reading {result : Except Failure Node} {rest rest' : List Token} {node : Node}
    (h : reading result rest = .ok (some (node, rest'))) : rest' = rest := by
  unfold reading at h
  match result with
  | .error _ => simp [Except.map] at h
  | .ok _ =>
    simp only [Except.map, Except.ok.injEq, Option.some.injEq, Prod.mk.injEq] at h
    exact h.2.symm

/-- A condition takes at least one token. -/
theorem length_lt_of_condition? {scope : Scope} {field : String} {negate : Bool}
    {tokens rest : List Token} {node : Node}
    (h : scope.condition? field negate tokens = .ok (some (node, rest))) :
    rest.length < tokens.length := by
  have hskip : (skipWord negatingWords (skipWord beingWords tokens)).length ≤ tokens.length :=
    Nat.le_trans (length_skipWord_le _ _) (length_skipWord_le _ _)
  refine Nat.lt_of_lt_of_le ?_ hskip
  unfold condition? at h
  simp only at h
  split at h
  · next hb =>
    rw [eq_of_reading h]
    exact length_drop_one_lt hb
  split at h
  · next hb =>
    rw [eq_of_reading h]
    exact length_drop_one_lt hb
  split at h
  · next hb =>
    split at h
    · simp at h
    · next hbounds =>
      rw [eq_of_reading h]
      exact Nat.lt_trans (length_lt_of_bounds? hbounds) (length_drop_one_lt hb)
  split at h
  · split at h <;> simp at h
  · next hvalues =>
    rw [eq_of_reading h]
    exact Nat.lt_of_lt_of_le (length_lt_of_values hvalues) (length_opening_le _ _)

end Scope

end Inquiry.Request
