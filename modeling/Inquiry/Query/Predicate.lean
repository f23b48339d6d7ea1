import Inquiry.Failure
import Inquiry.Query.Operand

/-!
# Predicates

A predicate says something about the value of one field. What it compares with depends on the
operator: one scalar, several, a range, or nothing. The type of tests allows exactly the sensible
combinations; a caller who names an operator and hands in an operand of any shape has them checked.
-/

namespace Inquiry

/-- Operators that compare with one scalar. -/
inductive Comparison where
  | equals
  | notEquals
  | contains
  | greaterThan
  | lessThan
  | greaterOrEqual
  | lessOrEqual
  deriving DecidableEq, Repr

/-- All operators. -/
inductive Operator where
  | compare (comparison : Comparison)
  | oneOf
  | between
  | isNull
  | isNotNull
  deriving DecidableEq, Repr

/-- The name of an operator. -/
def Operator.name : Operator → String
  | .compare .equals => "equals"
  | .compare .notEquals => "not_equals"
  | .compare .contains => "contains"
  | .compare .greaterThan => "greater_than"
  | .compare .lessThan => "less_than"
  | .compare .greaterOrEqual => "greater_or_equal"
  | .compare .lessOrEqual => "less_or_equal"
  | .oneOf => "in"
  | .between => "between"
  | .isNull => "is_null"
  | .isNotNull => "is_not_null"

/-- An operator with the values it compares with. -/
inductive Test where
  | compare (comparison : Comparison) (value : Scalar)
  | oneOf (first : Scalar) (others : List Scalar)
  /-- Both bounds belong to the range. -/
  | between (low high : Scalar)
  | isNull
  | isNotNull
  deriving DecidableEq, Repr

namespace Test

/-- The operator of a test. -/
def operator : Test → Operator
  | .compare comparison _ => .compare comparison
  | .oneOf .. => .oneOf
  | .between .. => .between
  | .isNull => .isNull
  | .isNotNull => .isNotNull

/-- The values that a test compares with, in order. -/
def values : Test → List Scalar
  | .compare _ value => [value]
  | .oneOf first others => first :: others
  | .between low high => [low, high]
  | .isNull | .isNotNull => []

/-- A refusal that shows the operand, or the failure to show it. -/
def refused (operand : Operand) (failure : (shown : String) → Failure) : Except Failure Test :=
  .error (if operand.isShowable then failure operand.shown else .integerNotWritten)

/-- The test with an operator and an operand, if they fit together. -/
def check (field : String) (operator : Operator) (operand : Operand) : Except Failure Test :=
  match operator with
  | .compare comparison =>
    match operand.scalar? with
    | some value => .ok (.compare comparison value)
    | none => refused operand (.scalarRequired operator.name field)
  | .oneOf =>
    match operand with
    | .list (first :: others) | .tuple (first :: others) =>
      match (first :: others).mapM Operand.scalar? with
      | some (value :: more) => .ok (.oneOf value more)
      | _ => refused (.tuple (first :: others)) (.scalarMembersRequired field)
    | .list [] => refused (.tuple []) (.sequenceRequired field)
    | _ => refused operand (.sequenceRequired field)
  | .between =>
    match operand with
    | .range (.scalar low) (.scalar high) => .ok (.between low high)
    | _ => refused operand (.rangeRequired field)
  | .isNull =>
    match operand with
    | .absent => .ok .isNull
    | _ => refused operand (.valueNotAllowed operator.name field)
  | .isNotNull =>
    match operand with
    | .absent => .ok .isNotNull
    | _ => refused operand (.valueNotAllowed operator.name field)

end Test

/-- A test on a field. The field has a name. -/
structure Predicate where
  field : String
  test : Test
  field_ne : field ≠ ""
  deriving DecidableEq, Repr

namespace Predicate

/-- A test on the field with the given name, if it has one. -/
def of (field : String) (test : Test) : Except Failure Predicate :=
  if h : field = "" then .error .fieldMissing else .ok ⟨field, test, h⟩

/-- The predicate with the given field, operator and operand, if they fit together. -/
def check (field : String) (operator : Operator) (operand : Operand) : Except Failure Predicate :=
  if h : field = "" then .error .fieldMissing
  else (Test.check field operator operand).map (⟨field, ·, h⟩)

end Predicate

end Inquiry
