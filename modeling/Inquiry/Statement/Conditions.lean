import Inquiry.Statement.Columns
import Inquiry.Text.Case

/-!
# The conditions of a statement

A value never becomes part of the text: the text has a place for it, and the value is bound in the
order of the places. So a piece of text is rendered together with the values bound on the way. The
values stay bound when a later piece fails.

A text column takes texts, so a number is written as one before it is bound there. An integer with
too many digits cannot be written.

Text is compared without regard to case and to blanks around it, where a comparison is about
equality or content; everything else is compared as it is.
-/

namespace Inquiry

/-- Text under construction: it may fail, and it binds values either way. -/
abbrev Rendering := ExceptT Failure (StateM (List Scalar))

namespace Rendering

/-- Binds values behind those that are bound already. -/
def bindValues (values : List Scalar) : Rendering Unit :=
  modify fun (bound : List Scalar) => bound ++ values

/-- The text, or why there is none, and all values bound in the end. -/
def render {α : Type} (rendering : Rendering α) (bound : List Scalar) :
    Except Failure α × List Scalar :=
  (ExceptT.run rendering).run bound

end Rendering

/-- Whether an operator compares text without regard to case and blanks around it. -/
def Test.foldsText : Test → Bool
  | .compare .equals _ | .compare .notEquals _ | .compare .contains _ | .oneOf .. => true
  | _ => false

/-- A value as it is bound to a column. -/
def Column.bind (c : Column) (folds : Bool) (value : Scalar) : Scalar :=
  if c.numeric then value
  else if folds then .text (Text.toUpper (Text.trim value.asText))
  else .text value.asText

/-- Whether a value can be bound to a column. -/
def Column.takes (c : Column) (value : Scalar) : Bool := c.numeric || value.isWritable

/-- A value as it is bound to a column, if it can be. -/
def Column.bound (c : Column) (folds : Bool) (value : Scalar) : Except Failure Scalar :=
  if c.takes value then .ok (c.bind folds value) else .error .integerNotWritten

/-- The sign of an operator that compares with one value. -/
def Comparison.sign : Comparison → String
  | .equals => "="
  | .notEquals => "<>"
  | .contains => "LIKE"
  | .greaterThan => ">"
  | .lessThan => "<"
  | .greaterOrEqual => ">="
  | .lessOrEqual => "<="

/-- A test on a column, with a place for every value. -/
def Test.text (test : Test) (c : Column) : String :=
  let folded :=
    if c.numeric then c.expression else "UPPER(RTRIM(LTRIM(" ++ c.expression ++ ")))"
  let left := if test.foldsText then folded else c.expression
  match test with
  | .compare comparison _ => left ++ " " ++ comparison.sign ++ " ?"
  | .oneOf _ others => left ++ " IN (?" ++ String.join (others.map fun _ => ", ?") ++ ")"
  | .between .. => left ++ " BETWEEN ? AND ?"
  | .isNull => left ++ " IS NULL"
  | .isNotNull => left ++ " IS NOT NULL"

/-- Binds values to a column, all of them or none. -/
def Column.bindAll (c : Column) (folds : Bool) (values : List Scalar) : Rendering Unit := do
  Rendering.bindValues (← (values.mapM (c.bound folds) : Except Failure (List Scalar)))

/-- Binds the values of a test to a column: the bounds of a range one after the other, the values of
a list together. -/
def Test.bindTo (test : Test) (c : Column) : Rendering Unit :=
  match test with
  | .between low high => do
    c.bindAll test.foldsText [low]
    c.bindAll test.foldsText [high]
  | _ => c.bindAll test.foldsText test.values

/-- A predicate as text. -/
def Predicate.render (p : Predicate) (r : Report) : Rendering String := do
  let column ← (r.columnOf p.field : Except Failure Column)
  p.test.bindTo column
  return p.test.text column

namespace Group

/-- The texts of the members of a group as one text, if there are any. -/
def joined (connective : Connective) (negated : Bool) (members : List String) : Option String :=
  if members.isEmpty then none
  else
    let body := "(" ++ (" " ++ connective.word ++ " ").intercalate members ++ ")"
    some (if negated then "NOT " ++ body else body)

mutual

/-- A group as text, predicates first; an empty group has none. -/
def render (r : Report) : Group → Rendering (Option String)
  | ⟨predicates, groups, connective, negated⟩ => do
    let own ← predicates.mapM (·.render r)
    let nested ← renderAll r groups
    return joined connective negated (own ++ nested)

/-- The texts of the groups that have one. -/
def renderAll (r : Report) : List Group → Rendering (List String)
  | [] => return []
  | group :: rest => do
    let text? ← group.render r
    let texts ← renderAll r rest
    return text?.toList ++ texts

end

/-- Groups that all have to hold; a condition that always holds if there is none. -/
def renderConditions (r : Report) (groups : List Group) : Rendering String := do
  let texts ← renderAll r groups
  return if texts.isEmpty then "1=1" else " AND ".intercalate texts

end Group

end Inquiry
