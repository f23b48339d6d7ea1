import Inquiry.Failure
import Inquiry.Query
import Inquiry.Report

/-!
# The columns and the order of a statement

Without a wish every column of the report is shown, in the order of the report. With wishes the
columns with a place come first, by place, then the others in the order of the request. A column is
shown once, and not at all if it is left out.
-/

namespace Inquiry

/-- The column of a field that the report must have. -/
def Report.columnOf (r : Report) (field : String) : Except Failure Column :=
  match r.column? field with
  | some column => .ok column
  | none => .error (.fieldNotInReport field r.name)

namespace Query

/-- The fields that are asked for, in their order; all fields of the report if there is no wish. -/
def wishedFields (q : Query) (r : Report) : List String :=
  if q.included.isEmpty then r.fields
  else
    let placed := q.included.filterMap fun p => p.order.map (·, p.field)
    let others := q.included.filter (·.order.isNone)
    (placed.mergeSort fun a b => a.1 ≤ b.1).map (·.2) ++ others.map (·.field)

/-- The fields that are shown. -/
def shownFields (q : Query) (r : Report) : List String :=
  let left := q.excluded.map (·.field)
  ((q.wishedFields r).filter fun field => !left.contains field).eraseDups

/-- The fields that are left out, in alphabetical order. -/
def excludedFields (q : Query) : List String :=
  (q.excluded.map (·.field)).eraseDups.mergeSort fun a b => !(b < a : Bool)

/-- The columns that are shown. Every field has to be one of the report, and one column has to be
left. -/
def resolveColumns (q : Query) (r : Report) : Except Failure (List Column) := do
  for p in q.projections do
    discard (r.columnOf p.field)
  let fields := q.shownFields r
  if fields.isEmpty then throw (.noColumnLeft r.name q.excludedFields)
  fields.mapM r.columnOf

/-- The sort keys without those for a field that was mentioned before. -/
def firstKeys : (seen : List String) → List SortKey → List SortKey
  | _, [] => []
  | seen, key :: rest =>
    if seen.contains key.field then firstKeys seen rest
    else key :: firstKeys (key.field :: seen) rest

/-- The list behind ORDER BY; the default order of the report if the query has none. -/
def renderOrder (q : Query) (r : Report) : Except Failure String := do
  let keys := if q.sortKeys.isEmpty then r.defaultOrder.map (SortKey.mk · .ascending)
    else firstKeys [] q.sortKeys
  let entries ← keys.mapM fun key =>
    return (← r.columnOf key.field).expression ++ " " ++ key.direction.word
  return ", ".intercalate entries

end Query

end Inquiry
