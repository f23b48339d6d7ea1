import Inquiry.Settings
import Inquiry.Statement.Conditions

/-!
# Statements

The statement for a query: the skeleton of the report with the columns and conditions, the order,
and the row limit. Its values are listed in the order of their places; a dialect that limits the
rows at the beginning has the limit first. A limit that is lowered is reported by its digits, so it
must not have too many of them.
-/

namespace Inquiry

/-- What a user should know about a statement. -/
inductive Warning where
  | requestTruncated
  | limitClamped
  deriving DecidableEq, Repr

/-- The name of a warning. -/
def Warning.name : Warning → String
  | .requestTruncated => "request_truncated"
  | .limitClamped => "limit_clamped"

/-- SQL text with the values for its places. -/
structure Statement where
  sql : String
  values : List Scalar
  /-- The headers of the columns. -/
  headers : List String
  /-- The name of the report. -/
  report : String
  domain : Domain
  warnings : List Warning
  deriving DecidableEq, Repr

namespace Query

/-- The limit that is bound: the one that is asked for, or the greatest one that is allowed. -/
def allowedLimit (settings : Settings) (limit : Int) : Int :=
  if 0 < settings.maxRows ∧ settings.maxRows < limit then settings.maxRows else limit

/-- Whether a limit is lowered whose digits cannot be reported. -/
def failsToReport (settings : Settings) (limit : Int) : Bool :=
  allowedLimit settings limit ≠ limit && !isWritable limit

/-- The statement with a row limit, if the query has one. -/
def limited (q : Query) (settings : Settings) (sql : String) (values : List Scalar) :
    Except Failure (String × List Scalar × List Warning) :=
  match q.limit with
  | none => .ok (sql, values, [])
  | some limit =>
    if failsToReport settings limit then .error .integerNotWritten
    else do
      let allowed := allowedLimit settings limit
      let sql ← Sql.withRowLimit settings.dialect sql
      let value := Scalar.number (.whole allowed)
      let values := if settings.dialect.limitsAtStart then value :: values else values ++ [value]
      return (sql, values, if allowed = limit then [] else [.limitClamped])

/-- The statement for a query on a report. -/
def toStatement (q : Query) (r : Report) (settings : Settings) : Except Failure Statement := do
  let columns ← q.resolveColumns r
  let list := ",\n    ".intercalate (columns.map (·.definition))
  let (conditions, values) := (Group.renderConditions r q.filters).render []
  let sql := r.fill list (← conditions)
  let order ← q.renderOrder r
  let sql := if order = "" then sql else sql ++ "\nORDER BY " ++ order
  let (sql, values, warnings) ← q.limited settings sql values
  return {
    sql
    values
    headers := columns.map (·.header)
    report := r.name
    domain := q.domain
    warnings }

end Query

end Inquiry
