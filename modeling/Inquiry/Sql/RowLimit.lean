import Inquiry.Failure
import Inquiry.Sql.Letter

/-!
# Row limits

The number of rows is a parameter of the statement. One dialect limits them behind the word SELECT,
and there the limit is the first parameter; the other one limits them at the end of the statement.
-/

namespace Inquiry.Sql

open Text

/-- How a dialect limits the rows. -/
inductive Dialect where
  /-- `SELECT TOP (?)`. -/
  | mssql
  /-- `LIMIT ?` at the end. -/
  | ansi
  deriving DecidableEq, Repr

/-- The name of a dialect. -/
def Dialect.name : Dialect → String
  | .mssql => "mssql"
  | .ansi => "ansi"

/-- Whether a dialect limits rows at the beginning of a statement. -/
def Dialect.limitsAtStart (d : Dialect) : Bool := d = .mssql

/-- What follows a word, in any case, with at least one blank behind it. -/
def afterWord? : (word : List Char) → List Char → Option (List Char)
  | [], c :: rest => if isBlank c then some (trimStart rest) else none
  | [], [] => none
  | w :: word, c :: rest => if c ∈ variants w then afterWord? word rest else none
  | _ :: _, [] => none

/-- The statement with a place for a row limit. -/
def withRowLimit (dialect : Dialect) (sql : String) : Except Failure String :=
  match dialect with
  | .ansi => .ok (String.ofList (trimEnd sql.toList) ++ "\nLIMIT ?")
  | .mssql =>
    match afterWord? "SELECT".toList (trimStart sql.toList) with
    | none => .error .rowLimitWithoutSelect
    | some rest =>
      match afterWord? "DISTINCT".toList rest with
      | some rows => .ok ("SELECT DISTINCT TOP (?) " ++ String.ofList rows)
      | none => .ok ("SELECT TOP (?) " ++ String.ofList rest)

end Inquiry.Sql
