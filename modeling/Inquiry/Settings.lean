import Inquiry.Scalar
import Inquiry.Sql.RowLimit
import Inquiry.Text.Blank
import Inquiry.Text.Case
import Inquiry.Text.Digit

/-!
# Settings

What can be set from outside: the dialect, how clearly a request must name its report, and bounds on
the length of a request and on the number of rows. A setting that cannot be read, or that is too
small, has its default.
-/

namespace Inquiry

/-- The settings of the compiler. -/
structure Settings where
  dialect : Sql.Dialect := .mssql
  /-- How many main keywords a request needs. -/
  minHits : Int := 1
  /-- How many characters of a request are read; all of them if this is not positive. -/
  maxLength : Int := 2000
  /-- How many rows a statement may ask for; any number if this is not positive. -/
  maxRows : Int := 10000
  logLevel : String := "INFO"
  deriving DecidableEq, Repr

namespace Settings

open Text

/-- The digits of a text in which single underscores may stand between them. -/
def digitsWithUnderscores? : List Char → Option (List Char)
  | [] => none
  | [c] => if isDigit c then some [c] else none
  | c :: '_' :: rest => if isDigit c then (digitsWithUnderscores? rest).map (c :: ·) else none
  | c :: rest => if isDigit c then (digitsWithUnderscores? rest).map (c :: ·) else none

/-- The number that digits denote, unless there are too many of them. -/
def natural? (cs : List Char) : Option Nat :=
  ((digitsWithUnderscores? cs).filter fun digits => digits.length ≤ maxDigits).map numeral

/-- The integer that a text denotes: digits of any script behind an optional sign. -/
def integer? (text : String) : Option Int :=
  match trimmed text.toList with
  | '-' :: rest => (natural? rest).map fun n => -(n : Int)
  | '+' :: rest => (natural? rest).map fun n => (n : Int)
  | cs => (natural? cs).map fun n => (n : Int)

/-- An integer setting that is at least `least`; otherwise the default. -/
def integerOr (default least : Int) (value : Option String) : Int :=
  match value.bind integer? with
  | some n => if least ≤ n then n else default
  | none => default

/-- The dialect with a name, in any case; the default one if there is none. -/
def dialectOf (value : Option String) : Sql.Dialect :=
  if value.map (fun s => toLower (trim s)) = some "ansi" then .ansi else .mssql

/-- The settings that an environment gives. -/
def ofEnvironment (value? : String → Option String) : Settings :=
  let level := toUpper (trim ((value? "LOG_LEVEL").getD "INFO"))
  { dialect := dialectOf (value? "SQL_DIALECT")
    minHits := integerOr 1 1 (value? "MIN_TEMPLATE_HITS")
    maxLength := integerOr 2000 1 (value? "MAX_REQUEST_LENGTH")
    maxRows := integerOr 10000 0 (value? "MAX_ROWS")
    logLevel := if level = "" then "INFO" else level }

end Settings

/-- An environment whose settings are read once and then kept. -/
structure SettingsStore where
  environment : List (String × String) := []
  kept : Option Settings := none

namespace SettingsStore

/-- The settings that the environment gives now. -/
def fresh (store : SettingsStore) : Settings :=
  .ofEnvironment fun name => store.environment.lookup name

/-- The kept settings; if there are none yet, the ones that the environment gives now. -/
def current (store : SettingsStore) : Settings := store.kept.getD store.fresh

/-- The store after its settings have been asked for. -/
def keep (store : SettingsStore) : SettingsStore := { store with kept := some store.current }

/-- The store without kept settings. -/
def clear (store : SettingsStore) : SettingsStore := { store with kept := none }

/-- The store without a variable. -/
def unset (store : SettingsStore) (name : String) : SettingsStore :=
  { store with environment := store.environment.filter (·.1 ≠ name) }

/-- The store with a variable set. -/
def set (store : SettingsStore) (name value : String) : SettingsStore :=
  { store with environment := (name, value) :: (store.unset name).environment }

end SettingsStore

end Inquiry
