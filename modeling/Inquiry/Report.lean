import Inquiry.Column
import Inquiry.Report.Skeleton
import Inquiry.Sql.Guard
import Inquiry.Text.Quoted

/-!
# Reports

A report has a name, the main keywords by which requests ask for it, columns with their fields, and
a skeleton for its statement. A report is checked once, when it is set up; after that every place
of its skeleton can be filled. Whether its statement is safe is decided with a parser from outside.
-/

namespace Inquiry

/-- One kind of report. -/
structure Report where
  /-- Tells reports apart that are otherwise equal. -/
  number : Nat
  name : String
  mainKeywords : List String
  /-- The columns with their fields, in the order in which they are shown. -/
  columns : List (String × Column)
  skeleton : Skeleton
  /-- The fields by which rows are ordered unless the request says otherwise. -/
  defaultOrder : List String := []
  deriving DecidableEq, Repr

/-- What can be wrong with a report. -/
inductive Report.Flaw where
  | noColumns
  | noMainKeywords
  | noPlaceForColumns
  | noPlaceForConditions
  | unknownPlaces (fields : List String)
  | unknownOrder (fields : List String)
  | notSafe (objection : Sql.Objection)
  deriving DecidableEq, Repr

/-- The message about a flaw of the report with the given name. -/
def Report.Flaw.message (name : String) (flaw : Report.Flaw) : String :=
  "Template '" ++ name ++ "' " ++ match flaw with
    | .noColumns => "has no columns"
    | .noMainKeywords => "has no main keywords"
    | .noPlaceForColumns => "skeleton lacks \x7bCOLUMNS\x7d"
    | .noPlaceForConditions => "skeleton lacks \x7bCONDITIONS\x7d"
    | .unknownPlaces fields =>
      "skeleton references unknown columns: " ++ Text.quotedList fields
    | .unknownOrder fields =>
      "default order references unknown columns: " ++ Text.quotedList fields
    | .notSafe objection => "skeleton is not a safe SELECT: " ++ objection.message

namespace Report

/-- The column of a field. -/
def column? (r : Report) (field : String) : Option Column := r.columns.lookup field

/-- Whether a field is one of the report. -/
def hasField (r : Report) (field : String) : Bool := (r.column? field).isSome

/-- The fields of the report in the order in which its columns are shown. -/
def fields (r : Report) : List String := r.columns.map (·.1)

/-- The statement of the report. The places for single columns get their expressions; a report
without flaws has no others. -/
def fill (r : Report) (columns conditions : String) : String :=
  r.skeleton.fill (fun field => ((r.column? field).map (·.expression)).getD "") columns conditions

/-- The statement of the report with samples in the places for the columns and the conditions. -/
def sample (r : Report) : String := r.fill "1" "1=1"

/-- The flaw of a report that is found first, if it has one. -/
def flaw? (parser : Sql.Parser) (r : Report) : Option Flaw :=
  let unknown (fields : List String) : List String := fields.filter fun f => !r.hasField f
  if r.columns = [] then some .noColumns
  else if r.mainKeywords = [] then some .noMainKeywords
  else if .columns ∉ r.skeleton then some .noPlaceForColumns
  else if .conditions ∉ r.skeleton then some .noPlaceForConditions
  else if unknown r.skeleton.fields ≠ [] then some (.unknownPlaces (unknown r.skeleton.fields))
  else if unknown r.defaultOrder ≠ [] then some (.unknownOrder (unknown r.defaultOrder))
  else (parser.objection? r.sample).map .notSafe

/-- What a report without flaws guarantees. -/
structure IsChecked (parser : Sql.Parser) (r : Report) : Prop where
  columns : r.columns ≠ []
  mainKeywords : r.mainKeywords ≠ []
  placeForColumns : .columns ∈ r.skeleton
  placeForConditions : .conditions ∈ r.skeleton
  places : ∀ field ∈ r.skeleton.fields, r.hasField field = true
  defaultOrder : ∀ field ∈ r.defaultOrder, r.hasField field = true
  safe : parser.objection? r.sample = none

theorem flaw?_eq_none_iff (parser : Sql.Parser) (r : Report) :
    r.flaw? parser = none ↔ r.IsChecked parser := by
  have known (fields : List String) : fields.filter (fun f => !r.hasField f) = [] ↔
      ∀ field ∈ fields, r.hasField field = true := by
    simp [List.filter_eq_nil_iff]
  have passes {p : Prop} [Decidable p] (flaw : Flaw) (others : Option Flaw) :
      (if p then some flaw else others) = none ↔ ¬p ∧ others = none := by
    split <;> simp [*]
  simp only [flaw?, passes, Decidable.not_not, known, Option.map_eq_none_iff, ne_eq]
  constructor
  · rintro ⟨columns, keywords, shown, conditions, places, order, safe⟩
    exact ⟨columns, keywords, shown, conditions, places, order, safe⟩
  · rintro ⟨columns, keywords, shown, conditions, places, order, safe⟩
    exact ⟨columns, keywords, shown, conditions, places, order, safe⟩

/-- Columns by field: a later column with the same field takes the place of an earlier one. -/
def byField (columns : List (String × Column)) : List (String × Column) :=
  columns.foldl (fun known (field, column) =>
    if (known.lookup field).isSome then
      known.map fun entry => if entry.1 = field then (field, column) else entry
    else known ++ [(field, column)]) []

/-- The report with the given parts, unless it has a flaw. -/
def setUpWith (parser : Sql.Parser) (number : Nat) (name : String) (mainKeywords : List String)
    (columns : List (String × Column)) (skeleton : String) (defaultOrder : List String) :
    Except Flaw Report :=
  let report : Report :=
    ⟨number, name, keywordsOf mainKeywords, byField columns, .ofText skeleton, defaultOrder⟩
  match report.flaw? parser with
  | some flaw => .error flaw
  | none => .ok report

end Report

end Inquiry
