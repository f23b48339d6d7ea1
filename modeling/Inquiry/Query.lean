import Inquiry.Query.Group

/-!
# Queries

What a request asks for, independent of how it was worded and of how it is written in SQL: the
conditions, the columns to show or to leave out, the order of the rows and their number.
-/

namespace Inquiry

/-- The domain that a request belongs to. -/
inductive Domain where
  | cover
  | schaden
  | unknown
  deriving DecidableEq, Repr

/-- The name of a domain. -/
def Domain.name : Domain → String
  | .cover => "cover"
  | .schaden => "schaden"
  | .unknown => "unknown"

/-- A column that is asked for, or one that is to be left out. -/
structure Projection where
  field : String
  exclude : Bool := false
  /-- The place that the request gives the column; columns without a place come later. -/
  order : Option Int := none
  deriving DecidableEq, Repr

/-- Ascending or descending. -/
inductive Direction where
  | ascending
  | descending
  deriving DecidableEq, Repr

/-- The word for a direction. -/
def Direction.word : Direction → String
  | .ascending => "ASC"
  | .descending => "DESC"

/-- A column by which rows are ordered. -/
structure SortKey where
  field : String
  direction : Direction := .ascending
  deriving DecidableEq, Repr

/-- A request in structured form. -/
structure Query where
  domain : Domain := .unknown
  /-- The group that collects the conditions of the request. -/
  main : Group := .empty
  /-- Groups that hold in addition to the main one. -/
  further : List Group := []
  projections : List Projection := []
  sortKeys : List SortKey := []
  limit : Option Int := none
  /-- The name of the report that the request was read for. -/
  report : Option String := none
  deriving Repr

namespace Query

/-- All groups; there is always the main one. -/
def filters (q : Query) : List Group := q.main :: q.further

/-- The columns that are asked for. -/
def included (q : Query) : List Projection := q.projections.filter fun p => !p.exclude

/-- The columns that are to be left out. -/
def excluded (q : Query) : List Projection := q.projections.filter (·.exclude)

/-- The query with the given groups; without groups there is one empty group. -/
def withFilters (q : Query) : List Group → Query
  | [] => { q with main := .empty, further := [] }
  | group :: rest => { q with main := group, further := rest }

/-- The query with one more predicate in its main group. -/
def addPredicate (q : Query) (p : Predicate) : Query := { q with main := q.main.addPredicate p }

/-- The query with one more group in its main group. -/
def addGroup (q : Query) (g : Group) : Query := { q with main := q.main.addGroup g }

/-- The query with one more column that is asked for or left out. -/
def addProjection (q : Query) (p : Projection) : Query :=
  { q with projections := q.projections ++ [p] }

/-- The query with one more column to order by, after the others. -/
def addSortKey (q : Query) (s : SortKey) : Query := { q with sortKeys := q.sortKeys ++ [s] }

end Query

end Inquiry
