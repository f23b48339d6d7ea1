import Inquiry.Proofs.Values

/-!
# Reading conditions on a field

A condition that is read on a field fits the report: its columns are found in
the report, its values are bound for the column that the rules redirect to, and
text is not searched for among numbers. A failure is the fault of the request.
-/

namespace Inquiry

/-- No field of a report is without a name. -/
def Report.IsNamed (r : Report) : Prop := ∀ field ∈ r.fields, field ≠ ""

instance (r : Report) : Decidable r.IsNamed :=
  inferInstanceAs (Decidable (∀ field ∈ r.fields, field ≠ ""))

theorem Report.IsNamed.ne_empty {r : Report} (h : r.IsNamed) {field : String}
    (known : r.hasField field = true) : field ≠ "" :=
  h field (Report.mem_fields_of_hasField known)

theorem Predicate.yields_of {field : String} (named : field ≠ "") (test : Test) :
    Yields most (fun p => p.field = field ∧ p.test = test) (Predicate.of field test) := by
  rw [Predicate.of, dif_neg named]
  exact ⟨rfl, rfl⟩

namespace Request.Scope

variable {scope : Scope} {most : Nat}

theorem yields_column (scope : Scope) (field : String) :
    Yields most (fun c => scope.report.column? field = some c) (scope.column field) := by
  rw [column]
  split
  · assumption
  · exact .unresolved rfl

/-- A test that suits a column makes a predicate on its field that fits. -/
theorem yields_predicate (named : scope.report.IsNamed) {field : String} {column : Column}
    (found : scope.report.column? field = some column) {test : Test} (suits : test.Suits column) :
    Yields most (·.Fits scope.report) (Predicate.of field test) := by
  have known := Report.hasField_of_column? found
  refine (Predicate.yields_of (named.ne_empty known) test).mono ?_
  rintro p ⟨hfield, htest⟩
  exact ⟨column, hfield ▸ found, htest ▸ suits⟩

section Columns

variable (named : scope.report.IsNamed) (respect : scope.rules.Respect scope.report)

include named respect

/-- A test that suits a column is finished as a node that fits. -/
theorem yields_finished {field : String} {column : Column}
    (found : scope.report.column? field = some column) {test : Test} (suits : test.Suits column)
    (negate : Bool) :
    Yields most (·.Fits scope.report) ((Predicate.of field test).map (scope.finish negate)) :=
  (yields_predicate named found suits).map fun _ fits => fits_finish respect fits negate

/-- A value that is searched for in a text column makes a node that fits. -/
theorem yields_search {field : String} {column : Column}
    (found : scope.report.column? field = some column) (words : column.numeric = false)
    {value : Token} (telling : value.Tells most) :
    Yields most (·.Fits scope.report) (do
      let value ← bound column field true value
      let p ← Predicate.of field (.compare .contains value)
      return scope.rules.expand p scope.report) := by
  refine (yields_bound telling column field true).bind fun v belongs => ?_
  exact (yields_predicate named found (.compare belongs fun _ => words)).map respect

/-- Values that are searched for in a text column make a group that fits. -/
theorem yields_searches {field : String} {column : Column}
    (found : scope.report.column? field = some column) (words : column.numeric = false)
    {first : Token} {others : List Token} (telling : Telling most (first :: others))
    (negate : Bool) :
    Yields most (fun node : Node => node.Fits scope.report) (do
      let nodes ← (first :: others).mapM fun v => do
        let value ← bound column field true v
        let p ← Predicate.of field (.compare .contains value)
        return scope.rules.expand p scope.report
      let group := nodes.foldl Group.addNode ⟨[], [], .or, false⟩
      return Node.group (if negate then ⟨[], [group], .and, true⟩ else group)) := by
  refine (Yields.mapM fun v member =>
    yields_search named respect found words (telling v member)).bind fun nodes fits => ?_
  have nonempty : nodes ≠ [] := by
    rw [ne_eq, ← List.length_eq_zero_iff, fits.2]
    exact Nat.succ_ne_zero _
  have group := Group.fits_of_nodes fits.1 nonempty .or false
  cases negate with
  | false => exact group
  | true => exact (Group.fits_empty .and true).addNode group

/-- The condition that values make on a field fits the report. -/
theorem yields_conclude (field : String) (relation : Option Relation) (negate : Bool)
    {first : Token} {others : List Token} (telling : Telling most (first :: others)) :
    Yields most (·.Fits scope.report) (scope.conclude field relation negate first others) := by
  rw [conclude]
  generalize scope.rules.redirect field first scope.report = field
  refine (scope.yields_column field).bind fun column found => ?_
  simp only
  generalize settled column relation negate first others = s
  obtain ⟨relation, negate⟩ := s
  split
  · exact .malformed rfl
  next search =>
  have words (contains : relation = .compare .contains) : column.numeric = false := by
    rw [← Bool.not_eq_true]
    exact fun numeric => search ⟨contains, numeric⟩
  cases relation with
  | oneOf =>
      refine (yields_bound telling.head column field false).bind fun value belongs => ?_
      refine (Yields.mapM fun v member =>
        yields_bound (telling.tail v member) column field false).bind fun values more => ?_
      exact yields_finished named respect found (.oneOf belongs more.1) negate
  | compare comparison =>
      have words (contains : comparison = .contains) := words (congrArg Relation.compare contains)
      simp only
      split
      · refine (yields_bound telling.head column field _).bind fun value belongs => ?_
        exact yields_finished named respect found (.compare belongs words) negate
      · split
        · next contains =>
            subst contains
            exact yields_searches named respect found (words rfl) telling negate
        · exact .malformed rfl

theorem yields_between (field : String) (negate : Bool) {low high : Token} (hlow : low.Tells most)
    (hhigh : high.Tells most) :
    Yields most (·.Fits scope.report) (scope.between field negate low high) := by
  rw [between]
  refine (scope.yields_column _).bind fun column found => ?_
  refine (yields_bound hlow column _ false).bind fun lowest least => ?_
  refine (yields_bound hhigh column _ false).bind fun highest most => ?_
  exact yields_finished named respect found (.between least most) negate

end Columns

/-- What a reader of conditions may answer: nothing, or a node that fits with
tokens that still say something behind it. -/
def Answers (scope : Scope) (most : Nat) (read : Option (Node × List Token)) : Prop :=
  ∀ node rest, read = some (node, rest) → node.Fits scope.report ∧ Telling most rest

theorem yields_reading {node : Except Failure Node} (h : Yields most (·.Fits scope.report) node)
    {rest : List Token} (telling : Telling most rest) :
    Yields most (scope.Answers most) (reading node rest) := by
  refine h.map fun n fits => ?_
  rintro _ _ ⟨rfl, rfl⟩
  exact ⟨fits, telling⟩

/-- A condition on a field of the report fits the report. -/
theorem yields_condition? (named : scope.report.IsNamed)
    (respect : scope.rules.Respect scope.report) {field : String}
    (known : scope.report.hasField field = true) (negate : Bool) {tokens : List Token}
    (telling : Telling most tokens) :
    Yields most (scope.Answers most) (scope.condition? field negate tokens) := by
  obtain ⟨column, found⟩ := (scope.report.hasField_iff field).mp known
  simp only [condition?]
  generalize beginsWith beingWords tokens = explicit
  generalize (negate != beginsWith negatingWords (skipWord beingWords tokens)) = negate
  have skipped : Telling most (skipWord negatingWords (skipWord beingWords tokens)) :=
    telling.of_sublist ((skipWord_sublist _ _).trans (skipWord_sublist _ _))
  generalize skipWord negatingWords (skipWord beingWords tokens) = tokens at skipped
  have presence {test : Test} (absent : test.values = [])
      (operator : test.operator ≠ .compare .contains) :
      Yields most (·.Fits scope.report) ((Predicate.of field test).map (scope.finish negate)) := by
    have suits : test.Suits column := by
      refine ⟨?_, fun _ => operator⟩
      rw [absent]
      exact fun v member => (List.not_mem_nil member).elim
    exact yields_finished named respect found suits negate
  split
  · exact yields_reading (presence rfl (by decide)) (skipped.drop 1)
  split
  · exact yields_reading (presence rfl (by decide)) (skipped.drop 1)
  split
  · split
    · exact .malformed rfl
    · next low high rest bounds =>
        obtain ⟨hlow, hhigh, hrest⟩ := telling_of_bounds? bounds (skipped.drop 1)
        exact yields_reading (yields_between named respect field negate hlow hhigh) hrest
  · have opened : Telling most (opening explicit tokens).rest :=
      skipped.of_sublist (opening_sublist explicit tokens)
    have parts := scope.telling_values (opening explicit tokens).andToo opened
    split
    · split
      · exact .malformed rfl
      · rintro node rest ⟨⟩
    · next first others rest heq =>
        rw [heq] at parts
        exact yields_reading (yields_conclude named respect field _ negate parts.1) parts.2

end Request.Scope

end Inquiry
