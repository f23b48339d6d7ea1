import Inquiry.Proofs.Rendering
import Inquiry.Statement

/-!
# How a statement is put together

A statement needs its columns, its conditions and its order, and then gets its
row limit. `Query.body` is its text before the limit, with the texts of the
predicates left open; `toStatement_eq` says what the statement is once the
three parts are there, and `toStatement_ok` that they are there whenever there
is a statement.
-/

namespace Inquiry

/-- A sequence of two steps succeeds only if both do. -/
theorem ok_of_bind {α β : Type} {first : Except Failure α} {next : α → Except Failure β} {b : β}
    (h : (first >>= next) = .ok b) : ∃ a, first = .ok a ∧ next a = .ok b := by
  cases first with
  | error failure => cases h
  | ok a => exact ⟨a, rfl, h⟩

theorem ok_of_map {α β : Type} {first : Except Failure α} {f : α → β} {b : β}
    (h : first.map f = .ok b) : ∃ a, first = .ok a ∧ f a = b := by
  cases first with
  | error failure => cases h
  | ok a => exact ⟨a, rfl, Except.ok.inj h⟩

theorem ok_of_isOk {α : Type} {result : Except Failure α} (h : result.isOk = true) :
    ∃ a, result = .ok a := by
  cases result with
  | error failure => cases h
  | ok a => exact ⟨a, rfl⟩

/-- A sequence of two steps fails in the first or in the second of them. -/
theorem error_of_bind {α β : Type} {first : Except Failure α} {next : α → Except Failure β}
    {failure : Failure} (h : (first >>= next) = .error failure) :
    first = .error failure ∨ ∃ a, first = .ok a ∧ next a = .error failure := by
  cases first with
  | error other => exact .inl (congrArg Except.error (Except.error.inj h))
  | ok a => exact .inr ⟨a, rfl, h⟩

theorem error_of_map {α β : Type} {first : Except Failure α} {f : α → β} {failure : Failure}
    (h : first.map f = .error failure) : first = .error failure := by
  cases first with
  | error other => exact congrArg Except.error (Except.error.inj h)
  | ok a => cases h

/-- What a list of steps yields comes from its elements. -/
theorem mem_of_mapM {α β : Type} {f : α → Except Failure β} {xs : List α} {ys : List β}
    (h : xs.mapM f = .ok ys) : ∀ y ∈ ys, ∃ x ∈ xs, f x = .ok y := by
  induction xs generalizing ys with
  | nil =>
      cases h
      simp
  | cons x xs ih =>
      rw [List.mapM_cons] at h
      obtain ⟨y, first, h⟩ := ok_of_bind h
      obtain ⟨more, rest, h⟩ := ok_of_bind h
      cases h
      intro z member
      rcases List.mem_cons.mp member with rfl | member
      · exact ⟨x, List.mem_cons_self, first⟩
      · obtain ⟨x', member', found⟩ := ih rest z member
        exact ⟨x', List.mem_cons_of_mem x member', found⟩

/-- Steps over a list succeed with the results of its elements. -/
theorem mapM_eq_ok_iff {α β : Type} {f : α → Except Failure β} {xs : List α} {ys : List β} :
    xs.mapM f = .ok ys ↔ List.Forall₂ (fun x y => f x = .ok y) xs ys := by
  induction xs generalizing ys with
  | nil =>
      rw [List.mapM_nil, List.forall₂_nil_left_iff]
      exact ⟨fun h => (Except.ok.inj h).symm, fun h => h ▸ rfl⟩
  | cons x xs ih =>
      rw [List.mapM_cons, List.forall₂_cons_left_iff]
      constructor
      · intro h
        obtain ⟨y, first, h⟩ := ok_of_bind h
        obtain ⟨more, rest, h⟩ := ok_of_bind h
        exact ⟨y, more, first, ih.mp rest, (Except.ok.inj h).symm⟩
      · rintro ⟨y, more, first, rest, rfl⟩
        rw [first, ih.mpr rest]
        rfl

/-- Steps over a list that each succeed with some result succeed with all of them. -/
theorem mapM_forall₂ {α β : Type} {f : α → Except Failure β} {R : α → β → Prop} {xs : List α}
    (h : ∀ x ∈ xs, ∃ y, f x = .ok y ∧ R x y) : ∃ ys, xs.mapM f = .ok ys ∧ List.Forall₂ R xs ys := by
  induction xs with
  | nil => exact ⟨[], rfl, .nil⟩
  | cons x xs ih =>
      obtain ⟨y, first, own⟩ := h x List.mem_cons_self
      obtain ⟨ys, rest, others⟩ := ih fun z member => h z (List.mem_cons_of_mem x member)
      refine ⟨y :: ys, ?_, .cons own others⟩
      rw [List.mapM_cons, first, rest]
      rfl

/-- Steps over a list succeed if each of them does. -/
theorem mapM_ok {α β : Type} {f : α → Except Failure β} {xs : List α}
    (h : ∀ x ∈ xs, ∃ y, f x = .ok y) : ∃ ys, xs.mapM f = .ok ys := by
  have each : ∀ x ∈ xs, ∃ y, f x = .ok y ∧ True := fun x member => by simpa using h x member
  obtain ⟨ys, run, -⟩ := mapM_forall₂ each
  exact ⟨ys, run⟩

namespace Report

/-- A column that is found is one of the report. -/
theorem mem_columns_of_column? {r : Report} {field : String} {column : Column}
    (h : r.column? field = some column) : (field, column) ∈ r.columns := by
  obtain ⟨front, back, heq, -⟩ := List.lookup_eq_some_iff.mp h
  rw [heq]
  exact List.mem_append_right front List.mem_cons_self

end Report

namespace Query

/-- Every predicate of a query, in the order in which values are bound. -/
def allPredicates (q : Query) : List Predicate := Group.allPredicatesOf q.filters

/-- The numbers of a query can be written where its statement needs them as texts:
those that are compared with text, and a limit that is lowered. -/
structure IsWritable (q : Query) (r : Report) (settings : Settings) : Prop where
  values : ∀ p ∈ q.allPredicates, p.IsWritable r
  limit : ∀ n, q.limit = some n → failsToReport settings n = false

/-- The text of a statement without its row limit, for given texts of the
predicates. -/
def body (text : Predicate → String) (q : Query) (r : Report) (columns : List Column)
    (order : String) : String :=
  let sql := r.fill (",\n    ".intercalate (columns.map (·.definition)))
    (Group.conditionsBy text q.filters)
  if order = "" then sql else sql ++ "\nORDER BY " ++ order

variable {q : Query} {r : Report} {settings : Settings}

/-- The columns of a statement are columns of the report. -/
theorem mem_columns_of_resolveColumns {columns : List Column}
    (h : q.resolveColumns r = .ok columns) : ∀ c ∈ columns, ∃ field, (field, c) ∈ r.columns := by
  obtain ⟨_, -, h⟩ := ok_of_bind h
  by_cases none : (q.shownFields r).isEmpty = true
  · simp only [none, if_true] at h
    cases h
  · simp only [none] at h
    intro c member
    obtain ⟨field, -, found⟩ := mem_of_mapM h c member
    exact ⟨field, Report.mem_columns_of_column? (Report.columnOf_ok_iff.mp found)⟩

/-- Every entry behind ORDER BY is a column of the report with a direction. -/
theorem renderOrder_eq_intercalate {order : String} (h : q.renderOrder r = .ok order) :
    ∃ entries : List String, order = ", ".intercalate entries ∧
      ∀ entry ∈ entries, ∃ field column direction, (field, column) ∈ r.columns ∧
        entry = column.expression ++ " " ++ Direction.word direction := by
  obtain ⟨entries, hentries, h⟩ := ok_of_bind h
  refine ⟨entries, (Except.ok.inj h).symm, ?_⟩
  intro entry member
  obtain ⟨key, -, hentry⟩ := mem_of_mapM hentries entry member
  obtain ⟨column, found, hentry⟩ := ok_of_bind hentry
  exact ⟨key.field, column, key.direction,
    Report.mem_columns_of_column? (Report.columnOf_ok_iff.mp found), (Except.ok.inj hentry).symm⟩

section Limit

variable {limit : Int} {sql : String} {values : List Scalar}

/-- The values with the number of a limit among them. -/
def boundWith (settings : Settings) (limit : Int) (values : List Scalar) : List Scalar :=
  if settings.dialect.limitsAtStart then .number (.whole (allowedLimit settings limit)) :: values
  else values ++ [.number (.whole (allowedLimit settings limit))]

/-- A limit is put at its place, and its number among the values. -/
theorem limited_some (limits : q.limit = some limit) (sql : String) (values : List Scalar) :
    q.limited settings sql values =
      if failsToReport settings limit then .error .integerNotWritten
      else (Sql.withRowLimit settings.dialect sql).map fun text =>
        (text, boundWith settings limit values,
          if allowedLimit settings limit = limit then [] else [.limitClamped]) := by
  simp only [limited, limits]
  split
  · rfl
  · cases Sql.withRowLimit settings.dialect sql <;> rfl

theorem limited_ok (limits : q.limit = some limit) {text : String} {bound : List Scalar}
    {warnings : List Warning} (h : q.limited settings sql values = .ok (text, bound, warnings)) :
    failsToReport settings limit = false ∧ Sql.withRowLimit settings.dialect sql = .ok text ∧
      bound = boundWith settings limit values ∧
        warnings = if allowedLimit settings limit = limit then [] else [.limitClamped] := by
  rw [limited_some limits] at h
  split at h
  · cases h
  · next reports =>
      obtain ⟨placed, hplaced, same⟩ := ok_of_map h
      cases same
      exact ⟨Bool.eq_false_iff.mpr reports, hplaced, rfl, rfl⟩

end Limit

theorem toStatement_eq {columns : List Column} {order : String}
    (hcolumns : q.resolveColumns r = .ok columns)
    (known : ∀ p ∈ q.allPredicates, r.hasField p.field = true)
    (writable : ∀ p ∈ q.allPredicates, p.IsWritable r)
    (horder : q.renderOrder r = .ok order) :
    q.toStatement r settings =
      (q.limited settings (q.body (·.sqlText r) r columns order)
        (q.allPredicates.flatMap (·.boundValues r))).map fun (sql, values, warnings) =>
          { sql, values, headers := columns.map (·.header), report := r.name,
            domain := q.domain, warnings } := by
  have conditions := (Group.renderConditions_runs known).binds writable []
  rw [List.nil_append] at conditions
  simp only [toStatement, hcolumns, conditions, horder, body, bind, Except.bind, allPredicates]
  cases q.limited settings _ _ <;> rfl

/-- What is known of the parts of a statement that is there. -/
theorem parts_of_toStatement {s : Statement} (h : q.toStatement r settings = .ok s) :
    ∃ columns order, q.resolveColumns r = .ok columns ∧
      (∀ p ∈ q.allPredicates, r.hasField p.field = true) ∧
      (∀ p ∈ q.allPredicates, p.IsWritable r) ∧ q.renderOrder r = .ok order := by
  obtain ⟨columns, hcolumns, h⟩ := ok_of_bind h
  obtain ⟨conditions, hconditions, h⟩ := ok_of_bind h
  obtain ⟨order, horder, -⟩ := ok_of_bind h
  have run : (Group.renderConditions r q.filters).render [] = (.ok conditions, _) :=
    Prod.ext hconditions rfl
  have known : ∀ p ∈ q.allPredicates, r.hasField p.field = true :=
    Group.columns_of_renderConditions run
  exact ⟨columns, order, hcolumns, known, (Group.renderConditions_runs known).writable_of_ok run,
    horder⟩

/-- A statement is there only if its columns, its conditions and its order are. -/
theorem toStatement_ok {s : Statement} (h : q.toStatement r settings = .ok s) :
    ∃ columns order, q.resolveColumns r = .ok columns ∧
      (∀ p ∈ q.allPredicates, r.hasField p.field = true) ∧ q.renderOrder r = .ok order ∧
      s.headers = columns.map (·.header) ∧
      q.limited settings (q.body (·.sqlText r) r columns order)
        (q.allPredicates.flatMap (·.boundValues r)) = .ok (s.sql, s.values, s.warnings) := by
  obtain ⟨columns, order, hcolumns, known, writable, horder⟩ := parts_of_toStatement h
  rw [toStatement_eq hcolumns known writable horder] at h
  obtain ⟨⟨sql, values, warnings⟩, limited, rfl⟩ := ok_of_map h
  exact ⟨columns, order, hcolumns, known, horder, rfl, limited⟩

/-- Every number of a statement that had to be written could be. -/
theorem isWritable_of_toStatement {s : Statement} (h : q.toStatement r settings = .ok s) :
    q.IsWritable r settings := by
  obtain ⟨-, -, -, -, writable, -⟩ := parts_of_toStatement h
  refine ⟨writable, fun n limit => ?_⟩
  obtain ⟨_, _, -, -, -, -, limited⟩ := toStatement_ok h
  exact (limited_ok (q := q) limit limited).1

/-- With all columns at hand, a query with a number that cannot be written fails because
of it. -/
theorem toStatement_of_not_isWritable {columns : List Column} {order : String}
    (hcolumns : q.resolveColumns r = .ok columns)
    (known : ∀ p ∈ q.allPredicates, r.hasField p.field = true)
    (horder : q.renderOrder r = .ok order) (some : ¬ q.IsWritable r settings) :
    q.toStatement r settings = .error .integerNotWritten := by
  by_cases values : ∀ p ∈ q.allPredicates, p.IsWritable r
  · have limit : ∃ n, q.limit = .some n ∧ failsToReport settings n = true := by
      by_contra none
      refine some ⟨values, fun n limit => ?_⟩
      rw [← Bool.not_eq_true]
      exact fun fails => none ⟨n, limit, fails⟩
    obtain ⟨n, limit, fails⟩ := limit
    rw [toStatement_eq hcolumns known values horder, limited_some limit, if_pos fails]
    rfl
  · obtain ⟨front, -, stopped⟩ := (Group.renderConditions_runs known).stops values []
    simp only [toStatement, hcolumns, stopped, bind, Except.bind]

end Query

/-- A small report, for examples. -/
def Report.towns : Report where
  number := 0
  name := "Orte"
  mainKeywords := ["orte"]
  columns := [
    ("ort", { source := "T.ORT", header := "Ort", keywords := ["ort"] }),
    ("einwohner",
      { source := "T.EINW", header := "Einwohner", keywords := ["einwohner"], numeric := true })]
  skeleton := [.text "SELECT ", .columns, .text " FROM ORTE T WHERE ", .conditions]

/-- A query for it, with values in all kinds of places. -/
def Query.towns : Query where
  main := ⟨[⟨"ort", .oneOf (.text "Bonn") [.text "Ulm"], by decide⟩],
    [⟨[⟨"einwohner", .between (.number (.whole 1)) (.number (.whole 9)), by decide⟩],
      [], .and, true⟩], .or, false⟩
  limit := some 50

/-- A number in a place where a text is expected. -/
def Predicate.townNumbered (n : Int) : Predicate :=
  ⟨"ort", .compare .equals (.number (.whole n)), by decide⟩

/-- The town has to be written as a text. -/
theorem Predicate.not_isWritable_townNumbered {n : Int} (h : isWritable n = false) :
    ¬ (townNumbered n).IsWritable .towns := by
  intro writable
  have taken := writable _ rfl _ List.mem_cons_self
  rw [Column.takes, Scalar.isWritable, Number.isWritable, h] at taken
  exact Bool.false_ne_true taken

end Inquiry
