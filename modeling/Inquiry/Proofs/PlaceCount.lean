import Inquiry.Proofs.Renderable
import Inquiry.Sql.StandIn

/-!
# How many places a statement has

A report needs a place for the conditions, and nothing keeps it from having
several. The conditions are written into each of them with all their question
marks, but their values are bound once. So a statement has as many places as
values only if its report has one place for the conditions, or if there is no
value to bind.
-/

namespace Inquiry

/-- The number of values that the predicates of a query bind. -/
def Query.valueCount (q : Query) : Nat := (q.allPredicates.flatMap (·.test.values)).length

theorem Sql.count_withRowLimit {dialect : Sql.Dialect} {sql limited : String}
    (h : Sql.withRowLimit dialect sql = .ok limited) :
    limited.toList.count '?' = sql.toList.count '?' + 1 := by
  cases dialect with
  | ansi =>
      rw [withRowLimit_ansi h, List.count_append, count_trimEnd (by decide)]
      rfl
  | mssql =>
      obtain ⟨opening, known, taken, rest, hsql, free, hlimited⟩ :=
        withRowLimit_mssql (show '?' ∈ marks by decide) h
      have once : opening.toList.count '?' = 1 :=
        (by decide : ∀ opening ∈ limitOpenings, opening.toList.count '?' = 1) opening known
      rw [hlimited, hsql, List.count_append, List.count_append, once,
        List.count_eq_zero.mpr free, Nat.zero_add, Nat.add_comm]

namespace Report

variable {r : Report}

/-- Filled pieces have the question marks of the conditions as often as the
conditions are among them, and no others. -/
theorem count_join (spares : r.SparesPlaces) {columns : String} (free : '?' ∉ columns.toList)
    (conditions : String) {pieces : List Skeleton.Piece} (h : ∀ p ∈ pieces, p ∈ r.skeleton) :
    (String.join (pieces.map (r.pieceText columns conditions))).toList.count '?' =
      pieces.count .conditions * conditions.toList.count '?' := by
  induction pieces with
  | nil => simp
  | cons piece pieces ih =>
      have rest := ih fun p member => h p (List.mem_cons_of_mem piece member)
      rw [String.toList_join] at rest
      rw [String.toList_join, List.map_cons, List.flatMap_cons, List.count_append, rest]
      by_cases same : piece = .conditions
      · subst same
        rw [List.count_cons_self, Nat.add_one_mul, Nat.add_comm]
        rfl
      · have none := pieceText_free spares free (h piece List.mem_cons_self) same conditions
        rw [List.count_cons_of_ne same, List.count_eq_zero.mpr none, Nat.zero_add]

theorem count_fill (spares : r.SparesPlaces) {columns : String} (free : '?' ∉ columns.toList)
    (conditions : String) :
    (r.fill columns conditions).toList.count '?' =
      r.skeleton.count .conditions * conditions.toList.count '?' := by
  rw [fill_eq, Text.trim, String.toList_ofList, Sql.count_trimmed (by decide)]
  exact count_join spares free conditions fun _ member => member

end Report

namespace Query

variable {q : Query} {r : Report} {settings : Settings}

theorem length_boundValues (known : ∀ p ∈ q.allPredicates, r.hasField p.field = true) :
    (q.allPredicates.flatMap (·.boundValues r)).length = q.valueCount := by
  rw [valueCount, List.length_flatMap, List.length_flatMap]
  refine congrArg List.sum (List.map_congr_left ?_)
  intro p member
  obtain ⟨column, found⟩ := (r.hasField_iff p.field).mp (known p member)
  rw [Predicate.boundValues, found, List.length_map]

/-- Before it is limited, a statement has the places of its conditions as often
as its report asks for them. -/
theorem count_body (spares : r.SparesPlaces) {columns : List Column} {order : String}
    (hcolumns : q.resolveColumns r = .ok columns) (horder : q.renderOrder r = .ok order)
    (known : ∀ p ∈ q.allPredicates, r.hasField p.field = true) :
    (q.body (·.sqlText r) r columns order).toList.count '?' =
      r.skeleton.count .conditions * q.valueCount := by
  have definitions := r.notMem_definitions spares.columnsSpare (by decide)
    (mem_columns_of_resolveColumns hcolumns)
  have places := (Group.conditionsBy_fills spares Scalar.asText q.filters).places
  rw [List.length_map] at places
  have filled := Report.count_fill spares definitions
    (Group.conditionsBy (·.sqlText r) q.filters)
  rw [places] at filled
  have order := notMem_renderOrder spares.columnsSpare (by decide) horder
  rw [← length_boundValues known, body]
  split
  · exact filled
  · rw [String.toList_append, String.toList_append, List.count_append, List.count_append, filled,
      List.count_eq_zero.mpr order]
    rfl

/-- A row limit brings its place and its value along. -/
theorem count_limited {sql : String} {values : List Scalar}
    {result : String × List Scalar × List Warning}
    (h : q.limited settings sql values = .ok result) :
    result.1.toList.count '?' = sql.toList.count '?' + q.limit.toList.length ∧
      result.2.1.length = values.length + q.limit.toList.length := by
  cases limits : q.limit with
  | none =>
      simp only [limited, limits] at h
      cases h
      simp
  | some limit =>
      obtain ⟨-, placed, bound, -⟩ := limited_ok limits h
      refine ⟨Sql.count_withRowLimit placed, ?_⟩
      rw [bound, boundWith]
      split <;> simp

/-- The places of a statement, and its values. -/
theorem counts_of_toStatement (spares : r.SparesPlaces) {s : Statement}
    (h : q.toStatement r settings = .ok s) :
    s.sql.toList.count '?' =
        r.skeleton.count .conditions * q.valueCount + q.limit.toList.length ∧
      s.values.length = q.valueCount + q.limit.toList.length := by
  obtain ⟨columns, order, hcolumns, known, horder, -, hlimited⟩ := toStatement_ok h
  obtain ⟨places, values⟩ := count_limited hlimited
  rw [count_body spares hcolumns horder known] at places
  rw [length_boundValues known] at values
  exact ⟨places, values⟩

/-- A statement has the places of its values once for each place for the
conditions that the skeleton of its report has, and one place for its limit. Its
values are there once. With a place for the conditions, which every report needs,
every value has its place; but there are as many places as values only if there
is no second one, or if the conditions bind nothing. -/
theorem places_of_toStatement (place : .conditions ∈ r.skeleton) (spares : r.SparesPlaces)
    {s : Statement} (h : q.toStatement r settings = .ok s) :
    s.sql.toList.count '?' =
        r.skeleton.count .conditions * q.valueCount + q.limit.toList.length ∧
      s.values.length = q.valueCount + q.limit.toList.length ∧
      s.values.length ≤ s.sql.toList.count '?' ∧
      (s.sql.toList.count '?' = s.values.length ↔
        r.skeleton.count .conditions = 1 ∨ q.valueCount = 0) := by
  obtain ⟨places, values⟩ := counts_of_toStatement spares h
  have place : 0 < r.skeleton.count .conditions := List.count_pos_iff.mpr place
  refine ⟨places, values, ?_, ?_⟩
  · rw [places, values]
    exact Nat.add_le_add_right (Nat.le_mul_of_pos_left _ place) _
  · rw [places, values, Nat.add_right_cancel_iff]
    by_cases unbound : q.valueCount = 0
    · simp [unbound]
    · rw [Nat.mul_eq_right unbound, or_iff_left unbound]

end Query

/-- The small report with its statement twice, both times under the same conditions. -/
def Report.twice : Report :=
  { towns with skeleton := towns.skeleton ++ .text " UNION " :: towns.skeleton }

theorem Report.sparesPlaces_twice : twice.SparesPlaces := by
  refine ⟨?_, by decide, by decide⟩
  intro s piece
  simp only [twice, towns, List.cons_append, List.nil_append, List.mem_cons,
    Skeleton.Piece.text.injEq, reduceCtorEq, List.not_mem_nil, or_false, false_or] at piece
  rcases piece with rfl | rfl | rfl | rfl | rfl <;> exact Sql.notMem_ofList (by decide)

theorem Query.toStatement_twice : ∃ s, towns.toStatement .twice { dialect := .ansi } = .ok s :=
  have evaluated : (towns.toStatement .twice { dialect := .ansi }).isOk = true := by
    decide +kernel
  ok_of_isOk evaluated

/-- Eight places for four values, and one for the limit. -/
theorem Query.places_of_toStatement_twice :
    .conditions ∈ Report.twice.skeleton ∧ Report.twice.SparesPlaces ∧
      ∃ s, towns.toStatement .twice { dialect := .ansi } = .ok s ∧
        s.sql.toList.count '?' = 9 ∧ s.values.length = 5 := by
  obtain ⟨s, run⟩ := toStatement_twice
  have place : .conditions ∈ Report.twice.skeleton := by decide
  obtain ⟨places, values, -, -⟩ := places_of_toStatement place Report.sparesPlaces_twice run
  exact ⟨place, Report.sparesPlaces_twice, s, run, places, values⟩

/-- A report with two places for the conditions is accepted, and its statements
have more places than values. -/
theorem Query.places_doubled :
    Report.twice.flaw? .standIn = none ∧ Report.twice.SparesPlaces ∧
      ∃ s, towns.toStatement .twice { dialect := .ansi } = .ok s ∧
        s.sql.toList.count '?' ≠ s.values.length := by
  obtain ⟨s, run⟩ := toStatement_twice
  obtain ⟨places, values⟩ := counts_of_toStatement Report.sparesPlaces_twice run
  refine ⟨by decide +kernel, Report.sparesPlaces_twice, s, run, ?_⟩
  rw [places, values]
  decide

end Inquiry
