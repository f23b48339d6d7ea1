import Inquiry.Proofs.Binding
import Inquiry.Proofs.WellFormed

/-!
# When a statement fails

Rendering a query looks up its columns, its conditions and its order, and then
puts the row limit in its place. For a query that is well-formed for a report
without flaws every look-up succeeds. What can go wrong is that no column is
left, or that the limit looks for a SELECT at the beginning and finds none.
-/

namespace Inquiry

open Text

namespace Sql

/-- A word that is found is still found when more text follows. -/
theorem afterWord?_append {word cs : List Char} (h : (afterWord? word cs).isSome = true)
    (more : List Char) : (afterWord? word (cs ++ more)).isSome = true := by
  induction cs generalizing word with
  | nil => cases word <;> cases h
  | cons c cs ih =>
      cases word with
      | nil =>
          simp only [List.cons_append, afterWord?] at h ⊢
          split at h
          · next blank => rw [if_pos blank]; rfl
          · cases h
      | cons w word =>
          simp only [List.cons_append, afterWord?] at h ⊢
          split at h
          · next member =>
              rw [if_pos member]
              exact ih h
          · cases h

end Sql

/-- A skeleton that begins with the word SELECT and a blank behind it; so does its
statement then, whatever its places hold. -/
def Skeleton.OpensWithSelect (skeleton : Skeleton) : Prop :=
  ∃ s rest, skeleton = .text s :: rest ∧
    (Sql.afterWord? "SELECT".toList (trimStart s.toList)).isSome = true

namespace Report

variable {r : Report}

theorem columnOf_of_hasField {field : String} (h : r.hasField field = true) :
    ∃ column, r.columnOf field = .ok column := by
  obtain ⟨column, found⟩ := (r.hasField_iff field).mp h
  exact ⟨column, columnOf_of_some found⟩

theorem opens_fill (h : r.skeleton.OpensWithSelect) (place : .conditions ∈ r.skeleton)
    (columns : String) {conditions : String} (enclosed : Sql.Enclosed conditions.toList)
    (more : List Char) :
    (Sql.afterWord? "SELECT".toList
      (trimStart ((r.fill columns conditions).toList ++ more))).isSome = true := by
  obtain ⟨s, rest, hskeleton, found⟩ := h
  have nonempty : trimStart s.toList ≠ [] := by
    intro empty
    rw [empty] at found
    cases found
  have behind : Skeleton.Piece.conditions ∈ rest := by
    rw [hskeleton] at place
    rcases List.mem_cons.mp place with place | place
    · cases place
    · exact place
  obtain ⟨front, back, rfl⟩ := List.append_of_mem behind
  have joined : (String.join (r.skeleton.map (r.pieceText columns conditions))).toList =
      (s.toList ++ (String.join (front.map (r.pieceText columns conditions))).toList) ++
        conditions.toList ++ (String.join (back.map (r.pieceText columns conditions))).toList := by
    simp only [hskeleton, String.toList_join, List.map_cons, List.flatMap_cons, List.map_append,
      List.flatMap_append, pieceText, List.append_assoc]
  have filled : ∃ tail, (r.fill columns conditions).toList ++ more =
      trimStart s.toList ++ tail := by
    rw [fill_eq, Text.trim, String.toList_ofList, joined, Sql.trimmed_around enclosed,
      trimStart_append nonempty]
    simp only [List.append_assoc]
    exact ⟨_, rfl⟩
  obtain ⟨tail, filled⟩ := filled
  rw [filled, trimStart_append (by rwa [trimStart_trimStart]), trimStart_trimStart]
  exact Sql.afterWord?_append found tail

end Report

namespace Query

variable {q : Query} {r : Report} {settings : Settings}

theorem resolveColumns_eq (known : ∀ p ∈ q.projections, r.hasField p.field = true) :
    q.resolveColumns r =
      if (q.shownFields r).isEmpty then .error (.noColumnLeft r.name q.excludedFields)
      else (q.shownFields r).mapM r.columnOf := by
  rw [resolveColumns]
  generalize q.projections = projections at known
  induction projections with
  | nil =>
      by_cases left : (q.shownFields r).isEmpty = true
      · rw [if_pos left, if_pos left]
        rfl
      · rw [if_neg left, if_neg left]
        rfl
  | cons p more ih =>
      obtain ⟨column, found⟩ := Report.columnOf_of_hasField (known p List.mem_cons_self)
      rw [List.forIn_cons, found]
      rw [← ih fun p' member => known p' (List.mem_cons_of_mem p member)]
      rfl

/-- Every field that is shown is one of the report. -/
theorem hasField_of_mem_shownFields (known : ∀ p ∈ q.projections, r.hasField p.field = true) :
    ∀ field ∈ q.shownFields r, r.hasField field = true := by
  intro field member
  rw [shownFields, List.mem_eraseDups, List.mem_filter] at member
  have wished := member.1
  have of_included (p : Projection) (h : p ∈ q.included) : r.hasField p.field = true :=
    known p (List.mem_of_mem_filter h)
  rw [wishedFields] at wished
  split at wished
  · obtain ⟨⟨name, column⟩, entry, rfl⟩ := List.mem_map.mp wished
    exact Report.hasField_of_mem entry
  · rcases List.mem_append.mp wished with placed | unplaced
    · obtain ⟨entry, hentry, rfl⟩ := List.mem_map.mp placed
      obtain ⟨p, hp, hplace⟩ := List.mem_filterMap.mp (List.mem_mergeSort.mp hentry)
      obtain ⟨place, -, rfl⟩ := Option.map_eq_some_iff.mp hplace
      exact of_included p hp
    · obtain ⟨p, hp, rfl⟩ := List.mem_map.mp unplaced
      exact of_included p (List.mem_of_mem_filter hp)

theorem firstKeys_sublist (seen : List String) (keys : List SortKey) :
    (firstKeys seen keys).Sublist keys := by
  induction keys generalizing seen with
  | nil => exact List.Sublist.refl []
  | cons key rest ih =>
      rw [firstKeys]
      split
      · exact (ih seen).cons key
      · exact (ih (key.field :: seen)).cons_cons key

theorem renderOrder_of_known (sortKeys : ∀ key ∈ q.sortKeys, r.hasField key.field = true)
    (defaults : ∀ field ∈ r.defaultOrder, r.hasField field = true) :
    ∃ order, q.renderOrder r = .ok order := by
  simp only [renderOrder]
  have known : ∀ key ∈ (if q.sortKeys.isEmpty then r.defaultOrder.map (SortKey.mk · .ascending)
      else firstKeys [] q.sortKeys), r.hasField key.field = true := by
    intro key member
    split at member
    · obtain ⟨field, hfield, rfl⟩ := List.mem_map.mp member
      exact defaults field hfield
    · exact sortKeys key ((firstKeys_sublist [] q.sortKeys).subset member)
  obtain ⟨entries, hentries⟩ := mapM_ok (f := fun key : SortKey => (do
      return (← r.columnOf key.field).expression ++ " " ++ key.direction.word :
        Except Failure String)) fun key member => by
    obtain ⟨column, found⟩ := Report.columnOf_of_hasField (known key member)
    exact ⟨_, by rw [found]; rfl⟩
  rw [hentries]
  exact ⟨_, rfl⟩

/-- A row limit fails only where it looks for a SELECT and finds none. -/
theorem withRowLimit_error {dialect : Sql.Dialect} {sql : String} {failure : Failure}
    (h : Sql.withRowLimit dialect sql = .error failure) :
    failure = .rowLimitWithoutSelect ∧ dialect = .mssql ∧
      Sql.afterWord? "SELECT".toList (trimStart sql.toList) = none := by
  cases dialect with
  | ansi => cases h
  | mssql =>
      rw [Sql.withRowLimit] at h
      split at h
      · next missing =>
          cases h
          exact ⟨rfl, rfl, missing⟩
      · split at h <;> cases h

/-- A limit fails if it cannot be reported that it is lowered, or if it finds no place. -/
theorem limited_error {sql : String} {values : List Scalar} {failure : Failure}
    (h : q.limited settings sql values = .error failure) :
    ∃ limit, q.limit = some limit ∧
      (failsToReport settings limit = true ∧ failure = .integerNotWritten ∨
        failsToReport settings limit = false ∧
          Sql.withRowLimit settings.dialect sql = .error failure) := by
  cases hlimit : q.limit with
  | none =>
      rw [limited, hlimit] at h
      cases h
  | some limit =>
      refine ⟨limit, rfl, ?_⟩
      rw [limited_some hlimit] at h
      split at h
      · next reports => exact .inl ⟨reports, (Except.error.inj h).symm⟩
      · next reports => exact .inr ⟨Bool.eq_false_iff.mpr reports, error_of_map h⟩

/-- The row limit finds its SELECT in front of the columns and the conditions. -/
theorem opens_body (q : Query) (opens : r.skeleton.OpensWithSelect)
    (place : .conditions ∈ r.skeleton) (columns : List Column) (order : String) :
    (Sql.afterWord? "SELECT".toList
      (trimStart (q.body (·.sqlText r) r columns order).toList)).isSome = true := by
  have filled := Report.opens_fill opens place (",\n    ".intercalate (columns.map (·.definition)))
    (Group.conditionsBy_enclosed (·.sqlText r) q.filters)
  simp only [body]
  split
  · simpa using filled []
  · rw [String.toList_append, String.toList_append, List.append_assoc]
    exact filled _

theorem IsWellFormed.isWritable (wellFormed : q.IsWellFormed r) :
    ∀ p ∈ q.allPredicates, p.IsWritable r :=
  fun p member => (wellFormed.predicates p member).isWritable

theorem IsWellFormed.known (wellFormed : q.IsWellFormed r) :
    ∀ p ∈ q.allPredicates, r.hasField p.field = true := by
  intro p member
  obtain ⟨column, found, -⟩ := wellFormed.predicates p member
  exact Report.hasField_of_column? found

/-- Rendering a well-formed query fails for two reasons only. -/
theorem IsWellFormed.toStatement_error (wellFormed : q.IsWellFormed r)
    (place : .conditions ∈ r.skeleton)
    (defaults : ∀ field ∈ r.defaultOrder, r.hasField field = true) {failure : Failure}
    (h : q.toStatement r settings = .error failure) :
    (failure = .noColumnLeft r.name q.excludedFields ∧ q.shownFields r = []) ∨
      (failure = .rowLimitWithoutSelect ∧ settings.dialect = .mssql ∧ q.limit ≠ none ∧
        ¬ r.skeleton.OpensWithSelect) := by
  have resolved := resolveColumns_eq wellFormed.projections
  by_cases left : (q.shownFields r).isEmpty = true
  · rw [if_pos left] at resolved
    rw [toStatement, resolved] at h
    cases h
    exact .inl ⟨rfl, List.isEmpty_iff.mp left⟩
  · obtain ⟨columns, hcolumns⟩ := mapM_ok fun field member =>
      Report.columnOf_of_hasField (hasField_of_mem_shownFields wellFormed.projections field member)
    rw [if_neg left, hcolumns] at resolved
    obtain ⟨order, horder⟩ := renderOrder_of_known wellFormed.sortKeys defaults
    rw [toStatement_eq resolved wellFormed.known wellFormed.isWritable horder] at h
    obtain ⟨limit, hlimit, cause⟩ := limited_error (error_of_map h)
    have reports : failsToReport settings limit = false := by
      rw [failsToReport, wellFormed.writable limit hlimit, Bool.not_true, Bool.and_false]
    rw [reports] at cause
    obtain ⟨contrary, -⟩ | ⟨-, cause⟩ := cause
    · cases contrary
    obtain ⟨hfailure, dialect, missing⟩ := withRowLimit_error cause
    refine .inr ⟨hfailure, dialect, hlimit ▸ Option.some_ne_none limit, ?_⟩
    intro opens
    have found := q.opens_body opens place columns order
    rw [missing] at found
    cases found

end Query

end Inquiry
