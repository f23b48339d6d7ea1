import Inquiry.Proofs.Places
import Inquiry.Proofs.RowLimit
import Inquiry.Proofs.Statement
import Mathlib.Data.List.TakeWhile

/-!
# Marks in a statement

Two characters mean something in every statement: a question mark is the place
of a value, and a semicolon ends the statement. What is written around the
texts of a report holds no semicolon, and a question mark only where a value is
bound. A row limit takes away letters and blanks from the beginning and adds one
place, so it neither loses a mark nor makes a semicolon.
-/

namespace Inquiry

open Text

namespace Sql

/-- The characters that mean something wherever they stand. -/
def marks : List Char := ['?', ';']

variable {mark : Char} {cs rest : List Char}

theorem isBlank_of_mark (known : mark ∈ marks) : isBlank mark = false :=
  (by decide : ∀ mark ∈ marks, isBlank mark = false) mark known

theorem notMem_takeWhile_isBlank (known : mark ∈ marks) (cs : List Char) :
    mark ∉ cs.takeWhile isBlank := by
  intro member
  have blank := List.mem_takeWhile_imp member
  rw [isBlank_of_mark known] at blank
  cases blank

/-- Trimming takes away no mark. -/
theorem count_trimStart (known : mark ∈ marks) (cs : List Char) :
    (trimStart cs).count mark = cs.count mark := by
  have split := congrArg (List.count mark)
    (List.takeWhile_append_dropWhile (p := isBlank) (l := cs))
  rw [List.count_append, List.count_eq_zero.mpr (notMem_takeWhile_isBlank known cs)] at split
  rw [trimStart, ← split, Nat.zero_add]

theorem count_trimEnd (known : mark ∈ marks) (cs : List Char) :
    (trimEnd cs).count mark = cs.count mark := by
  have reversed := count_trimStart known cs.reverse
  rw [trimStart, List.count_reverse] at reversed
  rw [trimEnd, List.count_reverse, reversed]

theorem count_trimmed (known : mark ∈ marks) (cs : List Char) :
    (trimmed cs).count mark = cs.count mark := by
  rw [trimmed, count_trimEnd known, count_trimStart known]

/-- What is passed to get behind a word is the word with blanks around it. -/
theorem afterWord?_eq_append {word : List Char} (h : afterWord? word cs = some rest)
    (known : mark ∈ marks) (foreign : ∀ w ∈ word, mark ∉ variants w) :
    ∃ taken, cs = taken ++ rest ∧ mark ∉ taken := by
  induction cs generalizing word with
  | nil => cases word <;> cases h
  | cons c cs ih =>
      cases word with
      | nil =>
          rw [afterWord?] at h
          split at h
          · next blank =>
              cases h
              refine ⟨c :: cs.takeWhile isBlank, ?_, ?_⟩
              · rw [trimStart, List.cons_append, List.takeWhile_append_dropWhile]
              · rw [List.mem_cons, not_or]
                refine ⟨?_, notMem_takeWhile_isBlank known cs⟩
                rintro rfl
                rw [isBlank_of_mark known] at blank
                cases blank
          · cases h
      | cons w word =>
          rw [afterWord?] at h
          split at h
          · next letter =>
              obtain ⟨taken, rfl, free⟩ :=
                ih h fun w member => foreign w (List.mem_cons_of_mem _ member)
              refine ⟨c :: taken, rfl, ?_⟩
              rw [List.mem_cons, not_or]
              refine ⟨?_, free⟩
              rintro rfl
              exact foreign w List.mem_cons_self letter
          · cases h

/-- What the row limit puts at the beginning of a statement. -/
def limitOpenings : List String := ["SELECT TOP (?) ", "SELECT DISTINCT TOP (?) "]

/-- At the beginning of a statement the row limit takes the place of text without marks. -/
theorem withRowLimit_mssql {sql limited : String} (known : mark ∈ marks)
    (h : withRowLimit .mssql sql = .ok limited) :
    ∃ opening ∈ limitOpenings, ∃ taken rest, sql.toList = taken ++ rest ∧ mark ∉ taken ∧
      limited.toList = opening.toList ++ rest := by
  have foreign : ∀ word ∈ limitedWords, ∀ w ∈ word, mark ∉ variants w :=
    (by decide : ∀ mark ∈ marks, ∀ word ∈ limitedWords, ∀ w ∈ word, mark ∉ variants w) mark known
  have blanks := notMem_takeWhile_isBlank known sql.toList
  have split := (List.takeWhile_append_dropWhile (p := isBlank) (l := sql.toList)).symm
  generalize sql.toList.takeWhile isBlank = lead at blanks split
  rw [withRowLimit] at h
  split at h
  · cases h
  · next rest hselect =>
      obtain ⟨select, hrest, freeSelect⟩ :=
        afterWord?_eq_append hselect known (foreign _ (by decide))
      rw [trimStart] at hrest
      rw [hrest, ← List.append_assoc] at split
      have free : mark ∉ lead ++ select := by
        rw [List.mem_append, not_or]
        exact ⟨blanks, freeSelect⟩
      split at h
      · next rows hdistinct =>
          obtain ⟨distinct, rfl, freeDistinct⟩ :=
            afterWord?_eq_append hdistinct known (foreign _ (by decide))
          cases h
          rw [← List.append_assoc] at split
          refine ⟨_, List.mem_cons_of_mem _ List.mem_cons_self, _, rows, split, ?_, by simp⟩
          rw [List.mem_append, not_or]
          exact ⟨free, freeDistinct⟩
      · cases h
        exact ⟨_, List.mem_cons_self, _, rest, split, free, by simp⟩

theorem withRowLimit_ansi {sql limited : String} (h : withRowLimit .ansi sql = .ok limited) :
    limited.toList = trimEnd sql.toList ++ "\nLIMIT ?".toList := by
  cases h
  rw [String.toList_append, String.toList_ofList]

end Sql

/-- The columns of a report do without a mark. -/
structure Report.ColumnsSpare (r : Report) (mark : Char) : Prop where
  expressions : ∀ entry ∈ r.columns, mark ∉ entry.2.expression.toList
  headers : ∀ entry ∈ r.columns, mark ∉ entry.2.header.toList

variable {mark : Char} {r : Report}

theorem Test.operand_free {c : Column} (test : Test) (known : mark ∈ Sql.marks)
    (free : mark ∉ c.expression.toList) : mark ∉ (test.operand c).toList := by
  have around : ∀ text ∈ ["UPPER(RTRIM(LTRIM(", ")))"], mark ∉ text.toList :=
    (by decide : ∀ mark ∈ Sql.marks, ∀ text ∈ ["UPPER(RTRIM(LTRIM(", ")))"],
      mark ∉ text.toList) mark known
  simp only [operand]
  split
  · split
    · exact free
    · simp only [String.toList_append, List.mem_append, not_or]
      exact ⟨⟨around _ (by decide), free⟩, around _ (by decide)⟩
  · exact free

/-- The list of columns holds no mark that the columns do without. -/
theorem Report.notMem_definitions (spare : r.ColumnsSpare mark) (known : mark ∈ Sql.marks)
    {columns : List Column} (h : ∀ c ∈ columns, ∃ field, (field, c) ∈ r.columns) :
    mark ∉ (",\n    ".intercalate (columns.map (·.definition))).toList := by
  have around : ∀ text ∈ [",\n    ", " AS \"", "\"", "COALESCE(RTRIM(LTRIM(", ")), '') AS \""],
      mark ∉ text.toList :=
    (by decide : ∀ mark ∈ Sql.marks,
      ∀ text ∈ [",\n    ", " AS \"", "\"", "COALESCE(RTRIM(LTRIM(", ")), '') AS \""],
        mark ∉ text.toList) mark known
  apply Sql.notMem_intercalate (around _ (by decide))
  intro text member
  obtain ⟨c, hc, rfl⟩ := List.mem_map.mp member
  obtain ⟨field, entry⟩ := h c hc
  have expression := spare.expressions _ entry
  have header := spare.headers _ entry
  rw [Column.definition]
  split
  · simp only [String.toList_append, List.mem_append, not_or]
    exact ⟨⟨⟨expression, around _ (by decide)⟩, header⟩, around _ (by decide)⟩
  · simp only [String.toList_append, List.mem_append, not_or]
    exact ⟨⟨⟨⟨around _ (by decide), expression⟩, around _ (by decide)⟩, header⟩,
      around _ (by decide)⟩

/-- The order of the rows holds no mark that the columns do without. -/
theorem Query.notMem_renderOrder {q : Query} (spare : r.ColumnsSpare mark)
    (known : mark ∈ Sql.marks) {order : String} (h : q.renderOrder r = .ok order) :
    mark ∉ order.toList := by
  have around : ∀ text ∈ [", ", " ", "ASC", "DESC"], mark ∉ text.toList :=
    (by decide : ∀ mark ∈ Sql.marks, ∀ text ∈ [", ", " ", "ASC", "DESC"], mark ∉ text.toList)
      mark known
  obtain ⟨entries, rfl, hentries⟩ := renderOrder_eq_intercalate h
  apply Sql.notMem_intercalate (around _ (by decide))
  intro entry member
  obtain ⟨field, column, direction, hcolumn, rfl⟩ := hentries entry member
  have word : direction.word ∈ [", ", " ", "ASC", "DESC"] := by
    cases direction with
    | ascending => decide
    | descending => decide
  have expression := spare.expressions _ hcolumn
  simp only [String.toList_append, List.mem_append, not_or]
  exact ⟨⟨expression, around _ (by decide)⟩, around _ word⟩

/-- The text of a statement is not touched unless the query has a limit. -/
theorem Query.text_of_limited {q : Query} {settings : Settings} {sql text : String}
    {values bound : List Scalar} {warnings : List Warning}
    (h : q.limited settings sql values = .ok (text, bound, warnings)) :
    (q.limit = none ∧ text = sql) ∨
      (q.limit ≠ none ∧ Sql.withRowLimit settings.dialect sql = .ok text) := by
  cases limits : q.limit with
  | none =>
      simp only [limited, limits] at h
      exact .inl ⟨rfl, (Prod.mk.inj (Except.ok.inj h)).1.symm⟩
  | some limit => exact .inr ⟨Option.some_ne_none limit, (limited_ok limits h).2.1⟩

end Inquiry
