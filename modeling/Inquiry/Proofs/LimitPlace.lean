import Inquiry.Proofs.Spelling
import Inquiry.Proofs.UnknownFields
import Inquiry.Sql.StandIn

/-!
# Where a row limit finds its place

The guard has a statement parsed, and a parser may skip comments, or look behind
definitions for the word SELECT. The row limit wants that word first, with a blank behind
it (`Report.takesLimit_iff`). So a report can be accepted and have no place for a limit.

Whether a limit finds its place is a matter of the statement without it, and of the report
alone if the text in front of the first place of its skeleton decides
(`Query.takesLimit_of_body`). A limit without a place is the only failure that belongs to
no class, besides numbers with too many digits (`Query.failures_of_toStatement`).
-/

namespace Inquiry

open Text

/-- Whether a piece of a skeleton is a place for the columns or for the conditions. -/
def Skeleton.Piece.isPlace (piece : Skeleton.Piece) : Bool :=
  piece = .columns || piece = .conditions

namespace Report

variable {r : Report}

/-- Whether the row limit finds its place in the sample of a report. -/
def TakesLimit (r : Report) : Prop :=
  (Sql.afterWord? "SELECT".toList r.sample.toList).isSome = true

/-- The pieces of a report in front of its first place. -/
def front (r : Report) : Skeleton := r.skeleton.takeWhile (!·.isPlace)

/-- The text of a report in front of its first place. -/
def lead (r : Report) : List Char :=
  trimStart (r.front.flatMap fun piece => (r.pieceText "" "" piece).toList)

/-- The text in front of the first place is not the beginning of SELECT, or all of it, so
whatever comes behind it does not change how the statement begins. -/
def IsDecided (r : Report) : Prop := Sql.begun "SELECT".toList r.lead = false

/-- The row limit finds its place in the sample exactly if that begins with the word SELECT,
in any case, and a blank. -/
theorem takesLimit_iff (r : Report) :
    r.TakesLimit ↔ ∃ word blank rest, r.sample.toList = word ++ blank :: rest ∧
      upper word = "SELECT".toList ∧ isBlank blank = true := by
  simp only [TakesLimit, Sql.isSome_afterWord?_iff, Sql.upper_eq_select_iff]

theorem IsDecided.lead_ne_nil (decided : r.IsDecided) : r.lead ≠ [] := by
  intro empty
  rw [IsDecided, empty] at decided
  cases decided

theorem flatMap_front (r : Report) (columns conditions : String) :
    (r.front.flatMap fun piece => (r.pieceText columns conditions piece).toList) =
      r.front.flatMap fun piece => (r.pieceText "" "" piece).toList := by
  refine List.flatMap_congr fun piece member => ?_
  have noPlace := List.mem_takeWhile_imp member
  cases piece with
  | text s => rfl
  | column field => rfl
  | columns => cases noPlace
  | conditions => cases noPlace

/-- Behind the front there is a place, and the conditions are at it or behind it. -/
theorem exists_place (place : .conditions ∈ r.skeleton) :
    ∃ (piece : Skeleton.Piece) (back : Skeleton), piece.isPlace = true ∧
      .conditions ∈ piece :: back ∧ r.skeleton = r.front ++ piece :: back := by
  have whole := List.takeWhile_append_dropWhile (p := (!·.isPlace)) (l := r.skeleton)
  have inside : .conditions ∈ r.skeleton.dropWhile (!·.isPlace) := by
    rw [← whole] at place
    refine (List.mem_append.mp place).resolve_left fun early => ?_
    cases List.mem_takeWhile_imp early
  obtain ⟨piece, back, split⟩ := List.exists_cons_of_ne_nil (List.ne_nil_of_mem inside)
  have first := List.head?_dropWhile_not (!·.isPlace) r.skeleton
  rw [split] at first inside whole
  exact ⟨piece, back, by simpa using first, inside, whole.symm⟩

/-- The texts of all pieces: the front, and what depends on the query. -/
theorem toList_join (r : Report) {piece : Skeleton.Piece} {back : Skeleton}
    (split : r.skeleton = r.front ++ piece :: back) (columns conditions : String) :
    (String.join (r.skeleton.map (r.pieceText columns conditions))).toList =
      (r.front.flatMap fun piece => (r.pieceText "" "" piece).toList) ++
        (piece :: back).flatMap fun piece => (r.pieceText columns conditions piece).toList := by
  rw [String.toList_join, List.flatMap_map, split, List.flatMap_append, flatMap_front]

theorem sample_eq (place : .conditions ∈ r.skeleton) :
    ∃ tail, r.sample.toList = r.lead ++ '1' :: tail := by
  obtain ⟨piece, back, isPlace, -, split⟩ := exists_place place
  have digit : ∃ rest, (r.pieceText "1" "1=1" piece).toList = '1' :: rest := by
    cases piece with
    | columns => exact ⟨[], by rw [pieceText]; decide⟩
    | conditions => exact ⟨['=', '1'], by rw [pieceText]; decide⟩
    | text s => cases isPlace
    | column field => cases isPlace
  obtain ⟨rest, digit⟩ := digit
  have visible : isBlank '1' = false := by decide
  rw [sample, fill_eq, Text.trim, String.toList_ofList, toList_join r split, List.flatMap_cons,
    digit, List.cons_append, trimmed, trimStart_visible visible, trimEnd_visible visible]
  exact ⟨_, rfl⟩

theorem fill_append_eq (place : .conditions ∈ r.skeleton) (nonempty : r.lead ≠ [])
    (columns : String) {conditions : String} (enclosed : Sql.Enclosed conditions.toList)
    (more : List Char) :
    ∃ tail, (r.fill columns conditions).toList ++ more = r.lead ++ tail := by
  obtain ⟨piece, back, -, behind, split⟩ := exists_place place
  obtain ⟨before, after, around⟩ := List.append_of_mem behind
  rw [fill_eq, Text.trim, String.toList_ofList, toList_join r split, around, List.flatMap_append,
    List.flatMap_cons]
  have own : (r.pieceText columns conditions .conditions).toList = conditions.toList := rfl
  rw [own, ← List.append_assoc, ← List.append_assoc, Sql.trimmed_around enclosed,
    trimStart_append nonempty]
  simp only [List.append_assoc]
  exact ⟨_, rfl⟩

/-- The row limit finds its place in every statement of a report, or in none. -/
theorem isSome_afterWord?_fill (place : .conditions ∈ r.skeleton) (decided : r.IsDecided)
    (columns : String) {conditions : String} (enclosed : Sql.Enclosed conditions.toList)
    (more : List Char) :
    (Sql.afterWord? "SELECT".toList
      (trimStart ((r.fill columns conditions).toList ++ more))).isSome = true ↔ r.TakesLimit := by
  obtain ⟨tail, split⟩ := sample_eq place
  have nonempty := decided.lead_ne_nil
  obtain ⟨behind, filled⟩ := fill_append_eq place nonempty columns enclosed more
  have starts : trimStart (r.lead ++ behind) = r.lead ++ behind := by
    rw [lead] at nonempty ⊢
    rw [trimStart_append (by rwa [trimStart_trimStart]), trimStart_trimStart]
  rw [TakesLimit, filled, starts, split, Sql.isSome_afterWord?_append decided]

end Report

namespace Query

variable {q : Query} {r : Report} {settings : Settings} {failure : Failure}

/-- The row limit finds its place in a statement if it does in the sample. -/
theorem takesLimit_of_body (place : .conditions ∈ r.skeleton) (decided : r.IsDecided) (q : Query)
    (columns : List Column) (order : String) :
    (Sql.afterWord? "SELECT".toList
      (trimStart (q.body (·.sqlText r) r columns order).toList)).isSome = true ↔ r.TakesLimit := by
  have filled := Report.isSome_afterWord?_fill place decided
    (",\n    ".intercalate (columns.map (·.definition)))
    (Group.conditionsBy_enclosed (·.sqlText r) q.filters)
  simp only [body]
  split
  · simpa using filled []
  · rw [String.toList_append, String.toList_append, List.append_assoc]
    exact filled _

/-- Without its limit, a query is rendered as its body. -/
theorem toStatement_without_limit {columns : List Column} {order : String}
    (hcolumns : q.resolveColumns r = .ok columns)
    (known : ∀ p ∈ q.allPredicates, r.hasField p.field = true)
    (writable : ∀ p ∈ q.allPredicates, p.IsWritable r) (horder : q.renderOrder r = .ok order) :
    ∃ s, { q with limit := none }.toStatement r settings = .ok s ∧
      s.sql = q.body (·.sqlText r) r columns order :=
  ⟨_, toStatement_eq (q := { q with limit := none }) hcolumns known writable horder, rfl⟩

theorem class_of_toStatement (h : q.toStatement r settings = .error failure) :
    failure.code? = some .unresolvedField ∨ failure = .rowLimitWithoutSelect ∨
      failure = .integerNotWritten ∧ ¬ q.IsWritable r settings := by
  rcases toStatement_error h with ⟨field, -, rfl⟩ | rfl | unwritable | found
  · exact .inl rfl
  · exact .inl rfl
  · exact .inr (.inr unwritable)
  · obtain ⟨columns, order, -, -, -, -, failed, -⟩ := found
    exact .inr (.inl (withRowLimit_error failed).1)

/-- A row limit fails exactly if it is the only thing that stands in the way, and has to
be put behind a SELECT which is not there. -/
theorem refused_iff :
    q.toStatement r settings = .error .rowLimitWithoutSelect ↔
      settings.dialect = .mssql ∧ (∃ n, q.limit = some n ∧ failsToReport settings n = false) ∧
        ∃ s, { q with limit := none }.toStatement r settings = .ok s ∧
          Sql.afterWord? "SELECT".toList (trimStart s.sql.toList) = none := by
  constructor
  · intro h
    rcases toStatement_error h with ⟨field, -, same⟩ | same | ⟨same, -⟩ | found
    · cases same
    · cases same
    · cases same
    · obtain ⟨columns, order, hcolumns, known, horder, writable, failed, limits⟩ := found
      obtain ⟨-, dialect, missing⟩ := withRowLimit_error failed
      obtain ⟨n, limit⟩ := Option.ne_none_iff_exists'.mp limits
      obtain ⟨s, run, text⟩ := toStatement_without_limit hcolumns known writable.values horder
      exact ⟨dialect, ⟨n, limit, writable.limit n limit⟩, s, run, text ▸ missing⟩
  · rintro ⟨dialect, ⟨n, limit, reports⟩, s, run, missing⟩
    have writable := (isWritable_of_toStatement run).values
    obtain ⟨columns, order, hcolumns, known, horder, -, limited⟩ := toStatement_ok run
    obtain ⟨text, -⟩ := Prod.mk.inj (Except.ok.inj limited)
    rw [← text] at missing
    rw [show q.toStatement r settings = _ from toStatement_eq hcolumns known writable horder,
      limited_some limit, reports, dialect]
    change ((Sql.withRowLimit .mssql
      (body (·.sqlText r) { q with limit := none } r columns order)).map _).map _ = _
    rw [Sql.withRowLimit, missing]
    rfl

/-- Besides a wrong field, a query fails only for a number with too many digits, or because
its row limit finds no place. The latter takes the dialect that puts the limit behind
SELECT, and a query that is rendered without its limit to a statement which does not begin
with SELECT and a blank. If the text in front of the first place decides, then this depends
on the report alone: on a report whose sample begins otherwise, every such limit fails,
and on all others none does. -/
theorem failures_of_toStatement (q : Query) (r : Report) (settings : Settings) :
    (∀ failure, q.toStatement r settings = .error failure →
      failure.code? = some .unresolvedField ∨ failure = .rowLimitWithoutSelect ∨
        failure = .integerNotWritten ∧ ¬ q.IsWritable r settings) ∧
    (q.toStatement r settings = .error .rowLimitWithoutSelect ↔
      settings.dialect = .mssql ∧ (∃ n, q.limit = some n ∧ failsToReport settings n = false) ∧
        ∃ s, { q with limit := none }.toStatement r settings = .ok s ∧
          Sql.afterWord? "SELECT".toList (trimStart s.sql.toList) = none) ∧
    (.conditions ∈ r.skeleton → r.IsDecided →
      (q.toStatement r settings = .error .rowLimitWithoutSelect ↔
        settings.dialect = .mssql ∧ (∃ n, q.limit = some n ∧ failsToReport settings n = false) ∧
          (∃ s, { q with limit := none }.toStatement r settings = .ok s) ∧
          ¬ ∃ word blank rest, r.sample.toList = word ++ blank :: rest ∧
            upper word = "SELECT".toList ∧ isBlank blank = true)) := by
  refine ⟨fun _ => class_of_toStatement, refused_iff, fun place decided => ?_⟩
  have same (s : Statement) (run : { q with limit := none }.toStatement r settings = .ok s) :
      Sql.afterWord? "SELECT".toList (trimStart s.sql.toList) = none ↔ ¬ r.TakesLimit := by
    obtain ⟨columns, order, -, -, -, -, limited⟩ := toStatement_ok run
    obtain ⟨text, -⟩ := Prod.mk.inj (Except.ok.inj limited)
    rw [← text, ← takesLimit_of_body place decided _ columns order,
      Option.not_isSome_iff_eq_none]
  rw [refused_iff, ← r.takesLimit_iff]
  refine and_congr_right fun _ => and_congr_right fun _ => ?_
  rw [← exists_and_right]
  exact exists_congr fun s => and_congr_right (same s)

end Query

/-- The report of towns with a comment in front of its statement. -/
def Report.commented : Report :=
  { towns with
    skeleton := [.text "-- Orte\nSELECT ", .columns, .text " FROM ORTE T WHERE ", .conditions] }

/-- The comment decides for every query: this limit finds no place. -/
theorem Query.failures_of_toStatement_commented :
    (.conditions ∈ Report.commented.skeleton ∧ Report.commented.IsDecided) ∧
      ¬ Report.commented.TakesLimit ∧
        towns.toStatement .commented {} = .error .rowLimitWithoutSelect := by
  have place : .conditions ∈ Report.commented.skeleton := by decide
  have evaluated : Sql.begun "SELECT".toList Report.commented.lead = false ∧
      (Sql.afterWord? "SELECT".toList Report.commented.sample.toList).isSome = false ∧
      ({ towns with limit := none }.toStatement .commented {}).isOk = true := by decide +kernel
  obtain ⟨decided, missing, unlimited⟩ := evaluated
  have refused : ¬ Report.commented.TakesLimit := ne_true_of_eq_false missing
  obtain ⟨-, -, alone⟩ := failures_of_toStatement towns .commented {}
  exact ⟨⟨place, decided⟩, refused, (alone place decided).mpr
    ⟨rfl, ⟨_, rfl, rfl⟩, ok_of_isOk unlimited, (Report.takesLimit_iff _).not.mp refused⟩⟩

/-- A parser that skips the comment lets the report be accepted, and a row limit for it fails
with a failure that belongs to no class, though the query is rendered without its limit. -/
theorem Query.limit_behind_comment :
    Report.commented.flaw? .standIn = none ∧
      (∃ s, { towns with limit := none }.toStatement .commented {} = .ok s) ∧
      ∃ failure, towns.toStatement .commented {} = .error failure ∧ failure.code? = none := by
  have evaluated : Report.commented.flaw? .standIn = none ∧
      ({ towns with limit := none }.toStatement .commented {}).isOk = true ∧
      towns.toStatement .commented {} = .error .rowLimitWithoutSelect := by decide +kernel
  obtain ⟨accepted, unlimited, failed⟩ := evaluated
  exact ⟨accepted, ok_of_isOk unlimited, .rowLimitWithoutSelect, failed, rfl⟩

end Inquiry
