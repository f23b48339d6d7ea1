import Inquiry.Catalogue
import Inquiry.Proofs.Marks

/-!
# Values stand where they belong

A statement keeps its values apart from its text. `Query.writtenOut` is the
statement that has them in place instead: every predicate is written with its
own values, and the row limit stands in its own place. The two are linked by
substitution from left to right, for every way to write values, so a value
that was bound out of order would be found at the wrong predicate.

The report may use question marks for nothing else, and its skeleton has one
place for the conditions; both hold for every report of the catalogue.
-/

namespace Inquiry

open Sql (Fills FillsEach Enclosed)

/-- No text of a report can be mistaken for the place of a value. -/
structure Report.SparesPlaces (r : Report) : Prop where
  texts : ∀ s, .text s ∈ r.skeleton → '?' ∉ s.toList
  expressions : ∀ entry ∈ r.columns, '?' ∉ entry.2.expression.toList
  headers : ∀ entry ∈ r.columns, '?' ∉ entry.2.header.toList

theorem Report.SparesPlaces.columnsSpare {r : Report} (spares : r.SparesPlaces) :
    r.ColumnsSpare '?' :=
  ⟨spares.expressions, spares.headers⟩

/-- A test with its values in place. -/
def Test.writtenOut (write : Scalar → String) (test : Test) (c : Column) : String :=
  let value (v : Scalar) : String := write (c.bind test.foldsText v)
  match test with
  | .compare comparison v => test.operand c ++ " " ++ comparison.sign ++ " " ++ value v
  | .oneOf first others =>
    test.operand c ++ " IN (" ++ ", ".intercalate ((first :: others).map value) ++ ")"
  | .between low high => test.operand c ++ " BETWEEN " ++ value low ++ " AND " ++ value high
  | .isNull => test.operand c ++ " IS NULL"
  | .isNotNull => test.operand c ++ " IS NOT NULL"

/-- A predicate on a column of the report with its values in place. -/
def Predicate.writtenOut (write : Scalar → String) (r : Report) (p : Predicate) : String :=
  match r.column? p.field with
  | some column => p.test.writtenOut write column
  | none => ""

/-- The number of rows that a query may ask for. -/
def Settings.clamped (settings : Settings) (limit : Int) : Int :=
  if 0 < settings.maxRows then min limit settings.maxRows else limit

/-- The statement for a query with every value in place. -/
def Query.writtenOut (write : Scalar → String) (q : Query) (r : Report) (settings : Settings) :
    Except Failure String := do
  let columns ← q.resolveColumns r
  let order ← q.renderOrder r
  let sql := q.body (·.writtenOut write r) r columns order
  match q.limit with
  | none => return sql
  | some limit =>
    Sql.limitedTo (write (.number (.whole (settings.clamped limit)))) settings.dialect sql

/-- A statement with its values put in their places. -/
def Statement.writtenOut (write : Scalar → String) (s : Statement) : String :=
  String.ofList (Sql.substituted (s.values.map write) s.sql.toList)

namespace Test

variable {c : Column}

/-- The places of a list of values are separated like the values. -/
theorem intercalate_places (first : Scalar) (others : List Scalar) :
    ", ".intercalate ((first :: others).map fun _ => "?") =
      "?" ++ String.join (others.map fun _ => ", ?") := by
  apply String.toList_injective
  rw [String.toList_append, String.toList_join, String.toList_intercalate]
  induction others with
  | nil => simp
  | cons v others ih =>
      simp only [List.map_cons, List.intercalate_cons_cons, List.flatMap_cons] at ih ⊢
      rw [ih]
      simp

/-- The text of a test has one place for each of its values. -/
theorem fills (write : Scalar → String) (test : Test) (free : '?' ∉ c.expression.toList) :
    Fills ((test.values.map (c.bind test.foldsText)).map write) (test.text c).toList
      (test.writtenOut write c).toList := by
  have operand := test.operand_free (by decide) free
  have place (v : Scalar) := Fills.place (write (c.bind test.foldsText v))
  rw [text_eq]
  cases test with
  | compare comparison v =>
      have sign : '?' ∉ comparison.sign.toList := by cases comparison <;> decide
      have right := (place v).prepend (show '?' ∉ [' '] by decide)
      have whole := ((right.prepend sign).prepend (show '?' ∉ [' '] by decide)).prepend operand
      simpa [writtenOut, values] using whole
  | oneOf first others =>
      have members := (FillsEach.places (fun v => write (c.bind true v))
        (first :: others)).intercalate (show '?' ∉ ", ".toList by decide)
      rw [intercalate_places] at members
      have list := (members.prepend (show '?' ∉ " IN (".toList by decide)).postpend
        (show '?' ∉ [')'] by decide)
      simpa [writtenOut, values, foldsText, Function.comp_def] using list.prepend operand
  | between low high =>
      have second := (place high).prepend (show '?' ∉ " AND ".toList by decide)
      have both := ((place low).append second).prepend (show '?' ∉ " BETWEEN ".toList by decide)
      simpa [writtenOut, values] using both.prepend operand
  | isNull => exact .of_notMem (by simp [operand])
  | isNotNull => exact .of_notMem (by simp [operand])

end Test

theorem Predicate.fills {r : Report} (spares : r.SparesPlaces) (write : Scalar → String)
    (p : Predicate) :
    Fills ((p.boundValues r).map write) (p.sqlText r).toList (p.writtenOut write r).toList := by
  rw [boundValues, sqlText, writtenOut]
  cases found : r.column? p.field with
  | none => exact .of_notMem (by simp)
  | some column =>
      have free := spares.expressions _ (Report.mem_columns_of_column? found)
      exact p.test.fills write free

namespace Group

/-- Pieces that fill one by one still do when they are joined to a group; an
empty group has neither text nor values. -/
theorem joined_fillsEach {values sqls texts : List String} (h : FillsEach values sqls texts)
    (connective : Connective) (negated : Bool) :
    FillsEach values (joined connective negated sqls).toList
      (joined connective negated texts).toList := by
  unfold joined
  rw [← h.isEmpty_eq]
  cases sqls with
  | nil =>
      rw [h.values_eq_nil]
      exact .nil
  | cons first others =>
      have separator : '?' ∉ (" " ++ connective.word ++ " ").toList := by
        cases connective <;> decide
      have content := ((h.intercalate separator).prepend (show '?' ∉ ['('] by decide)).postpend
        (show '?' ∉ [')'] by decide)
      apply FillsEach.singleton
      cases negated with
      | false => simpa using content
      | true => simpa using content.prepend (show '?' ∉ "NOT ".toList by decide)

variable {r : Report}

theorem textBy_fillsEach (spares : r.SparesPlaces) (write : Scalar → String) (g : Group) :
    FillsEach (g.allPredicates.flatMap fun p => (p.boundValues r).map write)
      (g.textBy (·.sqlText r)).toList (g.textBy (·.writtenOut write r)).toList := by
  induction g using Group.induction with
  | mk predicates groups connective negated ih =>
      have own := FillsEach.flatMap predicates fun p _ =>
        FillsEach.singleton (p.fills spares write)
      have nested := FillsEach.flatMap groups ih
      rw [← List.flatMap_assoc, ← allPredicatesOf_eq, ← textsBy_eq, ← textsBy_eq] at nested
      rw [← List.map_eq_flatMap, ← List.map_eq_flatMap] at own
      rw [allPredicates_mk, textBy_mk, textBy_mk, List.flatMap_append]
      exact joined_fillsEach (own.append nested) connective negated

/-- The text of the conditions has the values of all predicates in their places. -/
theorem conditionsBy_fills (spares : r.SparesPlaces) (write : Scalar → String)
    (groups : List Group) :
    Fills (((allPredicatesOf groups).flatMap (·.boundValues r)).map write)
      (conditionsBy (·.sqlText r) groups).toList
      (conditionsBy (·.writtenOut write r) groups).toList := by
  have texts := FillsEach.flatMap groups fun g _ => textBy_fillsEach spares write g
  rw [← List.flatMap_assoc, ← allPredicatesOf_eq, ← textsBy_eq, ← textsBy_eq,
    ← List.map_flatMap] at texts
  simp only [conditionsBy]
  rw [← texts.isEmpty_eq]
  split
  · next empty =>
      rw [List.isEmpty_iff.mp empty] at texts
      rw [texts.values_eq_nil]
      exact .of_notMem (by decide)
  · exact texts.intercalate (by decide)

theorem joined_enclosed {connective : Connective} {negated : Bool} {members : List String}
    {text : String} (h : joined connective negated members = some text) :
    Enclosed text.toList := by
  rw [joined] at h
  split at h
  · cases h
  · cases h
    cases negated with
    | false => exact ⟨['('], by decide, _, ')', by simp; rfl, by decide⟩
    | true => exact ⟨['N', 'O', 'T', ' ', '('], by decide, _, ')', by simp; rfl, by decide⟩

theorem textsBy_enclosed (text : Predicate → String) (groups : List Group) :
    ∀ t ∈ textsBy text groups, Enclosed t.toList := by
  intro t member
  rw [textsBy_eq] at member
  obtain ⟨⟨predicates, nested, connective, negated⟩, -, ht⟩ := List.mem_flatMap.mp member
  rw [textBy_mk, Option.mem_toList] at ht
  exact joined_enclosed ht

/-- Conditions are enclosed, whatever the texts of their predicates are. -/
theorem conditionsBy_enclosed (text : Predicate → String) (groups : List Group) :
    Enclosed (conditionsBy text groups).toList := by
  have enclosed := textsBy_enclosed text groups
  rw [conditionsBy]
  cases texts : textsBy text groups with
  | nil => exact ⟨['1'], by decide, ['='], '1', rfl, by decide⟩
  | cons first others =>
      rw [texts] at enclosed
      exact Enclosed.intercalate enclosed " AND "

end Group

/-- A skeleton that holds a piece once has a part before and a part behind it. -/
theorem Skeleton.eq_append_of_count {skeleton : Skeleton} (h : skeleton.count .conditions = 1) :
    ∃ front back, skeleton = front ++ .conditions :: back ∧
      .conditions ∉ front ∧ .conditions ∉ back := by
  have member : .conditions ∈ skeleton := List.count_pos_iff.mp (by omega)
  obtain ⟨front, back, rfl, absent⟩ := List.eq_append_cons_of_mem member
  refine ⟨front, back, rfl, absent, ?_⟩
  rw [List.count_append, List.count_cons_self] at h
  exact List.count_eq_zero.mp (by omega)

namespace Report

variable {r : Report}

/-- The text of a piece of the skeleton. -/
def pieceText (r : Report) (columns conditions : String) : Skeleton.Piece → String
  | .text s => s
  | .columns => columns
  | .conditions => conditions
  | .column field => ((r.column? field).map (·.expression)).getD ""

theorem fill_eq (r : Report) (columns conditions : String) :
    r.fill columns conditions =
      Text.trim (String.join (r.skeleton.map (r.pieceText columns conditions))) := by
  refine congrArg (fun pieces => Text.trim (String.join pieces)) (List.map_congr_left ?_)
  intro piece _
  cases piece <;> rfl

/-- Pieces other than the conditions leave question marks to the values. -/
theorem pieceText_free (spares : r.SparesPlaces) {columns : String} (free : '?' ∉ columns.toList)
    {piece : Skeleton.Piece} (h : piece ∈ r.skeleton) (other : piece ≠ .conditions)
    (conditions : String) : '?' ∉ (r.pieceText columns conditions piece).toList := by
  cases piece with
  | text s => exact spares.texts s h
  | columns => exact free
  | conditions => exact absurd rfl other
  | column field =>
      rw [pieceText]
      cases found : r.column? field with
      | none => simp
      | some column =>
          have expression := spares.expressions _ (mem_columns_of_column? found)
          rwa [Option.map_some, Option.getD_some]

/-- Pieces other than the conditions have the same text for all conditions, and
leave question marks to the values. -/
theorem join_pieces (spares : r.SparesPlaces) {columns : String} (free : '?' ∉ columns.toList)
    {pieces : List Skeleton.Piece} (h : ∀ p ∈ pieces, p ∈ r.skeleton)
    (absent : .conditions ∉ pieces) :
    ∃ cs : List Char, '?' ∉ cs ∧ ∀ conditions,
      (String.join (pieces.map (r.pieceText columns conditions))).toList = cs := by
  refine ⟨(String.join (pieces.map (r.pieceText columns ""))).toList, ?_, ?_⟩
  · rw [String.toList_join, List.mem_flatMap]
    rintro ⟨text, member, mark⟩
    obtain ⟨piece, hpiece, rfl⟩ := List.mem_map.mp member
    have other : piece ≠ .conditions := by
      rintro rfl
      exact absent hpiece
    exact pieceText_free spares free (h _ hpiece) other "" mark
  · intro conditions
    refine congrArg (fun texts => (String.join texts).toList) (List.map_congr_left ?_)
    intro piece hpiece
    cases piece with
    | conditions => exact absurd hpiece absent
    | _ => rfl

/-- The conditions stand in one place of a filled skeleton. -/
theorem fill_around (spares : r.SparesPlaces) (once : r.skeleton.count .conditions = 1)
    {columns : String} (free : '?' ∉ columns.toList) :
    ∃ before after : List Char, '?' ∉ before ∧ '?' ∉ after ∧ ∀ conditions : String,
      Enclosed conditions.toList →
        (r.fill columns conditions).toList = before ++ conditions.toList ++ after := by
  obtain ⟨front, back, hskeleton, hfront, hback⟩ := Skeleton.eq_append_of_count once
  obtain ⟨before, freeBefore, hbefore⟩ := join_pieces spares free
    (fun p member => hskeleton ▸ List.mem_append_left _ member) hfront
  obtain ⟨after, freeAfter, hafter⟩ := join_pieces spares free
    (fun p member => hskeleton ▸ List.mem_append_right _ (List.mem_cons_of_mem _ member)) hback
  refine ⟨Text.trimStart before, Text.trimEnd after, ?_, ?_, ?_⟩
  · exact fun mark => freeBefore ((List.dropWhile_sublist _).subset mark)
  · intro mark
    have inside := (List.dropWhile_sublist _).subset (List.mem_reverse.mp mark)
    exact freeAfter (List.mem_reverse.mp inside)
  · intro conditions enclosed
    have joined : (String.join (r.skeleton.map (r.pieceText columns conditions))).toList =
        before ++ conditions.toList ++ after := by
      rw [hskeleton, String.toList_join, List.map_append, List.flatMap_append, List.map_cons,
        List.flatMap_cons, ← String.toList_join, ← String.toList_join, hbefore, hafter,
        List.append_assoc]
      rfl
    rw [fill_eq, Text.trim, String.toList_ofList, joined, Sql.trimmed_around enclosed]

end Report

/-- The expression of a column is made of its source and its table. -/
theorem Column.notMem_expression {c : Column} (source : '?' ∉ c.source.toList)
    (table : '?' ∉ c.table.toList) : '?' ∉ c.expression.toList := by
  have trimmed {s : String} (free : '?' ∉ s.toList) : '?' ∉ (Text.trim s).toList := by
    rw [Text.trim, String.toList_ofList]
    exact fun mark => free (Text.trimmed_sublist.subset mark)
  simp only [expression]
  split
  · exact trimmed source
  · simp only [String.toList_append, List.mem_append, not_or]
    exact ⟨⟨trimmed table, by decide⟩, trimmed source⟩

set_option maxRecDepth 10000 in
/-- The reports of the catalogue leave question marks to the values and have one
place for the conditions. -/
theorem Catalogue.sparesPlaces :
    ∀ r ∈ allReports, r.SparesPlaces ∧ r.skeleton.count .conditions = 1 := by
  have columns : ∀ r ∈ allReports, ∀ entry ∈ r.columns,
      ∀ s ∈ [entry.2.source, entry.2.table, entry.2.header], 63 ∉ s.toByteArray.data.toList := by
    decide +kernel
  have texts : ∀ r ∈ allReports, ∀ s, .text s ∈ r.skeleton → '?' ∉ s.toList := by
    intro r member s piece
    have reports : r = Cover.report ∨ r = Schaden.report := by
      simpa [allReports, domains, reports] using member
    -- The texts are written as lists of characters, which is faster than to read them again.
    rcases reports with rfl | rfl <;>
      simp only [Cover.report, Schaden.report, List.mem_cons, Skeleton.Piece.text.injEq,
        reduceCtorEq, List.not_mem_nil, or_false, false_or] at piece <;>
      rcases piece with rfl | rfl
    all_goals exact Sql.notMem_ofList (by decide +kernel)
  have once : ∀ r ∈ allReports, r.skeleton.count .conditions = 1 := by decide +kernel
  intro r member
  refine ⟨⟨texts r member, ?_, ?_⟩, once r member⟩
  · intro entry hentry
    have spare := columns r member entry hentry
    exact entry.2.notMem_expression (Sql.notMem_of_bytes (spare _ (by simp)))
      (Sql.notMem_of_bytes (spare _ (by simp)))
  · intro entry hentry
    exact Sql.notMem_of_bytes (columns r member entry hentry _ (by simp))

namespace Query

variable {q : Query} {r : Report} {settings : Settings}

/-- Before it is limited, a statement has its conditions in one place and no
other places for values. -/
theorem body_around (spares : r.SparesPlaces) (once : r.skeleton.count .conditions = 1)
    {columns : List Column} {order : String} (hcolumns : q.resolveColumns r = .ok columns)
    (horder : q.renderOrder r = .ok order) :
    ∃ before after : List Char, '?' ∉ before ∧ '?' ∉ after ∧ ∀ text, q.body text r columns order =
      String.ofList (before ++ (Group.conditionsBy text q.filters).toList ++ after) := by
  have definitions := r.notMem_definitions spares.columnsSpare (by decide)
    (mem_columns_of_resolveColumns hcolumns)
  obtain ⟨before, after, freeBefore, freeAfter, around⟩ :=
    Report.fill_around spares once definitions
  have sql (text : Predicate → String) :=
    around (Group.conditionsBy text q.filters) (Group.conditionsBy_enclosed text q.filters)
  by_cases unordered : order = ""
  · refine ⟨before, after, freeBefore, freeAfter, ?_⟩
    intro text
    rw [body, if_pos unordered, ← sql text, String.ofList_toList]
  · have free := notMem_renderOrder spares.columnsSpare (by decide) horder
    refine ⟨before, after ++ "\nORDER BY ".toList ++ order.toList, freeBefore, ?_, ?_⟩
    · simp [freeAfter, free]
    · intro text
      apply String.toList_injective
      rw [body, if_neg unordered, String.toList_append, String.toList_append, sql text]
      simp only [String.toList_ofList, List.append_assoc]

theorem allowedLimit_eq_clamped (settings : Settings) (limit : Int) :
    allowedLimit settings limit = settings.clamped limit := by
  rw [allowedLimit, Settings.clamped]
  split <;> split <;> omega

/-- A row limit in front of the rows takes the first value. -/
theorem fills_limit_first {values : List String} {opening rows mid text after : List Char}
    (fills : Fills values mid text) (freeOpening : '?' ∉ opening) (freeRows : '?' ∉ rows)
    (freeAfter : '?' ∉ after) (value : String) :
    Fills (value :: values) (opening ++ ('?' :: (") ".toList ++ rows ++ mid ++ after)))
      (opening ++ (value.toList ++ (") ".toList ++ rows ++ text ++ after))) := by
  have freeClosing : '?' ∉ ") ".toList ++ rows := by
    rw [List.mem_append]
    exact fun mark => mark.elim (by decide) freeRows
  have content := (fills.prepend freeClosing).postpend freeAfter
  exact ((Fills.place value).append content).prepend freeOpening

/-- A row limit behind the rows takes the last value. -/
theorem fills_limit_last {values : List String} {before mid text after closing : List Char}
    (fills : Fills values mid text) (freeBefore : '?' ∉ before) (freeAfter : '?' ∉ after)
    (freeClosing : '?' ∉ closing) (value : String) :
    Fills (values ++ [value]) (before ++ mid ++ (after ++ closing ++ ['?']))
      (before ++ text ++ (after ++ closing ++ value.toList)) := by
  have freeEnd : '?' ∉ after ++ closing := by
    rw [List.mem_append]
    exact fun mark => mark.elim freeAfter freeClosing
  exact (fills.prepend freeBefore).append ((Fills.place value).prepend freeEnd)

/-- A row limit takes its value at its own place: before all others in one
dialect, behind them in the other. -/
theorem limited_fills (write : Scalar → String) {limit : Int} (hlimit : q.limit = some limit)
    {before after mid text : List Char} (freeBefore : '?' ∉ before) (freeAfter : '?' ∉ after)
    (enclosed : Enclosed mid) (enclosedText : Enclosed text) {values : List Scalar}
    (fills : Fills (values.map write) mid text) {sql : String} {bound : List Scalar}
    {warnings : List Warning}
    (h : q.limited settings (String.ofList (before ++ mid ++ after)) values =
      .ok (sql, bound, warnings)) :
    ∃ written, Sql.limitedTo (write (.number (.whole (settings.clamped limit))))
        settings.dialect (String.ofList (before ++ text ++ after)) = .ok written ∧
      Fills (bound.map write) sql.toList written.toList := by
  obtain ⟨-, hplaced, rfl, -⟩ := limited_ok hlimit h
  rw [Sql.withRowLimit_eq] at hplaced
  simp only [boundWith, allowedLimit_eq_clamped]
  generalize Scalar.number (.whole (settings.clamped limit)) = value at *
  cases hdialect : settings.dialect with
  | ansi =>
      rw [hdialect, Sql.limitedTo_ansi_around enclosed] at hplaced
      cases hplaced
      refine ⟨_, Sql.limitedTo_ansi_around enclosedText _ before after, ?_⟩
      have freeEnd : '?' ∉ Text.trimEnd after := fun mark =>
        freeAfter (Text.trimEnd_sublist.subset mark)
      have whole := fills_limit_last fills freeBefore freeEnd
        (show '?' ∉ "\nLIMIT ".toList by decide) (write value)
      simpa [Sql.Dialect.limitsAtStart] using whole
  | mssql =>
      rw [hdialect] at hplaced
      rcases Sql.limitedTo_mssql_cases before after with
        nowhere | ⟨opening, rows, known, suffix, placed⟩
      · rw [nowhere enclosed] at hplaced
        cases hplaced
      · rw [placed enclosed] at hplaced
        cases hplaced
        have freeOpening : '?' ∉ opening.toList := by
          rcases known with rfl | rfl <;> decide
        have freeRows : '?' ∉ rows := fun mark => freeBefore (suffix.subset mark)
        have whole := fills_limit_first fills freeOpening freeRows freeAfter (write value)
        refine ⟨_, placed enclosedText _, ?_⟩
        simpa [Sql.Dialect.limitsAtStart] using whole

/-- Every way to write values agrees on the statement and on the query: with the
values of a statement in its places, it reads like the query written out. -/
theorem fills_of_toStatement (spares : r.SparesPlaces)
    (once : r.skeleton.count .conditions = 1) {s : Statement}
    (h : q.toStatement r settings = .ok s) (write : Scalar → String) :
    ∃ written, q.writtenOut write r settings = .ok written ∧
      Fills (s.values.map write) s.sql.toList written.toList := by
  obtain ⟨columns, order, hcolumns, known, horder, -, hlimited⟩ := toStatement_ok h
  obtain ⟨before, after, freeBefore, freeAfter, around⟩ := body_around spares once hcolumns horder
  have conditions := Group.conditionsBy_fills spares write q.filters
  rw [around] at hlimited
  simp only [writtenOut, hcolumns, horder, around, bind, Except.bind]
  cases hlimit : q.limit with
  | none =>
      simp only [limited, hlimit, Except.ok.injEq, Prod.mk.injEq] at hlimited
      obtain ⟨hsql, hvalues, -⟩ := hlimited
      refine ⟨_, rfl, ?_⟩
      rw [← hsql, ← hvalues, String.toList_ofList, String.toList_ofList]
      exact (conditions.prepend freeBefore).postpend freeAfter
  | some limit =>
      have enclosed (text : Predicate → String) := Group.conditionsBy_enclosed text q.filters
      obtain ⟨written, hwritten, fills⟩ := limited_fills write hlimit freeBefore freeAfter
        (enclosed _) (enclosed _) conditions hlimited
      exact ⟨written, hwritten, fills⟩

/-- Putting the values of a statement in its places, from left to right, gives
the query written out with every value where it belongs. There are as many
places as values. -/
theorem writtenOut_of_toStatement (spares : r.SparesPlaces)
    (once : r.skeleton.count .conditions = 1) {s : Statement}
    (h : q.toStatement r settings = .ok s) :
    (∀ write, q.writtenOut write r settings = .ok (s.writtenOut write)) ∧
      s.sql.toList.count '?' = s.values.length := by
  constructor
  · intro write
    obtain ⟨written, hwritten, fills⟩ := fills_of_toStatement spares once h write
    rw [hwritten, Statement.writtenOut, fills.filled, String.ofList_toList]
  · obtain ⟨_, -, fills⟩ := fills_of_toStatement spares once h Scalar.asText
    rw [fills.places, List.length_map]

/-- A list, a negated range below it, and a limit that has to give way. -/
theorem writtenOut_of_toStatement_towns :
    ∃ s, Query.towns.toStatement .towns { maxRows := 20 } = .ok s ∧
      Query.towns.writtenOut Scalar.asText .towns { maxRows := 20 } =
        .ok (s.writtenOut Scalar.asText) ∧
      s.values = [.number (.whole 20), .text "BONN", .text "ULM", .number (.whole 1),
        .number (.whole 9)] ∧
      s.sql.toList.count '?' = 5 := by
  have spares : Report.towns.SparesPlaces := by
    refine ⟨?_, by decide +kernel, by decide +kernel⟩
    intro s piece
    simp only [Report.towns, List.mem_cons, Skeleton.Piece.text.injEq, reduceCtorEq,
      List.not_mem_nil, or_false, false_or] at piece
    rcases piece with rfl | rfl <;> exact Sql.notMem_ofList (by decide)
  have values : (Query.towns.toStatement .towns { maxRows := 20 }).map (·.values) =
      .ok [.number (.whole 20), .text "BONN", .text "ULM", .number (.whole 1),
        .number (.whole 9)] := by decide +kernel
  obtain ⟨s, run, bound⟩ := ok_of_map values
  obtain ⟨written, places⟩ := writtenOut_of_toStatement spares (by decide) run
  refine ⟨s, run, written Scalar.asText, bound, ?_⟩
  rw [places, bound]
  rfl

end Query

end Inquiry
