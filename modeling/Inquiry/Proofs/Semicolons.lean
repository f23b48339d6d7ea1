import Inquiry.Proofs.Acceptance
import Inquiry.Proofs.Renderable
import Inquiry.Sql.StandIn

/-!
# Semicolons in a statement

The guard looks at a report whose places are filled with samples, and overlooks
the semicolons that end it. It has all others refused, whatever its parser makes
of them. So the semicolons of an accepted report stand in a row at its end, also
when its places are filled with something else. But the order of the rows and a
row limit are written behind them.
-/

namespace Inquiry

open Text

namespace Sql

/-- A text from its first semicolon on. -/
def fromSemicolon (cs : List Char) : List Char := cs.dropWhile (· ≠ ';')

/-- A text with the given number of semicolons, all in a row, and nothing but
blanks behind them. -/
def ClosedBy (n : Nat) (cs : List Char) : Prop :=
  ∃ blanks, fromSemicolon cs = List.replicate n ';' ++ blanks ∧ ∀ c ∈ blanks, isBlank c = true

variable {n : Nat} {cs front blanks x y : List Char}

/-- What comes before the first semicolon has none. -/
theorem exists_fromSemicolon (cs : List Char) :
    ∃ before, cs = before ++ fromSemicolon cs ∧ ';' ∉ before := by
  refine ⟨cs.takeWhile (· ≠ ';'), ?_, ?_⟩
  · rw [fromSemicolon, List.takeWhile_append_dropWhile]
  · intro member
    simpa using List.mem_takeWhile_imp member

theorem fromSemicolon_append (free : ';' ∉ front) (rest : List Char) :
    fromSemicolon (front ++ rest) = fromSemicolon rest := by
  refine List.dropWhile_append_of_pos ?_
  intro c member
  have other : c ≠ ';' := by
    rintro rfl
    exact free member
  exact decide_eq_true other

theorem notMem_of_blanks (h : ∀ c ∈ blanks, isBlank c = true) : ';' ∉ blanks :=
  fun member => absurd (h ';' member) (by decide)

theorem fromSemicolon_around (free : ';' ∉ front) {behind : List Char} (free' : ';' ∉ behind)
    (n : Nat) : fromSemicolon (front ++ (List.replicate n ';' ++ behind)) =
      if n = 0 then [] else List.replicate n ';' ++ behind := by
  rw [fromSemicolon_append free]
  cases n with
  | zero =>
      have absent := fromSemicolon_append free' []
      rwa [List.append_nil] at absent
  | succ n => rfl

/-- A text has one semicolon at most, and that at its end, if its first semicolon is
its last character. -/
theorem semicolon_at_end_iff : (∀ before behind, cs = before ++ ';' :: behind → behind = []) ↔
    fromSemicolon cs = [] ∨ fromSemicolon cs = [';'] := by
  obtain ⟨before, split, -⟩ := exists_fromSemicolon cs
  constructor
  · intro single
    cases rest : fromSemicolon cs with
    | nil => exact .inl rfl
    | cons c behind =>
        have mark := List.head?_dropWhile_not (· ≠ ';') cs
        rw [← fromSemicolon, rest] at mark
        obtain rfl : c = ';' := by simpa using mark
        rw [rest] at split
        rw [single _ _ split]
        exact .inr rfl
  · rintro tail before behind rfl
    rw [fromSemicolon, List.dropWhile_append] at tail
    split at tail
    · simpa using tail
    · next begun =>
        have length := congrArg List.length (tail.resolve_left (by simp))
        have positive := List.length_pos_iff.mpr fun empty => begun (List.isEmpty_iff.mpr empty)
        simp only [List.length_append, List.length_cons, List.length_nil] at length
        omega

theorem closedBy_append_iff (free : ';' ∉ front) : ClosedBy n (front ++ cs) ↔ ClosedBy n cs := by
  rw [ClosedBy, fromSemicolon_append free]
  rfl

theorem closedBy_replicate (n : Nat) (h : ∀ c ∈ blanks, isBlank c = true) :
    ClosedBy n (List.replicate n ';' ++ blanks) := by
  have around := fromSemicolon_around (show ';' ∉ [] by simp) (notMem_of_blanks h) n
  rw [List.nil_append] at around
  rw [ClosedBy, around]
  split
  · next none =>
      subst none
      exact ⟨[], rfl, by simp⟩
  · exact ⟨blanks, rfl, h⟩

theorem trimEnd_semicolons (n : Nat) (before behind : List Char) :
    trimEnd (before ++ (List.replicate (n + 1) ';' ++ behind)) =
      before ++ (List.replicate (n + 1) ';' ++ trimEnd behind) := by
  have ends := trimEnd_visible (c := ';') (by decide) (before ++ List.replicate n ';') behind
  simpa [List.replicate_succ'] using ends

namespace ClosedBy

/-- A text with its semicolons at the end consists of what is before them, of them,
and of blanks. -/
theorem eq_append (h : ClosedBy n cs) :
    ∃ front blanks, cs = front ++ (List.replicate n ';' ++ blanks) ∧ ';' ∉ front ∧
      ∀ c ∈ blanks, isBlank c = true := by
  obtain ⟨blanks, tail, h⟩ := h
  obtain ⟨front, split, free⟩ := exists_fromSemicolon cs
  rw [tail] at split
  exact ⟨front, blanks, split, free, h⟩

/-- Nothing is visible behind a part with a semicolon but further semicolons. -/
theorem of_append (h : ClosedBy n (x ++ y)) (mark : ';' ∈ x) :
    ∀ c ∈ y, c = ';' ∨ isBlank c = true := by
  obtain ⟨blanks, split, h⟩ := h
  have begun : ¬ (x.dropWhile (· ≠ ';')).isEmpty = true := by
    rw [List.isEmpty_iff, List.dropWhile_eq_nil_iff]
    intro none
    simpa using none ';' mark
  rw [fromSemicolon, List.dropWhile_append, if_neg begun] at split
  intro c member
  have behind : c ∈ List.replicate n ';' ++ blanks := split ▸ List.mem_append_right _ member
  rcases List.mem_append.mp behind with same | blank
  · exact .inl (List.eq_of_mem_replicate same)
  · exact .inr (h c blank)

/-- Trimming leaves the semicolons at the very end. -/
theorem trimmed_eq (h : ClosedBy n cs) :
    ∃ before, trimmed cs = before ++ List.replicate n ';' ∧ ';' ∉ before := by
  obtain ⟨front, blanks, rfl, free, blank⟩ := h.eq_append
  have nothing : trimEnd blanks = [] := trimEnd_of_blanks blank
  cases n with
  | zero =>
      refine ⟨_, (List.append_nil _).symm, ?_⟩
      intro mark
      rcases List.mem_append.mp (trimmed_sublist.subset mark) with mark | mark
      · exact free mark
      · exact notMem_of_blanks blank mark
  | succ n =>
      have starts : trimStart (front ++ (List.replicate (n + 1) ';' ++ blanks)) =
          trimStart front ++ (List.replicate (n + 1) ';' ++ blanks) :=
        trimStart_visible (by decide) front _
      refine ⟨trimStart front, ?_, fun mark => free ((List.dropWhile_sublist _).subset mark)⟩
      rw [trimmed, starts, trimEnd_semicolons, nothing, List.append_nil]

theorem count_eq (h : ClosedBy n cs) : cs.count ';' = n := by
  obtain ⟨front, blanks, rfl, free, blank⟩ := h.eq_append
  rw [List.count_append, List.count_append, List.count_eq_zero.mpr free,
    List.count_eq_zero.mpr (notMem_of_blanks blank), List.count_replicate_self]
  omega

theorem of_trimmed (h : ClosedBy n (trimmed cs)) : ClosedBy n cs := by
  obtain ⟨lead, trail, split, blankLead, blankTrail⟩ := exists_blanks cs
  obtain ⟨front, blanks, eq, free, blank⟩ := h.eq_append
  have whole : cs = (lead ++ front) ++ (List.replicate n ';' ++ (blanks ++ trail)) := by
    rw [split, eq]
    simp only [List.append_assoc]
  have free : ';' ∉ lead ++ front := by
    rw [List.mem_append, not_or]
    exact ⟨notMem_of_blanks blankLead, free⟩
  rw [whole, closedBy_append_iff free]
  apply closedBy_replicate
  intro c member
  rcases List.mem_append.mp member with member | member
  · exact blank c member
  · exact blankTrail c member

end ClosedBy

/-- The guard overlooks nothing but semicolons in a row at the end. -/
theorem closedBy_of_candidate (unbroken : ';' ∉ candidate cs) : ClosedBy (cs.count ';') cs := by
  have closed : ∃ n, ClosedBy n (trimmed cs) := by
    generalize hkept : ((trimmed cs).reverse.dropWhile (· = ';')).reverse = kept
    generalize hrun : (trimmed cs).reverse.takeWhile (· = ';') = run
    have split : trimmed cs = kept ++ run.reverse := by
      rw [← hkept, ← hrun, ← List.reverse_append, List.takeWhile_append_dropWhile,
        List.reverse_reverse]
    have same : run = List.replicate run.length ';' := by
      rw [List.eq_replicate_iff]
      refine ⟨rfl, ?_⟩
      rw [← hrun]
      intro c member
      simpa using List.mem_takeWhile_imp member
    have free : ';' ∉ kept := by
      rw [candidate, hkept] at unbroken
      rwa [← List.count_eq_zero, ← count_trimmed (by decide), List.count_eq_zero]
    refine ⟨run.length, ?_⟩
    rw [split, same, List.reverse_replicate, List.length_replicate, closedBy_append_iff free]
    have ends : ∀ c ∈ ([] : List Char), isBlank c = true := by simp
    simpa using closedBy_replicate run.length ends
  obtain ⟨n, closed⟩ := closed
  have closed := closed.of_trimmed
  rwa [closed.count_eq]

/-- A row limit leaves the semicolons where they are. It is written behind them in one
dialect, and before them in the other one. -/
theorem fromSemicolon_withRowLimit {dialect : Dialect} {sql limited : String}
    {before behind : List Char} (hsql : sql.toList = before ++ (List.replicate n ';' ++ behind))
    (free : ';' ∉ before) (free' : ';' ∉ behind) (h : withRowLimit dialect sql = .ok limited) :
    ∃ after, ';' ∉ after ∧ (after = [] ↔ behind = [] ∧ dialect = .mssql) ∧
      fromSemicolon limited.toList = if n = 0 then [] else List.replicate n ';' ++ after := by
  cases dialect with
  | ansi =>
      have freeEnd : ';' ∉ trimEnd behind ++ "\nLIMIT ?".toList := by
        rw [List.mem_append, not_or]
        exact ⟨fun mark => free' (trimEnd_sublist.subset mark), by decide⟩
      refine ⟨trimEnd behind ++ "\nLIMIT ?".toList, freeEnd, by simp, ?_⟩
      rw [withRowLimit_ansi h, hsql]
      cases n with
      | zero =>
          have absent : ';' ∉ trimEnd (before ++ behind) ++ "\nLIMIT ?".toList := by
            simp only [List.mem_append, not_or]
            refine ⟨fun mark => ?_, by decide⟩
            rcases List.mem_append.mp (trimEnd_sublist.subset mark) with mark | mark
            · exact free mark
            · exact free' mark
          have none := fromSemicolon_append absent []
          rwa [List.append_nil] at none
      | succ n =>
          rw [trimEnd_semicolons, List.append_assoc, List.append_assoc]
          exact fromSemicolon_around free freeEnd (n + 1)
  | mssql =>
      obtain ⟨opening, known, taken, rest, split, freeTaken, hlimited⟩ :=
        withRowLimit_mssql (show ';' ∈ marks by decide) h
      have freeOpening : ';' ∉ opening.toList :=
        (by decide : ∀ opening ∈ limitOpenings, ';' ∉ opening.toList) opening known
      refine ⟨behind, free', by simp, ?_⟩
      rw [hlimited, fromSemicolon_append freeOpening, ← fromSemicolon_append freeTaken, ← split,
        hsql, fromSemicolon_around free free']

end Sql

namespace Report

variable {r : Report} {n : Nat} {columns conditions : String} {pieces : List Skeleton.Piece}

/-- The sample of a report has no semicolons but those that end it. -/
def IsUnbroken (r : Report) : Prop := ';' ∉ Sql.candidate r.sample.toList

instance (r : Report) : Decidable r.IsUnbroken :=
  inferInstanceAs (Decidable (';' ∉ Sql.candidate r.sample.toList))

/-- The guard sees to it with every parser. -/
theorem isUnbroken_of_accepted {parser : Sql.Parser} (accepted : r.flaw? parser = none) :
    r.IsUnbroken :=
  ((parser.objection?_eq_none_iff r.sample).mp ((flaw?_eq_none_iff parser r).mp accepted).safe).2.2

/-- The number of semicolons of a report, which end its statement. -/
def closing (r : Report) : Nat := r.sample.toList.count ';'

/-- Text behind which no sample stands is the same for all fillings. -/
theorem join_of_silent
    (silent : ∀ c ∈ (String.join (pieces.map (r.pieceText "1" "1=1"))).toList,
      c = ';' ∨ isBlank c = true) :
    String.join (pieces.map (r.pieceText columns conditions)) =
      String.join (pieces.map (r.pieceText "1" "1=1")) := by
  refine congrArg String.join (List.map_congr_left ?_)
  intro piece member
  have absent : '1' ∉ (r.pieceText "1" "1=1" piece).toList := by
    intro one
    have visible := silent '1' (by
      rw [String.toList_join, List.mem_flatMap]
      exact ⟨_, List.mem_map_of_mem member, one⟩)
    revert visible
    decide
  cases piece with
  | text s => rfl
  | columns => exact absurd (show '1' ∈ "1".toList by decide) absent
  | conditions => exact absurd (show '1' ∈ "1=1".toList by decide) absent
  | column field => rfl

/-- Semicolons that end the text with samples in its places end it with anything
else in them. -/
theorem closedBy_join (free : ';' ∉ columns.toList) (free' : ';' ∉ conditions.toList)
    (sample : Sql.ClosedBy n (String.join (pieces.map (r.pieceText "1" "1=1"))).toList) :
    Sql.ClosedBy n (String.join (pieces.map (r.pieceText columns conditions))).toList := by
  induction pieces with
  | nil => exact sample
  | cons piece pieces ih =>
      rw [List.map_cons, String.toList_join, List.flatMap_cons, ← String.toList_join] at sample ⊢
      by_cases mark : ';' ∈ (r.pieceText "1" "1=1" piece).toList
      · have same : r.pieceText columns conditions piece = r.pieceText "1" "1=1" piece := by
          cases piece with
          | text s => rfl
          | columns => exact absurd mark (show ';' ∉ "1".toList by decide)
          | conditions => exact absurd mark (show ';' ∉ "1=1".toList by decide)
          | column field => rfl
        rw [same, join_of_silent (sample.of_append mark)]
        exact sample
      · have free : ';' ∉ (r.pieceText columns conditions piece).toList := by
          cases piece with
          | text s => exact mark
          | columns => exact free
          | conditions => exact free'
          | column field => exact mark
        rw [Sql.closedBy_append_iff mark] at sample
        rw [Sql.closedBy_append_iff free]
        exact ih sample

/-- The statement of a report ends in the semicolons of the report, whatever stands in
its places, if the sample has no other ones. -/
theorem fill_closed (unbroken : r.IsUnbroken) (free : ';' ∉ columns.toList)
    (free' : ';' ∉ conditions.toList) :
    ∃ before, (r.fill columns conditions).toList = before ++ List.replicate r.closing ';' ∧
      ';' ∉ before := by
  have sample := Sql.closedBy_of_candidate unbroken
  change Sql.ClosedBy r.closing _ at sample
  rw [Report.sample, fill_eq, Text.trim, String.toList_ofList] at sample
  rw [fill_eq, Text.trim, String.toList_ofList]
  exact (closedBy_join free free' sample.of_trimmed).trimmed_eq

end Report

variable {r : Report}

theorem Test.notMem_text {c : Column} (test : Test) (free : ';' ∉ c.expression.toList) :
    ';' ∉ (test.text c).toList := by
  have operand := test.operand_free (by decide) free
  rw [text_eq]
  cases test with
  | compare comparison v =>
      have sign : ';' ∉ comparison.sign.toList := by cases comparison <;> decide
      simp [operand, sign]
  | oneOf first others => simp [operand]
  | between low high => simp [operand]
  | isNull => simp [operand]
  | isNotNull => simp [operand]

theorem Predicate.notMem_sqlText (spare : r.ColumnsSpare ';') (p : Predicate) :
    ';' ∉ (p.sqlText r).toList := by
  rw [sqlText]
  cases found : r.column? p.field with
  | none => simp
  | some column =>
      have expression := spare.expressions _ (Report.mem_columns_of_column? found)
      exact p.test.notMem_text expression

namespace Group

variable {text : Predicate → String}

theorem notMem_of_joined {connective : Connective} {negated : Bool} {members : List String}
    {joint : String} (h : ∀ t ∈ members, ';' ∉ t.toList)
    (joins : joined connective negated members = some joint) : ';' ∉ joint.toList := by
  have separator : ';' ∉ (" " ++ connective.word ++ " ").toList := by
    cases connective <;> decide
  have inner := Sql.notMem_intercalate separator h
  rw [joined] at joins
  split at joins
  · cases joins
  · cases joins
    cases negated with
    | false => simpa using inner
    | true => simpa using inner

theorem notMem_textBy (free : ∀ p, ';' ∉ (text p).toList) (g : Group) :
    ∀ t ∈ g.textBy text, ';' ∉ t.toList := by
  induction g using Group.induction with
  | mk predicates groups connective negated ih =>
      intro t joins
      rw [textBy_mk] at joins
      refine notMem_of_joined ?_ joins
      intro member hmember
      rcases List.mem_append.mp hmember with own | nested
      · obtain ⟨p, -, rfl⟩ := List.mem_map.mp own
        exact free p
      · rw [textsBy_eq] at nested
        obtain ⟨g, hg, ht⟩ := List.mem_flatMap.mp nested
        exact ih g hg member (Option.mem_toList.mp ht)

/-- Conditions hold no semicolon if their predicates do not. -/
theorem notMem_conditionsBy (free : ∀ p, ';' ∉ (text p).toList) (groups : List Group) :
    ';' ∉ (conditionsBy text groups).toList := by
  rw [conditionsBy]
  split
  · decide
  · apply Sql.notMem_intercalate (by decide)
    intro t member
    rw [textsBy_eq] at member
    obtain ⟨g, -, ht⟩ := List.mem_flatMap.mp member
    exact notMem_textBy free g t (Option.mem_toList.mp ht)

end Group

namespace Query

variable {q : Query} {settings : Settings}

theorem renderOrder_eq_empty_iff {order : String} (h : q.renderOrder r = .ok order) :
    order = "" ↔ q.sortKeys = [] ∧ r.defaultOrder = [] := by
  obtain ⟨entries, hentries, h⟩ := ok_of_bind h
  cases h
  generalize hkeys : (if q.sortKeys.isEmpty = true then r.defaultOrder.map (SortKey.mk · .ascending)
    else firstKeys [] q.sortKeys) = keys at hentries
  have none : keys = [] ↔ q.sortKeys = [] ∧ r.defaultOrder = [] := by
    rw [← hkeys]
    cases q.sortKeys with
    | nil => simp
    | cons key rest => simp [firstKeys]
  rw [← none]
  cases keys with
  | nil =>
      cases hentries
      simp
  | cons key keys =>
      rw [List.mapM_cons] at hentries
      obtain ⟨entry, hentry, hentries⟩ := ok_of_bind hentries
      obtain ⟨more, -, hentries⟩ := ok_of_bind hentries
      obtain ⟨column, -, hentry⟩ := ok_of_bind hentry
      obtain rfl := Except.ok.inj hentry
      cases hentries
      have blank : ' ' ∈ (", ".intercalate
          ((column.expression ++ " " ++ key.direction.word) :: more)).toList := by
        cases more <;> simp
      refine iff_of_false ?_ (List.cons_ne_nil _ _)
      intro empty
      rw [empty] at blank
      simp at blank

/-- Nothing is written behind the statement of the report. -/
def AddsNothingBehind (q : Query) (r : Report) (settings : Settings) : Prop :=
  q.sortKeys = [] ∧ r.defaultOrder = [] ∧ (q.limit = none ∨ settings.dialect = .mssql)

/-- Before it is limited, a statement has the semicolons of its report, and behind
them the order of its rows. -/
theorem body_semicolons (unbroken : r.IsUnbroken) (spare : r.ColumnsSpare ';')
    {columns : List Column} {order : String} (hcolumns : q.resolveColumns r = .ok columns)
    (horder : q.renderOrder r = .ok order) :
    ∃ before behind, (q.body (·.sqlText r) r columns order).toList =
        before ++ (List.replicate r.closing ';' ++ behind) ∧ ';' ∉ before ∧ ';' ∉ behind ∧
      (behind = [] ↔ q.sortKeys = [] ∧ r.defaultOrder = []) := by
  have definitions := r.notMem_definitions spare (by decide)
    (mem_columns_of_resolveColumns hcolumns)
  have conditions := Group.notMem_conditionsBy (Predicate.notMem_sqlText spare) q.filters
  obtain ⟨before, filled, free⟩ := Report.fill_closed unbroken definitions conditions
  have free' := notMem_renderOrder spare (by decide) horder
  rw [← renderOrder_eq_empty_iff horder]
  by_cases unordered : order = ""
  · refine ⟨before, [], ?_, free, by simp, by simp [unordered]⟩
    rw [body, if_pos unordered, filled, List.append_nil]
  · refine ⟨before, "\nORDER BY ".toList ++ order.toList, ?_, free, ?_, ?_⟩
    · rw [body, if_neg unordered, String.toList_append, String.toList_append, filled]
      simp only [List.append_assoc]
    · rw [List.mem_append, not_or]
      exact ⟨by decide, free'⟩
    · simp [unordered]

theorem fromSemicolon_of_toStatement (unbroken : r.IsUnbroken) (spare : r.ColumnsSpare ';')
    {s : Statement} (h : q.toStatement r settings = .ok s) :
    ∃ behind, ';' ∉ behind ∧ (behind = [] ↔ q.AddsNothingBehind r settings) ∧
      Sql.fromSemicolon s.sql.toList =
        if r.closing = 0 then [] else List.replicate r.closing ';' ++ behind := by
  obtain ⟨columns, order, hcolumns, -, horder, -, hlimited⟩ := toStatement_ok h
  obtain ⟨before, behind, split, free, free', nothing⟩ :=
    body_semicolons unbroken spare hcolumns horder
  rw [AddsNothingBehind, ← and_assoc, ← nothing]
  obtain ⟨unlimited, text⟩ | ⟨hlimit, placed⟩ := text_of_limited hlimited
  · refine ⟨behind, free', by simp [unlimited], ?_⟩
    rw [text, split, Sql.fromSemicolon_around free free']
  · obtain ⟨after, freeAfter, nothing, text⟩ :=
      Sql.fromSemicolon_withRowLimit split free free' placed
    exact ⟨after, freeAfter, by simp [nothing, hlimit], text⟩

/-- All semicolons of a statement stand in a row, and they are those of its report. So
there is none but one at the very end exactly if the report has none, or if it has one
and neither an order nor a row limit is written behind it. -/
theorem semicolons_of_toStatement (unbroken : r.IsUnbroken) (spare : r.ColumnsSpare ';')
    {s : Statement} (h : q.toStatement r settings = .ok s) :
    (∃ before behind, s.sql.toList = before ++ List.replicate r.closing ';' ++ behind ∧
      ';' ∉ before ∧ ';' ∉ behind) ∧
    ((∀ before behind, s.sql.toList = before ++ ';' :: behind → behind = []) ↔
      r.closing = 0 ∨ (r.closing = 1 ∧ q.AddsNothingBehind r settings)) := by
  obtain ⟨behind, free, nothing, tail⟩ := fromSemicolon_of_toStatement unbroken spare h
  rw [Sql.semicolon_at_end_iff, tail, ← nothing]
  obtain ⟨before, split, free'⟩ := Sql.exists_fromSemicolon s.sql.toList
  cases closing : r.closing with
  | zero =>
      rw [tail, closing, if_pos rfl] at split
      exact ⟨⟨before, [], by simpa using split, free', by simp⟩, by simp⟩
  | succ n =>
      rw [tail, closing, if_neg n.succ_ne_zero, ← List.append_assoc] at split
      refine ⟨⟨before, behind, split, free', free⟩, ?_⟩
      cases n with
      | zero => simp
      | succ n => simp [List.replicate_succ]

end Query

/-- The small report with a semicolon at its end. -/
def Report.ended : Report := { towns with skeleton := towns.skeleton ++ [.text ";"] }

theorem Report.isUnbroken_ended : ended.IsUnbroken := by decide +kernel

theorem Report.columnsSpare_ended : ended.ColumnsSpare ';' := ⟨by decide, by decide⟩

/-- The query is rendered with the report, with its limit and without. -/
theorem Query.toStatement_ended :
    (∃ s, { towns with limit := none }.toStatement .ended {} = .ok s) ∧
      ∃ s, towns.toStatement .ended { dialect := .ansi } = .ok s :=
  have evaluated : ({ towns with limit := none }.toStatement .ended {}).isOk = true ∧
      (towns.toStatement .ended { dialect := .ansi }).isOk = true := by decide +kernel
  evaluated.imp ok_of_isOk ok_of_isOk

/-- Without a limit, and without an order, the semicolon stays at the end. -/
theorem Query.semicolons_of_toStatement_ended :
    Report.ended.IsUnbroken ∧ Report.ended.ColumnsSpare ';' ∧
      ∃ s, { Query.towns with limit := none }.toStatement .ended {} = .ok s ∧
        ∀ before behind, s.sql.toList = before ++ ';' :: behind → behind = [] := by
  obtain ⟨⟨s, run⟩, -⟩ := toStatement_ended
  refine ⟨Report.isUnbroken_ended, Report.columnsSpare_ended, s, run, ?_⟩
  have single :=
    (semicolons_of_toStatement Report.isUnbroken_ended Report.columnsSpare_ended run).2
  exact single.mpr (.inr ⟨rfl, rfl, rfl, .inl rfl⟩)

/-- The report with a semicolon at its end is accepted, and a row limit is written
behind the semicolon. -/
theorem Query.limit_behind_semicolon :
    Report.ended.flaw? .standIn = none ∧ Report.ended.ColumnsSpare ';' ∧
      ∃ s, Query.towns.toStatement .ended { dialect := .ansi } = .ok s ∧
        ∃ before behind, s.sql.toList = before ++ ';' :: behind ∧ behind ≠ [] := by
  obtain ⟨-, s, run⟩ := toStatement_ended
  have accepted : Report.ended.flaw? .standIn = none := by decide +kernel
  obtain ⟨behind, -, nothing, tail⟩ :=
    fromSemicolon_of_toStatement Report.isUnbroken_ended Report.columnsSpare_ended run
  obtain ⟨before, split, -⟩ := Sql.exists_fromSemicolon s.sql.toList
  refine ⟨accepted, Report.columnsSpare_ended, s, run, before, behind, ?_, ?_⟩
  · have once : Report.ended.closing = 1 := rfl
    rwa [tail, once, if_neg Nat.one_ne_zero] at split
  · rw [ne_eq, nothing]
    rintro ⟨-, -, unlimited | mssql⟩
    · cases unlimited
    · cases mssql

end Inquiry
