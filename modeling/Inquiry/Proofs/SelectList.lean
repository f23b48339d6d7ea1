import Inquiry.Proofs.UnknownFields
import Inquiry.Proofs.FirstOccurrences

/-!
# Select lists

The columns of a statement are listed by place, then as they were mentioned, or as the
report has them if none is asked for. A column is shown where it is listed first, and
not at all if it is left out (`Query.select_list`). Sorting by place is stable: columns
with the same place stay in the order of the request.

Columns cannot be resolved for two reasons only. A field that is asked for or left out
is none of the report, or nothing is left.
-/

namespace Inquiry

/-! ## Lists in order -/

/-- A list sorted stably by a number: in ascending order, and with the elements of one
number in the order in which they were. -/
structure SortedBy {α : Type} (number : α → Int) (list sorted : List α) : Prop where
  perm : sorted.Perm list
  ascending : sorted.Pairwise fun a b => number a ≤ number b
  stable : ∀ n, (sorted.filter fun a => number a = n) = list.filter fun a => number a = n

theorem sortedBy_mergeSort {α : Type} (number : α → Int) (list : List α) :
    SortedBy number list (list.mergeSort fun a b => number a ≤ number b) := by
  have trans (a b c : α) (h : decide (number a ≤ number b) = true)
      (h' : decide (number b ≤ number c) = true) : decide (number a ≤ number c) = true :=
    decide_eq_true (Int.le_trans (of_decide_eq_true h) (of_decide_eq_true h'))
  have total (a b : α) : (decide (number a ≤ number b) || decide (number b ≤ number a)) = true := by
    simpa using Int.le_total (number a) (number b)
  have perm := List.mergeSort_perm list fun a b => decide (number a ≤ number b)
  refine ⟨perm, (List.pairwise_mergeSort trans total list).imp of_decide_eq_true, fun n => ?_⟩
  -- Elements of one number are in ascending order as they are, so sorting keeps them in it.
  have level : (list.filter fun a => number a = n).Pairwise
      fun a b => decide (number a ≤ number b) = true := by
    refine List.pairwise_of_forall_mem_list fun a ha b hb => decide_eq_true ?_
    have ha := of_decide_eq_true (List.mem_filter.mp ha).2
    have hb := of_decide_eq_true (List.mem_filter.mp hb).2
    exact Int.le_of_eq (ha.trans hb.symm)
  have kept := (List.sublist_mergeSort trans total level List.filter_sublist).filter
    fun a => decide (number a = n)
  simp only [List.filter_filter, Bool.and_self] at kept
  exact (kept.eq_of_length (perm.filter _).length_eq.symm).symm

/-- The fields that are left of a list: each once, where it is listed first, and none of
those that are left out. -/
structure FirstMentions (listed out fields : List String) : Prop where
  mem_iff : ∀ field, field ∈ fields ↔ field ∈ listed ∧ field ∉ out
  nodup : fields.Nodup
  ordered : fields.Pairwise fun first second => listed.idxOf first < listed.idxOf second

theorem firstMentions_eraseDups (listed out : List String) :
    FirstMentions listed out (listed.filter fun field => !out.contains field).eraseDups := by
  have ordered := ordered_eraseDups listed fun field => !out.contains field
  refine ⟨fun field => ?_, ordered.imp ?_, ordered⟩
  · rw [List.mem_eraseDups, List.mem_filter]
    simp
  · intro first second less same
    exact Nat.lt_irrefl _ (same ▸ less)

namespace Query

variable {q : Query} {r : Report}

/-! ## Wishes -/

/-- The fields that are asked for; all fields of the report if there is no wish. -/
def asked (q : Query) (r : Report) : List String :=
  if q.included = [] then r.fields else q.included.map (·.field)

/-- The fields that are left out, as they were mentioned. -/
def leftOut (q : Query) : List String := q.excluded.map (·.field)

/-- The fields that are asked for with a place, as they were mentioned. -/
def placed (q : Query) : List (Int × String) :=
  q.included.filterMap fun p => p.order.map (·, p.field)

/-- The fields that are asked for without a place, as they were mentioned. -/
def unplaced (q : Query) : List String := (q.included.filter (·.order.isNone)).map (·.field)

/-- A list of the fields that are asked for: by place, then as they were mentioned. -/
def listing (q : Query) (r : Report) (byPlace : List (Int × String)) : List String :=
  if q.included = [] then r.fields else byPlace.map (·.2) ++ q.unplaced

theorem wishedFields_eq (q : Query) (r : Report) :
    ∃ byPlace, SortedBy (·.1) q.placed byPlace ∧ q.wishedFields r = q.listing r byPlace := by
  refine ⟨_, sortedBy_mergeSort (·.1) q.placed, ?_⟩
  rw [wishedFields, listing]
  simp only [List.isEmpty_iff]
  rfl

/-- A list by place holds what is asked for. -/
theorem mem_listing {byPlace : List (Int × String)} (sorted : SortedBy (·.1) q.placed byPlace)
    {field : String} : field ∈ q.listing r byPlace ↔ field ∈ q.asked r := by
  rw [listing, asked]
  split
  · exact Iff.rfl
  · rw [List.mem_append, (sorted.perm.map (·.2)).mem_iff]
    simp only [placed, unplaced, List.mem_map, List.mem_filterMap, List.mem_filter,
      Option.map_eq_some_iff]
    constructor
    · rintro (⟨_, ⟨p, asked, _, -, rfl⟩, rfl⟩ | ⟨p, ⟨asked, -⟩, rfl⟩)
      · exact ⟨p, asked, rfl⟩
      · exact ⟨p, asked, rfl⟩
    · rintro ⟨p, asked, rfl⟩
      cases place : p.order with
      | some n => exact .inl ⟨(n, p.field), ⟨p, asked, n, place, rfl⟩, rfl⟩
      | none => exact .inr ⟨p, ⟨asked, by rw [place]; rfl⟩, rfl⟩

theorem firstMentions_shownFields (q : Query) (r : Report) :
    FirstMentions (q.wishedFields r) q.leftOut (q.shownFields r) :=
  firstMentions_eraseDups (q.wishedFields r) q.leftOut

theorem mem_shownFields {field : String} :
    field ∈ q.shownFields r ↔ field ∈ q.asked r ∧ field ∉ q.leftOut := by
  obtain ⟨byPlace, sorted, listed⟩ := q.wishedFields_eq r
  rw [(q.firstMentions_shownFields r).mem_iff, listed, mem_listing sorted]

theorem shownFields_isEmpty_iff :
    (q.shownFields r).isEmpty = true ↔ ∀ field ∈ q.asked r, field ∈ q.leftOut := by
  rw [List.isEmpty_iff, List.eq_nil_iff_forall_not_mem]
  simp only [mem_shownFields, not_and, not_not]

/-! ## Resolving columns -/

theorem code_of_lacks {failure : Failure} (h : r.Lacks failure) :
    failure.code? = some .unresolvedField := by
  obtain ⟨field, -, rfl⟩ := h
  rfl

theorem code_of_resolveColumns {failure : Failure} (h : q.resolveColumns r = .error failure) :
    failure.code? = some .unresolvedField := by
  rcases resolveColumns_error h with lacks | rfl
  · exact code_of_lacks lacks
  · rfl

/-- Every field that is resolved is one of the report. -/
theorem known_of_resolveColumns {columns : List Column} (h : q.resolveColumns r = .ok columns) :
    ∀ p ∈ q.projections, r.hasField p.field = true := by
  obtain ⟨_, looked, -⟩ := ok_of_bind h
  generalize q.projections = projections at looked
  induction projections with
  | nil => exact List.forall_mem_nil _
  | cons p more ih =>
      rw [List.forIn_cons] at looked
      cases found : r.columnOf p.field with
      | error failure =>
          rw [found] at looked
          cases looked
      | ok column =>
          rw [found] at looked
          exact List.forall_mem_cons.mpr
            ⟨Report.hasField_of_column? (Report.columnOf_ok_iff.mp found), ih looked⟩

/-- Columns are resolved exactly if every field is known and one is left. -/
theorem resolveColumns_ok_iff {columns : List Column} :
    q.resolveColumns r = .ok columns ↔
      (∀ p ∈ q.projections, r.hasField p.field = true) ∧ q.shownFields r ≠ [] ∧
        List.Forall₂ (fun field column => r.column? field = some column)
          (q.shownFields r) columns := by
  constructor
  · intro h
    have known := known_of_resolveColumns h
    rw [resolveColumns_eq known] at h
    split at h
    · cases h
    · next left =>
        refine ⟨known, fun empty => left (List.isEmpty_iff.mpr empty), ?_⟩
        exact (mapM_eq_ok_iff.mp h).imp fun _ _ => Report.columnOf_ok_iff.mp
  · rintro ⟨known, left, found⟩
    rw [resolveColumns_eq known, if_neg (mt List.isEmpty_iff.mp left)]
    exact mapM_eq_ok_iff.mpr (found.imp fun _ _ => Report.columnOf_ok_iff.mpr)

/-- Columns cannot be resolved exactly if a field is unknown or nothing is left. -/
theorem resolveColumns_error_iff :
    (∃ failure, q.resolveColumns r = .error failure ∧ failure.code? = some .unresolvedField) ↔
      (∃ p ∈ q.projections, r.hasField p.field = false) ∨
        ∀ field ∈ q.asked r, field ∈ q.leftOut := by
  rw [← shownFields_isEmpty_iff]
  constructor
  · rintro ⟨failure, failed, -⟩
    by_contra fine
    obtain ⟨known, left⟩ := not_or.mp fine
    simp only [not_exists, not_and, Bool.not_eq_false] at known
    obtain ⟨columns, found⟩ := mapM_ok fun field member =>
      Report.columnOf_of_hasField (hasField_of_mem_shownFields known field member)
    rw [resolveColumns_eq known, if_neg left, found] at failed
    cases failed
  · intro fault
    cases resolved : q.resolveColumns r with
    | error failure => exact ⟨failure, rfl, code_of_resolveColumns resolved⟩
    | ok columns =>
        obtain ⟨known, left, -⟩ := resolveColumns_ok_iff.mp resolved
        rcases fault with ⟨p, member, unknown⟩ | empty
        · rw [known p member] at unknown
          cases unknown
        · exact absurd (List.isEmpty_iff.mp empty) left

/-! ## Headers -/

/-- An entry of a SELECT list that shows something under a header. -/
def ShowsAs (header entry : String) : Prop := ∃ shown, entry = shown ++ " AS \"" ++ header ++ "\""

theorem showsAs_definition (c : Column) : ShowsAs c.header c.definition := by
  rw [Column.definition]
  split
  · exact ⟨c.expression, rfl⟩
  · exact ⟨"COALESCE(RTRIM(LTRIM(" ++ c.expression ++ ")), '')", by simp [String.append_assoc]⟩

/-- A statement that selects columns: the entries for them stand in its text, and their
headers are its headers. -/
structure Selects (q : Query) (r : Report) (settings : Settings) (st : Statement)
    (columns : List Column) : Prop where
  headers : st.headers = columns.map (·.header)
  entries : List.Forall₂ ShowsAs st.headers (columns.map (·.definition))
  sql : ∃ conditions order values,
    q.limited settings
        (r.fill (",\n    ".intercalate (columns.map (·.definition))) conditions ++ order) values =
      .ok (st.sql, st.values, st.warnings)

theorem selects_of_toStatement {settings : Settings} {st : Statement}
    (h : q.toStatement r settings = .ok st) :
    ∃ columns, q.resolveColumns r = .ok columns ∧ q.Selects r settings st columns := by
  obtain ⟨columns, order, resolved, -, -, headers, limited⟩ := toStatement_ok h
  refine ⟨columns, resolved, headers, ?_, ?_⟩
  · rw [headers, List.forall₂_map_left_iff, List.forall₂_map_right_iff, List.forall₂_same]
    exact fun column _ => showsAs_definition column
  · rw [body] at limited
    split at limited
    · exact ⟨_, "", _, by rw [String.append_empty]; exact limited⟩
    · exact ⟨_, "\nORDER BY " ++ order, _, by rw [← String.append_assoc]; exact limited⟩

/-- The columns of a statement. They cannot be resolved, for an unresolved field,
exactly if a field that is mentioned is none of the report or every field that is
asked for is left out. Otherwise they are those of the fields that are asked for and
not left out, each once and where it is listed first; the list has the fields with a
place in a stable order of their places, and then the others as they were mentioned.
The headers of a statement are those of the entries in its text, in the same order. -/
theorem select_list (q : Query) (r : Report) :
    ((∃ failure, q.resolveColumns r = .error failure ∧ failure.code? = some .unresolvedField) ↔
        (∃ p ∈ q.projections, r.hasField p.field = false) ∨
          ∀ field ∈ q.asked r, field ∈ q.leftOut) ∧
      (∀ failure, q.resolveColumns r = .error failure → failure.code? = some .unresolvedField) ∧
      (∀ columns, q.resolveColumns r = .ok columns → ∃ byPlace fields,
        SortedBy (·.1) q.placed byPlace ∧
          FirstMentions (q.listing r byPlace) q.leftOut fields ∧
          (∀ field, field ∈ fields ↔ field ∈ q.asked r ∧ field ∉ q.leftOut) ∧
          List.Forall₂ (fun field column => r.column? field = some column) fields columns) ∧
      ∀ settings st, q.toStatement r settings = .ok st →
        ∃ columns, q.resolveColumns r = .ok columns ∧ q.Selects r settings st columns := by
  refine ⟨resolveColumns_error_iff, fun failure => code_of_resolveColumns, ?_,
    fun settings st => selects_of_toStatement⟩
  intro columns resolved
  obtain ⟨-, -, found⟩ := resolveColumns_ok_iff.mp resolved
  obtain ⟨byPlace, sorted, listed⟩ := q.wishedFields_eq r
  exact ⟨byPlace, q.shownFields r, sorted, listed ▸ q.firstMentions_shownFields r,
    fun field => mem_shownFields, found⟩

/-- The population is asked for at place two and once more without a place, and the name
of the town at a negative place. -/
theorem select_list_towns :
    ∃ columns byPlace fields,
      resolveColumns { projections := [⟨"einwohner", false, some 2⟩, ⟨"ort", false, some (-1)⟩,
        ⟨"einwohner", false, none⟩] } .towns = .ok columns ∧
      SortedBy (·.1) [((2 : Int), "einwohner"), (-1, "ort")] byPlace ∧
      FirstMentions (byPlace.map (·.2) ++ ["einwohner"]) [] fields ∧
      List.Forall₂ (fun field column => Report.towns.column? field = some column)
        fields columns := by
  obtain ⟨failing, unresolved, listed, -⟩ := select_list { projections :=
    [⟨"einwohner", false, some 2⟩, ⟨"ort", false, some (-1)⟩, ⟨"einwohner", false, none⟩] } .towns
  cases resolved : resolveColumns { projections := [⟨"einwohner", false, some 2⟩,
      ⟨"ort", false, some (-1)⟩, ⟨"einwohner", false, none⟩] } .towns with
  | error failure =>
      rcases failing.mp ⟨failure, resolved, unresolved failure resolved⟩ with unknown | empty
      · exact absurd unknown (by decide +kernel)
      · exact absurd (empty "ort" (by decide +kernel)) (by decide +kernel)
  | ok columns =>
      obtain ⟨byPlace, fields, sorted, mentions, -, found⟩ := listed columns resolved
      exact ⟨columns, byPlace, fields, rfl, sorted, mentions, found⟩

end Query

end Inquiry
