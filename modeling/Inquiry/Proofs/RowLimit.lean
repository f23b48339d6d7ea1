import Inquiry.Proofs.Blanks
import Inquiry.Sql.RowLimit
import Mathlib.Data.List.Infix

/-!
# Where a row limit is put

The conditions of a statement are enclosed: they begin with a parenthesis, with
a negated one, or with a digit, and they end visibly. So neither trimming nor
the search for SELECT and DISTINCT reaches into them, and a row limit is put
in the same place of a statement whatever its conditions are.
-/

namespace Inquiry.Sql

open Text

/-- What conditions begin with. -/
def openers : List (List Char) := [['('], ['N', 'O', 'T', ' ', '('], ['1']]

/-- A text that begins like conditions and does not end with a blank. -/
def Enclosed (cs : List Char) : Prop :=
  ∃ opener ∈ openers, ∃ inner closer, cs = opener ++ inner ++ [closer] ∧ isBlank closer = false

namespace Enclosed

variable {cs : List Char}

theorem head_visible (h : Enclosed cs) : ∃ c rest, cs = c :: rest ∧ isBlank c = false := by
  obtain ⟨opener, member, inner, closer, rfl, -⟩ := h
  simp only [openers, List.mem_cons, List.not_mem_nil, or_false] at member
  rcases member with rfl | rfl | rfl
  · exact ⟨'(', _, rfl, by decide⟩
  · exact ⟨'N', _, rfl, by decide⟩
  · exact ⟨'1', _, rfl, by decide⟩

theorem last_visible (h : Enclosed cs) : ∃ front c, cs = front ++ [c] ∧ isBlank c = false := by
  obtain ⟨opener, -, inner, closer, rfl, visible⟩ := h
  exact ⟨opener ++ inner, closer, rfl, visible⟩

/-- What stands between two enclosed texts is enclosed by them. -/
theorem append {cs' : List Char} (h : Enclosed cs) (h' : Enclosed cs') (between : List Char) :
    Enclosed (cs ++ between ++ cs') := by
  obtain ⟨opener, member, inner, closer, rfl, -⟩ := h
  obtain ⟨front, c, rfl, visible⟩ := h'.last_visible
  refine ⟨opener, member, inner ++ [closer] ++ between ++ front, c, ?_, visible⟩
  simp only [List.append_assoc]

theorem intercalate {first : String} {others : List String}
    (h : ∀ t ∈ first :: others, Enclosed t.toList) (separator : String) :
    Enclosed (separator.intercalate (first :: others)).toList := by
  induction others generalizing first with
  | nil => simpa using h first List.mem_cons_self
  | cons second others ih =>
      have rest := ih fun t member => h t (List.mem_cons_of_mem first member)
      simpa using (h first List.mem_cons_self).append rest separator.toList

end Enclosed

theorem trimStart_around {mid : List Char} (h : Enclosed mid) (before after : List Char) :
    trimStart (before ++ mid ++ after) = trimStart before ++ mid ++ after := by
  obtain ⟨c, rest, rfl, visible⟩ := h.head_visible
  simpa using trimStart_visible visible before (rest ++ after)

theorem trimEnd_around {mid : List Char} (h : Enclosed mid) (before after : List Char) :
    trimEnd (before ++ mid ++ after) = before ++ mid ++ trimEnd after := by
  obtain ⟨front, c, rfl, visible⟩ := h.last_visible
  simpa using trimEnd_visible visible (before ++ front) after

theorem trimmed_around {mid : List Char} (h : Enclosed mid) (before after : List Char) :
    trimmed (before ++ mid ++ after) = trimStart before ++ mid ++ trimEnd after := by
  rw [trimmed, trimStart_around h, trimEnd_around h]

/-- What follows a word is the end of the text. -/
theorem afterWord?_suffix {word cs rest : List Char} (h : afterWord? word cs = some rest) :
    rest <:+ cs := by
  induction cs generalizing word with
  | nil => cases word <;> cases h
  | cons c cs ih =>
      cases word with
      | nil =>
          simp only [afterWord?] at h
          split at h
          · cases h
            exact (List.dropWhile_suffix _).trans (List.suffix_cons c cs)
          · cases h
      | cons w word =>
          simp only [afterWord?] at h
          split at h
          · exact (ih h).trans (List.suffix_cons c cs)
          · cases h

/-- Whether the characters of an opener already rule out a word. -/
def refuses : (word opener : List Char) → Bool
  | [], c :: _ => !isBlank c
  | w :: word, c :: opener => !(variants w).contains c || refuses word opener
  | _, [] => false

theorem afterWord?_of_refuses {word opener : List Char} (h : refuses word opener = true)
    (rest : List Char) : afterWord? word (opener ++ rest) = none := by
  induction opener generalizing word with
  | nil => cases word <;> simp [refuses] at h
  | cons c opener ih =>
      cases word with
      | nil =>
          simp only [refuses, Bool.not_eq_true'] at h
          simp [afterWord?, h]
      | cons w word =>
          simp only [refuses, Bool.or_eq_true, Bool.not_eq_true', List.contains_eq_mem,
            decide_eq_false_iff_not] at h
          simp only [List.cons_append, afterWord?]
          split
          · next member => exact ih (h.resolve_left fun absent => absent member)
          · rfl

/-- The words behind which a row limit is put. -/
def limitedWords : List (List Char) := ["SELECT".toList, "DISTINCT".toList]

theorem refuses_openers :
    ∀ word ∈ limitedWords.flatMap List.tails, ∀ opener ∈ openers, refuses word opener = true := by
  decide

theorem mem_tails_tail {w : Char} {word : List Char}
    (h : w :: word ∈ limitedWords.flatMap List.tails) :
    word ∈ limitedWords.flatMap List.tails := by
  simp only [List.mem_flatMap, List.mem_tails] at h ⊢
  obtain ⟨whole, member, suffix⟩ := h
  exact ⟨whole, member, (List.suffix_cons w word).trans suffix⟩

/-- Looking for a word does not reach into enclosed text. -/
theorem afterWord?_around {mid : List Char} (h : Enclosed mid) (after word : List Char)
    (hword : word ∈ limitedWords.flatMap List.tails) (before : List Char) :
    afterWord? word (before ++ mid ++ after) =
      (afterWord? word before).map (· ++ mid ++ after) := by
  induction before generalizing word with
  | nil =>
      have none : afterWord? word (mid ++ after) = none := by
        obtain ⟨opener, member, inner, closer, rfl, -⟩ := h
        simpa only [List.append_assoc] using
          afterWord?_of_refuses (refuses_openers word hword opener member)
            (inner ++ [closer] ++ after)
      cases word <;> simpa [afterWord?] using none
  | cons c before ih =>
      cases word with
      | nil =>
          simp only [List.cons_append, afterWord?]
          split
          · simpa using trimStart_around h before after
          · rfl
      | cons w word =>
          simp only [List.cons_append, afterWord?]
          split
          · exact ih _ (mem_tails_tail hword)
          · rfl

/-- The statement with a text for the row limit: behind SELECT, or behind its
DISTINCT, in one dialect, and at the end in the other one. -/
def limitedTo (limit : String) (dialect : Dialect) (sql : String) : Except Failure String :=
  match dialect with
  | .ansi => .ok (String.ofList (trimEnd sql.toList) ++ "\nLIMIT " ++ limit)
  | .mssql =>
    match afterWord? "SELECT".toList (trimStart sql.toList) with
    | none => .error .rowLimitWithoutSelect
    | some rest =>
      match afterWord? "DISTINCT".toList rest with
      | some rows => .ok ("SELECT DISTINCT TOP (" ++ limit ++ ") " ++ String.ofList rows)
      | none => .ok ("SELECT TOP (" ++ limit ++ ") " ++ String.ofList rest)

theorem withRowLimit_eq (dialect : Dialect) (sql : String) :
    withRowLimit dialect sql = limitedTo "?" dialect sql := by
  cases dialect with
  | ansi =>
      simp only [withRowLimit, limitedTo, String.append_assoc]
      rfl
  | mssql => rfl

theorem limitedTo_ansi_around {mid : List Char} (h : Enclosed mid) (limit : String)
    (before after : List Char) :
    limitedTo limit .ansi (String.ofList (before ++ mid ++ after)) =
      .ok (String.ofList (before ++ mid ++
        (trimEnd after ++ "\nLIMIT ".toList ++ limit.toList))) := by
  refine congrArg Except.ok (String.toList_injective ?_)
  rw [String.toList_ofList, trimEnd_around h]
  simp only [String.toList_append, String.toList_ofList, List.append_assoc]

theorem limitedTo_mssql_around {mid : List Char} (h : Enclosed mid) (limit : String)
    (before after : List Char) :
    limitedTo limit .mssql (String.ofList (before ++ mid ++ after)) =
      match afterWord? "SELECT".toList (trimStart before) with
      | none => .error .rowLimitWithoutSelect
      | some rest =>
        match afterWord? "DISTINCT".toList rest with
        | some rows => .ok (String.ofList ("SELECT DISTINCT TOP (".toList ++
            (limit.toList ++ (") ".toList ++ rows ++ mid ++ after))))
        | none => .ok (String.ofList ("SELECT TOP (".toList ++
            (limit.toList ++ (") ".toList ++ rest ++ mid ++ after)))) := by
  simp only [limitedTo, String.toList_ofList, trimStart_around h,
    afterWord?_around h after "SELECT".toList (by decide)]
  cases afterWord? "SELECT".toList (trimStart before) with
  | none => rfl
  | some rest =>
      simp only [Option.map_some,
        afterWord?_around h after "DISTINCT".toList (by decide)]
      cases afterWord? "DISTINCT".toList rest with
      | none =>
          refine congrArg Except.ok (String.toList_injective ?_)
          simp only [String.toList_append, String.toList_ofList, List.append_assoc]
      | some rows =>
          refine congrArg Except.ok (String.toList_injective ?_)
          simp only [String.toList_append, String.toList_ofList, List.append_assoc]

/-- Behind SELECT, and behind DISTINCT if that follows, a limit stands in front of the rows.
Without SELECT it has no place. Enclosed text changes neither. -/
theorem limitedTo_mssql_cases (before after : List Char) :
    (∀ {mid}, Enclosed mid → ∀ limit,
      limitedTo limit .mssql (String.ofList (before ++ mid ++ after)) =
        .error .rowLimitWithoutSelect) ∨
    ∃ opening rows, (opening = "SELECT TOP (" ∨ opening = "SELECT DISTINCT TOP (") ∧
      rows <:+ before ∧ ∀ {mid}, Enclosed mid → ∀ limit,
        limitedTo limit .mssql (String.ofList (before ++ mid ++ after)) =
          .ok (String.ofList (opening.toList ++
            (limit.toList ++ (") ".toList ++ rows ++ mid ++ after)))) := by
  cases select : afterWord? "SELECT".toList (trimStart before) with
  | none =>
      refine .inl fun h limit => ?_
      rw [limitedTo_mssql_around h, select]
  | some rest =>
      have behind : rest <:+ before := (afterWord?_suffix select).trans (List.dropWhile_suffix _)
      cases distinct : afterWord? "DISTINCT".toList rest with
      | none =>
          refine .inr ⟨_, rest, .inl rfl, behind, fun h limit => ?_⟩
          rw [limitedTo_mssql_around h, select]
          simp only [distinct]
      | some rows =>
          refine .inr ⟨_, rows, .inr rfl, (afterWord?_suffix distinct).trans behind,
            fun h limit => ?_⟩
          rw [limitedTo_mssql_around h, select]
          simp only [distinct]

end Inquiry.Sql
