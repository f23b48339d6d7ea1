import Inquiry.Proofs.PlaceCount
import Inquiry.Proofs.Spelling
import Inquiry.Proofs.TokenText

/-!
# TOP behind the set quantifier

One dialect limits the rows behind SELECT. If the statement asks for distinct rows,
the limit belongs behind DISTINCT, and there it is put where a blank follows that word
(`withRowLimit_select`). A word may end without one, in front of a parenthesis for
instance. Then the limit stands before DISTINCT, where no statement may have it
(`top_before_distinct`). Nothing else of the statement changes, and the place of the
limit always is the first one.
-/

namespace Inquiry.Sql

open Text

variable {word t cs behind : List Char}

/-- A text begins with a whole word, in any case, and goes on with the given rest. -/
def BeginsWith (word cs behind : List Char) : Prop :=
  ∃ t, cs = t ++ behind ∧ Spells word t ∧ endsWord behind = true

/-- Behind a word that is spelt, a blank decides whether the word is found. -/
theorem afterWord?_of_spells (spells : Spells word t) (behind : List Char) :
    afterWord? word (t ++ behind) =
      if behind.head?.any isBlank then some (trimStart behind) else none := by
  induction spells with
  | nil =>
      cases behind with
      | nil => rfl
      | cons c rest =>
          rw [List.nil_append, afterWord?, List.head?_cons, Option.any_some]
          split
          · next blank => rw [trimStart, trimStart, List.dropWhile_cons_of_pos blank]
          · rfl
  | cons letter _ ih => rw [List.cons_append, afterWord?, if_pos letter, ih]

/-- A word that is found is a whole one. -/
theorem beginsWith_of_afterWord? {rest : List Char} (h : afterWord? word cs = some rest) :
    ∃ behind, BeginsWith word cs behind := by
  obtain ⟨t, blank, more, rfl, spells, isBlank⟩ :=
    isSome_afterWord?_iff.mp (Option.isSome_of_eq_some h)
  refine ⟨blank :: more, t, rfl, spells, ?_⟩
  rw [endsWord, List.head?_cons, Option.any_some, Bool.not_eq_true', ← Bool.not_eq_true]
  intro letter
  rw [isBlank_of_isWordChar letter] at isBlank
  cases isBlank

/-- The limit takes the first place of a statement, and leaves all others. -/
theorem place_of_withRowLimit {sql limited : String}
    (h : withRowLimit .mssql sql = .ok limited) :
    ∃ before after, limited.toList = before ++ '?' :: after ∧ '?' ∉ before ∧
      after.count '?' = sql.toList.count '?' := by
  have total := count_withRowLimit h
  obtain ⟨opening, known, taken, rest, -, -, split⟩ :=
    withRowLimit_mssql (show '?' ∈ marks by decide) h
  obtain ⟨before, more, opens, free⟩ : ∃ before more, opening.toList = before ++ '?' :: more ∧
      '?' ∉ before := by
    have splits : ∀ opening ∈ limitOpenings, opening.toList =
        opening.toList.takeWhile (· ≠ '?') ++ '?' :: (opening.toList.dropWhile (· ≠ '?')).tail ∧
          '?' ∉ opening.toList.takeWhile (· ≠ '?') := by decide
    exact ⟨_, _, splits opening known⟩
  rw [opens, List.append_assoc, List.cons_append] at split
  refine ⟨before, more ++ rest, split, free, ?_⟩
  rw [split, List.count_append, List.count_eq_zero.mpr free, List.count_cons_self] at total
  omega

/-- Behind SELECT, with blanks on both sides, the rest of the statement is found. -/
theorem afterWord?_select_of_spells {lead select blanks : List Char} (rest : List Char)
    (leads : ∀ c ∈ lead, isBlank c = true) (spells : Spells "SELECT".toList select)
    (nonempty : blanks ≠ []) (gap : ∀ c ∈ blanks, isBlank c = true) :
    afterWord? "SELECT".toList (trimStart (lead ++ select ++ blanks ++ rest)) =
      some (trimStart rest) := by
  have visible : ∀ c ∈ select.head?, isBlank c = false := by
    cases spells with
    | cons letter _ =>
        rintro _ ⟨⟩
        exact (by decide : ∀ c ∈ variants 'S', isBlank c = false) _ letter
  have starts : trimStart (lead ++ select ++ blanks ++ rest) = select ++ (blanks ++ rest) := by
    rw [List.append_assoc, List.append_assoc, trimStart, List.dropWhile_append_of_pos leads]
    cases spells with
    | cons _ _ => exact List.dropWhile_cons_of_neg (by simp [visible _ rfl])
  obtain ⟨blank, more, rfl⟩ := List.exists_cons_of_ne_nil nonempty
  rw [starts, afterWord?_of_spells spells, List.cons_append, List.head?_cons, Option.any_some,
    if_pos (gap blank List.mem_cons_self), ← List.cons_append, trimStart,
    List.dropWhile_append_of_pos gap]
  rfl

/-- Behind SELECT the limit is put, and behind DISTINCT if that whole word follows and a
blank follows it. What comes then is unchanged up to the blanks before it, and all other
places come behind the one of the limit. -/
theorem withRowLimit_select {lead select blanks : List Char} (rest : List Char)
    (leads : ∀ c ∈ lead, isBlank c = true) (spells : Spells "SELECT".toList select)
    (nonempty : blanks ≠ []) (gap : ∀ c ∈ blanks, isBlank c = true) :
    ∃ limited, withRowLimit .mssql (String.ofList (lead ++ select ++ blanks ++ rest)) =
        .ok limited ∧
      (∀ behind, BeginsWith "DISTINCT".toList (trimStart rest) behind →
        limited.toList =
          if behind.head?.any isBlank then "SELECT DISTINCT TOP (?) ".toList ++ trimStart behind
          else "SELECT TOP (?) ".toList ++ trimStart rest) ∧
      ((∀ behind, ¬ BeginsWith "DISTINCT".toList (trimStart rest) behind) →
        limited.toList = "SELECT TOP (?) ".toList ++ trimStart rest) ∧
      ∃ before after, limited.toList = before ++ '?' :: after ∧ '?' ∉ before ∧
        after.count '?' = (lead ++ select ++ blanks ++ rest).count '?' := by
  have found := afterWord?_select_of_spells rest leads spells nonempty gap
  generalize lead ++ select ++ blanks ++ rest = cs at found ⊢
  cases distinct : afterWord? "DISTINCT".toList (trimStart rest) with
  | none =>
      have limited : withRowLimit .mssql (String.ofList cs) =
          .ok ("SELECT TOP (?) " ++ String.ofList (trimStart rest)) := by
        simp only [withRowLimit, String.toList_ofList, found, distinct]
      have written : ("SELECT TOP (?) " ++ String.ofList (trimStart rest)).toList =
          "SELECT TOP (?) ".toList ++ trimStart rest := by
        simp only [String.toList_append, String.toList_ofList]
      have place := place_of_withRowLimit limited
      rw [String.toList_ofList] at place
      refine ⟨_, limited, ?_, fun _ => written, place⟩
      rintro behind ⟨t, split, word, -⟩
      rw [split, afterWord?_of_spells word] at distinct
      split at distinct
      · cases distinct
      · next noBlank => rw [if_neg noBlank, written]
  | some rows =>
      have limited : withRowLimit .mssql (String.ofList cs) =
          .ok ("SELECT DISTINCT TOP (?) " ++ String.ofList rows) := by
        simp only [withRowLimit, String.toList_ofList, found, distinct]
      have place := place_of_withRowLimit limited
      rw [String.toList_ofList] at place
      refine ⟨_, limited, ?_, ?_, place⟩
      · rintro behind ⟨t, split, word, -⟩
        rw [split, afterWord?_of_spells word] at distinct
        split at distinct
        · next isBlank =>
            cases distinct
            simp only [if_pos isBlank, String.toList_append, String.toList_ofList]
        · cases distinct
      · intro absent
        obtain ⟨behind, begins⟩ := beginsWith_of_afterWord? distinct
        exact absurd begins (absent behind)

theorem withRowLimit_select_towns :
    withRowLimit .mssql "\n select  Distinct\tT.ORT FROM T WHERE N = ?" =
      .ok "SELECT DISTINCT TOP (?) T.ORT FROM T WHERE N = ?" := by
  obtain ⟨limited, found, behindWord, -⟩ :=
    @withRowLimit_select "\n ".toList "select".toList "  ".toList
      "Distinct\tT.ORT FROM T WHERE N = ?".toList (by decide) (by decide) (by decide) (by decide)
  have begins : BeginsWith "DISTINCT".toList
      (trimStart "Distinct\tT.ORT FROM T WHERE N = ?".toList)
      "\tT.ORT FROM T WHERE N = ?".toList :=
    ⟨"Distinct".toList, by decide, by decide, by decide⟩
  have written : limited = "SELECT DISTINCT TOP (?) T.ORT FROM T WHERE N = ?" :=
    String.toList_injective (behindWord _ begins)
  rw [← written]
  exact found

/-- The word DISTINCT in front of a parenthesis is a whole word, but the limit is put
before it. -/
theorem top_before_distinct :
    BeginsWith "DISTINCT".toList "DISTINCT(T.ORT) FROM T".toList "(T.ORT) FROM T".toList ∧
      withRowLimit .mssql "SELECT DISTINCT(T.ORT) FROM T" =
        .ok "SELECT TOP (?) DISTINCT(T.ORT) FROM T" ∧
      withRowLimit .mssql "SELECT DISTINCT(T.ORT) FROM T" ≠
        .ok "SELECT DISTINCT TOP (?) (T.ORT) FROM T" :=
  ⟨⟨"DISTINCT".toList, by decide, by decide, by decide⟩, by decide, by decide⟩

end Inquiry.Sql
