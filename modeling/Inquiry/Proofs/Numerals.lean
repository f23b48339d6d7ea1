import Inquiry.Proofs.TokenText

/-!
# Where numbers end

A number takes its groups of digits up to the last place where it may end. No
digit is ever left behind it. But if the run of groups touches a letter, a sign
or a hyphen at its end, the last group is given back: then the number is a
prefix of what is written, and the group becomes part of a word behind it
(`number_gives_back`).

So a number is whole exactly if its run of groups ends where a number may end
(`number_whole_iff`).
-/

namespace Inquiry.Token

open Text

/-- Whether a text goes on with a group of digits: a point or comma, and a
digit. -/
def opensGroup : List Char → Bool
  | [] => false
  | sign :: rest => (sign = '.' ∨ sign = ',') ∧ 0 < digitRun rest

/-- How many characters all groups of digits at the beginning of a text have,
wherever they end. -/
def groupRun (cs : List Char) : Nat :=
  match cs with
  | [] => 0
  | sign :: rest =>
    if opensGroup (sign :: rest) then
      1 + digitRun rest + groupRun (rest.drop (digitRun rest))
    else 0
  termination_by cs.length
  decreasing_by simp only [List.length_drop, List.length_cons]; omega

theorem groupRun_of_not_opensGroup {cs : List Char} (h : opensGroup cs = false) :
    groupRun cs = 0 := by
  cases cs with
  | nil => rw [groupRun]
  | cons sign rest => rw [groupRun, h]; rfl

theorem isDigit_of_endsNumber {c : Char} {rest : List Char} (h : endsNumber (c :: rest) = true) :
    isDigit c = false := by
  rw [← Bool.not_eq_true]
  intro digit
  rw [endsNumber, isWordChar_of_isDigit digit] at h
  cases h

/-- A point or comma is no part of a number unless a digit follows. -/
theorem endsNumber_of_opensGroup {cs : List Char} (h : opensGroup cs = true) :
    endsNumber cs = true := by
  cases cs with
  | nil => rfl
  | cons sign rest =>
      obtain ⟨rfl | rfl, -⟩ := of_decide_eq_true h
      · exact of_decide_eq_true rfl
      · exact of_decide_eq_true rfl

/-- There is a place to end unless the first one is none: where groups follow, the
number may end before them. -/
theorem digitGroups?_eq_none_iff {cs : List Char} :
    digitGroups? cs = none ↔ endsNumber cs = false := by
  cases cs with
  | nil => simp [digitGroups?, endsNumber]
  | cons sign rest =>
      rw [digitGroups?]
      by_cases group : opensGroup (sign :: rest) = true
      · have ends := endsNumber_of_opensGroup group
        simp only [if_pos (of_decide_eq_true group), ends, if_true]
        split <;> simp
      · simp only [if_neg fun h => group (decide_eq_true h)]
        cases endsNumber (sign :: rest) <;> simp

/-- Behind the groups that a number takes, it may end. If another group follows
there, the number may not end behind the run of groups. -/
theorem rest_of_digitGroups? {cs : List Char} {n : Nat} (h : digitGroups? cs = some n) :
    endsNumber (cs.drop n) = true ∧
      (opensGroup (cs.drop n) = true ↔
        endsNumber ((cs.drop n).drop (groupRun (cs.drop n))) = false) := by
  fun_induction digitGroups? cs generalizing n with
  | case1 =>
      cases h
      exact ⟨rfl, by simp [opensGroup, endsNumber]⟩
  | case2 sign rest run group more found =>
      rename_i ih
      cases h
      have left : (sign :: rest).drop (1 + run + more) = (rest.drop run).drop more := by
        rw [List.drop_drop, Nat.add_assoc, Nat.add_comm 1, List.drop_succ_cons]
      rw [left]
      exact ih found
  | case3 sign rest run group blocked ends =>
      -- The group in front is given back. It is the last one, because a number may
      -- always end before a group.
      rw [if_pos ends] at h
      cases h
      have stops : endsNumber (rest.drop run) = false := digitGroups?_eq_none_iff.mp blocked
      have last : opensGroup (rest.drop run) = false := by
        rw [← Bool.not_eq_true]
        intro more
        rw [endsNumber_of_opensGroup more] at stops
        cases stops
      have opens : opensGroup (sign :: rest) = true := decide_eq_true group
      have all : groupRun (sign :: rest) = 1 + run := by
        rw [groupRun, if_pos opens, groupRun_of_not_opensGroup last]
        rfl
      rw [List.drop_zero, all, Nat.add_comm 1, List.drop_succ_cons]
      exact ⟨ends, iff_of_true opens stops⟩
  | case4 sign rest run group blocked stops =>
      rw [if_neg stops] at h
      cases h
  | case5 sign rest run group =>
      rename_i ends
      rw [if_pos ends] at h
      cases h
      have none : opensGroup (sign :: rest) = false := decide_eq_false group
      rw [List.drop_zero, groupRun_of_not_opensGroup none, List.drop_zero, none, ends]
      simp
  | case6 sign rest run group =>
      rename_i stops
      rw [if_neg stops] at h
      cases h

/-- The same for a whole number. -/
theorem rest_of_number? {previous : Option Char} {cs : List Char} {n : Nat}
    (h : number? previous cs = some n) :
    0 < n ∧ endsNumber (cs.drop n) = true ∧
      (opensGroup (cs.drop n) = true ↔
        endsNumber ((cs.drop n).drop (groupRun (cs.drop n))) = false) := by
  obtain ⟨sign, groups, -, digits, found, rfl⟩ := exists_of_number? h
  rw [← List.drop_drop]
  exact ⟨by omega, rest_of_digitGroups? found⟩

/-- A lexeme of a text has been read at its own place, before all that is behind
it. -/
theorem lexeme?_of_cut {previous : Option Char} {cs span : List Char} {kind : Kind}
    {before after : List Piece} (h : cut previous cs = before ++ .lexeme kind span :: after) :
    ∃ previous c rest length, lexeme? previous (c :: rest) = some (kind, length) ∧
      span = c :: rest.take (length - 1) ∧
      after.flatMap Piece.text = rest.drop (length - 1) := by
  fun_induction cut previous cs generalizing before with
  | case1 => simp at h
  | case2 previous c rest _ =>
      rename_i ih
      cases before with
      | nil => cases h
      | cons piece before => exact ih (List.cons.inj h).2
  | case3 previous c rest kind' length found text =>
      rename_i ih
      cases before with
      | nil =>
          obtain ⟨lexeme, rfl⟩ := List.cons.inj h
          obtain ⟨rfl, rfl⟩ := Piece.lexeme.inj lexeme
          exact ⟨previous, c, rest, length, found, rfl, flatMap_text_cut _ _⟩
      | cons piece before => exact ih (List.cons.inj h).2

/-- What is left behind the lexeme of a number. -/
theorem rest_of_cut {previous : Option Char} {cs span : List Char} {before after : List Piece}
    (h : cut previous cs = before ++ .lexeme .number span :: after) :
    endsNumber (after.flatMap Piece.text) = true ∧
      (opensGroup (after.flatMap Piece.text) = true ↔
        endsNumber ((after.flatMap Piece.text).drop (groupRun (after.flatMap Piece.text)))
          = false) := by
  obtain ⟨previous, c, rest, length, found, -, left⟩ := lexeme?_of_cut h
  obtain ⟨positive, ends⟩ := rest_of_number? (finds_of_lexeme? found)
  rwa [← Nat.sub_add_cancel positive, List.drop_succ_cons, ← left] at ends

/-- A number among the tokens is a lexeme among the pieces, with all its
characters. -/
theorem lexeme_of_number {pieces : List Piece} {ts us : List Token} {t : Token}
    (split : pieces.filterMap ofPiece? = ts ++ t :: us) (number : t.kind = .number) :
    ∃ before span after, pieces = before ++ .lexeme .number span :: after ∧
      before.filterMap ofPiece? = ts ∧ after.filterMap ofPiece? = us ∧
      t = ⟨String.ofList span, String.ofList span, .number⟩ := by
  obtain ⟨front, back, rfl, hts, hback⟩ := List.filterMap_eq_append_iff.mp split
  obtain ⟨dropped, piece, after, rfl, none, made, hus⟩ := List.filterMap_eq_cons_iff.mp hback
  have silent : dropped.filterMap ofPiece? = [] := List.filterMap_eq_nil_iff.mpr none
  have own : ∃ span, piece = .lexeme .number span ∧
      t = ⟨String.ofList span, String.ofList span, .number⟩ := by
    cases piece with
    | skipped c => cases made
    | lexeme kind span =>
        cases kind with
        | number =>
            cases made
            exact ⟨span, rfl, rfl⟩
        | word | quoted =>
            rw [kind_of_foldedToken? made] at number
            cases number
        | date | operator | comma =>
            cases made
            cases number
  obtain ⟨span, rfl, ht⟩ := own
  refine ⟨front ++ dropped, span, after, ?_, ?_, hus, ht⟩
  · rw [List.append_assoc]
  · rw [List.filterMap_append, hts, silent, List.append_nil]

/-- Every number among the tokens of a request has been taken from one place of
the text. No digit follows it there. It is whole, so that no group of digits
follows it either, exactly if the run of groups behind it ends where a number may
end: not before a letter, `%`, `*`, `/` or `-`. -/
theorem number_whole_iff {text : String} {ts us : List Token} {t : Token}
    (split : ofText text = ts ++ t :: us) (number : t.kind = .number) :
    ∃ before span after, cut none (tidied text.toList) = before ++ .lexeme .number span :: after ∧
      before.filterMap ofPiece? = ts ∧ after.filterMap ofPiece? = us ∧
      t = ⟨String.ofList span, String.ofList span, .number⟩ ∧
      (∀ c ∈ (after.flatMap Piece.text).head?, isDigit c = false) ∧
      (opensGroup (after.flatMap Piece.text) = false ↔
        endsNumber ((after.flatMap Piece.text).drop (groupRun (after.flatMap Piece.text)))
          = true) := by
  obtain ⟨before, span, after, pieces, hts, hus, ht⟩ := lexeme_of_number split number
  obtain ⟨ends, opens⟩ := rest_of_cut pieces
  refine ⟨before, span, after, pieces, hts, hus, ht, ?_, ?_⟩
  · intro c first
    obtain ⟨more, heq⟩ := List.head?_eq_some_iff.mp first
    exact isDigit_of_endsNumber (heq ▸ ends)
  · rw [← Bool.not_eq_true, opens, Bool.not_eq_false]

/-- An amount before a blank is whole. -/
theorem number_whole_iff_euros :
    ∃ before after, cut none (tidied "10.000 EUR".toList) =
        before ++ .lexeme .number "10.000".toList :: after ∧
      after.flatMap Piece.text = " EUR".toList ∧
      opensGroup (after.flatMap Piece.text) = false := by
  have tokens : ofText "10.000 EUR" =
      [] ++ ⟨"10.000", "10.000", .number⟩ :: [⟨"EUR", "eur", .word⟩] := by decide +kernel
  have pieces : cut none (tidied "10.000 EUR".toList) =
      [.lexeme .number "10.000".toList, .skipped ' ', .lexeme .word "EUR".toList] := by
    decide +kernel
  obtain ⟨before, span, after, split, -, -, -, -, whole⟩ := number_whole_iff tokens rfl
  have only : before = [] ∧ span = "10.000".toList ∧
      after = [.skipped ' ', .lexeme .word "EUR".toList] := by
    rw [pieces] at split
    match before with
    | [] =>
        cases split
        exact ⟨rfl, rfl, rfl⟩
    | [_] => cases split
    | [_, _] => cases split
    | _ :: _ :: _ :: _ => simp at split
  obtain ⟨rfl, rfl, rfl⟩ := only
  exact ⟨[], _, split, rfl, whole.mpr (by decide +kernel)⟩

/-- An amount that touches its currency is cut off: the number is ten and not ten
thousand, and the group behind it is a word. -/
theorem number_gives_back :
    cut none (tidied "10.000EUR".toList) =
        [.lexeme .number "10".toList, .lexeme .word ".000EUR".toList] ∧
      opensGroup ".000EUR".toList = true ∧
      ofText "10.000EUR" = [⟨"10", "10", .number⟩, ⟨".000EUR", ".000eur", .word⟩] := by
  decide +kernel

end Inquiry.Token
