import Inquiry.Proofs.Respelling

/-!
# Word characters

No letter and no digit of a request is lost, and none is read twice: the word characters
of the tokens are those of the text, in order (`wordCharacters_ofText`).

What does not come into a token is no word character. A word cannot be cut away from the
place where it begins, so a character that fits nowhere is none. Quotations lose their
marks and the blanks around their content, and words lose full stops and hyphens.
-/

namespace Inquiry

/-! ## What is dropped at an end -/

theorem filter_dropWhile {α : Type} {p q : α → Bool} (apart : ∀ a, q a = true → p a = false)
    (list : List α) : (list.dropWhile q).filter p = list.filter p := by
  induction list with
  | nil => rfl
  | cons a list ih =>
      rw [List.dropWhile_cons]
      split
      · next drops => rw [ih, List.filter_cons_of_neg (by simp [apart a drops])]
      · rfl

theorem filter_dropWhile_reverse {α : Type} {p q : α → Bool}
    (apart : ∀ a, q a = true → p a = false) (list : List α) :
    ((list.reverse.dropWhile q).reverse).filter p = list.filter p := by
  rw [List.filter_reverse, filter_dropWhile apart, List.filter_reverse, List.reverse_reverse]

namespace Text

theorem isWordChar_of_isBlank (c : Char) (blank : isBlank c = true) : isWordChar c = false := by
  refine Bool.eq_false_iff.mpr fun own => ?_
  rw [isBlank_of_isWordChar own] at blank
  cases blank

theorem filter_trimmed (cs : List Char) :
    (trimmed cs).filter isWordChar = cs.filter isWordChar := by
  rw [trimmed, trimEnd, filter_dropWhile_reverse isWordChar_of_isBlank, trimStart,
    filter_dropWhile isWordChar_of_isBlank]

theorem filter_words (cs : List Char) :
    (words cs).flatten.filter isWordChar = cs.filter isWordChar := by
  fun_induction words cs with
  | case1 => rfl
  | case2 c rest blank ih =>
      rw [ih, List.filter_cons_of_neg (by simp [isWordChar_of_isBlank c blank])]
  | case3 c rest visible goesOn word more found ih =>
      rw [found] at ih
      simp only [List.flatten_cons, List.cons_append, List.filter_cons] at ih ⊢
      rw [ih]
  | case4 c rest visible goesOn none ih =>
      rw [none] at ih
      simp only [List.flatten_cons, List.flatten_nil, List.append_nil, List.filter_cons] at ih ⊢
      rw [← ih]
  | case5 c rest visible ends ih =>
      rw [List.flatten_cons, List.singleton_append, List.filter_cons, List.filter_cons, ih]

theorem filter_spaced (cs : List Char) : (spaced cs).filter isWordChar = cs.filter isWordChar := by
  have joined (ws : List (List Char)) :
      ([' '].intercalate ws).filter isWordChar = ws.flatten.filter isWordChar := by
    have blank : isWordChar ' ' = false := isWordChar_of_isBlank ' ' (by decide)
    induction ws with
    | nil => rfl
    | cons word more ih =>
        cases more with
        | nil => simp
        | cons next more =>
            rw [List.intercalate_cons_cons, List.filter_append, List.filter_append, ih,
              List.flatten_cons, List.filter_append, List.filter_cons_of_neg (by simp [blank])]
            simp
  rw [spaced, joined, filter_words]

end Text

namespace Token

open Text

/-- Only marks are replaced, by marks. -/
theorem isWordChar_plainQuote (c : Char) : plainQuote c = c ∨
    isWordChar c = false ∧ isWordChar (plainQuote c) = false := by
  have double : ∀ c ∈ ['“', '”', '„', '«', '»'], isWordChar c = false := by decide +kernel
  have single : ∀ c ∈ ['‘', '’', '‚', '\x60'], isWordChar c = false := by decide +kernel
  have plain : isWordChar '"' = false ∧ isWordChar '\'' = false := by decide +kernel
  rw [plainQuote]
  split
  · next known => exact .inr ⟨double c known, plain.1⟩
  · split
    · next known => exact .inr ⟨single c known, plain.2⟩
    · exact .inl rfl

/-- Tidying keeps the word characters. -/
theorem filter_tidied (cs : List Char) : (tidied cs).filter isWordChar = cs.filter isWordChar := by
  rw [tidied, filter_spaced]
  induction cs with
  | nil => rfl
  | cons c cs ih =>
      rw [List.map_cons, List.filter_cons, List.filter_cons, ih]
      rcases isWordChar_plainQuote c with same | ⟨mark, plain⟩
      · rw [same]
      · rw [mark, plain]
        rfl

theorem filter_trimWord (cs : List Char) :
    (trimWord cs).filter isWordChar = cs.filter isWordChar := by
  have ends : isWordChar '.' = false ∧ isWordChar '-' = false := by decide
  rw [trimWord, filter_dropWhile, filter_dropWhile_reverse]
  · intro c own
    rcases of_decide_eq_true own with rfl | rfl
    · exact ends.1
    · exact ends.2
  · intro c own
    rw [of_decide_eq_true own]
    exact ends.2

/-! ## Pieces -/

/-- The characters of a piece that come into a token. -/
def Piece.kept (piece : Piece) : List Char :=
  ((ofPiece? piece).map fun t => t.raw.toList).getD []

theorem kept_foldedToken? (kind : Kind) (raw : List Char) :
    ((foldedToken? kind raw).map fun t => t.raw.toList).getD [] = raw := by
  rw [foldedToken?]
  split
  · next none => exact none.symm
  · exact String.toList_ofList

/-- A quotation is its content between two marks. -/
theorem filter_quotation {mark c : Char} {rest : List Char} {n : Nat}
    (known : mark ∈ ['"', '\'']) (found : quotation? mark (c :: rest) = some n) :
    (((c :: rest.take (n - 1)).drop 1).dropLast).filter isWordChar =
      (c :: rest.take (n - 1)).filter isWordChar := by
  have noWord : isWordChar mark = false := (isStop_of_mark mark known).not_isWordChar
  rw [quotation?] at found
  split at found
  · next own =>
      obtain ⟨rfl, closed⟩ := own
      obtain ⟨content, behind, rfl, noMark⟩ := List.eq_append_cons_of_mem closed
      cases found
      rw [length_takeWhile_content noMark, (take_quotation c content behind).1, List.drop_one,
        List.tail_cons, List.dropLast_concat, List.filter_cons_of_neg (by simp [noWord]),
        List.filter_append, List.filter_cons_of_neg (by simp [noWord]), List.filter_nil,
        List.append_nil]
  · cases found

/-- A piece loses no word character. -/
theorem Piece.IsCut.filter_kept {piece : Piece} (h : piece.IsCut) :
    piece.kept.filter isWordChar = piece.text.filter isWordChar := by
  cases piece with
  | skipped c =>
      obtain ⟨previous, rest, none⟩ := h
      -- A word would begin with a word character.
      have noWord : isWordChar c = false := by
        refine Bool.eq_false_iff.mpr fun own => ?_
        have part : isWordPart c = true := by rw [isWordPart, own, Bool.true_or]
        simp [lexeme?, word?, List.takeWhile_cons_of_pos part] at none
      rw [kept, ofPiece?, text, List.filter_cons_of_neg (by simp [noWord])]
      rfl
  | lexeme kind span =>
      obtain ⟨previous, c, rest, n, found, rfl⟩ := h
      cases kind with
      | quoted =>
          obtain ⟨mark, known, quotation⟩ := finds_of_lexeme? found
          rw [kept, ofPiece?, kept_foldedToken?, filter_trimmed, filter_quotation known quotation]
          rfl
      | word =>
          rw [kept, ofPiece?, kept_foldedToken?, filter_trimWord]
          rfl
      | date | number | operator | comma =>
          exact congrArg _ String.toList_ofList

theorem flatMap_raw_filterMap (pieces : List Piece) :
    (pieces.filterMap ofPiece?).flatMap (·.raw.toList) = pieces.flatMap Piece.kept := by
  induction pieces with
  | nil => rfl
  | cons piece pieces ih =>
      rw [List.flatMap_cons, ← ih, Piece.kept]
      cases found : ofPiece? piece with
      | none => rw [List.filterMap_cons_none found]; rfl
      | some t => rw [List.filterMap_cons_some found]; rfl

/-- The word characters of the tokens are those of the tidied text, which are those of
the request as it was typed. Every token has text. -/
theorem wordCharacters_ofText (text : String) :
    ((ofText text).flatMap (·.raw.toList)).filter isWordChar =
        (tidied text.toList).filter isWordChar ∧
      (tidied text.toList).filter isWordChar = text.toList.filter isWordChar ∧
      ∀ t ∈ ofText text, t.raw ≠ "" := by
  refine ⟨?_, filter_tidied text.toList, ?_⟩
  · calc ((ofText text).flatMap (·.raw.toList)).filter isWordChar
        = ((cut none (tidied text.toList)).flatMap Piece.kept).filter isWordChar := by
          rw [ofText, flatMap_raw_filterMap]
      _ = ((cut none (tidied text.toList)).flatMap Piece.text).filter isWordChar := by
          rw [List.filter_flatMap, List.filter_flatMap]
          exact List.flatMap_congr fun piece member => (isCut_of_cut _ _ piece member).filter_kept
      _ = (tidied text.toList).filter isWordChar := by rw [flatMap_text_cut]
  · intro t member empty
    obtain ⟨c, own, -⟩ := hasText_ofText text t member
    rw [empty] at own
    exact absurd own (List.not_mem_nil)

end Token

end Inquiry
