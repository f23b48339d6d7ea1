import Inquiry.Proofs.Blanks
import Inquiry.Token.Lexer
import Mathlib.Data.List.TakeWhile

/-!
# Tokens have text

Every token of a request has a character that is not a blank. Quotations and
words of which nothing remains are dropped, and a lexeme of any other kind
begins with a digit or a sign.
-/

namespace Inquiry

open Text

/-- The codes of the blanks. -/
def blankCodes : List Nat :=
  List.range' 0x09 5 ++ List.range' 0x1C 5 ++ [0x85, 0xA0, 0x1680] ++ List.range' 0x2000 11 ++
    [0x2028, 0x2029, 0x202F, 0x205F, 0x3000]

theorem isBlank_iff {c : Char} : isBlank c = true ↔ c.toNat ∈ blankCodes := by
  simp only [isBlank, blankCodes, Bool.or_eq_true, Bool.and_eq_true, decide_eq_true_eq, beq_iff_eq,
    List.mem_append, List.mem_range'_1, List.mem_cons, List.not_mem_nil, or_false]
  omega

theorem isBlank_of_mem {cs : List Char} (h : cs.any isBlank = false) {c : Char} (member : c ∈ cs) :
    isBlank c = false :=
  Bool.eq_false_iff.mpr (List.any_eq_false.mp h c member)

/-- No blank can stand inside a word. -/
theorem isBlank_of_isWordChar {c : Char} (h : isWordChar c = true) : isBlank c = false := by
  have none : ∀ n ∈ blankCodes, n ≠ '_'.toNat ∧ (digitAmong digitZeros n).isSome = false ∧
      CodeTable.covers wordRanges n = false := by decide +kernel
  refine Bool.eq_false_iff.mpr fun blank => ?_
  obtain ⟨underscore, digit, letter⟩ := none c.toNat (isBlank_iff.mp blank)
  simp only [isWordChar, Bool.or_eq_true, beq_iff_eq] at h
  rcases h with (rfl | h) | h
  · exact underscore rfl
  · rw [isDigit, digit?, digit] at h
    cases h
  · rw [letter] at h
    cases h

theorem isBlank_of_isWordPart {c : Char} (h : Token.isWordPart c = true) : isBlank c = false := by
  simp only [Token.isWordPart, Bool.or_eq_true, decide_eq_true_eq] at h
  rcases h with h | h
  · exact isBlank_of_isWordChar h
  · exact isBlank_of_mem (by decide) h

theorem isBlank_of_isDigit {c : Char} (h : isDigit c = true) : isBlank c = false :=
  isBlank_of_isWordChar (isWordChar_of_isDigit h)

/-- Characters that are not all blank. -/
def HasText (cs : List Char) : Prop := ∃ c ∈ cs, isBlank c = false

theorem HasText.cons {c : Char} (h : isBlank c = false) (cs : List Char) : HasText (c :: cs) :=
  ⟨c, List.mem_cons_self, h⟩

/-- What remains of a text without the blanks around it is not blank. -/
theorem hasText_trimmed {cs : List Char} (h : trimmed cs ≠ []) : HasText (trimmed cs) := by
  rw [trimmed, trimEnd] at h ⊢
  rw [ne_eq, List.reverse_eq_nil_iff] at h
  obtain ⟨c, rest, heq⟩ := List.exists_cons_of_ne_nil h
  refine ⟨c, ?_, ?_⟩
  · rw [heq, List.mem_reverse]
    exact List.mem_cons_self
  · have first := List.head?_dropWhile_not isBlank (trimStart cs).reverse
    rw [heq] at first
    simpa using first

theorem trimmed_ne_nil {cs : List Char} (h : HasText cs) : trimmed cs ≠ [] := by
  obtain ⟨c, member, visible⟩ := h
  have start : c ∈ trimStart cs := by
    rw [← List.takeWhile_append_dropWhile (p := isBlank) (l := cs)] at member
    rcases List.mem_append.mp member with blank | member
    · rw [List.mem_takeWhile_imp blank] at visible
      cases visible
    · exact member
  rw [trimmed, trimEnd, ne_eq, List.reverse_eq_nil_iff, List.dropWhile_eq_nil_iff]
  intro blank
  rw [blank c (List.mem_reverse.mpr start)] at visible
  cases visible

/-- What stands between visible characters is not trimmed. -/
theorem mem_trimmed_between {before behind : List Char} (h : HasText before) (h' : HasText behind)
    (c : Char) : c ∈ trimmed (before ++ c :: behind) := by
  obtain ⟨x, own, visible⟩ := h
  obtain ⟨y, own', visible'⟩ := h'
  obtain ⟨a, a', rfl⟩ := List.append_of_mem own
  obtain ⟨b, b', rfl⟩ := List.append_of_mem own'
  have starts := trimStart_visible visible a (a' ++ c :: (b ++ y :: b'))
  have ends := trimEnd_visible visible' (trimStart a ++ x :: (a' ++ c :: b)) b'
  simp only [List.append_assoc, List.cons_append] at starts ends ⊢
  rw [trimmed, starts, ends]
  simp

namespace Token

/-- A token that says something. -/
def HasText (t : Token) : Prop := Inquiry.HasText t.raw.toList

theorem isDigit_of_digitRun {c : Char} {rest : List Char} (h : 1 ≤ digitRun (c :: rest)) :
    isDigit c = true := by
  by_contra none
  rw [digitRun, List.takeWhile_cons_of_neg none] at h
  exact absurd h (by decide)

theorem digitRun_of_dateParts? {signs : List Char} {least most n : Nat} {more : List (Nat × Nat)}
    {cs : List Char} (h : dateParts? signs ((least, most) :: more) cs = some n) :
    least ≤ digitRun cs := by
  cases more with
  | nil =>
      simp only [dateParts?] at h
      split at h
      · next bounds => exact bounds.1
      · cases h
  | cons second more =>
      simp only [dateParts?] at h
      split at h
      · next bounds => exact bounds.1
      · cases h

theorem isDigit_of_date? {c : Char} {rest : List Char} {n : Nat}
    (h : date? (c :: rest) = some n) : isDigit c = true := by
  simp only [date?, Option.orElse_eq_orElse, Option.orElse_eq_or, Option.or_eq_some_iff] at h
  rcases h with h | ⟨-, h⟩
  · exact isDigit_of_digitRun (digitRun_of_dateParts? h)
  · exact isDigit_of_digitRun (Nat.le_trans (by decide) (digitRun_of_dateParts? h))

/-- A number is a run of digits, perhaps with a sign in front, and groups of digits behind it. -/
theorem exists_of_number? {previous : Option Char} {cs : List Char} {n : Nat}
    (h : number? previous cs = some n) :
    ∃ sign groups, (cs.head? = some '-' ∨ sign = 0) ∧ 1 ≤ digitRun (cs.drop sign) ∧
      digitGroups? (cs.drop (sign + digitRun (cs.drop sign))) = some groups ∧
        n = sign + digitRun (cs.drop sign) + groups := by
  rw [number?] at h
  split at h
  · cases h
  · have unsigned : cs.head? = some '-' ∨ (if cs.head? = some '-' then 1 else 0) = 0 := by
      split
      · next signed => exact .inl signed
      · exact .inr rfl
    simp only at h
    generalize (if cs.head? = some '-' then 1 else 0) = sign at h unsigned
    split at h
    · cases h
    · next digits =>
        obtain ⟨groups, found, rfl⟩ := Option.map_eq_some_iff.mp h
        exact ⟨sign, groups, unsigned, Nat.pos_of_ne_zero digits, found, rfl⟩

theorem head_of_number? {previous : Option Char} {c : Char} {rest : List Char} {n : Nat}
    (h : number? previous (c :: rest) = some n) : c = '-' ∨ isDigit c = true := by
  obtain ⟨sign, groups, signed | rfl, digits, -⟩ := exists_of_number? h
  · exact .inl (Option.some.inj signed)
  · exact .inr (isDigit_of_digitRun digits)

theorem head_of_comparison? {c : Char} {rest : List Char} {n : Nat}
    (h : comparison? (c :: rest) = some n) : c ∈ ['<', '>', '!', '='] := by
  unfold comparison? at h
  split at h
  all_goals cases h
  all_goals
    rename_i heq
    cases heq
    decide

/-- A word is the run of word characters at the beginning of its text. -/
theorem take_of_word? {cs : List Char} {n : Nat} (h : word? cs = some n) :
    cs.take n = cs.takeWhile isWordPart := by
  have length : (cs.takeWhile isWordPart).length = n := by
    rw [word?] at h
    split at h
    · cases h
    · next found => exact found.trans (Option.some.inj h)
  rw [← length]
  exact (List.prefix_iff_eq_take.mp (List.takeWhile_prefix _)).symm

/-- What the reader of each kind finds at the beginning of a text. -/
def Finds (previous : Option Char) (cs : List Char) : Kind → Nat → Prop
  | .quoted, n => ∃ mark ∈ ['"', '\''], quotation? mark cs = some n
  | .date, n => date? cs = some n
  | .number, n => number? previous cs = some n
  | .operator, n => comparison? cs = some n
  | .comma, n => cs.head? = some ',' ∧ n = 1
  | .word, n => word? cs = some n

theorem finds_of_lexeme? {previous : Option Char} {cs : List Char} {kind : Kind} {n : Nat}
    (h : lexeme? previous cs = some (kind, n)) : Finds previous cs kind n := by
  simp only [lexeme?, Option.orElse_eq_orElse, Option.orElse_eq_or, Option.or_eq_some_iff,
    Option.map_eq_some_iff, Prod.mk.injEq] at h
  obtain ⟨_, double | ⟨-, single⟩, rfl, rfl⟩ | ⟨-, ⟨_, date, rfl, rfl⟩ | ⟨-,
    ⟨_, number, rfl, rfl⟩ | ⟨-, ⟨_, sign, rfl, rfl⟩ | ⟨-, comma | ⟨-, _, word, rfl, rfl⟩⟩⟩⟩⟩ := h
  · exact ⟨'"', by simp, double⟩
  · exact ⟨'\'', by simp, single⟩
  · exact date
  · exact number
  · exact sign
  · split at comma
    · next head =>
        cases comma
        exact ⟨head, rfl⟩
    · cases comma
  · exact word

/-- A piece that has been cut from the beginning of some text: a character at which no
lexeme begins, or a lexeme. -/
def Piece.IsCut : Piece → Prop
  | .skipped c => ∃ previous rest, lexeme? previous (c :: rest) = none
  | .lexeme kind text => ∃ previous c rest n,
      lexeme? previous (c :: rest) = some (kind, n) ∧ text = c :: rest.take (n - 1)

theorem isCut_of_cut (previous : Option Char) (cs : List Char) :
    ∀ piece ∈ cut previous cs, piece.IsCut := by
  fun_induction cut previous cs with
  | case1 => simp
  | case2 previous c rest none ih =>
      intro piece member
      rcases List.mem_cons.mp member with rfl | member
      · exact ⟨previous, rest, none⟩
      · exact ih piece member
  | case3 previous c rest kind length found text ih =>
      intro piece member
      rcases List.mem_cons.mp member with rfl | member
      · exact ⟨previous, c, rest, length, found, rfl⟩
      · exact ih piece member

/-- A lexeme at the beginning of a text is its first piece. -/
theorem cut_span {previous : Option Char} {kind : Kind} {span rest : List Char} (ne : span ≠ [])
    (found : lexeme? previous (span ++ rest) = some (kind, span.length)) :
    cut previous (span ++ rest) = .lexeme kind span :: cut span.getLast? rest := by
  obtain ⟨c, tail, rfl⟩ := List.exists_cons_of_ne_nil ne
  rw [List.cons_append] at found ⊢
  rw [cut, found]
  simp

/-- What a lexeme has to begin with or to consist of. -/
def Piece.IsVisible : Piece → Prop
  | .skipped _ | .lexeme .quoted _ => True
  | .lexeme .word text => ∀ c ∈ text, isWordPart c = true
  | .lexeme _ text => Inquiry.HasText text

theorem isVisible_of_lexeme? {previous : Option Char} {c : Char} {rest : List Char} {kind : Kind}
    {n : Nat} (h : lexeme? previous (c :: rest) = some (kind, n)) :
    (Piece.lexeme kind (c :: rest.take (n - 1))).IsVisible := by
  have found := finds_of_lexeme? h
  cases kind with
  | quoted => exact trivial
  | date => exact HasText.cons (isBlank_of_isDigit (isDigit_of_date? found)) _
  | number =>
      rcases head_of_number? found with rfl | digit
      · exact HasText.cons (by decide) _
      · exact HasText.cons (isBlank_of_isDigit digit) _
  | operator => exact HasText.cons (isBlank_of_mem (by decide) (head_of_comparison? found)) _
  | comma =>
      obtain ⟨⟨⟩, -⟩ := found
      exact HasText.cons (by decide) _
  | word =>
      have run := take_of_word? found
      cases n with
      | zero =>
          simp only [Finds, word?] at found
          split at found <;> cases found
      | succ n =>
          intro d member
          rw [Nat.add_sub_cancel, ← List.take_succ_cons, run] at member
          exact List.mem_takeWhile_imp member

theorem Piece.IsCut.isVisible {piece : Piece} (h : piece.IsCut) : piece.IsVisible := by
  cases piece with
  | skipped c => exact trivial
  | lexeme kind text =>
      obtain ⟨_, c, rest, n, found, rfl⟩ := h
      exact isVisible_of_lexeme? found

theorem raw_of_foldedToken? {kind : Kind} {raw : List Char} {t : Token}
    (h : foldedToken? kind raw = some t) : raw ≠ [] ∧ t.raw.toList = raw := by
  rw [foldedToken?] at h
  split at h
  · cases h
  · next nonempty =>
      cases h
      exact ⟨nonempty, String.toList_ofList⟩

theorem kind_of_foldedToken? {kind : Kind} {raw : List Char} {t : Token}
    (h : foldedToken? kind raw = some t) : t.kind = kind := by
  rw [foldedToken?] at h
  split at h <;> cases h
  rfl

theorem hasText_of_foldedToken? {kind : Kind} {raw : List Char} {t : Token}
    (h : foldedToken? kind raw = some t) (visible : raw ≠ [] → Inquiry.HasText raw) :
    t.HasText := by
  obtain ⟨nonempty, own⟩ := raw_of_foldedToken? h
  rw [HasText, own]
  exact visible nonempty

theorem trimWord_sublist (text : List Char) : (trimWord text).Sublist text := by
  have ends (drops : Char → Bool) : (text.reverse.dropWhile drops).reverse.Sublist text := by
    simpa using (List.dropWhile_sublist drops (l := text.reverse)).reverse
  exact (List.dropWhile_sublist _).trans (ends _)

theorem hasText_trimWord {text : List Char} (h : ∀ c ∈ text, isWordPart c = true)
    (nonempty : trimWord text ≠ []) : Inquiry.HasText (trimWord text) := by
  obtain ⟨c, member⟩ := List.exists_mem_of_ne_nil _ nonempty
  exact ⟨c, member, isBlank_of_isWordPart (h c ((trimWord_sublist text).subset member))⟩

theorem hasText_of_ofPiece? {piece : Piece} {t : Token} (h : ofPiece? piece = some t)
    (visible : piece.IsVisible) : t.HasText := by
  cases piece with
  | skipped c => cases h
  | lexeme kind text =>
      cases kind with
      | quoted => exact hasText_of_foldedToken? h hasText_trimmed
      | word => exact hasText_of_foldedToken? h (hasText_trimWord visible)
      | number | date | operator | comma =>
          cases h
          rw [HasText, String.toList_ofList]
          exact visible

/-- Every token of a request says something. -/
theorem hasText_ofText (text : String) : ∀ t ∈ ofText text, t.HasText := by
  intro t member
  obtain ⟨piece, hpiece, ht⟩ := List.mem_filterMap.mp member
  exact hasText_of_ofPiece? ht (isCut_of_cut _ _ piece hpiece).isVisible

theorem raw_sublist_of_ofPiece? {piece : Piece} {t : Token} (h : ofPiece? piece = some t) :
    t.raw.toList.Sublist piece.text := by
  cases piece with
  | skipped c => cases h
  | lexeme kind text =>
      cases kind with
      | quoted =>
          rw [(raw_of_foldedToken? h).2]
          have sub := (List.dropLast_sublist (text.drop 1)).trans (List.drop_sublist 1 text)
          exact trimmed_sublist.trans sub
      | word =>
          rw [(raw_of_foldedToken? h).2]
          exact trimWord_sublist text
      | number | date | operator | comma =>
          cases h
          rw [String.toList_ofList]
          exact List.Sublist.refl text

/-- Every character of a token stands in the tidied request. -/
theorem mem_tidied_of_mem_raw {text : String} {t : Token} (member : t ∈ ofText text) {c : Char}
    (own : c ∈ t.raw.toList) : c ∈ tidied text.toList := by
  obtain ⟨piece, known, found⟩ := List.mem_filterMap.mp member
  rw [← flatMap_text_cut none (tidied text.toList)]
  exact List.mem_flatMap.mpr ⟨piece, known, (raw_sublist_of_ofPiece? found).subset own⟩

theorem plainQuote_of_isBlank {c : Char} (h : isBlank c = true) : plainQuote c = c := by
  rw [plainQuote, if_neg, if_neg]
  · intro single
    rw [isBlank_of_mem (by decide) single] at h
    cases h
  · intro double
    rw [isBlank_of_mem (by decide) double] at h
    cases h

/-- A text of blanks has no tokens. -/
theorem ofText_of_isBlankText {text : String} (h : isBlankText text = true) : ofText text = [] := by
  have blanks : ∀ c ∈ text.toList.map plainQuote, isBlank c = true := by
    intro c member
    obtain ⟨original, horiginal, rfl⟩ := List.mem_map.mp member
    have blank := List.all_eq_true.mp h original horiginal
    rwa [plainQuote_of_isBlank blank]
  have wordless : words (text.toList.map plainQuote) = [] := by
    generalize text.toList.map plainQuote = cs at blanks
    induction cs with
    | nil => rfl
    | cons c rest ih =>
        rw [words, if_pos (blanks c List.mem_cons_self)]
        exact ih fun d member => blanks d (List.mem_cons_of_mem c member)
  rw [ofText, tidied, spaced, wordless, List.intercalate_nil, cut]
  rfl

end Token

end Inquiry
