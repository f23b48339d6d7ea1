import Inquiry.Proofs.Blanks
import Inquiry.Proofs.TokenText
import Mathlib.Data.List.Forall2

/-!
# Phrases of plain words

Most keywords consist of small letters, digits and a few signs. Such words pass
through the lexer unchanged: no character of them is a quotation mark, a blank
or a mark, and folding has nothing to lower, to spell out or to drop. So a phrase
of plain words is looked for by these words.
-/

namespace Inquiry

namespace Text

/-- The characters of plain words. -/
def plainChars : List Char :=
  ['a', 'b', 'c', 'd', 'e', 'f', 'g', 'h', 'i', 'j', 'k', 'l', 'm', 'n', 'o', 'p', 'q', 'r', 's',
    't', 'u', 'v', 'w', 'x', 'y', 'z', '0', '1', '2', '3', '4', '5', '6', '7', '8', '9', '_', '-',
    '/']

/-- What is true of plain characters is decided one by one, and not over all
characters. -/
theorem forall_plainChars {p : Char → Prop} [DecidablePred p]
    (h : plainChars.all (fun c => decide (p c)) = true) : ∀ c ∈ plainChars, p c :=
  fun c member => of_decide_eq_true (List.all_eq_true.mp h c member)

/-- A character that folding keeps as it is, and that can only be part of a word. -/
structure IsPlain (c : Char) : Prop where
  unmarked : markClass c = 0
  low : c.toNat < 0x300
  whole : decompose c = [c]
  small : lowered c = [c] ∧ c ≠ 'Σ'
  spelt : spellUmlaut c = [c]
  presented : unpresent c = [c]
  visible : isBlank c = false
  part : Token.isWordPart c = true
  noQuote : c ≠ '"' ∧ c ≠ '\''
  noSign : c ∉ ['<', '>', '!', '=']
  noComma : c ≠ ','
  noPoint : c ≠ '.'
  quoted : Token.plainQuote c = c

instance (c : Char) : Decidable (IsPlain c) :=
  decidable_of_iff (markClass c = 0 ∧ c.toNat < 0x300 ∧ decompose c = [c] ∧
      (lowered c = [c] ∧ c ≠ 'Σ') ∧ spellUmlaut c = [c] ∧ unpresent c = [c] ∧
      isBlank c = false ∧ Token.isWordPart c = true ∧ (c ≠ '"' ∧ c ≠ '\'') ∧
      c ∉ ['<', '>', '!', '='] ∧ c ≠ ',' ∧ c ≠ '.' ∧ Token.plainQuote c = c)
    ⟨fun ⟨h₁, h₂, h₃, h₄, h₅, h₆, h₇, h₈, h₉, h₁₀, h₁₁, h₁₂, h₁₃⟩ =>
        ⟨h₁, h₂, h₃, h₄, h₅, h₆, h₇, h₈, h₉, h₁₀, h₁₁, h₁₂, h₁₃⟩,
      fun h => ⟨h.unmarked, h.low, h.whole, h.small, h.spelt, h.presented, h.visible, h.part,
        h.noQuote, h.noSign, h.noComma, h.noPoint, h.quoted⟩⟩

theorem isPlain_of_mem : ∀ c ∈ plainChars, IsPlain c := forall_plainChars (by decide +kernel)

/-! ## Plain text is folded -/

theorem flatMap_eq_self {f : Char → List Char} {cs : List Char} (h : ∀ c ∈ cs, f c = [c]) :
    cs.flatMap f = cs := by
  rw [List.flatMap_congr h, List.flatMap_singleton']

theorem orderMarks_eq_self {cs : List Char} (h : ∀ c ∈ cs, markClass c = 0) :
    orderMarks cs = cs := by
  induction cs with
  | nil => rfl
  | cons c rest ih =>
      rw [orderMarks, ih fun d member => h d (List.mem_cons_of_mem c member)]
      cases rest with
      | nil => rfl
      | cons d rest => simp [placeMark, h d (List.mem_cons_of_mem c List.mem_cons_self)]

/-- Letters without marks behind them are joined with nothing. -/
theorem composeWith_eq_self {cs : List Char} (h : ∀ c ∈ cs, markClass c = 0 ∧ c.toNat < 0x300)
    (letter : Char) : composeWith letter [] cs = letter :: cs := by
  induction cs generalizing letter with
  | nil => rfl
  | cons c rest ih =>
      obtain ⟨noMark, low⟩ := h c List.mem_cons_self
      rw [composeWith]
      simp [join?, low, noMark, ih fun d member => h d (List.mem_cons_of_mem c member)]

theorem lowerAfter_eq_self {cs : List Char} (h : ∀ c ∈ cs, lowered c = [c] ∧ c ≠ 'Σ')
    (before : List Char) : lowerAfter before cs = cs := by
  induction cs generalizing before with
  | nil => rfl
  | cons c rest ih =>
      obtain ⟨low, noSigma⟩ := h c List.mem_cons_self
      rw [lowerAfter, ih fun d member => h d (List.mem_cons_of_mem c member)]
      simp [noSigma, low]

theorem folded_eq_self {w : List Char} (h : ∀ c ∈ w, c ∈ plainChars) : folded w = w := by
  have plain : ∀ c ∈ w, IsPlain c := fun c member => isPlain_of_mem c (h c member)
  have marks : ∀ c ∈ w, markClass c = 0 := fun c member => (plain c member).unmarked
  have whole : w.flatMap decompose = w := flatMap_eq_self fun c member => (plain c member).whole
  have small : ∀ c ∈ w, lowered c = [c] ∧ c ≠ 'Σ' := fun c member => (plain c member).small
  have spelt : w.flatMap spellUmlaut = w := flatMap_eq_self fun c member => (plain c member).spelt
  have presented : w.flatMap unpresent = w :=
    flatMap_eq_self fun c member => (plain c member).presented
  have visible : ∀ c ∈ w, isBlank c = false := fun c member => (plain c member).visible
  have compose : composed w = w := by
    rw [composed, decomposed, whole, orderMarks_eq_self marks]
    cases w with
    | nil => rfl
    | cons c rest =>
        rw [composeMarks, if_pos (marks c List.mem_cons_self)]
        exact composeWith_eq_self (fun d member =>
          have tail := plain d (List.mem_cons_of_mem c member)
          ⟨tail.unmarked, tail.low⟩) c
  have unmarked : w.filter (fun c => markClass c == 0) = w := by
    rw [List.filter_eq_self]
    intro c member
    rw [marks c member]
    rfl
  rw [folded, compose, lower, lowerAfter_eq_self small, spelt, Text.plain, whole, presented,
    orderMarks_eq_self marks, unmarked, spaced]
  cases w with
  | nil => rfl
  | cons c rest =>
      rw [words_of_visible (List.cons_ne_nil c rest) visible, List.intercalate_singleton]

end Text

namespace Token

open Text

/-! ## Plain words are lexemes -/

/-- A word of plain characters that begins with a letter and does not end with a
hyphen. -/
structure IsPlainWord (w : List Char) : Prop where
  chars : ∀ c ∈ w, c ∈ plainChars
  head : ∃ c rest, w = c :: rest ∧ isDigit c = false ∧ c ≠ '-'
  last : ∀ c ∈ w.getLast?, c ≠ '-'

variable {w : List Char}

theorem IsPlainWord.visible (plain : IsPlainWord w) : w ≠ [] ∧ ∀ c ∈ w, isBlank c = false := by
  obtain ⟨c, rest, rfl, -⟩ := plain.head
  exact ⟨List.cons_ne_nil c rest, fun d member => (isPlain_of_mem d (plain.chars d member)).visible⟩

/-- A blank is part of no word. -/
theorem isWordChar_blank : isWordChar ' ' = false :=
  Bool.eq_false_iff.mpr fun wordChar =>
    absurd (isBlank_of_isWordChar wordChar) (by decide : isBlank ' ' ≠ false)

theorem isWordPart_blank : isWordPart ' ' = false := by
  rw [isWordPart, isWordChar_blank]
  rfl

theorem isDigit_blank : isDigit ' ' = false :=
  Bool.eq_false_iff.mpr fun digit =>
    absurd (isBlank_of_isDigit digit) (by decide : isBlank ' ' ≠ false)

theorem lexeme?_of_unquoted {previous : Option Char} {c : Char} {rest : List Char}
    (unquoted : ∀ mark ∈ ['"', '\''], quotation? mark (c :: rest) = none)
    (noNumber : isDigit c = false ∧ c ≠ '-') (noSign : c ∉ ['<', '>', '!', '='])
    (noComma : c ≠ ',') :
    lexeme? previous (c :: rest) = (word? (c :: rest)).map (Kind.word, ·) := by
  have date : date? (c :: rest) = none := by
    rw [Option.eq_none_iff_forall_ne_some]
    intro n found
    rw [isDigit_of_date? found] at noNumber
    exact absurd noNumber.1 (by decide)
  have number : number? previous (c :: rest) = none := by
    rw [Option.eq_none_iff_forall_ne_some]
    intro n found
    rcases head_of_number? found with hyphen | digit
    · exact noNumber.2 hyphen
    · rw [digit] at noNumber
      exact absurd noNumber.1 (by decide)
  have sign : comparison? (c :: rest) = none := by
    rw [Option.eq_none_iff_forall_ne_some]
    exact fun n found => noSign (head_of_comparison? found)
  simp [lexeme?, unquoted, date, number, sign, noComma]

theorem lexeme?_of_head {previous : Option Char} {c : Char} {rest : List Char}
    (noQuote : c ≠ '"' ∧ c ≠ '\'') (noNumber : isDigit c = false ∧ c ≠ '-')
    (noSign : c ∉ ['<', '>', '!', '=']) (noComma : c ≠ ',') :
    lexeme? previous (c :: rest) = (word? (c :: rest)).map (Kind.word, ·) := by
  have unquoted : ∀ mark ∈ ['"', '\''], quotation? mark (c :: rest) = none := by
    simp [quotation?, noQuote]
  exact lexeme?_of_unquoted unquoted noNumber noSign noComma

theorem lexeme?_of_plain (plain : IsPlainWord w) (previous : Option Char) (rest : List Char)
    (ends : ∀ c ∈ rest.head?, isWordPart c = false) :
    lexeme? previous (w ++ rest) = some (.word, w.length) := by
  obtain ⟨c, tail, rfl, noNumber⟩ := plain.head
  have head := isPlain_of_mem c (plain.chars c List.mem_cons_self)
  have parts : ∀ d ∈ c :: tail, isWordPart d = true :=
    fun d hd => (isPlain_of_mem d (plain.chars d hd)).part
  have run : ((c :: tail) ++ rest).takeWhile isWordPart = c :: tail := by
    rw [List.takeWhile_append_of_pos parts]
    cases rest with
    | nil => simp
    | cons d rest => simp [ends d rfl]
  have word : word? (c :: (tail ++ rest)) = some (tail.length + 1) := by
    rw [word?, ← List.cons_append, run]
    rfl
  rw [List.cons_append, lexeme?_of_head head.noQuote noNumber head.noSign head.noComma, word]
  rfl

theorem cut_blank (previous : Option Char) (rest : List Char) :
    cut previous (' ' :: rest) = .skipped ' ' :: cut (some ' ') rest := by
  have none : lexeme? previous (' ' :: rest) = none := by
    rw [lexeme?_of_head (by decide) ⟨isDigit_blank, by decide⟩ (by decide) (by decide), word?,
      List.takeWhile_cons_of_neg (by simp [isWordPart_blank])]
    rfl
  rw [cut, none]

theorem cut_of_plain (plain : IsPlainWord w) (previous : Option Char) (rest : List Char)
    (ends : ∀ c ∈ rest.head?, isWordPart c = false) :
    cut previous (w ++ rest) = .lexeme .word w :: cut w.getLast? rest :=
  cut_span plain.visible.1 (lexeme?_of_plain plain previous rest ends)

theorem trimWord_of_plain (plain : IsPlainWord w) : trimWord w = w := by
  have ends : w.reverse.dropWhile (fun c => c = '.' ∨ c = '-') = w.reverse := by
    cases backwards : w.reverse with
    | nil => rfl
    | cons c rest =>
        have last : w.getLast? = some c := by rw [← List.head?_reverse, backwards]; rfl
        have noPoint := (isPlain_of_mem c (plain.chars c (List.mem_of_getLast? last))).noPoint
        exact List.dropWhile_cons_of_neg (by simp [noPoint, plain.last c last])
  obtain ⟨c, tail, rfl, -, noHyphen⟩ := plain.head
  rw [trimWord, ends, List.reverse_reverse]
  exact List.dropWhile_cons_of_neg (by simpa using noHyphen)

theorem ofPiece?_of_plain (plain : IsPlainWord w) :
    ofPiece? (.lexeme .word w) = some ⟨String.ofList w, String.ofList w, .word⟩ := by
  rw [ofPiece?, trimWord_of_plain plain, foldedToken?, if_neg plain.visible.1,
    folded_eq_self plain.chars]

theorem tokens_of_cut {ws : List (List Char)} (plain : ∀ w ∈ ws, IsPlainWord w)
    (previous : Option Char) :
    (cut previous ([' '].intercalate ws)).filterMap ofPiece? =
      ws.map fun w => ⟨String.ofList w, String.ofList w, .word⟩ := by
  induction ws generalizing previous with
  | nil =>
      rw [List.intercalate_nil, cut]
      rfl
  | cons w ws ih =>
      have own := plain w List.mem_cons_self
      have tail := fun v member => plain v (List.mem_cons_of_mem w member)
      cases ws with
      | nil =>
          have cutAll := cut_of_plain own previous [] (by simp)
          rw [List.append_nil, cut] at cutAll
          rw [List.intercalate_singleton, cutAll, List.filterMap_cons_some (ofPiece?_of_plain own)]
          rfl
      | cons w' ws =>
          have cutFirst := cut_of_plain own previous (' ' :: [' '].intercalate (w' :: ws))
            (by simp [isWordPart_blank])
          rw [List.intercalate_cons_cons, List.append_assoc, List.singleton_append, cutFirst,
            cut_blank, List.filterMap_cons_some (ofPiece?_of_plain own), List.map_cons, ← ih tail]
          rfl

theorem map_plainQuote_of_plain {ws : List (List Char)} (plain : ∀ w ∈ ws, IsPlainWord w) :
    ([' '].intercalate ws).map plainQuote = [' '].intercalate ws := by
  have unquoted (w : List Char) (member : w ∈ ws) : w.map plainQuote = w := by
    rw [List.map_congr_left fun c hc => (isPlain_of_mem c ((plain w member).chars c hc)).quoted,
      List.map_id'']
    exact fun c => rfl
  induction ws with
  | nil => rfl
  | cons w ws ih =>
      have tail := ih (fun v member => plain v (List.mem_cons_of_mem w member))
        fun v member => unquoted v (List.mem_cons_of_mem w member)
      cases ws with
      | nil => simpa using unquoted w List.mem_cons_self
      | cons w' ws =>
          rw [List.intercalate_cons_cons, List.map_append, List.map_append, tail,
            unquoted w List.mem_cons_self]
          rfl

/-- A phrase of plain words is looked for by its words. -/
theorem phraseKeys_of_plain {ws : List (List Char)} (plain : ∀ w ∈ ws, IsPlainWord w)
    {phrase : String} (spells : phrase.toList = [' '].intercalate ws) :
    phraseKeys phrase = ws.map String.ofList := by
  rw [phraseKeys, ofText, tidied, spells, map_plainQuote_of_plain plain, spaced,
    words_intercalate fun w member => (plain w member).visible, tokens_of_cut plain,
    List.map_map]
  rfl

end Token

end Inquiry
