import Inquiry.Literal.Date
import Inquiry.Proofs.Numerals
import Inquiry.Proofs.TokenBoundary

/-!
# Dates as tokens

A text that is shaped like a date is one token, quoted or not, and the token has
the text as it was typed. In quotation marks it is a quoted text, and without them
it is a date (`ofText_date`).

There is one exception. In year-month-day order the lexer looks for two digits of
the month and of the day, while date literals may leave out the zero in front. A
date that is short in this way is a word when it is not quoted.
-/

namespace Inquiry

open Text

namespace Literal

/-- Whether a text in year-month-day order has a month or a day of one digit. -/
def isShortDate (text : String) : Bool :=
  let cs := trimmed text.toList
  isDateShape ['-'] [(4, 4), (1, 2), (1, 2)] cs && !isDateShape ['-'] [(4, 4), (2, 2), (2, 2)] cs

section Shape

open Token (digitRun dateParts?)

variable {signs : List Char} {least most : Nat} {more parts : List (Nat × Nat)} {cs : List Char}

/-- The last run of digits ends the text. -/
theorem isDateShape_last :
    isDateShape signs [(least, most)] cs = true ↔
      (least ≤ digitRun cs ∧ digitRun cs ≤ most) ∧ cs.drop (digitRun cs) = [] := by
  rw [isDateShape, Bool.and_eq_true, Bool.and_eq_true, decide_eq_true_eq, decide_eq_true_eq,
    List.isEmpty_iff]
  rfl

/-- Behind any other run stands a sign. -/
theorem isDateShape_next {part : Nat × Nat} :
    isDateShape signs ((least, most) :: part :: more) cs = true ↔
      (least ≤ digitRun cs ∧ digitRun cs ≤ most) ∧
        ∃ sign rest, cs.drop (digitRun cs) = sign :: rest ∧ sign ∈ signs ∧
          isDateShape signs (part :: more) rest = true := by
  rw [digitRun]
  cases hrest : cs.drop (cs.takeWhile isDigit).length with
  | nil => simp [isDateShape, hrest]
  | cons sign rest => simp [isDateShape, hrest]

/-- A text of digits and signs, with a digit at its beginning and at its end. -/
structure IsDateText (signs cs : List Char) : Prop where
  head : ∃ c rest, cs = c :: rest ∧ isDigit c = true
  last : ∀ c ∈ cs.getLast?, isDigit c = true
  chars : ∀ c ∈ cs, isDigit c = true ∨ c ∈ signs

theorem digits_append_drop (cs : List Char) :
    cs.takeWhile isDigit ++ cs.drop (digitRun cs) = cs := by
  have run : cs.takeWhile isDigit = cs.take (digitRun cs) :=
    List.prefix_iff_eq_take.mp (List.takeWhile_prefix isDigit)
  rw [run, List.take_append_drop]

theorem isDateText_of_isDateShape (shape : isDateShape signs parts cs = true) (ne : parts ≠ [])
    (positive : ∀ part ∈ parts, 0 < part.1) : IsDateText signs cs := by
  induction parts generalizing cs with
  | nil => exact absurd rfl ne
  | cons part more ih =>
      obtain ⟨least, most⟩ := part
      have opens (h : least ≤ digitRun cs) : ∃ c rest, cs = c :: rest ∧ isDigit c = true := by
        have run : 1 ≤ digitRun cs := Nat.le_trans (positive _ List.mem_cons_self) h
        cases cs with
        | nil => cases run
        | cons c rest => exact ⟨c, rest, rfl, Token.isDigit_of_digitRun run⟩
      cases more with
      | nil =>
          obtain ⟨⟨least, -⟩, whole⟩ := isDateShape_last.mp shape
          have digits : ∀ c ∈ cs, isDigit c = true := by
            intro c member
            rw [← digits_append_drop cs, whole, List.append_nil] at member
            exact List.mem_takeWhile_imp member
          exact ⟨opens least, fun c last => digits c (List.mem_of_getLast? last),
            fun c member => .inl (digits c member)⟩
      | cons part more =>
          obtain ⟨⟨least, -⟩, sign, rest, left, known, further⟩ := isDateShape_next.mp shape
          have tail := ih further (List.cons_ne_nil part more)
            fun part member => positive part (List.mem_cons_of_mem _ member)
          have split := digits_append_drop cs
          rw [left] at split
          refine ⟨opens least, ?_, ?_⟩
          · obtain ⟨d, behind, rfl, -⟩ := tail.head
            rw [← split, List.getLast?_append_cons, List.getLast?_cons_cons]
            exact tail.last
          · intro c member
            rw [← split, List.mem_append, List.mem_cons] at member
            rcases member with member | rfl | member
            · exact .inl (List.mem_takeWhile_imp member)
            · exact .inr known
            · exact tail.chars c member

/-- The lexer finds the parts of a date where the whole text is shaped like one. A
shape with other lengths of as many parts is found only if it is a shape of the
text, too. -/
theorem dateParts?_of_isDateShape {others : List (Nat × Nat)}
    (shape : isDateShape signs parts cs = true) (ne : parts ≠ [])
    (length : others.length = parts.length) :
    dateParts? signs others cs =
      if isDateShape signs others cs then some cs.length else none := by
  induction parts generalizing others cs with
  | nil => exact absurd rfl ne
  | cons part more ih =>
      obtain ⟨least, most⟩ := part
      cases others with
      | nil => cases length
      | cons other others =>
          obtain ⟨least', most'⟩ := other
          cases more with
          | nil =>
              obtain rfl : others = [] := by simpa using length
              obtain ⟨-, whole⟩ := isDateShape_last.mp shape
              have all : digitRun cs = cs.length :=
                Nat.le_antisymm (Token.digitRun_le cs) (List.drop_eq_nil_iff.mp whole)
              have same : isDateShape signs [(least', most')] cs = true ↔
                  least' ≤ digitRun cs ∧ digitRun cs ≤ most' :=
                isDateShape_last.trans (and_iff_left whole)
              simp only [dateParts?, same, all]
          | cons part more =>
              cases others with
              | nil => cases length
              | cons other others =>
                  obtain ⟨-, sign, rest, left, known, further⟩ := isDateShape_next.mp shape
                  have tail := ih further (List.cons_ne_nil part more)
                    (show (other :: others).length = _ from Nat.succ.inj length)
                  have same : isDateShape signs ((least', most') :: other :: others) cs = true ↔
                      (least' ≤ digitRun cs ∧ digitRun cs ≤ most') ∧
                        isDateShape signs (other :: others) rest = true := by
                    rw [isDateShape_next]
                    simp [left, known]
                  have total := congrArg List.length (digits_append_drop cs)
                  rw [left, List.length_append, List.length_cons] at total
                  simp only [dateParts?, left, known, if_true, tail, same]
                  have run : (cs.takeWhile isDigit).length = digitRun cs := rfl
                  split
                  · next bounds =>
                      simp only [bounds, true_and]
                      split
                      · rw [Option.map_some, ← total]
                        congr 1
                        omega
                      · rfl
                  · next outside => simp [outside]

theorem IsDateText.mono {more : List Char} (h : IsDateText signs cs) (subset : signs ⊆ more) :
    IsDateText more cs :=
  ⟨h.head, h.last, fun c member => (h.chars c member).imp_right fun sign => subset sign⟩

/-- What trimming leaves of a text that looks like a date. -/
theorem isDateText_of_looksLikeDate {text : String} (h : looksLikeDate text = true) :
    IsDateText ['.', '/', '-'] (trimmed text.toList) := by
  rw [looksLikeDate, Bool.or_eq_true] at h
  rcases h with shape | shape
  · exact (isDateText_of_isDateShape shape (List.cons_ne_nil _ _) (by decide)).mono (by decide)
  · exact (isDateText_of_isDateShape shape (List.cons_ne_nil _ _) (by decide)).mono (by decide)

/-- The lexer takes the whole of a date, unless it is short. -/
theorem date?_of_looksLikeDate {text : String} (h : looksLikeDate text = true) :
    Token.date? (trimmed text.toList) =
      if isShortDate text then none else some (trimmed text.toList).length := by
  rw [looksLikeDate, Bool.or_eq_true] at h
  rw [isShortDate, Token.date?]
  generalize trimmed text.toList = cs at h
  by_cases dotted : isDateShape ['.', '/'] [(1, 2), (1, 2), (2, 4)] cs = true
  · have short : isDateShape ['-'] [(4, 4), (1, 2), (1, 2)] cs = false := by
      refine Bool.eq_false_iff.mpr fun shape => ?_
      have few := (isDateShape_next.mp dotted).1
      have many := (isDateShape_next.mp shape).1
      omega
    rw [dateParts?_of_isDateShape dotted (List.cons_ne_nil _ _) rfl, if_pos dotted, short]
    rfl
  · have shape := h.resolve_left dotted
    have run := (isDateShape_next.mp shape).1
    have none : dateParts? ['.', '/'] [(1, 2), (1, 2), (2, 4)] cs = none := by
      simp only [dateParts?]
      rw [if_neg (by omega)]
    have full : dateParts? ['-'] [(4, 4), (2, 2), (2, 2)] cs =
        if isDateShape ['-'] [(4, 4), (2, 2), (2, 2)] cs then some cs.length else Option.none :=
      dateParts?_of_isDateShape shape (List.cons_ne_nil _ _) rfl
    rw [none, full, shape]
    cases isDateShape ['-'] [(4, 4), (2, 2), (2, 2)] cs <;> rfl

end Shape

end Literal

namespace Token

open Literal

variable {cs : List Char} {text : String}

/-- The signs that the readers of tokens look for, and the quotation marks that become
plain ones. -/
def signs : List Char :=
  ['"', '\'', '“', '”', '„', '«', '»', '‘', '’', '‚', '\x60', '<', '>', '!', '=', ',', '.', '/',
    '-', '*', '%']

theorem isDigit_of_mem_signs : ∀ sign ∈ signs, isDigit sign = false := by decide

theorem notMem_of_isDigit {c : Char} (digit : isDigit c = true) {marks : List Char}
    (known : marks ⊆ signs) : c ∉ marks := by
  intro member
  have none := isDigit_of_mem_signs c (known member)
  rw [digit] at none
  cases none

/-- The characters of a date stand for themselves, and each can be part of a word. -/
theorem date_chars (date : IsDateText ['.', '/', '-'] cs) {c : Char} (member : c ∈ cs) :
    isWordPart c = true ∧ plainQuote c = c ∧ c ∉ ['"', '\''] := by
  rcases date.chars c member with digit | sign
  · refine ⟨?_, ?_, notMem_of_isDigit digit (by decide)⟩
    · rw [isWordPart, isWordChar_of_isDigit digit]
      rfl
    · rw [plainQuote, if_neg (notMem_of_isDigit digit (by decide)),
        if_neg (notMem_of_isDigit digit (by decide))]
  · have signs : ∀ sign ∈ ['.', '/', '-'], isWordPart sign = true ∧ plainQuote sign = sign ∧
        sign ∉ ['"', '\''] := by
      simp only [isWordPart, Bool.or_eq_true]
      decide
    exact signs c sign

theorem date_ne_nil (date : IsDateText ['.', '/', '-'] cs) : cs ≠ [] := by
  obtain ⟨c, rest, rfl, -⟩ := date.head
  exact List.cons_ne_nil c rest

theorem date_visible (date : IsDateText ['.', '/', '-'] cs) : ∀ c ∈ cs, isBlank c = false := by
  intro c member
  exact isBlank_of_isWordPart (date_chars date member).1

theorem word?_of_date (date : IsDateText ['.', '/', '-'] cs) : word? cs = some cs.length := by
  have run : cs.takeWhile isWordPart = cs :=
    List.takeWhile_eq_self_iff.mpr fun c member => (date_chars date member).1
  obtain ⟨c, rest, rfl, -⟩ := date.head
  rw [word?, run]
  rfl

theorem trimWord_of_date (date : IsDateText ['.', '/', '-'] cs) : trimWord cs = cs := by
  have signs {c : Char} (digit : isDigit c = true) : c ∉ ['.', '-'] :=
    notMem_of_isDigit digit (by decide)
  have ends : cs.reverse.dropWhile (fun c => c = '.' ∨ c = '-') = cs.reverse := by
    cases backwards : cs.reverse with
    | nil => rfl
    | cons c rest =>
        have last : cs.getLast? = some c := by
          rw [← List.head?_reverse, backwards]
          rfl
        exact List.dropWhile_cons_of_neg (by simpa using signs (date.last c last))
  obtain ⟨c, rest, rfl, digit⟩ := date.head
  rw [trimWord, ends, List.reverse_reverse]
  have noSign := signs digit
  simp only [List.mem_cons, List.not_mem_nil, or_false, not_or] at noSign
  exact List.dropWhile_cons_of_neg (by simpa using noSign.2)

/-- The year of a short date is no number, because a hyphen touches it. -/
theorem number?_of_short {rest : List Char} (digits : digitRun cs ≠ 0)
    (left : cs.drop (digitRun cs) = '-' :: rest) : number? none cs = none := by
  have first : cs.head? ≠ some '-' := by
    intro hyphen
    obtain ⟨rest, rfl⟩ := List.head?_eq_some_iff.mp hyphen
    have none : '-' ∉ ['-'] := notMem_of_isDigit
      (isDigit_of_digitRun (Nat.one_le_iff_ne_zero.mpr digits)) (by decide)
    exact none List.mem_cons_self
  have stops : endsNumber ('-' :: rest) = false := by simp [endsNumber]
  rw [number?, if_neg (by simp)]
  simp only [if_neg first, List.drop_zero, if_neg digits, Nat.zero_add, left,
    digitGroups?_eq_none_iff.mpr stops, Option.map_none]

/-- A text that looks like a date is one lexeme. -/
theorem lexeme?_of_looksLikeDate (h : looksLikeDate text = true) :
    lexeme? none (trimmed text.toList) =
      some (if isShortDate text then .word else .date, (trimmed text.toList).length) := by
  have date := isDateText_of_looksLikeDate h
  have found := date?_of_looksLikeDate h
  have short : isShortDate text = true → number? none (trimmed text.toList) = none := by
    intro short
    obtain ⟨shape, -⟩ := (Bool.and_eq_true _ _).mp short
    obtain ⟨run, sign, rest, left, known, -⟩ := isDateShape_next.mp shape
    rw [List.mem_singleton.mp known] at left
    exact number?_of_short (by omega) left
  generalize trimmed text.toList = cs at *
  obtain ⟨c, rest, rfl, digit⟩ := date.head
  have noQuote : c ∉ ['"', '\''] := (date_chars date List.mem_cons_self).2.2
  have noSign : comparison? (c :: rest) = none := by
    rw [Option.eq_none_iff_forall_ne_some]
    intro n sign
    exact notMem_of_isDigit digit (by decide) (head_of_comparison? sign)
  have noComma : c ∉ [','] := notMem_of_isDigit digit (by decide)
  simp only [List.mem_cons, List.not_mem_nil, or_false, not_or] at noQuote noComma
  cases isShort : isShortDate text with
  | true =>
      rw [isShort, if_pos rfl] at found
      simp [lexeme?, quotation?, noQuote, found, short isShort, noSign, noComma,
        word?_of_date date]
  | false =>
      rw [isShort, if_neg Bool.false_ne_true] at found
      simp [lexeme?, quotation?, noQuote, found]

/-- A lexeme that takes the whole text is the only piece. -/
theorem cut_of_lexeme? {previous : Option Char} {kind : Kind} (ne : cs ≠ [])
    (found : lexeme? previous cs = some (kind, cs.length)) :
    cut previous cs = [.lexeme kind cs] := by
  have whole : lexeme? previous (cs ++ []) = some (kind, cs.length) := by rwa [List.append_nil]
  have nothing : cut cs.getLast? [] = [] := by rw [cut]
  have first := cut_span ne whole
  rwa [List.append_nil, nothing] at first

/-- A text in quotation marks, without a quotation mark in it, is one piece. -/
theorem cut_of_quoted (previous : Option Char) (free : '"' ∉ cs) :
    cut previous ('"' :: (cs ++ ['"'])) = [.lexeme .quoted ('"' :: (cs ++ ['"']))] := by
  have inside : (cs ++ ['"']).takeWhile (· ≠ '"') = cs := by
    rw [List.takeWhile_append_of_pos]
    · simp
    · intro c member
      have other : c ≠ '"' := fun same => free (same ▸ member)
      simpa using other
  have found : quotation? '"' ('"' :: (cs ++ ['"'])) = some (cs.length + 2) := by
    rw [quotation?, if_pos ⟨rfl, by simp⟩, inside]
  apply cut_of_lexeme? (List.cons_ne_nil _ _)
  rw [lexeme?, found]
  simp

/-- There are no quotation marks in a date. -/
theorem plainQuote_date (date : IsDateText ['.', '/', '-'] (trimmed cs)) :
    cs.map plainQuote = cs ∧ ∀ mark ∈ ['"', '\''], mark ∉ cs := by
  obtain ⟨before, behind, split, blank, blank'⟩ := exists_blanks cs
  have own : ∀ c ∈ cs, plainQuote c = c ∧ c ∉ ['"', '\''] := by
    have blanks {c : Char} (h : isBlank c = true) : plainQuote c = c ∧ c ∉ ['"', '\''] := by
      have visible : ∀ mark ∈ ['"', '\''], isBlank mark = false := by decide
      refine ⟨plainQuote_of_isBlank h, fun mark => ?_⟩
      rw [visible c mark] at h
      cases h
    intro c member
    rw [split, List.mem_append, List.mem_append] at member
    rcases member with (member | member) | member
    · exact blanks (blank c member)
    · exact (date_chars date member).2
    · exact blanks (blank' c member)
  constructor
  · rw [List.map_congr_left fun c member => (own c member).1, List.map_id'']
    exact fun c => rfl
  · intro mark known member
    exact (own mark member).2 known

/-- Blanks around a date are dropped; what is left of them in quotation marks is
blank. -/
theorem tidied_date (date : IsDateText ['.', '/', '-'] (trimmed cs)) :
    tidied cs = trimmed cs ∧
      ∃ lead trail, tidied ('"' :: (cs ++ ['"'])) = '"' :: (lead ++ trimmed cs ++ trail ++ ['"']) ∧
        (∀ c ∈ lead, isBlank c = true) ∧ ∀ c ∈ trail, isBlank c = true := by
  obtain ⟨before, behind, split, blank, blank'⟩ := exists_blanks cs
  have ne := date_ne_nil date
  have visible := date_visible date
  have plain := (plainQuote_date date).1
  have mark : plainQuote '"' = '"' := by decide
  have visibleMark : ∀ c ∈ ['"'], isBlank c = false := by decide
  generalize trimmed cs = core at *
  constructor
  · rw [tidied, plain, split, spaced_around ne visible blank blank']
  · obtain ⟨d, rest, hcore, -⟩ := date.head
    obtain ⟨lead, blankLead, first⟩ := spaced_append_blanks (List.cons_ne_nil '"' []) visibleMark
      blank (visible d (hcore ▸ List.mem_cons_self)) (rest ++ (behind ++ ['"']))
    obtain ⟨trail, blankTrail, second⟩ := spaced_append_blanks ne visible blank'
      (visibleMark '"' List.mem_cons_self) []
    have whole : '"' :: (cs ++ ['"']) = ['"'] ++ (before ++ d :: (rest ++ (behind ++ ['"']))) := by
      rw [split, hcore]
      simp
    have inner : d :: (rest ++ (behind ++ ['"'])) = core ++ (behind ++ ['"']) := by
      rw [hcore]
      rfl
    refine ⟨lead, trail, ?_, blankLead, blankTrail⟩
    rw [tidied, List.map_cons, List.map_append, plain, List.map_singleton, mark, whole, first,
      inner, second, spaced_of_visible (List.cons_ne_nil _ _) visibleMark]
    simp

/-- A text that looks like a date is one token, quoted or not. Without quotation
marks it is a word if it is short, and a date otherwise. -/
theorem ofText_date (h : looksLikeDate text = true) :
    ofText ("\"" ++ text ++ "\"") = [⟨trim text, fold (trim text), .quoted⟩] ∧
      ofText text =
        [if isShortDate text then ⟨trim text, fold (trim text), .word⟩
          else ⟨trim text, trim text, .date⟩] := by
  have date := isDateText_of_looksLikeDate h
  have found := lexeme?_of_looksLikeDate h
  obtain ⟨tidy, lead, trail, tidyQuoted, blank, blank'⟩ := tidied_date date
  have ne := date_ne_nil date
  have visible := date_visible date
  have folds (kind : Kind) : foldedToken? kind (trimmed text.toList) =
      some ⟨trim text, fold (trim text), kind⟩ := by
    rw [foldedToken?, if_neg ne, fold, trim, String.toList_ofList]
  constructor
  · have quoted : ("\"" ++ text ++ "\"").toList = '"' :: (text.toList ++ ['"']) := by simp
    have free : '"' ∉ lead ++ trimmed text.toList ++ trail := by
      have noBlank {cs : List Char} (blanks : ∀ c ∈ cs, isBlank c = true) : '"' ∉ cs := by
        intro member
        exact absurd (blanks '"' member) (by decide)
      rw [List.mem_append, List.mem_append, not_or, not_or]
      exact ⟨⟨noBlank blank, fun mark => (date_chars date mark).2.2 List.mem_cons_self⟩,
        noBlank blank'⟩
    have inner : trimmed (('"' :: (lead ++ trimmed text.toList ++ trail ++
        ['"'])).drop 1).dropLast = trimmed text.toList := by
      rw [List.drop_succ_cons, List.drop_zero, List.dropLast_concat]
      exact trimmed_of_visible ne visible blank blank'
    rw [ofText, quoted, tidyQuoted, cut_of_quoted none free]
    simp only [List.filterMap_cons, List.filterMap_nil, ofPiece?, inner, folds]
  · rw [ofText, tidy, cut_of_lexeme? ne found]
    cases isShortDate text with
    | true => simp [ofPiece?, trimWord_of_date date, folds]
    | false => simp [ofPiece?, trim]

end Token

end Inquiry
