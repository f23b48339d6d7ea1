import Inquiry.Text.Case
import Inquiry.Text.CodeTable
import Inquiry.Text.CompatibilityTable
import Inquiry.Text.CompositionTable
import Inquiry.Text.MarkTable

/-!
# Composed and decomposed text

An accented letter can be written as one character or as a letter followed by its marks, and the
marks of one letter can be written in several orders. Decomposed text spells every mark
separately, in the order of the mark classes; composed text then joins each letter with the marks
it can be joined with. Hangul syllables are joined and separated by arithmetic, all other letters
by tables.

Plain text additionally replaces presentation forms, such as ligatures, by the characters they
present.
-/

namespace Inquiry.Text

/-- The class of a combining mark; zero for every other character. -/
def markClass (c : Char) : Nat := CodeTable.numberAt markRuns c.toNat

/-- The jamo of a Hangul syllable: leading consonant, vowel and, if there is one, the trailing
consonant. There are 21 vowels and 28 endings, the empty one included. -/
def jamo (code : Nat) : List Nat :=
  let index := code - 0xAC00
  let trail := index % 28
  [0x1100 + index / 588, 0x1161 + index % 588 / 28] ++
    if trail = 0 then [] else [0x11A7 + trail]

/-- Spells a code point out in at most `depth` steps. Every chain of equivalents is shorter than
the depth that `decompose` passes. -/
def spellOut : (depth : Nat) → Nat → List Nat
  | 0, code => [code]
  | depth + 1, code =>
    if 0xAC00 ≤ code ∧ code ≤ 0xD7A3 then jamo code
    else
      match CodeTable.row? composites code <|> CodeTable.row? separables code with
      | some (base, mark) => spellOut depth base ++ [mark]
      | none =>
        match CodeTable.inBlock? duplicates code with
        | some other => spellOut depth other
        | none => [code]

/-- A character as a letter followed by its marks. -/
def decompose (c : Char) : List Char := ofCodes (spellOut 4 c.toNat)

/-- A presentation form as the characters that it presents. -/
def unpresent (c : Char) : List Char :=
  let code := c.toNat
  match CodeTable.shifted? compatibleRuns code with
  | some plain => [Char.ofNat plain]
  | none =>
    let rows :=
      if code < 0x2E80 then compatibleLetters
      else if code < 0xF900 then compatibleIdeographs
      else if code < 0xFD00 then presentationForms
      else if code < 0x10000 then presentationLigatures
      else compatibleSymbols
    match CodeTable.row? rows code with
    | some codes => ofCodes codes
    | none => [c]

/-- Puts a character in front of text whose marks are in order: it moves behind the marks of a
lower class than its own, and a character that is no mark stays where it is. -/
def placeMark (c : Char) : List Char → List Char
  | [] => [c]
  | d :: rest =>
    if 0 < markClass d && markClass d < markClass c then d :: placeMark c rest else c :: d :: rest

/-- Orders the marks of every letter by class and keeps the order within a class. -/
def orderMarks : List Char → List Char
  | [] => []
  | c :: rest => placeMark c (orderMarks rest)

/-- The single character that a character and a following one are joined to. Characters below
U+0300 never join a preceding one. -/
def join? (base mark : Char) : Option Char :=
  let b := base.toNat
  let m := mark.toNat
  if m < 0x300 then none
  else if 0x1100 ≤ b ∧ b ≤ 0x1112 ∧ 0x1161 ≤ m ∧ m ≤ 0x1175 then
    some (Char.ofNat (0xAC00 + ((b - 0x1100) * 21 + (m - 0x1161)) * 28))
  else if 0xAC00 ≤ b ∧ b ≤ 0xD7A3 ∧ (b - 0xAC00) % 28 = 0 ∧ 0x11A8 ≤ m ∧ m ≤ 0x11C2 then
    some (Char.ofNat (b + (m - 0x11A7)))
  else (CodeTable.composite? composites b m).map Char.ofNat

/-- Joins a letter with the characters after it. The characters that could not be joined are kept
in reverse; one of them blocks a later character unless its class is lower. -/
def composeWith (letter : Char) (kept : List Char) : List Char → List Char
  | [] => letter :: kept.reverse
  | c :: rest =>
    let free := match kept with
      | [] => true
      | last :: _ => markClass last < markClass c
    match if free then join? letter c else none with
    | some joined => composeWith joined kept rest
    | none =>
      if markClass c = 0 then letter :: kept.reverse ++ composeWith c [] rest
      else composeWith letter (c :: kept) rest

/-- Joins letters and marks in decomposed text. Marks before the first letter stay alone. -/
def composeMarks : List Char → List Char
  | [] => []
  | c :: rest => if markClass c = 0 then composeWith c [] rest else c :: composeMarks rest

/-- Text with every mark spelled separately and in order. -/
def decomposed (cs : List Char) : List Char := orderMarks (cs.flatMap decompose)

/-- Text with letters and marks joined where there is a joined character. -/
def composed (cs : List Char) : List Char := composeMarks (decomposed cs)

/-- Decomposed text without presentation forms. -/
def plain (cs : List Char) : List Char :=
  orderMarks ((cs.flatMap decompose).flatMap unpresent)

end Inquiry.Text
