import Inquiry.Text.Blank
import Inquiry.Text.Word

/-!
# Letters of SQL

Words of SQL are read without regard to case. Besides its small form, a capital has a few letters
of other alphabets that count as the same letter.
-/

namespace Inquiry.Sql

open Text

/-- The letters that count as the given capital when case does not matter. The long s is an s, the
sign for Kelvin is a k, and the i with and the i without a dot are both an i. -/
def variants (capital : Char) : List Char :=
  capital :: capital.toLower ::
    if capital = 'S' then ['ſ']
    else if capital = 'I' then ['İ', 'ı']
    else if capital = 'K' then ['\u212A']
    else []

/-- Whether a name can begin with a character: a Latin letter up to the u with dots, of either case.
The range of accented capitals also holds the multiplication sign. -/
def startsName (c : Char) : Bool :=
  ('A' ≤ c && c ≤ 'Z') || ('a' ≤ c && c ≤ 'z') || ('À' ≤ c && c ≤ 'Ü') ||
    ('à' ≤ c && c ≤ 'ü' && c != '÷') || c ∈ ['İ', 'ı', 'ſ', '\u212A', '\u212B']

/-- How many characters of a text stand for the given capitals, if it begins with them. -/
def lettersLength? : (capitals : List Char) → List Char → Option Nat
  | [], _ => some 0
  | _ :: _, [] => none
  | capital :: capitals, c :: rest =>
    if c ∈ variants capital then (lettersLength? capitals rest).map (· + 1) else none

/-- Whether a text does not go on with a character of a word. -/
def endsWord (cs : List Char) : Bool := !cs.head?.any isWordChar

/-- The length of a phrase of words at the beginning of a text, with blanks between its words, if
its last word ends there. -/
def phraseLength? : (words : List String) → List Char → Option Nat
  | [], cs => if endsWord cs then some 0 else none
  | word :: words, cs => do
    let n ← lettersLength? word.toList cs
    let rest := cs.drop n
    let gap := if words = [] then 0 else (rest.takeWhile isBlank).length
    if words ≠ [] ∧ gap = 0 then none
    else (phraseLength? words (rest.drop gap)).map (n + gap + ·)

/-- The length of the first of the phrases that a text begins with. -/
def anyPhraseLength? (phrases : List (List String)) (cs : List Char) : Option Nat :=
  phrases.findSome? (phraseLength? · cs)

end Inquiry.Sql
