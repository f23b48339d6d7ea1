import Inquiry.Text.Fold
import Inquiry.Text.Word
import Inquiry.Token

/-!
# From text to tokens

The text is first tidied: the many kinds of quotation marks become two, and blanks collapse. Then it
is cut from left to right. At each place the kinds are tried in a fixed order, and the first that
fits takes as many characters as it can:

1. a quotation that is closed,
2. a date, either with points or slashes or in year-month-day order,
3. a number with its groups and decimals,
4. a comparison sign,
5. a comma,
6. a word, which may hold wildcards, points, slashes and hyphens.

A character that fits nowhere is skipped. The readers below answer with the number of characters
they take.
-/

namespace Inquiry.Token

open Text

/-- The plain form of a quotation mark. -/
def plainQuote (c : Char) : Char :=
  if c ∈ ['“', '”', '„', '«', '»'] then '"'
  else if c ∈ ['‘', '’', '‚', '\x60'] then '\''
  else c

/-- Text with plain quotation marks and single blanks. -/
def tidied (cs : List Char) : List Char := spaced (cs.map plainQuote)

/-- A quotation that starts with the given mark and is closed by the same mark. -/
def quotation? (mark : Char) (cs : List Char) : Option Nat :=
  match cs with
  | [] => none
  | c :: rest =>
    if c = mark ∧ mark ∈ rest then some ((rest.takeWhile (· ≠ mark)).length + 2) else none

/-- How many digits a text starts with. -/
def digitRun (cs : List Char) : Nat := (cs.takeWhile isDigit).length

/-- Digit runs of the given lengths (least and greatest) with one of the signs between them. The
last run has to be whole, so it is not followed by another digit. -/
def dateParts? (signs : List Char) : List (Nat × Nat) → List Char → Option Nat
  | [], _ => none
  | [(least, most)], cs =>
    let n := digitRun cs
    if least ≤ n ∧ n ≤ most then some n else none
  | (least, most) :: more, cs =>
    let n := digitRun cs
    if least ≤ n ∧ n ≤ most then
      match cs.drop n with
      | [] => none
      | sign :: rest =>
        if sign ∈ signs then (dateParts? signs more rest).map (n + 1 + ·) else none
    else none

/-- A date: day, month and year with points or slashes, or year, month and day with hyphens. -/
def date? (cs : List Char) : Option Nat :=
  dateParts? ['.', '/'] [(1, 2), (1, 2), (2, 4)] cs
    <|> dateParts? ['-'] [(4, 4), (2, 2), (2, 2)] cs

/-- Whether a number may end before the given rest. A number that touches a letter, a wildcard, a
slash or a hyphen is part of a word. -/
def endsNumber : List Char → Bool
  | [] => true
  | c :: _ => !(isWordChar c || c ∈ ['%', '*', '/', '-'])

/-- Groups of digits, each behind a point or comma, up to the last place where the number may
end. -/
def digitGroups? (cs : List Char) : Option Nat :=
  match cs with
  | [] => some 0
  | sign :: rest =>
    let n := digitRun rest
    if (sign = '.' ∨ sign = ',') ∧ 0 < n then
      match digitGroups? (rest.drop n) with
      | some more => some (1 + n + more)
      | none => if endsNumber cs then some 0 else none
    else if endsNumber cs then some 0
    else none
  termination_by cs.length
  decreasing_by simp only [List.length_drop, List.length_cons]; omega

/-- A number: an optional minus sign, digits, and groups of digits. It does not start inside a
word or behind a point or comma. -/
def number? (previous : Option Char) (cs : List Char) : Option Nat :=
  if previous.any fun c => isWordChar c || c ∈ ['.', ','] then none
  else
    let sign := if cs.head? = some '-' then 1 else 0
    let n := digitRun (cs.drop sign)
    if n = 0 then none else (digitGroups? (cs.drop (sign + n))).map (sign + n + ·)

/-- A comparison sign of one or two characters. -/
def comparison? : List Char → Option Nat
  | '<' :: '=' :: _ | '>' :: '=' :: _ | '!' :: '=' :: _ | '<' :: '>' :: _ => some 2
  | '=' :: _ | '<' :: _ | '>' :: _ => some 1
  | _ => none

/-- What a word consists of. -/
def isWordPart (c : Char) : Bool := isWordChar c || c ∈ ['%', '*', '&', '.', '/', '-']

/-- A word: the longest run of characters that words consist of. -/
def word? (cs : List Char) : Option Nat :=
  match (cs.takeWhile isWordPart).length with
  | 0 => none
  | n + 1 => some (n + 1)

/-- The kind and length of the lexeme at the start of a text, given the character before it. -/
def lexeme? (previous : Option Char) (cs : List Char) : Option (Kind × Nat) :=
  (quotation? '"' cs <|> quotation? '\'' cs).map (Kind.quoted, ·)
    <|> (date? cs).map (Kind.date, ·)
    <|> (number? previous cs).map (Kind.number, ·)
    <|> (comparison? cs).map (Kind.operator, ·)
    <|> (if cs.head? = some ',' then some (Kind.comma, 1) else none)
    <|> (word? cs).map (Kind.word, ·)

/-- A piece of a tidied text: a character that fits nowhere, or a lexeme. -/
inductive Piece where
  | skipped (c : Char)
  | lexeme (kind : Kind) (text : List Char)
  deriving DecidableEq, Repr

/-- The characters of a piece. -/
def Piece.text : Piece → List Char
  | .skipped c => [c]
  | .lexeme _ text => text

/-- A tidied text in pieces, given the character before it. -/
def cut (previous : Option Char) (cs : List Char) : List Piece :=
  match cs with
  | [] => []
  | c :: rest =>
    match lexeme? previous (c :: rest) with
    | none => .skipped c :: cut (some c) rest
    | some (kind, length) =>
      let text := c :: rest.take (length - 1)
      .lexeme kind text :: cut text.getLast? (rest.drop (length - 1))
  termination_by cs.length
  decreasing_by all_goals simp only [List.length_drop, List.length_cons]; omega

/-- The pieces together are the text: nothing is lost and nothing is read twice. -/
theorem flatMap_text_cut (previous : Option Char) (cs : List Char) :
    (cut previous cs).flatMap Piece.text = cs := by
  fun_induction cut previous cs with
  | case1 => rfl
  | case2 _ c rest _ ih => simp [Piece.text, ih]
  | case3 _ c rest _ length _ _ ih =>
    simp only [List.flatMap_cons, Piece.text, ih]
    exact congrArg (c :: ·) (List.take_append_drop (length - 1) rest)

/-- A word without the full stops and hyphens that end it and the hyphens that begin it. -/
def trimWord (cs : List Char) : List Char :=
  ((cs.reverse.dropWhile fun c => c = '.' ∨ c = '-').reverse).dropWhile (· = '-')

/-- A token with a folded key; there is none without text. -/
def foldedToken? (kind : Kind) (raw : List Char) : Option Token :=
  if raw = [] then none else some ⟨String.ofList raw, String.ofList (folded raw), kind⟩

/-- The token of a piece. Quotations and words of which nothing remains are dropped. -/
def ofPiece? : Piece → Option Token
  | .skipped _ => none
  | .lexeme .quoted text => foldedToken? .quoted (trimmed (text.drop 1).dropLast)
  | .lexeme .word text => foldedToken? .word (trimWord text)
  | .lexeme kind text => some ⟨String.ofList text, String.ofList text, kind⟩

/-- The tokens of a request. -/
def ofText (text : String) : List Token := (cut none (tidied text.toList)).filterMap ofPiece?

/-- The keys by which a keyword phrase is found, for instance `faelligkeit` and `von`. -/
def phraseKeys (phrase : String) : List String := (ofText phrase).map key

end Inquiry.Token
