import Inquiry.Sql.StandIn.Keyword
import Inquiry.Sql.Letter
import Inquiry.Text.Case

/-!
# Lexemes of SQL text

The text of a statement is cut into lexemes, far enough to tell code from strings, quoted names and
comments, and keywords from names. At each place the readers below are tried in a fixed order, and
the first that fits decides. Nothing is dropped: the lexemes together are the text. A quote, bracket
or comment that is never closed stands for itself.
-/

namespace Inquiry.Sql.StandIn

open Text

/-- What a keyword is for. -/
inductive Role where
  /-- A statement on data. -/
  | data
  /-- A statement on the structure of a database. -/
  | schema
  /-- A statement on rights. -/
  | rights
  /-- Definitions in front of a statement. -/
  | definition
  /-- The direction of an order. -/
  | order
  /-- The time zone of an expression. -/
  | zone
  | other
  deriving DecidableEq, Repr

/-- What a lexeme can be. -/
inductive Lexeme.Kind where
  /-- A blank that does not end a line. -/
  | blank
  | newline
  /-- A comment to the end of its line, unless it is a hint. -/
  | lineComment
  /-- A hint, or a comment between signs. -/
  | comment
  | assignment
  | punctuation
  /-- The star, which is also the sign of a product. -/
  | star
  | name
  /-- A name between double quotes. -/
  | quotedName
  | typeName
  /-- A place for a value. -/
  | placeholder
  | number
  | hexadecimal
  /-- A text between single quotes. -/
  | string
  /-- A text between two equal marks of dollar signs. -/
  | dollarText
  | command
  | keyword (role : Role)
  | comparison
  | operator
  /-- A character without a meaning. -/
  | stray
  deriving DecidableEq, Repr

/-- A piece of SQL text. -/
structure Lexeme where
  kind : Lexeme.Kind
  text : List Char
  deriving DecidableEq, Repr

namespace Lexeme

/-- Whether a lexeme is blank. -/
def isBlank (l : Lexeme) : Bool := l.kind == .blank || l.kind == .newline

/-- Whether a lexeme is a comment. -/
def isComment (l : Lexeme) : Bool := l.kind == .lineComment || l.kind == .comment

/-- Whether a lexeme is the given sign between others. -/
def isSign (l : Lexeme) (sign : String) : Bool :=
  l.kind == .punctuation && String.ofList l.text == sign

/-- The text of a lexeme in capitals. -/
def capitals (l : Lexeme) : String := String.ofList (upper l.text)

/-- Whether a lexeme is a keyword. -/
def isKeyword (l : Lexeme) : Bool := l.kind matches .keyword _

/-- Whether a lexeme is one of the given keywords. -/
def isOneOf (l : Lexeme) (words : List String) : Bool :=
  l.kind == .keyword .other && words.contains l.capitals

/-- Whether a lexeme begins a statement on data or structure. -/
def isStatementWord (l : Lexeme) : Bool :=
  l.kind == .keyword .data || l.kind == .keyword .schema

end Lexeme

/-- How many characters of a text are word characters before the first other one. -/
def wordRun (cs : List Char) : Nat := (cs.takeWhile isWordChar).length

/-- How many digits a text begins with. -/
def digitRun (cs : List Char) : Nat := (cs.takeWhile isDigit).length

/-- The length of a quotation whose opening mark has been read, the closing mark included. A doubled
mark and, where `escapes` is set, a mark behind a backslash belong to the quotation, as long as
another mark closes it. -/
def closing? (mark : Char) (escapes : Bool) : List Char → Option Nat
  | [] => none
  | [c] => if c = mark then some 1 else none
  | c :: d :: more =>
    if c = mark then
      if d = mark then ((closing? mark escapes more).map (· + 2)).or (some 1) else some 1
    else if escapes ∧ c = '\\' ∧ d = mark then
      ((closing? mark escapes more).map (· + 2)).or (some 2)
    else (closing? mark escapes (d :: more)).map (· + 1)

/-- The length of a quotation that opens and closes with the given mark. -/
def quotation? (mark : Char) (escapes : Bool) : List Char → Option Nat
  | [] => none
  | c :: rest => if c = mark then (closing? mark escapes rest).map (· + 1) else none

/-- The length of a comment in signs up to its end, the opening signs excluded. -/
def commentEnd? : List Char → Option Nat
  | [] => none
  | '*' :: '/' :: _ => some 2
  | _ :: rest => (commentEnd? rest).map (· + 1)

/-- Whether a character ends a line. -/
def endsLine (c : Char) : Bool := c = '\n' || c = '\r'

/-- The length of the rest of a line, its end included. -/
def lineLength (cs : List Char) : Nat :=
  let n := (cs.takeWhile fun c => !endsLine c).length
  match cs.drop n with
  | '\r' :: '\n' :: _ => n + 2
  | _ :: _ => n + 1
  | [] => n

/-- A comment: from two hyphens, or a number sign and a blank, to the end of the line, or between
the signs that open and close a longer one. A plus sign makes a hint of it. -/
def comment? : List Char → Option (Lexeme.Kind × Nat)
  | '-' :: '-' :: rest | '#' :: ' ' :: rest =>
    some (if rest.head? = some '+' then .comment else .lineComment, 2 + lineLength rest)
  | '/' :: '*' :: rest => (commentEnd? rest).map fun n => (.comment, n + 2)
  | _ => none

/-- A blank; the two characters that end a line together are one lexeme. -/
def blank? : List Char → Option (Lexeme.Kind × Nat)
  | '\r' :: '\n' :: _ => some (.newline, 2)
  | c :: _ =>
    if endsLine c then some (.newline, 1)
    else if isBlank c then some (.blank, 1)
    else none
  | [] => none

/-- The signs that are read before names: assignment, cast, and star. -/
def earlySign? : List Char → Option (Lexeme.Kind × Nat)
  | ':' :: '=' :: _ => some (.assignment, 2)
  | ':' :: ':' :: _ => some (.punctuation, 2)
  | '*' :: _ => some (.star, 1)
  | _ => none

/-- Whether two texts differ in the case of letters at most. -/
def sameLetters (cs ds : List Char) : Bool := cs.map lowered == ds.map lowered

/-- The length of a text up to the end of the first place where it repeats the mark. -/
def repetition? (mark : List Char) (cs : List Char) : Option Nat :=
  match cs with
  | [] => none
  | _ :: rest =>
    if sameLetters (cs.take mark.length) mark then some mark.length
    else (repetition? mark rest).map (· + 1)

/-- A text between two equal marks. A mark is a name, or nothing, between dollar signs. -/
def dollarText? (previous : Option Char) : List Char → Option Nat
  | '$' :: rest =>
    let name := rest.takeWhile isWordChar
    let after := rest.drop name.length
    if previous.any fun c => isWordChar c || c = '"' || c = '$' then none
    else if name.head?.any (fun c => !(startsName c || c = '_')) || after.head? ≠ some '$' then none
    else (repetition? ('$' :: name ++ ['$']) (after.drop 1)).map (name.length + 2 + ·)
  | _ => none

/-- A place for a value: a question mark, a percent sign with an s and possibly a word in
parentheses between them, or a sign and a word. -/
def placeholder? (previous : Option Char) : List Char → Option Nat
  | '?' :: _ => some 1
  | '%' :: rest =>
    let inner := match rest with
      | '(' :: more =>
        let n := wordRun more
        if 0 < n ∧ (more.drop n).head? = some ')' then n + 2 else 0
      | _ => 0
    if (rest.drop inner).head?.any (· ∈ variants 'S') then some (inner + 2) else none
  | c :: rest =>
    let n := wordRun rest
    if (c = '$' ∨ c = ':') ∧ 0 < n ∧ !previous.any isWordChar then some (n + 1) else none
  | [] => none

/-- A command: a backslash and a word. -/
def command? : List Char → Option Nat
  | '\\' :: rest => if 0 < wordRun rest then some (wordRun rest + 1) else none
  | _ => none

/-- Words that are keywords even before a point or a parenthesis. -/
def steadyWords : List (List String) := [["CASE"], ["IN"], ["VALUES"], ["USING"], ["FROM"], ["AS"]]

/-- The name of a variable or of a temporary table: a sign, a letter, and at least one more
character. -/
def variableName? (cs : List Char) : Option Nat :=
  let sign := match cs with
    | '@' :: _ => 1
    | '#' :: '#' :: _ => 2
    | '#' :: _ => 1
    | _ => 0
  let rest := cs.drop sign
  if 0 < sign ∧ rest.head?.any startsName ∧ 1 < wordRun rest then some (sign + wordRun rest)
  else none

/-- A name by its neighbours: a point behind it, or before it, or a parenthesis behind it. -/
def neighbouredName? (previous : Option Char) (cs : List Char) : Option Nat :=
  let n := wordRun cs
  let rest := cs.drop n
  if cs.head?.any startsName &&
      ((trimStart rest).head? = some '.' || previous = some '.' || rest.head? = some '(') then
    some n
  else none

/-- The length of an optional minus sign. -/
def minusLength (cs : List Char) : Nat := if cs.head? = some '-' then 1 else 0

/-- A number in base sixteen. -/
def hexadecimal? (cs : List Char) : Option Nat :=
  match cs.drop (minusLength cs) with
  | '0' :: x :: rest =>
    let n := (rest.takeWhile fun c =>
      isDigit c || ('a' ≤ c && c ≤ 'f') || ('A' ≤ c && c ≤ 'F')).length
    if (x = 'x' ∨ x = 'X') ∧ 0 < n then some (minusLength cs + 2 + n) else none
  | _ => none

/-- A number with an exponent. -/
def exponential? (cs : List Char) : Option Nat :=
  let whole := minusLength cs + digitRun (cs.drop (minusLength cs))
  let fraction := match cs.drop whole with
    | '.' :: rest => if 0 < digitRun rest then digitRun rest + 1 else 0
    | _ => 0
  match cs.drop (whole + fraction) with
  | e :: rest =>
    let exponent := digitRun (rest.drop (minusLength rest))
    if minusLength cs < whole ∧ (e = 'e' ∨ e = 'E') ∧ 0 < exponent then
      some (whole + fraction + 1 + minusLength rest + exponent)
    else none
  | [] => none

/-- Where a number ends of which the given number of digits has just been read. A number does not
touch a letter; it gives a digit back for that, unless it has too few. -/
def numberEnd? (least digits : Nat) (rest : List Char) : Option Nat :=
  if !rest.head?.any (fun c => startsName c || c = '_') then
    if least ≤ digits then some digits else none
  else if least < digits then some (digits - 1)
  else none

/-- A number with a point. -/
def fractional? (cs : List Char) : Option Nat :=
  let sign := minusLength cs
  let whole := digitRun (cs.drop sign)
  match cs.drop (sign + whole) with
  | '.' :: rest =>
    let n := digitRun rest
    (numberEnd? (if whole = 0 then 1 else 0) n (rest.drop n)).map (sign + whole + 1 + ·)
  | _ => none

/-- A whole number. -/
def integer? (cs : List Char) : Option Nat :=
  let sign := minusLength cs
  let n := digitRun (cs.drop sign)
  (numberEnd? 1 n (cs.drop (sign + n))).map (sign + ·)

/-- A number in one of its forms. -/
def number? (cs : List Char) : Option (Lexeme.Kind × Nat) :=
  (hexadecimal? cs).map (.hexadecimal, ·)
    <|> (exponential? cs <|> fractional? cs <|> integer? cs).map (.number, ·)

/-- A name in brackets. A bracket behind a word or another closing bracket is an index. -/
def bracketedName? (previous : Option Char) : List Char → Option Nat
  | '[' :: rest =>
    let n := (rest.takeWhile fun c => c ≠ '[' ∧ c ≠ ']').length
    let isIndex := previous.any fun c => isWordChar c || c = ']' || c = ')'
    if !isIndex && 0 < n && (rest.drop n).head? = some ']' then some (n + 2) else none
  | _ => none

/-- The ways to write a join. -/
def joinPhrases : List (List String) :=
  let sides : List (List String) := [[], ["LEFT"], ["RIGHT"], ["FULL"]]
  let manners : List (List String) := [[], ["INNER"], ["OUTER"], ["STRAIGHT"]]
  sides.flatMap (fun side => manners.map fun manner => side ++ manner ++ ["JOIN"]) ++
    [["CROSS", "JOIN"], ["NATURAL", "JOIN"]]

/-- The ways to name a view of the rows of a list. -/
def lateralPhrases : List (List String) :=
  ["EXPLODE", "INLINE", "PARSE_URL_TUPLE", "POSEXPLODE", "STACK"].map (["LATERAL", "VIEW", ·])

/-- Words that compare, with or without a negation. -/
def comparingPhrases : List (List String) :=
  ["LIKE", "ILIKE", "RLIKE", "REGEXP"].flatMap fun word => [["NOT", word], [word]]

/-- The directions of an order, and the place of missing values in it. -/
def orderPhrases : List (List String) :=
  ["ASC", "DESC"].flatMap (fun word =>
    [[word, "NULLS", "FIRST"], [word, "NULLS", "LAST"], [word]]) ++
    [["NULLS", "FIRST"], ["NULLS", "LAST"]]

/-- Keywords that may have several words. Of two that begin alike the longer one comes first. -/
def phrases : List (List (List String) × Lexeme.Kind) := [
  (joinPhrases ++ lateralPhrases ++ [
    ["END", "IF"], ["END", "LOOP"], ["END", "WHILE"], ["END"], ["NOT", "NULL"], ["UNION", "ALL"],
    ["GROUP", "BY"], ["ORDER", "BY"], ["PRIMARY", "KEY"], ["HANDLER", "FOR"]], .keyword .other),
  (orderPhrases, .keyword .order),
  ([["CREATE", "OR", "REPLACE"], ["CREATE"]], .keyword .schema),
  ([["DOUBLE", "PRECISION"]], .typeName),
  (comparingPhrases, .comparison)]

/-- A keyword that may have several words. -/
def phrase? (cs : List Char) : Option (Lexeme.Kind × Nat) :=
  phrases.findSome? fun (alternatives, kind) => (anyPhraseLength? alternatives cs).map (kind, ·)

/-- The end of a batch with the number of its repetitions. -/
def batchEnd? (cs : List Char) : Option Nat := do
  let n ← lettersLength? "GO".toList cs
  let rest := cs.drop (n + 1)
  if (cs[n]?).any isBlank ∧ 0 < digitRun rest ∧ endsWord (rest.drop (digitRun rest)) then
    some (n + 1 + digitRun rest)
  else none

/-- The time zone of an expression, which is named in a string. -/
def zone? (cs : List Char) : Option Nat := do
  let n ← phraseLength? ["AT", "TIME", "ZONE"] cs
  let gap := ((cs.drop n).takeWhile isBlank).length
  match cs.drop (n + gap) with
  | '\'' :: rest =>
    let length := (rest.takeWhile (· ≠ '\'')).length
    if 0 < gap ∧ 0 < length ∧ length < rest.length then some (n + gap + length + 2) else none
  | _ => none

/-- What a bare word is. -/
def wordKind (word : String) : Lexeme.Kind :=
  if dataWords.contains word then .keyword .data
  else if schemaWords.contains word then .keyword .schema
  else if rightsWords.contains word then .keyword .rights
  else if definitionWords.contains word then .keyword .definition
  else if operatorWords.contains word then .operator
  else if typeWords.contains word then .typeName
  else if reservedWords.contains word then .keyword .other
  else .name

/-- A bare word: a keyword, the name of a type, or any other name. -/
def word? (cs : List Char) : Option (Lexeme.Kind × Nat) :=
  if cs.head?.any isWordChar then
    let word := cs.takeWhile fun c => isWordChar c || c = '$' || c = '#'
    some (wordKind (String.ofList (upper word)), word.length)
  else none

/-- Signs that compute and have a shape of their own. -/
def arrow? : List Char → Option Nat
  | '-' :: '>' :: '>' :: _ | '#' :: '>' :: '>' :: _ => some 3
  | '-' :: '>' :: _ | '#' :: '>' :: _ | '@' :: '>' :: _ => some 2
  | '<' :: '@' :: _ | '#' :: '-' :: _ => some 2
  | '-' :: _ => some 1
  | _ => none

/-- Signs between other lexemes, signs that compare, and signs that compute. -/
def sign? (cs : List Char) : Option (Lexeme.Kind × Nat) :=
  let run (signs : List Char) : Nat := (cs.takeWhile (· ∈ signs)).length
  let comparing := run ['<', '>', '=', '~', '!']
  let computing := run ['+', '/', '@', '#', '%', '^', '&', '|', '-']
  if cs.head?.any (· ∈ [';', ':', '(', ')', '[', ']', ',', '.']) then some (.punctuation, 1)
  else
    (arrow? cs).map (.operator, ·)
      <|> (if 0 < comparing then some (.comparison, comparing) else none)
      <|> (if 0 < computing then some (.operator, computing) else none)

/-- The kind and length of the lexeme at the start of a text, given the character before it. -/
def lexeme? (previous : Option Char) (cs : List Char) : Option (Lexeme.Kind × Nat) :=
  comment? cs
    <|> blank? cs
    <|> earlySign? cs
    <|> (quotation? '\x60' false cs <|> quotation? '´' false cs).map (.name, ·)
    <|> (dollarText? previous cs).map (.dollarText, ·)
    <|> (placeholder? previous cs).map (.placeholder, ·)
    <|> (command? cs).map (.command, ·)
    <|> (anyPhraseLength? steadyWords cs).map (.keyword .other, ·)
    <|> (variableName? cs <|> neighbouredName? previous cs).map (.name, ·)
    <|> number? cs
    <|> (quotation? '\'' true cs).map (.string, ·)
    <|> (quotation? '"' true cs).map (.quotedName, ·)
    <|> (bracketedName? previous cs).map (.name, ·)
    <|> phrase? cs
    <|> (batchEnd? cs).map (.keyword .other, ·)
    <|> (zone? cs).map (.keyword .zone, ·)
    <|> word? cs
    <|> sign? cs

/-- The lexemes of a text, given the character before it. -/
def lexemesAfter (previous : Option Char) (cs : List Char) : List Lexeme :=
  match cs with
  | [] => []
  | c :: rest =>
    match lexeme? previous (c :: rest) with
    | none => ⟨.stray, [c]⟩ :: lexemesAfter (some c) rest
    | some (kind, length) =>
      let text := c :: rest.take (length - 1)
      ⟨kind, text⟩ :: lexemesAfter text.getLast? (rest.drop (length - 1))
  termination_by cs.length
  decreasing_by all_goals simp only [List.length_drop, List.length_cons]; omega

/-- The lexemes of a text. -/
def lexemes (cs : List Char) : List Lexeme := lexemesAfter none cs

end Inquiry.Sql.StandIn
