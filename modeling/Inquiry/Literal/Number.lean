import Inquiry.Failure
import Inquiry.Text.Blank

/-!
# Number literals

German notation groups thousands by points and marks decimals by a comma: `1.234,56`. Plain
notation marks decimals by a point: `1234.56`. A literal with a comma is German. Without a comma it
is read as a German whole number if the points stand at the thousands, and as plain otherwise; so
`10.000` is ten thousand and `12.5` is twelve and a half. An integer that is written with too many
digits is not read, while a decimal may have any number of them.
-/

namespace Inquiry.Literal

open Text

/-- Whether a text consists of points, each followed by exactly three digits. -/
def isThousands : List Char → Bool
  | [] => true
  | '.' :: a :: b :: c :: rest => isDigit a && isDigit b && isDigit c && isThousands rest
  | _ => false

/-- Whether a text without sign is one to three digits followed by groups of three. -/
def isGrouped (cs : List Char) : Bool :=
  let lead := (cs.takeWhile isDigit).length
  let rest := cs.dropWhile isDigit
  1 ≤ lead && lead ≤ 3 && rest ≠ [] && isThousands rest

/-- Whether a text begins with a minus sign, and what is left without it. -/
def signed (cs : List Char) : Bool × List Char :=
  match cs with
  | '-' :: rest => (true, rest)
  | _ => (false, cs)

/-- Removes the grouping points of German notation and turns its comma into a point. -/
def ungrouped (cs : List Char) : List Char :=
  if ',' ∈ cs then (cs.filter (· ≠ '.')).map fun c => if c = ',' then '.' else c
  else if isGrouped (signed cs).2 then cs.filter (· ≠ '.')
  else cs

/-- A number in plain notation, without its sign: digits, or digits, a point and digits. -/
def plainNumber? (negative : Bool) (cs : List Char) : Option Number :=
  let whole := cs.takeWhile isDigit
  if whole = [] then none
  else
    match cs.dropWhile isDigit with
    | [] => some (.whole (if negative then -(numeral whole : Int) else numeral whole))
    | sign :: fraction =>
      if sign = '.' ∧ fraction ≠ [] ∧ fraction.all isDigit then
        some (.decimal (.ofDigits negative whole fraction))
      else none

/-- The number that a text denotes in German or plain notation, however long it is. -/
def number? (text : String) : Option Number :=
  let (negative, cs) := signed (ungrouped (trimmed text.toList))
  plainNumber? negative cs

/-- How many digits a text has. -/
def digitCount (text : String) : Nat := text.toList.countP isDigit

/-- The number that is read from a text, if it denotes one. -/
def number (text : String) : Except Failure (Option Number) :=
  match number? text with
  | some (.whole n) =>
    if maxDigits < digitCount text then .error (.integerNotRead (digitCount text))
    else .ok (some (.whole n))
  | read => .ok read

end Inquiry.Literal
