import Inquiry.Calendar
import Inquiry.Text.Blank

/-!
# Date literals

Dates are written with points, with slashes, with hyphens in year-month-day order, or as eight
digits. Day and month may have one or two digits, and the eight-digit form may therefore be shorter:
a reader takes the longest month and day that still allow the rest to be read. What is left over
makes the literal invalid; no shorter reading is tried for its sake.
-/

namespace Inquiry.Literal

open Text

/-- A part of a date literal. -/
inductive DatePart where
  | day
  | month
  | year
  | sign (c : Char)
  deriving DecidableEq, Repr

/-- The parts read so far; zero until they are read. -/
structure DateFields where
  year : Nat := 0
  month : Nat := 0
  day : Nat := 0
  deriving DecidableEq, Repr

/-- Reads `01` to `09`, and `1` to `9` as the second choice. Both digits are plain ones. -/
def smallNumber : List Char → List (Nat × List Char)
  | '0' :: c :: rest => if '1' ≤ c ∧ c ≤ '9' then [(numeral [c], rest)] else []
  | c :: rest => if '1' ≤ c ∧ c ≤ '9' then [(numeral [c], rest)] else []
  | [] => []

/-- The ways to read a day, the preferred one first: 30 or 31, then a one or two with any digit
after it, then a single digit, which may have a zero or a blank in front. -/
def dayReadings (cs : List Char) : List (Nat × List Char) :=
  (match cs with
    | '3' :: '0' :: rest => [(30, rest)]
    | '3' :: '1' :: rest => [(31, rest)]
    | '1' :: d :: rest | '2' :: d :: rest =>
      if isDigit d then [(numeral (cs.take 2), rest)] else []
    | _ => []) ++ smallNumber cs ++
  (match cs with
    | ' ' :: c :: rest => if '1' ≤ c ∧ c ≤ '9' then [(numeral [c], rest)] else []
    | _ => [])

/-- The ways to read a month, the preferred one first: ten to twelve, then a single digit, which
may have a zero in front. -/
def monthReadings (cs : List Char) : List (Nat × List Char) :=
  (match cs with
    | '1' :: '0' :: rest => [(10, rest)]
    | '1' :: '1' :: rest => [(11, rest)]
    | '1' :: '2' :: rest => [(12, rest)]
    | _ => []) ++ smallNumber cs

/-- A year has four digits, of any script. -/
def yearReadings : List Char → List (Nat × List Char)
  | a :: b :: c :: d :: rest =>
    if [a, b, c, d].all isDigit then [(numeral [a, b, c, d], rest)] else []
  | _ => []

/-- The ways to read one part in front of the rest. -/
def DatePart.readings (part : DatePart) (fields : DateFields) (cs : List Char) :
    List (DateFields × List Char) :=
  match part with
  | .day => (dayReadings cs).map fun (n, rest) => ({ fields with day := n }, rest)
  | .month => (monthReadings cs).map fun (n, rest) => ({ fields with month := n }, rest)
  | .year => (yearReadings cs).map fun (n, rest) => ({ fields with year := n }, rest)
  | .sign c =>
    match cs with
    | d :: rest => if d = c then [(fields, rest)] else []
    | [] => []

/-- The ways to read all parts one after the other, the preferred one first. -/
def dateReadings : List DatePart → DateFields → List Char → List (DateFields × List Char)
  | [], fields, cs => [(fields, cs)]
  | part :: parts, fields, cs =>
    (part.readings fields cs).flatMap fun (read, rest) => dateReadings parts read rest

/-- The four forms of a date literal, in the order in which they are tried. -/
def dateForms : List (List DatePart) :=
  [[.day, .sign '.', .month, .sign '.', .year],
   [.day, .sign '/', .month, .sign '/', .year],
   [.year, .sign '-', .month, .sign '-', .day],
   [.year, .month, .day]]

/-- The date that a text denotes in one form: by the preferred reading, which must use the whole
text. Years before 1000 are not accepted, because a year of two digits is ambiguous. -/
def dateIn? (form : List DatePart) (cs : List Char) : Option Date :=
  match dateReadings form {} cs with
  | (fields, []) :: _ =>
    (Date.of? fields.year fields.month fields.day).filter fun date => 1000 ≤ date.year
  | _ => none

/-- The date that a text denotes. -/
def date? (text : String) : Option Date :=
  let cs := trimmed text.toList
  dateForms.findSome? fun form => dateIn? form cs

/-- Whether a text consists of digit runs of the given lengths with one of the signs between
them. -/
def isDateShape (signs : List Char) : List (Nat × Nat) → List Char → Bool
  | [], cs => cs.isEmpty
  | (least, most) :: more, cs =>
    let n := (cs.takeWhile isDigit).length
    least ≤ n && n ≤ most &&
      match more, cs.drop n with
      | [], rest => rest.isEmpty
      | _, [] => false
      | _, sign :: rest => signs.contains sign && isDateShape signs more rest

/-- Whether a text is shaped like a date with signs, whether or not the day exists. -/
def looksLikeDate (text : String) : Bool :=
  let cs := trimmed text.toList
  isDateShape ['.', '/'] [(1, 2), (1, 2), (2, 4)] cs
    || isDateShape ['-'] [(4, 4), (1, 2), (1, 2)] cs

end Inquiry.Literal
