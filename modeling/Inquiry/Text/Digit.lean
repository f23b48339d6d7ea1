import Inquiry.Text.DigitTable

/-!
# Decimal digits

Numbers and dates may be written with the decimal digits of any script. What a digit means is its
distance from the zero of its script.
-/

namespace Inquiry.Text

/-- The value of a code point among the digits that start at the ascending zeros. -/
def digitAmong : List Nat → Nat → Option Nat
  | [], _ => none
  | first :: rest, c =>
    if c < first then none else if c < first + 10 then some (c - first) else digitAmong rest c

/-- The value of a decimal digit of any script. -/
def digit? (c : Char) : Option Nat := digitAmong digitZeros c.toNat

/-- Whether a character is a decimal digit of any script. -/
def isDigit (c : Char) : Bool := (digit? c).isSome

/-- The number that digits denote. A character that is no digit counts as zero; callers pass
digits only. -/
def numeral (cs : List Char) : Nat :=
  cs.foldl (fun n c => 10 * n + (digit? c).getD 0) 0

/-- The digits of a natural number, the leading one first. -/
def digits (n : Nat) : List Char := Nat.toDigits 10 n

end Inquiry.Text
