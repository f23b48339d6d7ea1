import Inquiry.Text.Digit

/-!
# Exact decimals

A decimal keeps the digits that were written: `1.50` and `1.5` are different decimals of the same
size, and zero may have a sign. The exponent says where the point stands.
-/

namespace Inquiry

/-- The number `coefficient · 10 ^ exponent`, with a sign even on zero. -/
structure Decimal where
  negative : Bool
  coefficient : Nat
  exponent : Int
  deriving DecidableEq, Repr

namespace Decimal

open Text

/-- The decimal with the given digits before and after the point. -/
def ofDigits (negative : Bool) (whole fraction : List Char) : Decimal :=
  ⟨negative, numeral (whole ++ fraction), -(fraction.length : Int)⟩

/-- Puts a point `places` digits before the end, with zeros where digits are missing. -/
def pointed (cs : List Char) (places : Nat) : List Char :=
  if places = 0 then cs
  else
    let filled := List.replicate (places + 1 - cs.length) '0' ++ cs
    filled.take (filled.length - places) ++ '.' :: filled.drop (filled.length - places)

/-- Every digit, without an exponent. -/
def positional (d : Decimal) : List Char :=
  (if d.negative then ['-'] else []) ++
    pointed (digits (d.coefficient * Nat.pow 10 d.exponent.toNat)) (-d.exponent).toNat

/-- The exponent of the leading digit. -/
def magnitude (d : Decimal) : Int := d.exponent + ((digits d.coefficient).length : Int) - 1

/-- One digit before the point, the others behind it, and the exponent with its sign. -/
def scientific (d : Decimal) : List Char :=
  let cs := digits d.coefficient
  let e := d.magnitude
  (if d.negative then ['-'] else []) ++ pointed cs (cs.length - 1) ++ 'E' ::
    (if e < 0 then '-' else '+') :: digits e.natAbs

/-- The text of a decimal as a value. A number smaller than a millionth, and one that is only known
to a power of ten, is written with an exponent, all others without. -/
def text (d : Decimal) : String :=
  String.ofList (if d.exponent ≤ 0 ∧ -6 ≤ d.magnitude then d.positional else d.scientific)

end Decimal

end Inquiry
