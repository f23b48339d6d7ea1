import Inquiry.Decimal

/-!
# Scalars

The values that a condition can be compared with. An integer is only written as text, and only read
from one, if it does not have too many digits.
-/

namespace Inquiry

/-- A number is whole or an exact decimal. -/
inductive Number where
  | whole (n : Int)
  | decimal (d : Decimal)
  deriving DecidableEq, Repr

/-- A text or a number. -/
inductive Scalar where
  | text (s : String)
  | number (n : Number)
  deriving DecidableEq, Repr

/-- The digits of an integer, with a minus sign if it is negative. -/
def integerText (n : Int) : String :=
  String.ofList ((if n < 0 then ['-'] else []) ++ Text.digits n.natAbs)

/-- How many digits an integer may have that is written as text or read from one. -/
def maxDigits : Nat := 4300

/-- Whether an integer can be written as text. Its sign does not count. -/
def isWritable (n : Int) : Bool := (Text.digits n.natAbs).length ≤ maxDigits

/-- The text of a number. -/
def Number.text : Number → String
  | .whole n => integerText n
  | .decimal d => d.text

/-- Whether a number can be written as text. A decimal always can. -/
def Number.isWritable : Number → Bool
  | .whole n => Inquiry.isWritable n
  | .decimal _ => true

/-- Whether a scalar can be written as text. -/
def Scalar.isWritable : Scalar → Bool
  | .text _ => true
  | .number n => n.isWritable

/-- The text of a scalar, as it is bound to a text column. -/
def Scalar.asText : Scalar → String
  | .text s => s
  | .number n => n.text

end Inquiry
