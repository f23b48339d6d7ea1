import Inquiry.Scalar
import Inquiry.Text.Quoted

/-!
# Operands

What a caller hands in as the value of a condition. Not all of it makes sense; a condition checks
its operand and shows it in the details when it refuses it. That fails if an integer in it has too
many digits.
-/

namespace Inquiry

/-- A value of any shape. -/
inductive Operand where
  | absent
  | flag (b : Bool)
  /-- An inexact number, given by its digits. -/
  | inexact (text : String)
  | scalar (s : Scalar)
  | list (items : List Operand)
  | tuple (items : List Operand)
  | range (low high : Operand)
  deriving Inhabited, Repr

namespace Operand

/-- A scalar as it is shown in a message. -/
def showScalar : Scalar → String
  | .text s => Text.quoted s
  | .number (.whole n) => integerText n
  | .number (.decimal d) => "Decimal('" ++ d.text ++ "')"

mutual

/-- An operand as it is shown in a message. -/
def shown : Operand → String
  | .absent => "None"
  | .flag true => "True"
  | .flag false => "False"
  | .inexact text => text
  | .scalar s => showScalar s
  | .list items => "[" ++ ", ".intercalate (shownAll items) ++ "]"
  | .tuple [item] => "(" ++ shown item ++ ",)"
  | .tuple items => "(" ++ ", ".intercalate (shownAll items) ++ ")"
  | .range low high => "ValueRange(low=" ++ shown low ++ ", high=" ++ shown high ++ ")"

/-- Operands as they are shown in a message. -/
def shownAll : List Operand → List String
  | [] => []
  | item :: rest => shown item :: shownAll rest

end

mutual

/-- Whether an operand can be shown. -/
def isShowable : Operand → Bool
  | .absent | .flag _ | .inexact _ => true
  | .scalar s => s.isWritable
  | .list items | .tuple items => areShowable items
  | .range low high => low.isShowable && high.isShowable

/-- Whether operands can be shown. -/
def areShowable : List Operand → Bool
  | [] => true
  | item :: rest => item.isShowable && areShowable rest

end

/-- The scalar that an operand is, if it is one. -/
def scalar? : Operand → Option Scalar
  | .scalar s => some s
  | _ => none

end Operand

end Inquiry
