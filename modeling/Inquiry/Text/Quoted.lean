import Inquiry.Text.CodeTable
import Inquiry.Text.HiddenTable

/-!
# Quoted text

Values that are shown in a message stand between quotes. The quotes are single ones, unless the text
holds a single quote and no double one. Line ends, tabulators, backslashes and the closing quote are
escaped, other characters that cannot be seen are given by number, and all characters that can be
seen stand as they are.
-/

namespace Inquiry.Text

/-- The last hexadecimal digits of a number, `width` of them. -/
def hexDigits : (width : Nat) → Nat → List Char
  | 0, _ => []
  | width + 1, n => hexDigits width (n / 16) ++ [(n % 16).digitChar]

/-- A character given by its number, in the shortest of the three forms that has room for it. -/
def numbered (c : Char) : List Char :=
  let n := c.toNat
  if n ≤ 0xFF then '\\' :: 'x' :: hexDigits 2 n
  else if n ≤ 0xFFFF then '\\' :: 'u' :: hexDigits 4 n
  else '\\' :: 'U' :: hexDigits 8 n

/-- One character between the given quotes. -/
def escaped (quote c : Char) : List Char :=
  if c = quote ∨ c = '\\' then ['\\', c]
  else if c = '\n' then ['\\', 'n']
  else if c = '\r' then ['\\', 'r']
  else if c = '\t' then ['\\', 't']
  else if CodeTable.covers hiddenRanges c.toNat then numbered c
  else [c]

/-- A text between quotes. -/
def quoted (s : String) : String :=
  let cs := s.toList
  let quote := if '\'' ∈ cs ∧ '"' ∉ cs then '"' else '\''
  String.ofList (quote :: cs.flatMap (escaped quote) ++ [quote])

/-- Texts between quotes, in brackets. -/
def quotedList (ss : List String) : String := "[" ++ ", ".intercalate (ss.map quoted) ++ "]"

end Inquiry.Text
