import Inquiry.Text.CodeTable
import Inquiry.Text.Digit
import Inquiry.Text.WordTable

/-!
# Word characters

Letters, numbers of every kind, and the underscore. A combining mark is not a word character, so
a letter followed by a separate mark ends a word; text that is composed first has no such breaks.
-/

namespace Inquiry.Text

/-- Whether a character can stand inside a word. -/
def isWordChar (c : Char) : Bool :=
  c == '_' || isDigit c || CodeTable.covers wordRanges c.toNat

/-- Every digit is a word character. -/
theorem isWordChar_of_isDigit {c : Char} (h : isDigit c = true) : isWordChar c = true := by
  simp [isWordChar, h]

end Inquiry.Text
