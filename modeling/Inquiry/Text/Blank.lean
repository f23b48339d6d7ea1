/-!
# Blanks

White space separates the words of a request and is trimmed from every value. A control character
that separates fields or lines counts as blank, and so does every space of any width; a zero-width
space does not, because it takes no room.
-/

namespace Inquiry.Text

/-- Spaces of any width, and the control characters that separate fields or lines. -/
def isBlank (c : Char) : Bool :=
  let n := c.toNat
  (0x09 ≤ n && n ≤ 0x0D) || (0x1C ≤ n && n ≤ 0x20) || n == 0x85 || n == 0xA0 || n == 0x1680
    || (0x2000 ≤ n && n ≤ 0x200A) || n == 0x2028 || n == 0x2029 || n == 0x202F || n == 0x205F
    || n == 0x3000

/-- Text without the blanks at its beginning. -/
def trimStart (cs : List Char) : List Char := cs.dropWhile isBlank

/-- Text without the blanks at its end. -/
def trimEnd (cs : List Char) : List Char := (cs.reverse.dropWhile isBlank).reverse

/-- Text without the blanks around it. -/
def trimmed (cs : List Char) : List Char := trimEnd (trimStart cs)

/-- The maximal runs of characters that are not blank. -/
def words : List Char → List (List Char)
  | [] => []
  | c :: rest =>
    if isBlank c then words rest
    else if rest.head?.any fun d => !isBlank d then
      match words rest with
      | word :: more => (c :: word) :: more
      | [] => [[c]]
    else [c] :: words rest

/-- The words of a text with one space between them. -/
def spaced (cs : List Char) : List Char := [' '].intercalate (words cs)

/-- A string without the blanks around it. -/
def trim (s : String) : String := String.ofList (trimmed s.toList)

/-- Whether a string has nothing but blanks. -/
def isBlankText (s : String) : Bool := s.toList.all isBlank

end Inquiry.Text
