/-!
# Looking up code points

Character properties are stored in tables that ascend by code point. A search stops at the first
entry behind the code point it looks for, so the common characters, which come first, are found
after a few steps.
-/

namespace Inquiry.Text.CodeTable

/-- Whether one of the ascending ranges holds the code point. -/
def covers : List (Nat × Nat) → Nat → Bool
  | [], _ => false
  | (first, last) :: rest, c =>
    if c < first then false else if c ≤ last then true else covers rest c

/-- The number that belongs to the range of the code point, and zero outside all ranges. -/
def numberAt : List (Nat × Nat × Nat) → Nat → Nat
  | [], _ => 0
  | (first, last, number) :: rest, c =>
    if c < first then 0 else if c ≤ last then number else numberAt rest c

/-- The image of a code point when images advance with the code points of a range. -/
def shifted? : List (Nat × Nat × Nat) → Nat → Option Nat
  | [], _ => none
  | (first, last, image) :: rest, c =>
    if c < first then none
    else if c ≤ last then some (image + (c - first))
    else shifted? rest c

/-- The image of a code point when only every `step`-th code point of a range has one. -/
def stepped? : List (Nat × Nat × Nat × Nat) → Nat → Option Nat
  | [], _ => none
  | (first, last, step, image) :: rest, c =>
    if c < first then none
    else if c ≤ last then
      if (c - first) % step = 0 then some (image + (c - first)) else none
    else stepped? rest c

/-- The row of a code point in a table of single rows. -/
def row? {α : Type} : List (Nat × α) → Nat → Option α
  | [], _ => none
  | (code, image) :: rest, c =>
    if c < code then none else if c = code then some image else row? rest c

/-- The image of a code point in blocks of consecutive code points. -/
def inBlock? : List (Nat × List Nat) → Nat → Option Nat
  | [], _ => none
  | (first, images) :: rest, c =>
    if c < first then none
    else if c < first + images.length then images[c - first]?
    else inBlock? rest c

/-- A composite and its parts, found by the parts. -/
def composite? : List (Nat × Nat × Nat) → Nat → Nat → Option Nat
  | [], _, _ => none
  | (code, base, mark) :: rest, b, m =>
    if base = b ∧ mark = m then some code else composite? rest b m

end Inquiry.Text.CodeTable
