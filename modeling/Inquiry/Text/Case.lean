import Inquiry.Text.CaseTable
import Inquiry.Text.CasedTable
import Inquiry.Text.CodeTable

/-!
# Letter case

Lowering and raising of whole texts. A letter may become several: a sharp s is raised to two
letters, and a dotted capital I is lowered to an i and a dot. The only letter whose lower form
depends on its neighbours is the sigma, which has a form of its own at the end of a word.
-/

namespace Inquiry.Text

/-- The characters with the given code points. -/
def ofCodes (codes : List Nat) : List Char := codes.map Char.ofNat

/-- The lower form of a letter, wherever it stands. -/
def lowered (c : Char) : List Char :=
  match CodeTable.stepped? lowerRuns c.toNat with
  | some code => [Char.ofNat code]
  | none =>
    match CodeTable.row? lowerRows c.toNat with
    | some codes => ofCodes codes
    | none => [c]

/-- The upper form of a letter. -/
def raised (c : Char) : List Char :=
  match CodeTable.stepped? upperRuns c.toNat with
  | some code => [Char.ofNat code]
  | none =>
    match CodeTable.row? upperRows c.toNat with
    | some codes => ofCodes codes
    | none => [c]

/-- Whether a cased letter comes first once the characters that do not matter are passed over. -/
def meetsCased (cs : List Char) : Bool :=
  match cs.dropWhile fun c => CodeTable.covers ignorableRanges c.toNat with
  | [] => false
  | c :: _ => CodeTable.covers casedRanges c.toNat

/-- Lowers a text whose preceding characters are given in reverse. -/
def lowerAfter (before : List Char) : List Char → List Char
  | [] => []
  | c :: rest =>
    let here :=
      if c = 'Σ' then [if meetsCased before && !meetsCased rest then 'ς' else 'σ']
      else lowered c
    here ++ lowerAfter (c :: before) rest

/-- The lower form of a text. -/
def lower (cs : List Char) : List Char := lowerAfter [] cs

/-- The upper form of a text. -/
def upper (cs : List Char) : List Char := cs.flatMap raised

/-- The lower form of a string. -/
def toLower (s : String) : String := String.ofList (lower s.toList)

/-- The upper form of a string. -/
def toUpper (s : String) : String := String.ofList (upper s.toList)

end Inquiry.Text
