import Inquiry.Text.Blank
import Inquiry.Text.Normal

/-!
# Folding

Keywords are compared in folded form: lower case, umlauts spelled with an e, no accents and no
superfluous blanks. So `Fälligkeit von`, `FÄLLIGKEIT VON` and `faelligkeit  von` are the same
keyword.
-/

namespace Inquiry.Text

/-- The spelling of a German special letter without it. -/
def spellUmlaut (c : Char) : List Char :=
  if c = 'ä' then ['a', 'e']
  else if c = 'ö' then ['o', 'e']
  else if c = 'ü' then ['u', 'e']
  else if c = 'ß' then ['s', 's']
  else [c]

/-- The folded form of a text. Composing comes first, so that an umlaut written as a letter and
its dots is spelled like the single letter; the marks that are left are dropped at the end. -/
def folded (cs : List Char) : List Char :=
  let spelled := (lower (composed cs)).flatMap spellUmlaut
  spaced ((plain spelled).filter fun c => markClass c == 0)

/-- The folded form of a string. -/
def fold (s : String) : String := String.ofList (folded s.toList)

end Inquiry.Text
