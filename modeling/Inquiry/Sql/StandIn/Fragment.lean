import Inquiry.Sql.StandIn.Lexeme

/-!
# Fragments of SQL text

A statement is read in fragments. A fragment is a lexeme, or several fragments that belong together:
a parenthesis with its content, a name with its qualifiers, a call, an expression, a list. Fragments
are formed step by step, and a step only puts neighbours together.
-/

namespace Inquiry.Sql.StandIn

/-- What several fragments are together. -/
inductive Shape where
  | comments
  | brackets
  | parenthesis
  | caseBlock
  | ifBlock
  | loopBlock
  | block
  /-- The rows that a call looks at. -/
  | window
  | call
  /-- The conditions of a statement. -/
  | filter
  /-- A name with its qualifiers, its alias and its direction. -/
  | identifier
  /-- A string with its type, such as a date. -/
  | typedText
  | operation
  | comparison
  | assignment
  | list
  /-- Rows that are written out. -/
  | rows
  deriving DecidableEq, Repr

/-- A lexeme, or several fragments that belong together. -/
inductive Fragment where
  | leaf (l : Lexeme)
  | group (shape : Shape) (members : List Fragment)
  deriving Repr

namespace Fragment

instance : Inhabited Fragment := ⟨.group .comments []⟩

mutual

/-- The characters of a fragment. -/
def text : Fragment → List Char
  | .leaf l => l.text
  | .group _ members => textAll members

/-- The characters of several fragments. -/
def textAll : List Fragment → List Char
  | [] => []
  | f :: rest => f.text ++ textAll rest

end

/-- The text of a fragment in capitals. -/
def capitals (f : Fragment) : String := String.ofList (Text.upper f.text)

/-- The lexeme that a fragment is, if it is one. -/
def leaf? : Fragment → Option Lexeme
  | .leaf l => some l
  | .group .. => none

/-- The shape of a fragment of several. -/
def shape? : Fragment → Option Shape
  | .leaf _ => none
  | .group shape _ => some shape

/-- Whether a fragment is a lexeme with a property. -/
def isLeaf (f : Fragment) (p : Lexeme → Bool) : Bool := f.leaf?.any p

/-- Whether a fragment is a lexeme of one of the given kinds. -/
def isKind (f : Fragment) (kinds : List Lexeme.Kind) : Bool :=
  f.isLeaf fun l => kinds.contains l.kind

/-- Whether a fragment has one of the given shapes. -/
def hasShape (f : Fragment) (shapes : List Shape) : Bool := f.shape?.any shapes.contains

/-- Whether a fragment is blank. -/
def isBlank (f : Fragment) : Bool := f.isLeaf (·.isBlank)

/-- Whether a fragment is a comment, or several. -/
def isComment (f : Fragment) : Bool := f.isLeaf (·.isComment) || f.hasShape [.comments]

/-- Whether a fragment is a keyword. -/
def isKeyword (f : Fragment) : Bool := f.isLeaf (·.isKeyword)

/-- Whether a fragment is one of the given keywords. -/
def isOneOf (f : Fragment) (words : List String) : Bool := f.isLeaf (·.isOneOf words)

/-- Whether a fragment is the given sign between others. -/
def isSign (f : Fragment) (sign : String) : Bool := f.isLeaf (·.isSign sign)

/-- How many blank fragments come first. -/
def gap (fs : List Fragment) : Nat := (fs.takeWhile (·.isBlank)).length

/-- The first fragment that is not blank. -/
def next? (fs : List Fragment) : Option Fragment := fs.find? (!·.isBlank)

/-- A fragment together with the fragments behind it. A fragment that has the shape already takes
them in. -/
def adjoin (shape : Shape) (f : Fragment) (behind : List Fragment) : Fragment :=
  match f with
  | .group s members =>
    if s = shape then .group s (members ++ behind) else .group shape (f :: behind)
  | .leaf _ => .group shape (f :: behind)

/-- A step forms groups among neighbours. -/
abbrev Step := List Fragment → List Fragment

mutual

/-- A fragment with a step made in all groups inside it, the innermost ones first. Groups of the
exempted shapes are left alone. -/
def inside (exempt : List Shape) (step : Step) : Fragment → Fragment
  | .leaf l => .leaf l
  | .group shape members =>
    if exempt.contains shape then .group shape members
    else .group shape (step (insideAll exempt step members))

/-- Several fragments with a step made in all groups inside them. -/
def insideAll (exempt : List Shape) (step : Step) : Step
  | [] => []
  | f :: rest => f.inside exempt step :: insideAll exempt step rest

end

/-- A step made in all groups inside the fragments and then for the fragments themselves. -/
def throughout (exempt : List Shape) (step : Step) : Step := fun fs =>
  step (insideAll exempt step fs)

end Fragment

end Inquiry.Sql.StandIn
