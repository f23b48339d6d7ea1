import Inquiry.Text.Blank

/-!
# Skeletons

The statement of a report is fixed except for some places: one for the list of columns, one for the
conditions, and any number for single columns of the report. A place is written as its name in
braces; braces around anything else are text.
-/

namespace Inquiry

/-- A part of a skeleton. -/
inductive Skeleton.Piece where
  | text (s : String)
  /-- The list of columns. -/
  | columns
  | conditions
  /-- The expression of one column. -/
  | column (field : String)
  deriving DecidableEq, Repr

/-- The parts of a statement in order. -/
abbrev Skeleton := List Skeleton.Piece

namespace Skeleton

/-- Whether a character can stand at the beginning of the name of a place. -/
def startsName (c : Char) : Bool := c.isAlpha || c = '_'

/-- The place at the start of a text behind its opening brace, and the rest behind its closing
brace. -/
def place? (cs : List Char) : Option (Piece × List Char) :=
  let name := cs.takeWhile fun c => startsName c || c.isDigit
  if name.head?.any startsName then
    match cs.drop name.length with
    | '\x7d' :: rest =>
      let name := String.ofList name
      some (if name = "COLUMNS" then .columns
        else if name = "CONDITIONS" then .conditions
        else .column name, rest)
    | _ => none
  else none

/-- What follows a place is shorter than the text it was read from. -/
theorem length_lt_of_place? {cs rest : List Char} {piece : Piece}
    (h : place? cs = some (piece, rest)) : rest.length < cs.length := by
  unfold place? at h
  simp only at h
  split at h
  · split at h
    · next rest' hdrop =>
      have hrest : rest' = rest := by simpa using (Prod.mk.inj (Option.some.inj h)).2
      have := congrArg List.length hdrop
      simp only [List.length_drop, List.length_cons] at this
      subst hrest
      omega
    · simp at h
  · simp at h

/-- Puts a character in front of the pieces that follow it. -/
def consChar (c : Char) : Skeleton → Skeleton
  | .text s :: rest => .text (String.singleton c ++ s) :: rest
  | pieces => .text (String.singleton c) :: pieces

/-- The pieces of a text. -/
def pieces (cs : List Char) : Skeleton :=
  match cs with
  | [] => []
  | c :: rest =>
    match _h : if c = '\x7b' then place? rest else none with
    | some (piece, after) => piece :: pieces after
    | none => consChar c (pieces rest)
  termination_by cs.length
  decreasing_by
    · split at _h
      · have := length_lt_of_place? _h
        simp only [List.length_cons]
        omega
      · simp at _h
    · simp

/-- The skeleton that a text describes. -/
def ofText (s : String) : Skeleton := pieces s.toList

/-- The fields of the single columns, in order and with repetitions. -/
def fields (skeleton : Skeleton) : List String :=
  skeleton.filterMap fun
    | .column field => some field
    | _ => none

/-- The statement with all places filled. -/
def fill (skeleton : Skeleton) (expression : String → String) (columns conditions : String) :
    String :=
  Text.trim <| String.join <| skeleton.map fun
    | .text s => s
    | .columns => columns
    | .conditions => conditions
    | .column field => expression field

end Skeleton

end Inquiry
