import Inquiry.Sql.StandIn.Grouping

/-!
# The structure of a statement

The steps by which the lexemes of a statement become fragments. Their order matters: what is put
together early is one fragment for all later steps. Comments come first, then everything that is
enclosed, then names and calls, expressions, aliases, and at last lists.
-/

namespace Inquiry.Sql.StandIn.Fragment

/-- Comments with the line ends between them, unless nothing else follows. -/
def comments (fs : List Fragment) : List Fragment :=
  gather (fun f rest =>
    let n := (rest.takeWhile fun g => g.isLeaf (·.isComment) || g.isKind [.newline]).length
    if f.isLeaf (·.isComment) && n < rest.length then some (.comments, n) else none) fs

/-- Groups between an opening and a closing fragment, also inside other groups. -/
def enclosed (shape : Shape) (opens closes : Fragment → Bool) : Step :=
  throughout [] (enclose shape opens closes [] [])

/-- The word OVER and what it applies to. -/
def windows : Step :=
  throughout [.window] <| gather fun f rest =>
    let ends := (next? rest).any fun g =>
      g.hasShape [.parenthesis] || g.isKind [.name, .placeholder, .typeName]
    if f.isOneOf ["OVER"] && ends then some (.window, gap rest + 1) else none

/-- Whether fragments define a table by its columns: then a name before a parenthesis is no call. -/
def defineTable (fs : List Fragment) : Bool :=
  let holds (word : String) : Bool := fs.any (·.isLeaf fun l => l.capitals == word)
  holds "CREATE" && holds "TABLE" && !fs.any (·.isLeaf fun l => l.text == "AS".toList)

/-- A name, its arguments, and the rows that it looks at. -/
def calls : Step :=
  throughout [.call] fun fs =>
    if defineTable fs then fs
    else
      gather (fun f rest =>
        if f.isKind [.name, .placeholder, .typeName] &&
            (next? rest).any (·.hasShape [.parenthesis]) then
          let n := gap rest + 1
          let behind := rest.drop n
          let more := if (next? behind).any (·.hasShape [.window]) then gap behind + 1 else 0
          some (.call, n + more)
        else none) fs

/-- Words that end the conditions of a statement. -/
def filterEnds : List String := [
  "ORDER BY", "GROUP BY", "LIMIT", "UNION", "UNION ALL", "EXCEPT", "HAVING", "RETURNING", "INTO"]

/-- Whether fragments are the inside of a group in parentheses or brackets, its signs included. -/
def areEnclosed (fs : List Fragment) : Bool :=
  fs.head?.any (fun f => f.isSign "(" || f.isSign "[") &&
    fs.getLast?.any fun f => f.isSign ")" || f.isSign "]"

/-- The word WHERE and the conditions behind it. -/
def filters : Step :=
  throughout [.filter] fun fs =>
    let closing := if areEnclosed fs then 1 else 0
    gather (fun f rest =>
      if f.isOneOf ["WHERE"] then
        let n := (rest.takeWhile fun g => !g.isOneOf filterEnds).length
        some (.filter, if n < rest.length then n else n - closing)
      else none) fs

/-- A joint, also inside other groups; groups of its own shape are left alone. -/
def connected (j : Joint) : Step := throughout [j.shape] j.step

/-- A name and its qualifiers. A name may end with a point. -/
def qualifiedNames : Step := connected
  { shape := .identifier
    joins := fun f => f.isSign "." || f.isLeaf fun l =>
      l.kind == .operator && (l.text == "->".toList || l.text == "->>".toList)
    left := fun f => f.hasShape [.brackets, .identifier] || f.isKind [.name, .quotedName]
    right := fun _ => true
    reach := fun rest =>
      let fits := (next? rest).any fun f =>
        f.hasShape [.brackets, .call] || f.isKind [.name, .quotedName, .star, .string]
      if fits then gap rest + 1 else 0 }

/-- A name and its index. -/
def indexedNames : Step := Joint.step
  { shape := .identifier
    joins := fun f => f.hasShape [.brackets]
    left := fun f =>
      f.hasShape [.brackets, .identifier, .call] || f.isKind [.name, .quotedName]
    right := fun _ => true
    reach := fun _ => 0 }

/-- Single names. -/
def names : Step :=
  throughout [.identifier] <| List.map fun f =>
    if f.isKind [.quotedName, .name] then .group .identifier [f] else f

/-- A name or number and its direction. -/
def ordered : Step :=
  throughout [.identifier] <| accrue
    (fun f g => (f.hasShape [.identifier] || f.isKind [.number, .hexadecimal]) &&
      g.isKind [.keyword .order])
    (fun f behind => .group .identifier (f :: behind))

/-- A value and the type it is read as. -/
def casts : Step := connected
  { shape := .identifier
    joins := fun f => f.isSign "::"
    left := fun _ => true
    right := Option.isSome }

/-- A value and its time zone. -/
def zones : Step := connected
  { shape := .identifier
    joins := fun f => f.isKind [.keyword .zone]
    left := fun _ => true
    right := fun g => g.any fun f => f.isOneOf ["AS"] || f.isKind [.string] }

/-- A type and the string that is read as it. -/
def typedTexts : Step := connected
  { shape := .typedText
    joins := fun f => f.isKind [.typeName] || f.isOneOf ["TIMESTAMP"]
    left := fun _ => true
    right := fun g => g.any (·.isKind [.string])
    takesLeft := false
    grows := false }

/-- A typed string and its unit. -/
def measuredTexts : Step := connected
  { shape := .typedText
    joins := fun f => f.hasShape [.typedText]
    left := fun _ => true
    right := fun g => g.any (·.isOneOf ["DAY", "HOUR", "MINUTE", "MONTH", "SECOND", "YEAR"])
    takesLeft := false }

/-- Whether a fragment is a single value: a number, a string, a name or a place for a value. -/
def isAtom (f : Fragment) : Bool :=
  f.isKind [.number, .string, .quotedName, .name, .placeholder]

/-- Whether a fragment can be computed with. -/
def isOperand (f : Fragment) : Bool :=
  f.isAtom || f.hasShape [.brackets, .parenthesis, .call, .identifier, .operation, .typedText] ||
    f.isOneOf ["CURRENT_DATE", "CURRENT_TIME", "CURRENT_TIMESTAMP"]

/-- Two values and the operator between them. -/
def operations : Step := connected
  { shape := .operation
    joins := fun f => f.isKind [.operator, .star]
    left := isOperand
    right := fun g => g.any isOperand
    grows := false }

/-- Whether a fragment can be compared. -/
def isComparable (f : Fragment) : Bool :=
  f.isAtom || f.hasShape [.parenthesis, .call, .identifier, .operation, .typedText] ||
    f.isOneOf ["NULL"]

/-- Two values and the comparison between them. -/
def comparisons : Step := connected
  { shape := .comparison
    joins := fun f => f.isKind [.comparison]
    left := isComparable
    right := fun g => g.any isComparable
    grows := false }

/-- A value and the name behind the word AS. -/
def renamings : Step := connected
  { shape := .identifier
    joins := fun f => f.isOneOf ["AS"]
    left := fun f => !f.isKeyword || f.isOneOf ["NULL"]
    right := fun g => g.any fun f =>
      !f.isKind [.keyword .data, .keyword .schema, .keyword .definition] }

/-- A value and the name directly behind it. -/
def aliases : Step :=
  throughout [] <| gather fun f rest =>
    let named := f.isKind [.number, .hexadecimal] ||
      f.hasShape [.parenthesis, .call, .caseBlock, .identifier, .operation, .comparison]
    if named && (next? rest).any (·.hasShape [.identifier]) then
      some (.identifier, gap rest + 1)
    else none

/-- A name and what is assigned to it, up to the semicolon. -/
def assignments : Step := connected
  { shape := .assignment
    joins := fun f => f.isKind [.assignment]
    left := fun f => !f.isKind [.keyword .other]
    right := fun g => g.any fun f => !f.isKind [.keyword .other]
    reach := fun rest =>
      let n := gap rest + 1
      match (rest.drop n).findIdx? (·.isSign ";") with
      | some i => n + i + 1
      | none => n }

/-- Comments belong to the group before them. -/
def attachedComments : Step :=
  throughout [] <| accrue
    (fun f g => f.shape?.isSome && g.hasShape [.comments])
    (fun f behind => match f with
      | .group shape members => .group shape (members ++ behind)
      | .leaf l => .leaf l)

/-- Whether a fragment can be a member of a list. -/
def isListed (f : Fragment) : Bool :=
  f.isAtom || f.hasShape [.call, .caseBlock, .identifier, .comparison, .list, .operation] ||
    f.isKind [.keyword .other, .star]

/-- Members separated by commas. -/
def lists : Step := connected
  { shape := .list
    joins := fun f => f.isSign ","
    left := isListed
    right := fun g => g.any isListed }

/-- The word VALUES and the rows behind it, up to the last parenthesis. -/
def rows : Step
  | [] => []
  | f :: rest =>
    if f.isOneOf ["VALUES"] then
      let n := (rest.reverse.dropWhile fun g => !g.hasShape [.parenthesis]).length
      if n = 0 then f :: rest else f.adjoin .rows (rest.take n) :: rest.drop n
    else f :: rows rest

/-- All steps in their order. -/
def steps : List Step := [
  comments,
  enclosed .brackets (·.isSign "[") (·.isSign "]"),
  enclosed .parenthesis (·.isSign "(") (·.isSign ")"),
  enclosed .caseBlock (·.isOneOf ["CASE"]) (·.isOneOf ["END"]),
  enclosed .ifBlock (·.isOneOf ["IF"]) (·.isOneOf ["END IF"]),
  enclosed .loopBlock (·.isOneOf ["FOR", "FOREACH"]) (·.isOneOf ["END LOOP"]),
  enclosed .block (·.isOneOf ["BEGIN"]) (·.isOneOf ["END"]),
  windows, calls, filters, qualifiedNames, indexedNames, names, ordered, casts, zones, typedTexts,
  measuredTexts, operations, comparisons, renamings, aliases, assignments, attachedComments, lists,
  rows]

/-- The fragments of a statement. -/
def ofLexemes (ls : List Lexeme) : List Fragment :=
  steps.foldl (fun fs step => step fs) (ls.map .leaf)

end Inquiry.Sql.StandIn.Fragment
