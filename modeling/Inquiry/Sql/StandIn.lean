import Inquiry.Report
import Inquiry.Sql.StandIn.Script
import Inquiry.Sql.StandIn.Structure

/-!
# A parser to stand in

The guard leaves the parsing of SQL text to a parser from outside. Where a text or a report is to be
checked without one, this parser stands in for it: it cuts the text into lexemes, counts the
statements, and reads the beginning of the only one. The guard is the same with any other parser.
-/

namespace Inquiry

namespace Sql

namespace StandIn

open Text

/-- The word that begins a statement behind its definitions: a data word directly behind a name or
a list of names. Blanks have been left out. -/
def definedWord? : List Fragment → Option String
  | [] => none
  | [_] => none
  | f :: g :: rest =>
    if f.hasShape [.identifier, .list] then
      if g.isKind [.keyword .data] then some g.capitals else definedWord? rest
    else definedWord? (g :: rest)

/-- The word that says what a statement is. -/
def statementWord? : List Fragment → Option String
  | [] => none
  | f :: rest =>
    if f.isBlank || f.isComment then statementWord? rest
    else if f.isLeaf (·.isStatementWord) then some f.capitals
    else if f.isKind [.keyword .definition] then definedWord? (rest.filter (!·.isBlank))
    else none

/-- A lexeme as a token. -/
def Lexeme.tree (l : Lexeme) : Tree :=
  let kind : Tree.Kind := match l.kind with
    | .keyword .data => .data
    | .keyword .schema => .schema
    | .keyword .other => .keyword
    | _ => .other
  .token kind l.text

/-- A lexeme as a token, or comments together. Other groups do not matter to the guard, and comments
are put together before all of them. -/
def Fragment.tree : Fragment → Tree
  | .leaf l => l.tree
  | .group _ members => .group true (members.filterMap fun f => f.leaf?.map (·.tree))

/-- The only statement of a text. -/
def single (ls : List Lexeme) : Parsed :=
  let fs := Fragment.ofLexemes ls
  { type? := statementWord? fs
    first? := (fs.find? fun f => !f.isBlank && !f.isComment).map (·.text)
    trees := (Fragment.comments (ls.map .leaf)).map (·.tree) }

end StandIn

/-- The parser that stands in. Of several statements it only says how many there are. -/
def Parser.standIn : Parser where
  statements cs :=
    let ls := StandIn.lexemes cs
    let count := StandIn.statementCount ls
    if count = 1 then [StandIn.single ls] else List.replicate count ⟨none, none, []⟩

/-- What is wrong with a text, if anything is, as far as the parser that stands in can tell. -/
def objection? (sql : String) : Option Objection := Parser.standIn.objection? sql

end Sql

/-- The report with the given parts, unless it has a flaw as far as the parser that stands in can
tell. -/
def Report.setUp (number : Nat) (name : String) (mainKeywords : List String)
    (columns : List (String × Column)) (skeleton : String) (defaultOrder : List String) :
    Except Report.Flaw Report :=
  setUpWith .standIn number name mainKeywords columns skeleton defaultOrder

end Inquiry
