/-!
# Parsers of SQL text

SQL text is parsed outside of this library, and different parsers read it differently. So a parser
is a parameter: nothing is assumed of what it makes of a text. What is needed of it is that it cuts
a text into statements, says of each what it is and how it begins, and gives its tokens, which may
stand in groups.
-/

namespace Inquiry.Sql

/-- What a token is. -/
inductive Tree.Kind where
  /-- A word that begins a statement on data. -/
  | data
  /-- A word that begins a statement on the structure of a database. -/
  | schema
  /-- A keyword without a kind of its own. -/
  | keyword
  /-- A name, a sign, a string, a blank, a single comment, or a keyword with a kind of its own. -/
  | other
  deriving DecidableEq, Repr

/-- A token, or several of them together. -/
inductive Tree where
  | token (kind : Tree.Kind) (text : List Char)
  | group (isComment : Bool) (members : List Tree)
  deriving Repr

namespace Tree

mutual

/-- The characters of a token, or of all tokens of a group. -/
def text : Tree → List Char
  | .token _ text => text
  | .group _ members => textAll members

/-- The characters of several trees. -/
def textAll : List Tree → List Char
  | [] => []
  | tree :: rest => tree.text ++ textAll rest

end

end Tree

/-- A statement as a parser reads it. -/
structure Parsed where
  /-- What the parser calls the statement, if it has a name for it. -/
  type? : Option String
  /-- The characters of what comes first and is neither blank nor a comment. -/
  first? : Option (List Char)
  trees : List Tree
  deriving Repr

/-- A parser of SQL text. -/
structure Parser where
  /-- The statements of a text, in order. -/
  statements : List Char → List Parsed

end Inquiry.Sql
