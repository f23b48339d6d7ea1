import Inquiry.Sql.Parser
import Inquiry.Text.Blank
import Inquiry.Text.Case
import Inquiry.Text.Digit

/-!
# What a report may contain

A report is one SELECT statement and nothing else. The guard has a text parsed, and refuses it if it
is not one statement, if that statement is not a SELECT, or if one of its tokens begins a statement
of another kind or is a dangerous word. Groups of comments are searched for dangerous words as well,
because they may hide code.
-/

namespace Inquiry.Sql

open Text

/-- Words that have no place in a report, not even in a comment. -/
def dangerousWords : List String := [
  "INSERT", "UPDATE", "DELETE", "MERGE", "DROP", "ALTER", "TRUNCATE", "EXEC", "EXECUTE",
  "CREATE", "GRANT", "REVOKE", "DENY", "BACKUP", "RESTORE", "SHUTDOWN", "KILL", "OPENROWSET",
  "OPENDATASOURCE", "XP_CMDSHELL", "SP_EXECUTESQL", "BULK"]

/-- Why a text is refused. -/
inductive Objection where
  | empty
  | severalStatements (count : Nat)
  /-- A statement of another kind. -/
  | otherStatement (kind : String)
  /-- The parser has no name for the statement; `start` is how it begins. -/
  | noSelect (start : String)
  | wordInComment (word : String)
  | statementWord (word : String)
  | commandWord (word : String)
  | semicolon
  deriving DecidableEq, Repr

/-- The message for an objection. -/
def Objection.message : Objection → String
  | .empty => "Empty SQL"
  | .severalStatements count =>
    "Expected 1 statement, got " ++ String.ofList (Text.digits count)
  | .otherStatement kind => "Only SELECT statements allowed, got: " ++ kind
  | .noSelect start =>
    "Statement must start with SELECT, got: " ++ if start = "" then "<nothing>" else start
  | .wordInComment word => "Dangerous keyword '" ++ word ++ "' found in comment"
  | .statementWord word => "Non-SELECT DML/DDL token: " ++ word
  | .commandWord word => "Dangerous keyword: " ++ word
  | .semicolon => "Multiple statements not allowed (semicolon in query)"

/-- A word as the guard compares it: in capitals, without blanks around it. -/
def capitals (cs : List Char) : String := String.ofList (upper (trimmed cs))

/-- How a statement begins. -/
def Parsed.start (s : Parsed) : String := (s.first?.map capitals).getD ""

/-- What the parser calls a statement, if it knows. -/
def Parsed.name? (s : Parsed) : Option String := if s.type? = some "UNKNOWN" then none else s.type?

/-- What is wrong with the kind of a statement. If the parser has no name for it, its beginning
decides. -/
def Parsed.kindObjection? (s : Parsed) : Option Objection :=
  match s.name? with
  | some kind => if toUpper kind = "SELECT" then none else some (.otherStatement kind)
  | none => if s.start = "SELECT" then none else some (.noSelect s.start)

/-- Whether a text holds another one. -/
def holds (part : List Char) : List Char → Bool
  | [] => part.isEmpty
  | c :: rest => part.isPrefixOf (c :: rest) || holds part rest

/-- A dangerous word in a text, in any case. -/
def dangerIn? (cs : List Char) : Option String :=
  dangerousWords.find? fun word => holds word.toList (upper cs)

namespace Tree

mutual

/-- What is wrong with a token, or first with a group itself and then with its members. -/
def objection? : Tree → Option Objection
  | .token .data text | .token .schema text =>
    if capitals text = "SELECT" then none else some (.statementWord (capitals text))
  | .token .keyword text =>
    if capitals text ∈ dangerousWords then some (.commandWord (capitals text)) else none
  | .token .other _ => none
  | .group isComment members =>
    (if isComment then (dangerIn? (textAll members)).map .wordInComment else none)
      <|> objectionAll? members

/-- What is wrong with the first of several trees that something is wrong with. -/
def objectionAll? : List Tree → Option Objection
  | [] => none
  | tree :: rest => tree.objection? <|> objectionAll? rest

end

end Tree

/-- A text without blanks around it and without the semicolons directly at its end. -/
def candidate (cs : List Char) : List Char :=
  trimmed ((trimmed cs).reverse.dropWhile (· = ';')).reverse

namespace Parser

/-- What is wrong with a text, if anything is. The objections are tried in order. -/
def objection? (parser : Parser) (sql : String) : Option Objection :=
  let cs := candidate sql.toList
  if cs = [] then some .empty
  else
    match parser.statements cs with
    | [s] =>
      s.kindObjection? <|> Tree.objectionAll? s.trees <|> if ';' ∈ cs then some .semicolon else none
    | several => some (.severalStatements several.length)

/-- Whether a text is exactly one statement that only reads. -/
def isSafe (parser : Parser) (sql : String) : Bool := (parser.objection? sql).isNone

end Parser

end Inquiry.Sql
