import Inquiry.Sql.StandIn.Lexeme

/-!
# Scripts

A script is a text of several statements. A semicolon ends a statement unless it stands in
parentheses or in a block of a definition, and so does the word that ends a batch. Blanks and a
comment on the rest of the line still belong to the statement before them.
-/

namespace Inquiry.Sql.StandIn

/-- What is known of a statement that has been read in part. -/
structure Progress where
  /-- How many parentheses and blocks are open. -/
  depth : Int := 0
  /-- How many blocks with a beginning and an end are open. -/
  blocks : Nat := 0
  /-- Whether nothing but blanks and comments has come behind the last beginning of a block. -/
  hasBegun : Bool := false
  /-- Whether the statement creates something. -/
  creates : Bool := false
  /-- Whether the next end closes a case. -/
  inCase : Bool := false
  hasEnded : Bool := false
  /-- Whether the statement has more than blanks. -/
  hasContent : Bool := false
  deriving DecidableEq, Repr

namespace Progress

/-- Words behind the beginning of a transaction, which is no block. -/
def transactionWords : List String := [
  "TRANSACTION", "WORK", "TRAN", "DISTRIBUTED", "DEFERRED", "IMMEDIATE", "EXCLUSIVE"]

/-- The progress when a keyword opens or closes something. -/
def afterKeyword (p : Progress) (l : Lexeme) : Progress :=
  let word := l.capitals
  if l.kind = .keyword .schema ∧ "CREATE".toList.isPrefixOf word.toList then
    { p with creates := true }
  else if word = "DECLARE" ∧ p.creates ∧ p.blocks = 0 then { p with depth := p.depth + 1 }
  else if word = "BEGIN" then
    { p with
      blocks := p.blocks + 1
      hasBegun := true
      depth := if p.creates then p.depth + 1 else p.depth }
  else if p.hasBegun ∧ l.isOneOf transactionWords then
    { p with blocks := p.blocks - 1, hasBegun := false }
  else if word = "END" then
    { p with
      blocks := if p.inCase then p.blocks else p.blocks - 1
      inCase := false
      depth := p.depth - 1 }
  else if ["IF", "FOR", "WHILE", "CASE"].contains word ∧ p.creates ∧ 0 < p.blocks then
    { p with inCase := p.inCase || word == "CASE", depth := p.depth + 1 }
  else if ["END IF", "END FOR", "END WHILE"].contains word then { p with depth := p.depth - 1 }
  else p

/-- Whether a lexeme ends a batch of statements. The word is only known in capitals. -/
def endsBatch (l : Lexeme) : Bool :=
  l.kind == .keyword .other && l.text.takeWhile (!Text.isBlank ·) == "GO".toList

/-- The progress when a lexeme has opened and closed what it does, and may end the statement. -/
def closed (p : Progress) (l : Lexeme) : Progress :=
  if l.isSign ";" then
    let blocks := if p.hasBegun then p.blocks - 1 else p.blocks
    { p with
      blocks
      hasBegun := false
      hasEnded := p.hasEnded || (p.depth ≤ 0 && blocks == 0) }
  else if endsBatch l then { p with hasEnded := true }
  else if l.isBlank || l.isComment || l.isOneOf ["BEGIN"] then p
  else { p with hasBegun := false }

/-- The progress behind one more lexeme. -/
def after (p : Progress) (l : Lexeme) : Progress :=
  let p := { p with hasContent := p.hasContent || !l.isBlank }
  if l.isSign "(" then { p with depth := p.depth + 1 }.closed l
  else if l.isSign ")" then { p with depth := p.depth - 1 }.closed l
  else if l.isKeyword then (p.afterKeyword l).closed l
  else p.closed l

/-- Whether a lexeme belongs to the next statement. -/
def isFinishedBefore (p : Progress) (l : Lexeme) : Bool :=
  p.hasEnded && !(l.kind == .blank || l.kind == .lineComment)

/-- How many statements there are when one has been read in part. -/
def statementCount (p : Progress) : List Lexeme → Nat
  | [] => if p.hasContent then 1 else 0
  | l :: rest =>
    if p.isFinishedBefore l then statementCount (after {} l) rest + 1
    else statementCount (p.after l) rest

end Progress

/-- How many statements there are. -/
def statementCount (ls : List Lexeme) : Nat := Progress.statementCount {} ls

end Inquiry.Sql.StandIn
