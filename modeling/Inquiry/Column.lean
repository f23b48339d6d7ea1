import Inquiry.Text.Fold

/-!
# Columns

A column of a report knows its expression in SQL, the header under which it is shown, and the
keywords by which a request names it.
-/

namespace Inquiry

/-- Keywords as they are kept: trimmed, in lower case, and without blank ones. -/
def keywordsOf (phrases : List String) : List String :=
  (phrases.filter fun phrase => !Text.isBlankText phrase).map fun phrase =>
    Text.toLower (Text.trim phrase)

/-- A column that can be shown and filtered by. -/
structure Column where
  /-- The name in the database, possibly qualified, or a whole expression in parentheses. -/
  source : String
  header : String := ""
  /-- The table that qualifies a bare name. -/
  table : String := ""
  keywords : List String := []
  /-- Numeric columns are compared and shown as they are; text columns are trimmed. -/
  numeric : Bool := false
  deriving DecidableEq, Repr

namespace Column

/-- The column with keywords as they are kept. -/
def of (source header table : String) (keywords : List String) (numeric : Bool) : Column :=
  ⟨source, header, table, keywordsOf keywords, numeric⟩

/-- The expression for a column in conditions and orders. A name that is qualified and an
expression in parentheses stand for themselves. -/
def expression (c : Column) : String :=
  let source := Text.trim c.source
  if source.toList.head? = some '(' ∨ '.' ∈ source.toList ∨ Text.isBlankText c.table then source
  else Text.trim c.table ++ "." ++ source

/-- The entry for a column in the list of a SELECT. A text column is trimmed and never null. -/
def definition (c : Column) : String :=
  if c.numeric then c.expression ++ " AS \"" ++ c.header ++ "\""
  else "COALESCE(RTRIM(LTRIM(" ++ c.expression ++ ")), '') AS \"" ++ c.header ++ "\""

/-- Whether a word is a keyword of the column, apart from case, umlauts and accents. -/
def isNamedBy (c : Column) (word : String) : Bool :=
  (c.keywords.map Text.fold).contains (Text.fold word)

end Column

end Inquiry
