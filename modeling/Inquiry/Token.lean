/-!
# Tokens

A request is read as a list of tokens. Each keeps the text as it was typed, for use as a value, and
a folded key, for comparison with keywords.
-/

namespace Inquiry

/-- What a token can be. -/
inductive Token.Kind where
  | word
  | number
  | date
  | quoted
  | operator
  | comma
  deriving DecidableEq, Repr

/-- One token of a request. -/
structure Token where
  /-- The text as typed; without the quotes if it was quoted. -/
  raw : String
  /-- The form in which the token is compared with keywords. -/
  key : String
  kind : Token.Kind
  deriving DecidableEq, Repr

namespace Token

/-- Numbers, dates and quoted texts can only be values. -/
def isValue (t : Token) : Bool :=
  match t.kind with
  | .number | .date | .quoted => true
  | .word | .operator | .comma => false

/-- Whether a token is a word with one of the given keys. -/
def isWordIn (t : Token) (keys : List String) : Bool :=
  t.kind == .word && keys.contains t.key

end Token

end Inquiry
