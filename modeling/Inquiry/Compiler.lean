import Inquiry.Expert

/-!
# The compiler

A request goes to the first expert that accepts it. A request that is longer than allowed is cut
first, and the answer says so.
-/

namespace Inquiry

/-- Some experts, and the settings for the requests that reach them. -/
structure Compiler where
  settings : Settings
  experts : List Expert

namespace Compiler

/-- The compiler with the standard experts. -/
def standard (settings : Settings) : Compiler := ⟨settings, Expert.standard settings⟩

/-- Whether a request is longer than allowed. -/
def isTooLong (c : Compiler) (text : String) : Bool :=
  0 < c.settings.maxLength && c.settings.maxLength < text.length

/-- A request, cut to the allowed length. -/
def bounded (c : Compiler) (text : String) : String :=
  if c.isTooLong text then firstCharacters c.settings.maxLength.toNat text else text

/-- The first expert that accepts a request. -/
def resolve (c : Compiler) (text : String) : Except Failure Expert :=
  match c.experts.find? (·.accepts text) with
  | some expert => .ok expert
  | none => .error (.unrecognized (firstCharacters 200 text) (c.experts.map (·.name)))

/-- The query that a request asks for. -/
def query (c : Compiler) (text : String) : Except Failure Query := do
  let expert ← c.resolve (c.bounded text)
  expert.query (c.bounded text)

/-- The statement for a request. -/
def statement (c : Compiler) (text : String) : Except Failure Statement := do
  let expert ← c.resolve (c.bounded text)
  let statement ← expert.statement (c.bounded text)
  if c.isTooLong text then
    return { statement with warnings := .requestTruncated :: statement.warnings }
  else return statement

end Compiler

end Inquiry
