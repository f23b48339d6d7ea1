import Inquiry.Compiler
import Inquiry.Help
import Inquiry.Sql.StandIn

/-!
# The service

How a request from outside is answered: with help, with a statement, or with an error. An error has
a status that says who has to mend it: a mistake in the request is the caller's, a broken contract
the service's own.
-/

namespace Inquiry.Service

/-- The answer to a request. -/
inductive Answer where
  | help (text : String)
  | statement (s : Statement)
  deriving DecidableEq, Repr

/-- Why there is no answer. -/
inductive Refusal where
  | emptyRequest
  | failed (failure : Failure)
  deriving DecidableEq, Repr

/-- The status of a failure that has a class. -/
def statusOf : Failure.Code → Nat
  | .contractViolation => 500
  | _ => 422

/-- Answers a request: blanks around it do not count, and a request for help is not compiled. -/
def answer (c : Compiler) (message : String) : Except Refusal Answer :=
  let text := Text.trim message
  if text = "" then .error .emptyRequest
  else if Help.isAskedFor text then .ok (.help (Help.text Catalogue.allReports))
  else
    match c.statement text with
    | .ok statement => .ok (.statement statement)
    | .error failure => .error (.failed failure)

end Inquiry.Service
