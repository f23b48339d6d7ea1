import Inquiry.Request.Limit
import Inquiry.Request.Mention
import Inquiry.Request.Sorting

/-!
# Requests

A request is read in three passes: the sort block is taken out first, then the row limit, and what
is left is read as field mentions from left to right. A pass that fails ends the reading.
-/

namespace Inquiry.Request.Scope

/-- The query that the tokens of a request ask for. -/
def readTokens (scope : Scope) (tokens : List Token) : Except Failure Query := do
  let (sortKeys, tokens) ← scope.sorting tokens
  let (limit, tokens) ← scope.rowLimit tokens
  let progress ← scope.mentions {} tokens
  return {
    domain := scope.domain
    main := gathered progress.conditions
    projections := progress.projections
    sortKeys
    limit
    report := some scope.report.name }

/-- The query that a request asks for. -/
def read (scope : Scope) (text : String) : Except Failure Query :=
  scope.readTokens (Token.ofText text)

end Inquiry.Request.Scope
