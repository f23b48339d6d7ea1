import Inquiry.Request.Value

/-!
# The row limit

A request may limit the rows: a limit marker and a number. A marker without a number is passed over,
except for `limit` itself. After a field, `maximal` compares and does not limit.
-/

namespace Inquiry.Request

/-- The limit that a text denotes: a positive whole number. -/
def limit (text : String) : Except Failure Int := do
  match ← Literal.number text with
  | some (.whole n) => if n ≤ 0 then .error (.limitNotPositive n text) else .ok n
  | _ => .error (.limitNotWhole text)

namespace Scope

/-- Whether a field, with or without `ist` behind it, ends right before the tokens. -/
def followsField (scope : Scope) (before tokens : List Token) : Bool :=
  let isBeing := before.getLast?.any (·.isWordIn beingWords)
  let (before, tokens) :=
    if isBeing then (before.dropLast, before.getLast?.toList ++ tokens) else (before, tokens)
  (List.range before.length).any fun n =>
    ((scope.fieldAt (before.drop n ++ tokens)).map (·.length)) == some (before.length - n)

/-- The limit in the tokens behind those that have been passed over, and all tokens without it. -/
def limitBehind (scope : Scope) (before : List Token) :
    List Token → Except Failure (Option Int × List Token)
  | [] => .ok (none, before)
  | t :: rest =>
    let passOver := scope.limitBehind (before ++ [t]) rest
    match afterAnyPhrase? limitMarkers (t :: rest) with
    | none => passOver
    | some behind =>
      if comparingLimitWords.contains t.key && scope.followsField before (t :: rest) then passOver
      else
        match behind with
        | u :: after =>
          if u.kind = .number then (limit u.raw).map fun n => (some n, before ++ after)
          else if t.key = "limit" then .error (.limitMissing u.raw)
          else passOver
        | [] => if t.key = "limit" then .error (.limitMissing "") else passOver

/-- The row limit of a request, and the request without it. -/
def rowLimit (scope : Scope) (tokens : List Token) : Except Failure (Option Int × List Token) :=
  scope.limitBehind [] tokens

end Scope

end Inquiry.Request
