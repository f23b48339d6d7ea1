import Inquiry.Literal.Date
import Inquiry.Literal.Number
import Inquiry.Literal.Pattern
import Inquiry.Request.Scope

/-!
# Values in a request

A value is a number with the currency words behind it, a date, a quoted text, or a run of plain
words. Several values are separated by commas or by `oder`, and after `in` also by `und`. What a
value is bound as depends on the column: numeric columns take numbers, text columns take dates in
stored form, search patterns, or the text itself.
-/

namespace Inquiry.Request

namespace Scope

/-- The plain words at the beginning of the tokens, and the rest. -/
def plainWords (scope : Scope) : List Token → List Token × List Token
  | [] => ([], [])
  | t :: rest =>
    if scope.startsPlainWord (t :: rest) then
      let (words, rest) := scope.plainWords rest
      (t :: words, rest)
    else ([], t :: rest)

/-- Several words as one value. -/
def joinWords (words : List Token) : Token :=
  let raw := " ".intercalate (words.map (·.raw))
  ⟨raw, Text.fold raw, .word⟩

/-- The run of plain words at the beginning of the tokens as one value, and the rest. -/
def plainValue? (scope : Scope) (tokens : List Token) : Option (Token × List Token) :=
  match scope.plainWords tokens with
  | ([], _) => none
  | (first :: others, rest) =>
    some (if others.isEmpty then first else joinWords (first :: others), rest)

/-- The value at the beginning of the tokens, and the rest. -/
def value? (scope : Scope) (tokens : List Token) : Option (Token × List Token) :=
  match tokens with
  | [] => none
  | t :: rest =>
    match t.kind with
    | .number => some (t, rest.dropWhile fun u => u.kind == .word && isCurrency u.key)
    | .date | .quoted => some (t, rest)
    | .word | .operator | .comma => scope.plainValue? tokens

/-- The words and the rest together are as long as the tokens. -/
theorem length_plainWords (scope : Scope) (tokens : List Token) :
    (scope.plainWords tokens).1.length + (scope.plainWords tokens).2.length = tokens.length := by
  induction tokens with
  | nil => rfl
  | cons t rest ih =>
    unfold plainWords
    split
    · simp only [List.length_cons]
      omega
    · simp

/-- A run of plain words takes at least one token. -/
theorem length_lt_of_plainValue? {scope : Scope} {tokens rest : List Token} {t : Token}
    (h : scope.plainValue? tokens = some (t, rest)) : rest.length < tokens.length := by
  have hlen := length_plainWords scope tokens
  unfold plainValue? at h
  split at h
  · simp at h
  · next heq =>
    simp only [heq, List.length_cons] at hlen
    simp only [Option.some.injEq, Prod.mk.injEq] at h
    rw [← h.2]
    omega

/-- A value takes at least one token. -/
theorem length_lt_of_value? {scope : Scope} {tokens rest : List Token} {t : Token}
    (h : scope.value? tokens = some (t, rest)) : rest.length < tokens.length := by
  unfold value? at h
  split at h
  · simp at h
  · split at h
    · simp only [Option.some.injEq, Prod.mk.injEq] at h
      rw [← h.2]
      exact Nat.lt_succ_of_le (List.dropWhile_sublist _).length_le
    iterate 2
      simp only [Option.some.injEq, Prod.mk.injEq] at h
      rw [← h.2]
      exact Nat.lt_succ_self _
    all_goals exact length_lt_of_plainValue? h

/-- Whether a token separates the values of a list. -/
def separatesValues (t : Token) (andToo : Bool) : Bool :=
  t.kind == .comma || t.key == "oder" || (andToo && t.key == "und")

/-- The further values of a list, each behind a separator, and the rest. -/
def furtherValues (scope : Scope) (andToo : Bool) (tokens : List Token) :
    List Token × List Token :=
  match tokens with
  | [] => ([], [])
  | separator :: rest =>
    if separatesValues separator andToo then
      match _h : scope.value? rest with
      | some (value, after) =>
        let (more, rest) := scope.furtherValues andToo after
        (value :: more, rest)
      | none => ([], separator :: rest)
    else ([], separator :: rest)
  termination_by tokens.length
  decreasing_by
    have := length_lt_of_value? _h
    simp only [List.length_cons]
    omega

/-- One value or a list of values at the beginning of the tokens, and the rest. -/
def values (scope : Scope) (andToo : Bool) (tokens : List Token) : List Token × List Token :=
  match scope.value? tokens with
  | none => ([], tokens)
  | some (first, rest) =>
    let (more, rest) := scope.furtherValues andToo rest
    (first :: more, rest)

/-- Further values leave no more tokens than there were. -/
theorem length_furtherValues_le (scope : Scope) (andToo : Bool) (tokens : List Token) :
    (scope.furtherValues andToo tokens).2.length ≤ tokens.length := by
  fun_induction furtherValues scope andToo tokens with
  | case1 => exact Nat.le_refl _
  | case2 separator rest _ value after h more rest' _ ih =>
    have := length_lt_of_value? h
    simp only [List.length_cons] at *
    grind
  | case3 => exact Nat.le_refl _
  | case4 => exact Nat.le_refl _

/-- A list of values takes at least one token. -/
theorem length_lt_of_values {scope : Scope} {andToo : Bool} {tokens rest others : List Token}
    {first : Token} (h : scope.values andToo tokens = (first :: others, rest)) :
    rest.length < tokens.length := by
  unfold values at h
  split at h
  · simp at h
  · next first' after heq =>
    have h1 := length_lt_of_value? heq
    have h2 := length_furtherValues_le scope andToo after
    simp only [Prod.mk.injEq] at h
    rw [← h.2]
    omega

end Scope

/-- What a value is bound as in a column. A text search binds a pattern. -/
def bound (column : Column) (field : String) (searches : Bool) (value : Token) :
    Except Failure Scalar :=
  let raw := Text.trim value.raw
  let asText (text : String) : Scalar := .text (if searches then Literal.pattern text else text)
  if column.numeric then do
    match ← if value.kind = .date then .ok none else Literal.number raw with
    | some number => .ok (.number number)
    | none => .error (.notANumber raw field)
  else if value.kind = .date ∨ (value.kind = .quoted ∧ Literal.looksLikeDate raw) then
    match Literal.date? raw with
    | some date => .ok (asText date.compact)
    | none => .error (.notADate raw field)
  else .ok (asText raw)

end Inquiry.Request
