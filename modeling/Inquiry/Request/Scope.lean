import Inquiry.Keyword.Index
import Inquiry.Query
import Inquiry.Request.Vocabulary

/-!
# What a request is read against

A request is read for one report, with the keywords of all reports it could have meant, and with the
rules of a domain. A rule may choose another column for a value, or replace a condition by an
equivalent one.
-/

namespace Inquiry.Request

/-- The rules of a domain; without a rule nothing changes. -/
structure Rules where
  /-- The field that is meant when a field is followed by a value. -/
  redirect : (field : String) → (value : Token) → Report → String := fun field _ _ => field
  /-- The condition that is meant by a predicate. -/
  expand : Predicate → Report → Node := fun predicate _ => .predicate predicate

/-- What a request is read against. -/
structure Scope where
  report : Report
  index : Keyword.Index
  rules : Rules := {}
  domain : Domain := .unknown

namespace Scope

/-- The phrase at the beginning of the tokens that stands for a column of some report. -/
def fieldAt (scope : Scope) (tokens : List Token) : Option Keyword.Match :=
  (scope.index.matchAt tokens).filter (·.isField)

/-- The field that a phrase at the beginning of the tokens stands for in the report. -/
def resolve (scope : Scope) (tokens : List Token) (m : Keyword.Match) : Except Failure String :=
  match m.fieldsOf scope.report with
  | field :: _ => .ok field
  | [] =>
    let phrase := " ".intercalate ((tokens.take m.length).map (·.raw))
    .error (.fieldNotInReport phrase scope.report.name)

/-- The failure for a word where only fields are allowed. -/
def unknownField (scope : Scope) (t : Token) : Failure :=
  .unknownField t.raw scope.report.name scope.report.fields

/-- The column of a field. -/
def column (scope : Scope) (field : String) : Except Failure Column :=
  match scope.report.column? field with
  | some column => .ok column
  | none => .error (.fieldNotInReport field scope.report.name)

/-- Whether the tokens begin with a word that can be part of a text value. It is not in the
vocabulary, and no keyword begins with it. -/
def startsPlainWord (scope : Scope) (tokens : List Token) : Bool :=
  match tokens with
  | [] => false
  | t :: _ =>
    t.kind == .word &&
      !(stopWords.contains t.key || operatorWords.contains t.key || emptyWords.contains t.key ||
        presentWords.contains t.key || descendingWords.contains t.key ||
        ascendingWords.contains t.key || isCurrency t.key) &&
      (scope.index.matchAt tokens).isNone

/-- Whether the tokens begin with a word that is neither a stop word nor a keyword. -/
def startsUnknownWord (scope : Scope) (tokens : List Token) : Bool :=
  match tokens with
  | [] => false
  | t :: _ =>
    t.kind == .word && !stopWords.contains t.key && (scope.index.matchAt tokens).isNone

/-- Whether a condition can begin with the tokens: an operator, a value, or a word about the
presence of a value. -/
def startsCondition (scope : Scope) (tokens : List Token) : Bool :=
  match tokens with
  | [] => false
  | t :: _ =>
    t.isValue || t.kind == .operator || t.isWordIn ["ist", "sind", "in", "zwischen"]
      || t.isWordIn negatingWords || t.isWordIn emptyWords || t.isWordIn presentWords
      || (afterAnyPhrase? (comparingPhrases.map (·.1)) tokens).isSome
      || scope.startsPlainWord tokens

end Scope

end Inquiry.Request
