import Inquiry.Scalar

/-!
# Failures

A request fails for one of the causes below. Each cause belongs to a class of failures, which tells
a caller what can be done about it, and has a message for the user and the details it arose from.
Some causes belong to no class. A row limit on a statement that has no place for one is a mistake in
a report and not in a request, and an integer with too many digits is nobody's mistake that the
classes know of.
-/

namespace Inquiry

/-- The classes of failures. -/
inductive Failure.Code where
  | noMatchingTemplate
  | unrecognizedRequest
  | unresolvedField
  | malformedValue
  | contractViolation
  deriving DecidableEq, Repr

/-- The name of a class in an answer. -/
def Failure.Code.name : Failure.Code → String
  | .noMatchingTemplate => "NO_MATCHING_TEMPLATE"
  | .unrecognizedRequest => "UNRECOGNIZED_REQUEST"
  | .unresolvedField => "UNRESOLVED_FIELD"
  | .malformedValue => "MALFORMED_VALUE"
  | .contractViolation => "CONTRACT_VIOLATION"

/-- Why a request fails. -/
inductive Failure where
  /-- No report has enough hits. -/
  | noMatchingReport (hits : List (String × Int)) (required : Int)
  /-- No expert accepts the request. -/
  | unrecognized (request : String) (experts : List String)
  /-- A column of another report, or of none. -/
  | fieldNotInReport (field report : String)
  /-- A word in a list of fields that names no field. -/
  | unknownField (word report : String) (available : List String)
  | noColumnLeft (report : String) (excluded : List String)
  | limitNotWhole (text : String)
  | limitNotPositive (limit : Int) (text : String)
  | limitMissing (found : String)
  | valueAfterSortField (field found : String)
  | valueMissing (field found : String)
  | textSearchInNumbers (field : String) (values : List String)
  | tooManyValues (operator field : String) (values : List String)
  | rangeIncomplete (field : String)
  | notANumber (text field : String)
  | notADate (text field : String)
  | fieldMissing
  /-- The operator compares with one scalar; `shown` is the value as it is shown to the caller. -/
  | scalarRequired (operator field shown : String)
  | sequenceRequired (field shown : String)
  | scalarMembersRequired (field shown : String)
  | rangeRequired (field shown : String)
  | valueNotAllowed (operator field shown : String)
  /-- An expert was asked for a request that it does not accept. -/
  | notAccepted (expert request : String)
  | unknownReport (expert report : String)
  /-- An expert broke its own contract. -/
  | expertFault (expert message : String)
  | rowLimitWithoutSelect
  /-- A text that denotes an integer has too many digits, so many as given. -/
  | integerNotRead (digits : Nat)
  /-- An integer with too many digits would have to be written. -/
  | integerNotWritten
  deriving DecidableEq, Inhabited, Repr

/-- The value of one detail of a failure. -/
inductive Failure.Detail where
  | text (s : String)
  | texts (ss : List String)
  | count (n : Int)
  | counts (ns : List (String × Int))
  deriving DecidableEq, Repr

namespace Failure

/-- The class of a failure. -/
def code? : Failure → Option Code
  | .noMatchingReport .. => some .noMatchingTemplate
  | .unrecognized .. => some .unrecognizedRequest
  | .fieldNotInReport .. | .unknownField .. | .noColumnLeft .. => some .unresolvedField
  | .limitNotWhole .. | .limitNotPositive .. | .limitMissing .. | .valueAfterSortField ..
  | .valueMissing .. | .textSearchInNumbers .. | .tooManyValues .. | .rangeIncomplete ..
  | .notANumber .. | .notADate .. => some .malformedValue
  | .fieldMissing | .scalarRequired .. | .sequenceRequired .. | .scalarMembersRequired ..
  | .rangeRequired .. | .valueNotAllowed .. | .notAccepted .. | .unknownReport ..
  | .expertFault .. => some .contractViolation
  | .rowLimitWithoutSelect | .integerNotRead _ | .integerNotWritten => none

/-- The message about an integer with too many digits; `found` says more about it. -/
def tooManyDigits (found : String) : String :=
  "Exceeds the limit (" ++ String.ofList (Text.digits maxDigits) ++
    " digits) for integer string conversion" ++ found ++
      "; use sys.set_int_max_str_digits() to increase the limit"

/-- The message for the user. -/
def message : Failure → String
  | .noMatchingReport .. => "Keine Berichtsvorlage passt zur Anfrage"
  | .unrecognized .. => "Die Anfrage konnte keinem Bereich zugeordnet werden"
  | .fieldNotInReport field report =>
    "Das Feld '" ++ field ++ "' gibt es im Bericht '" ++ report ++ "' nicht"
  | .unknownField word .. => "Unbekanntes Feld '" ++ word ++ "'"
  | .noColumnLeft .. => "Nach dem Ausschließen bleiben keine Spalten übrig"
  | .limitNotWhole text => "Ungültige Zeilenbegrenzung: '" ++ text ++ "'"
  | .limitNotPositive limit _ => "Zeilenbegrenzung muss positiv sein: " ++ integerText limit
  | .limitMissing found => "Nach 'limit' wird eine Zahl erwartet, gefunden: '" ++ found ++ "'"
  | .valueAfterSortField field found =>
    "Nach dem Sortierfeld '" ++ field ++ "' ist kein Wert erlaubt (gefunden: '" ++ found ++ "')"
  | .valueMissing field found =>
    "Für '" ++ field ++ "' fehlt ein Wert (gefunden: '" ++ found ++ "')"
  | .textSearchInNumbers field _ =>
    "Textsuche ist für das Zahlenfeld '" ++ field ++ "' nicht möglich"
  | .tooManyValues operator field _ =>
    "Operator '" ++ operator ++ "' erlaubt nur einen Wert für '" ++ field ++ "'"
  | .rangeIncomplete field => "'zwischen' erwartet zwei Werte für '" ++ field ++ "'"
  | .notANumber text field => "'" ++ text ++ "' ist keine gültige Zahl für '" ++ field ++ "'"
  | .notADate text field => "'" ++ text ++ "' ist kein gültiges Datum für '" ++ field ++ "'"
  | .fieldMissing => "Predicate requires a field"
  | .scalarRequired operator .. => "Operator " ++ operator ++ " requires a scalar value"
  | .sequenceRequired .. => "Operator in requires a non-empty sequence"
  | .scalarMembersRequired .. => "Operator in requires scalar members"
  | .rangeRequired .. => "Operator between requires a ValueRange"
  | .valueNotAllowed operator .. => "Operator " ++ operator ++ " takes no value"
  | .notAccepted expert _ => expert ++ " kann diese Anfrage nicht verarbeiten"
  | .unknownReport _ report => "Unbekannte Berichtsvorlage: " ++ report
  | .expertFault _ message => message
  | .rowLimitWithoutSelect => "Row limit requires a statement starting with SELECT"
  | .integerNotRead digits =>
    tooManyDigits (": value has " ++ String.ofList (Text.digits digits) ++ " digits")
  | .integerNotWritten => tooManyDigits ""

/-- What a user can do about a request that nobody understands. -/
def advice : List String := [
  "Bereich nennen: Verträge/Cover oder Schäden",
  "Makler-Nr hinzufügen (z. B. Verträge mit Makler 100120)",
  "VSN angeben (z. B. Verträge mit VSN 4711)",
  "Zeitraum einschränken: Beginn zwischen 01.01.2024 und 31.12.2024",
  "Spalten ausschließen: außer Land, Firma",
  "Reihenfolge festlegen: zuerst VSN, dann Makler",
  "Ergebnis begrenzen: limit 500"]

/-- What a failure arose from, by name. -/
def details : Failure → List (String × Detail)
  | .noMatchingReport hits required => [("hits", .counts hits), ("min_hits", .count required)]
  | .unrecognized request experts =>
    [("request", .text request), ("experts", .texts experts), ("suggestions", .texts advice)]
  | .fieldNotInReport field report => [("field", .text field), ("report", .text report)]
  | .unknownField word report available =>
    [("field", .text word), ("report", .text report), ("available", .texts available)]
  | .noColumnLeft report excluded => [("report", .text report), ("excluded", .texts excluded)]
  | .limitNotWhole text | .limitNotPositive _ text => [("value", .text text)]
  | .limitMissing found => [("value", .text found)]
  | .valueAfterSortField field found | .valueMissing field found =>
    [("field", .text field), ("value", .text found)]
  | .textSearchInNumbers field values | .tooManyValues _ field values =>
    [("field", .text field), ("values", .texts values)]
  | .rangeIncomplete field => [("field", .text field)]
  | .notANumber text field | .notADate text field =>
    [("field", .text field), ("value", .text text)]
  | .fieldMissing | .rowLimitWithoutSelect | .integerNotRead _ | .integerNotWritten => []
  | .scalarRequired _ field shown | .sequenceRequired field shown
  | .scalarMembersRequired field shown | .rangeRequired field shown
  | .valueNotAllowed _ field shown => [("field", .text field), ("value", .text shown)]
  | .notAccepted expert request => [("expert", .text expert), ("request", .text request)]
  | .unknownReport expert report => [("expert", .text expert), ("template", .text report)]
  | .expertFault expert _ => [("expert", .text expert)]

end Failure

end Inquiry
