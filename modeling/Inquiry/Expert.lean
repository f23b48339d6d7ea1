import Inquiry.Catalogue
import Inquiry.Report.Choice
import Inquiry.Request
import Inquiry.Statement

/-!
# Experts

An expert accepts the requests of one domain and turns them into statements. All that the compiler
knows of an expert is its name and what it answers. The experts of the catalogue accept a request
that holds a main keyword of one of their reports, choose the report that is named most often, read
the request with the rules of the domain, and render the query for that report.
-/

namespace Inquiry

/-- Who turns requests into statements. -/
structure Expert where
  name : String
  domain : Domain
  accepts : String → Bool
  query : String → Except Failure Query
  statement : String → Except Failure Statement

/-- The first characters of a text. -/
def firstCharacters (n : Nat) (text : String) : String := String.ofList (text.toList.take n)

namespace Request.Rules

/-- Whether a text is the number of a broker: at least four digits, possibly behind one letter. -/
def isBrokerNumber (text : String) : Bool :=
  let cs := text.toList
  let digits := match cs with
    | c :: rest => if c.isAlpha then rest else cs
    | [] => []
  4 ≤ digits.length && digits.all Text.isDigit

/-- A number behind the name of a broker means the number of the broker. -/
def redirectBroker (field : String) (value : Token) (r : Report) : String :=
  if field = "makler_name" ∧ isBrokerNumber value.raw ∧ r.hasField "makler_nr" then "makler_nr"
  else field

/-- The test by which a country is looked for in one column, and whether its outcome is negated. -/
def countryTest? : Test → Option (Test × Bool)
  | .compare .equals value => some (.compare .equals value, false)
  | .compare .notEquals value => some (.compare .equals value, true)
  | .compare .contains value => some (.compare .contains value, false)
  | .oneOf first others => some (.oneOf first others, false)
  | _ => none

/-- A country is looked for by its name and by its code. -/
def expandCountry (p : Predicate) (r : Report) : Node :=
  if p.field = "land" ∧ r.hasField "land_code" then
    match countryTest? p.test with
    | some (test, negated) =>
      .group ⟨[⟨"land", test, by decide⟩, ⟨"land_code", test, by decide⟩], [], .or, negated⟩
    | none => .predicate p
  else .predicate p

/-- The rules for contracts. -/
def cover : Rules := { redirect := redirectBroker, expand := expandCountry }

end Request.Rules

/-- An expert for the reports of a catalogue. -/
structure Specialist where
  name : String
  domain : Domain
  rules : Request.Rules := {}
  settings : Settings
  index : Keyword.Index

namespace Specialist

/-- The reports that a specialist knows. -/
def reports (s : Specialist) : List Report := s.index.reports

/-- Whether a request holds a main keyword of one of the reports. -/
def accepts (s : Specialist) (text : String) : Bool :=
  !Text.isBlankText text &&
    (s.index.mainHits (Token.ofText text)).any fun (_, hits) => 0 < hits

/-- The report that the tokens of a request name most often. -/
def chooseReport (s : Specialist) (tokens : List Token) : Except Failure Report :=
  Report.choose s.reports (s.index.mainHits tokens) s.settings.minHits

/-- What a request is read against once its report is chosen. -/
def scope (s : Specialist) (report : Report) : Request.Scope :=
  { report, index := s.index, rules := s.rules, domain := s.domain }

/-- The query of a request, whether or not the specialist accepts it. -/
def queryOf (s : Specialist) (text : String) : Except Failure Query := do
  let report ← s.chooseReport (Token.ofText text)
  (s.scope report).read text

/-- The query of a request that the specialist accepts. -/
def query (s : Specialist) (text : String) : Except Failure Query :=
  if s.accepts text then s.queryOf text
  else .error (.notAccepted s.name (firstCharacters 200 text))

/-- The first report with the name that a query was read for. -/
def reportNamed (s : Specialist) (name : Option String) : Except Failure Report :=
  match s.reports.find? fun r => some r.name = name with
  | some report => .ok report
  | none => .error (.unknownReport s.name (name.getD "None"))

/-- The statement for a request that the specialist accepts. -/
def statement (s : Specialist) (text : String) : Except Failure Statement := do
  let query ← s.query text
  let report ← s.reportNamed query.report
  query.toStatement report s.settings

/-- The specialist as an expert. -/
def toExpert (s : Specialist) : Expert :=
  { name := s.name, domain := s.domain, accepts := s.accepts, query := s.query,
    statement := s.statement }

/-- The keywords of the contract reports. -/
def coverIndex : Keyword.Index := .of (Catalogue.reports .cover)

/-- The keywords of the claim reports. -/
def schadenIndex : Keyword.Index := .of (Catalogue.reports .schaden)

/-- The expert on contracts. -/
def cover (settings : Settings) (index : Keyword.Index := coverIndex) : Specialist :=
  { name := "CoverQueryBuilder", domain := .cover, rules := .cover, settings, index }

/-- The expert on claims. -/
def schaden (settings : Settings) (index : Keyword.Index := schadenIndex) : Specialist :=
  { name := "SchadenQueryBuilder", domain := .schaden, settings, index }

end Specialist

/-- The experts in the order in which they are asked. -/
def Expert.standard (settings : Settings) : List Expert :=
  [(Specialist.cover settings).toExpert, (Specialist.schaden settings).toExpert]

end Inquiry
