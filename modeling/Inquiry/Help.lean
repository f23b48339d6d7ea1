import Inquiry.Report
import Inquiry.Scalar
import Inquiry.Token.Lexer

/-!
# Help

A request can ask what the program understands. The answer lists the reports with their fields and
the wording of conditions.
-/

namespace Inquiry.Help

/-- The phrases that ask for help. -/
def phrases : List (List String) := [
  ["was", "kannst", "du"], ["was", "koennen", "sie"], ["faehigkeiten"], ["hilfe"], ["help"],
  ["capabilities"]]

/-- Whether keys hold a phrase, its keys one behind the other. -/
def holdsPhrase (phrase : List String) : List String → Bool
  | [] => phrase.isEmpty
  | key :: keys => phrase.isPrefixOf (key :: keys) || holdsPhrase phrase keys

/-- Whether a request asks for help. -/
def isAskedFor (text : String) : Bool :=
  let keys := (Token.ofText text).map (·.key)
  phrases.any fun phrase => holdsPhrase phrase keys

/-- How conditions are worded. -/
def conditionHelp : List String := [
  "gleich / = / ist, ungleich / != / nicht",
  "größer als / über / >, kleiner als / unter / <",
  "ab / seit / mindestens / >=, bis / vor / höchstens / <=",
  "zwischen X und Y, in X, Y, wie / enthält (Platzhalter *)",
  "leer / fehlt, nicht leer / vorhanden, kein / keine"]

/-- Requests that show what is possible. -/
def examples : List String := [
  "Gib mir alle Verträge vom Makler 100120 außer Land Code",
  "Alle Cover zuerst VSN, dann Makler limit 200",
  "Verträge mit Beginn zwischen 01.01.2024 und 31.12.2024 sortiert nach Beginn absteigend",
  "Schäden mit Schadensumme über 10.000 EUR und Status offen",
  "Verträge mit Land DEU oder Land AUT ohne Makler Name"]

/-- A column with its header and its first keyword. -/
def describeColumn (c : Column) : String :=
  c.header ++ " [" ++ c.keywords.headD c.header ++ "]"

/-- The lines about a report. -/
def describeReport (r : Report) : List String := [
  "",
  "• " ++ r.name ++ " (Stichworte: " ++ ", ".intercalate r.mainKeywords ++ ")",
  "  Felder: " ++ "; ".intercalate (r.columns.map fun (_, column) => describeColumn column)]

/-- The help on some reports. -/
def text (reports : List Report) : String :=
  let numbered := examples.mapIdx fun i line => integerText (i + 1) ++ ") " ++ line
  "\n".intercalate <|
    "Ich kann für Sie folgende Abfragen erstellen:" :: reports.flatMap describeReport ++
    ["", "Bedingungen:"] ++ conditionHelp.map ("• " ++ ·) ++
    ["",
     "Spalten steuern: '... außer Land, Firma', '... mit Feldern VSN, Firma', " ++
      "'... zuerst VSN, dann Makler'.",
     "Sortieren: '... sortiert nach Beginn absteigend'. " ++
      "Begrenzen: '... limit 100' oder 'die ersten 50'.",
     "", "BEISPIELE:"] ++ numbered

end Inquiry.Help
