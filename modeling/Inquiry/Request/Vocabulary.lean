import Inquiry.Query.Predicate
import Inquiry.Text.Blank
import Inquiry.Text.Case
import Inquiry.Token

/-!
# The vocabulary of requests

The words that steer the reading of a request, in folded form. A phrase is a list of words; where
several phrases fit, the first one in its list is taken.
-/

namespace Inquiry.Request

/-- Phrases before the fields by which rows are ordered. -/
def sortMarkers : List (List String) := [
  ["sortiert", "nach"], ["sortiere", "nach"], ["sortieren", "nach"], ["geordnet", "nach"],
  ["order", "by"], ["sort", "by"]]

/-- Words behind a sort field that turn its order around. -/
def descendingWords : List String := ["absteigend", "desc", "abwaerts"]

/-- Words behind a sort field that keep the usual order. -/
def ascendingWords : List String := ["aufsteigend", "asc", "aufwaerts"]

/-- Phrases before the number of rows. -/
def limitMarkers : List (List String) := [
  ["die", "ersten"], ["limit"], ["top"], ["ersten"], ["erste"], ["maximal"]]

/-- Limit markers that are comparisons when they follow a field. -/
def comparingLimitWords : List String := ["maximal"]

/-- Phrases before a list of fields. -/
def fieldListMarkers : List (List String) := [
  ["mit", "den", "feldern"], ["mit", "der", "feldern"], ["mit", "den", "spalten"],
  ["mit", "feldern"], ["mit", "spalten"], ["und", "zwar"], ["felder"], ["feldern"], ["spalten"]]

/-- Words before the field that comes first. -/
def firstWords : List String := ["zuerst", "first"]

/-- Words before a field that comes next. -/
def nextWords : List String := ["dann", "danach", "then"]

/-- Words before a field that is left out. -/
def excludingWords : List String := ["ausser", "ohne", "except", "exklusive", "ausgenommen"]

/-- Words that negate a condition, and exclude a field without one. -/
def negatingWords : List String := ["nicht", "not"]

/-- Words before a field that has no value. -/
def lackingWords : List String := ["kein", "keine", "keinen", "keiner", "keinem"]

/-- Words after a field that has no value. -/
def emptyWords : List String := ["leer", "fehlt", "fehlend", "null"]

/-- Words after a field that has a value. -/
def presentWords : List String := ["vorhanden", "gesetzt", "gefuellt"]

/-- Words between an operator and its value that mean nothing. -/
def articles : List String := ["dem", "den", "der", "die", "das", "zum", "zur"]

/-- Words that open a condition and, alone, stand for equality. -/
def beingWords : List String := ["ist", "sind"]

/-- Phrases that compare. -/
def comparingPhrases : List (List String × Comparison) := [
  (["groesser", "gleich"], .greaterOrEqual),
  (["kleiner", "gleich"], .lessOrEqual),
  (["groesser", "als"], .greaterThan),
  (["mehr", "als"], .greaterThan),
  (["kleiner", "als"], .lessThan),
  (["weniger", "als"], .lessThan),
  (["gleich"], .equals),
  (["ungleich"], .notEquals),
  (["groesser"], .greaterThan),
  (["kleiner"], .lessThan),
  (["ueber"], .greaterThan),
  (["unter"], .lessThan),
  (["ab"], .greaterOrEqual),
  (["nach"], .greaterOrEqual),
  (["seit"], .greaterOrEqual),
  (["mindestens"], .greaterOrEqual),
  (["bis"], .lessOrEqual),
  (["vor"], .lessOrEqual),
  (["hoechstens"], .lessOrEqual),
  (["maximal"], .lessOrEqual),
  (["wie"], .contains),
  (["enthaelt"], .contains)]

/-- Signs that compare. -/
def comparingSigns : List (String × Comparison) := [
  ("=", .equals), ("!=", .notEquals), ("<>", .notEquals), (">", .greaterThan),
  ("<", .lessThan), (">=", .greaterOrEqual), ("<=", .lessOrEqual)]

/-- Every word that can belong to an operator. -/
def operatorWords : List String :=
  comparingPhrases.flatMap (·.1) ++ ["zwischen", "in", "ist", "sind"]

/-- Words that say nothing by themselves. -/
def stopWords : List String := [
  "zeige", "zeig", "zeigen", "liste", "auflisten", "anzeigen", "gib", "mir", "uns", "bitte",
  "mal", "alle", "aller", "allen", "alles", "ein", "eine", "einen", "einem", "einer",
  "die", "der", "das", "den", "dem", "des",
  "mit", "fuer", "von", "vom", "aus", "bei", "im", "am", "an", "auf", "zu", "zum", "zur",
  "wo", "wobei", "wenn", "deren", "dessen", "welche", "welcher", "welches",
  "und", "oder", "sowie", "nur", "auch", "noch", "hat", "haben", "ist", "sind", "in",
  "show", "me", "all", "with", "where", "and", "or", "list", "the",
  "zwar", "felder", "feldern", "spalten", "sortiert", "limit", "top"] ++
  firstWords ++ nextWords ++ excludingWords ++ negatingWords ++ lackingWords

/-- Words that may follow an amount without any meaning for the condition. -/
def currencyWords : List String := ["eur", "euro", "€", "usd", "dollar", "chf"]

/-- Whether a text is the name of a currency. -/
def isCurrency (text : String) : Bool := currencyWords.contains (Text.toLower (Text.trim text))

/-- Whether the first token is one of the given words. -/
def beginsWith (words : List String) (tokens : List Token) : Bool :=
  match tokens with
  | [] => false
  | t :: _ => t.isWordIn words

/-- What follows a phrase of words at the beginning of the tokens. -/
def afterPhrase? : (phrase : List String) → List Token → Option (List Token)
  | [], tokens => some tokens
  | _ :: _, [] => none
  | word :: phrase, t :: tokens =>
    if t.kind = .word ∧ t.key = word then afterPhrase? phrase tokens else none

/-- What follows the first of the phrases that the tokens begin with. -/
def afterAnyPhrase? (phrases : List (List String)) (tokens : List Token) : Option (List Token) :=
  phrases.findSome? (afterPhrase? · tokens)

/-- What follows a phrase is not longer than the tokens. -/
theorem length_le_of_afterPhrase? {phrase : List String} {tokens rest : List Token}
    (h : afterPhrase? phrase tokens = some rest) : rest.length ≤ tokens.length := by
  fun_induction afterPhrase? phrase tokens with
  | case1 tokens => simp_all
  | case2 => simp at h
  | case3 word phrase t tokens _ ih => exact Nat.le_succ_of_le (ih h)
  | case4 => simp at h

/-- What follows one of the phrases is shorter than the tokens if no phrase is empty. -/
theorem length_lt_of_afterAnyPhrase? {phrases : List (List String)} {tokens rest : List Token}
    (hne : [] ∉ phrases) (h : afterAnyPhrase? phrases tokens = some rest) :
    rest.length < tokens.length := by
  obtain ⟨phrase, hmem, hrest⟩ := List.exists_of_findSome?_eq_some h
  match phrase, tokens with
  | [], _ => exact absurd hmem hne
  | _ :: _, [] => simp [afterPhrase?] at hrest
  | word :: phrase, t :: tokens =>
    unfold afterPhrase? at hrest
    split at hrest
    · exact Nat.lt_succ_of_le (length_le_of_afterPhrase? hrest)
    · simp at hrest

end Inquiry.Request
