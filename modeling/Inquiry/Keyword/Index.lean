import Inquiry.Report
import Inquiry.Token.Lexer

/-!
# The keyword index

Reports register the phrases by which requests name them and their columns: the main keywords, and
for every column its field and its keywords. A phrase may be registered for several columns and
reports. The index finds the longest registered phrase at a place of a request, and reads a request
from left to right, each token belonging to one phrase at most.
-/

namespace Inquiry.Keyword

/-- What a phrase stands for: a report, or a column of it. -/
structure Entry where
  /-- The number of the report. -/
  report : Nat
  reportName : String
  /-- The field of the column; a main keyword has none. -/
  field : Option String
  deriving DecidableEq, Repr

/-- Whether an entry stands for a whole report. -/
def Entry.isMain (e : Entry) : Bool := e.field.isNone

/-- A phrase by its keys, and what it stands for. -/
structure Registration where
  keys : List String
  entry : Entry
  deriving DecidableEq, Repr

/-- The registrations of a report: its main keywords first, then its columns in order. A phrase
without tokens is not registered. -/
def registrationsOf (r : Report) : List Registration :=
  let phrases : List (String × Option String) :=
    r.mainKeywords.map (·, none) ++
      r.columns.flatMap fun (field, column) =>
        (field :: column.keywords).map (·, some field)
  let all := phrases.map fun (phrase, field) =>
    Registration.mk (Token.phraseKeys phrase) ⟨r.number, r.name, field⟩
  all.filter (·.keys ≠ [])

/-- Some reports with all their registrations. -/
structure Index where
  reports : List Report
  registrations : List Registration
  registrations_eq : registrations = reports.flatMap registrationsOf

/-- A phrase found in a request. -/
structure Match where
  /-- The number of tokens. -/
  length : Nat
  /-- What the phrase stands for, in the order of registration. -/
  entries : List Entry
  deriving DecidableEq, Repr

namespace Match

/-- Whether the phrase is a main keyword of some report. -/
def isMain (m : Match) : Bool := m.entries.any (·.isMain)

/-- Whether the phrase stands for a column of some report. -/
def isField (m : Match) : Bool := m.entries.any fun e => !e.isMain

/-- The fields that the phrase stands for in one report. -/
def fieldsOf (m : Match) (r : Report) : List String :=
  m.entries.filterMap fun e => if e.report = r.number then e.field else none

end Match

/-- Whether tokens begin with the given keys. -/
def startsWith : (keys : List String) → List Token → Bool
  | [], _ => true
  | _ :: _, [] => false
  | key :: keys, t :: tokens => t.key == key && startsWith keys tokens

namespace Index

/-- The index of some reports. -/
def of (reports : List Report) : Index := ⟨reports, reports.flatMap registrationsOf, rfl⟩

/-- The length of the longest registered phrase. -/
def maxLength (index : Index) : Nat := (index.registrations.map (·.keys.length)).foldl max 0

/-- What the phrase with the given keys stands for, without repetitions. -/
def entriesFor (index : Index) (keys : List String) : List Entry :=
  ((index.registrations.filter (·.keys = keys)).map (·.entry)).eraseDups

/-- The length of the longest phrase that the tokens begin with. -/
def longestAt (index : Index) (tokens : List Token) : Nat :=
  ((index.registrations.filter fun r => startsWith r.keys tokens).map (·.keys.length)).foldl max 0

/-- The longest phrase at the beginning of the tokens. No phrase begins with a comma or an
operator. -/
def matchAt (index : Index) (tokens : List Token) : Option Match :=
  match tokens with
  | [] => none
  | t :: _ =>
    if t.kind = .comma ∨ t.kind = .operator then none
    else
      match index.longestAt tokens with
      | 0 => none
      | n + 1 => some ⟨n + 1, index.entriesFor ((tokens.take (n + 1)).map (·.key))⟩

/-- What is found is the longest phrase there, with all its entries. -/
theorem eq_of_matchAt {index : Index} {tokens : List Token} {m : Match}
    (h : index.matchAt tokens = some m) :
    (∀ t ∈ tokens.head?, ¬(t.kind = .comma ∨ t.kind = .operator)) ∧
      0 < index.longestAt tokens ∧
      m = ⟨index.longestAt tokens,
        index.entriesFor ((tokens.take (index.longestAt tokens)).map (·.key))⟩ := by
  unfold matchAt at h
  split at h
  · cases h
  · next t rest =>
    split at h
    · cases h
    · next opens =>
      split at h
      · cases h
      · next n longest =>
        cases h
        rw [longest]
        refine ⟨?_, Nat.succ_pos n, rfl⟩
        rintro _ ⟨⟩
        exact opens

/-- A phrase has at least one token. -/
theorem length_pos_of_matchAt {index : Index} {tokens : List Token} {m : Match}
    (h : index.matchAt tokens = some m) : 0 < m.length := by
  obtain ⟨-, positive, rfl⟩ := eq_of_matchAt h
  exact positive

/-- The phrases of a request with their places, counted from `start`. -/
def scanFrom (index : Index) (start : Nat) (tokens : List Token) : List (Nat × Match) :=
  match tokens with
  | [] => []
  | t :: rest =>
    match index.matchAt (t :: rest) with
    | none => scanFrom index (start + 1) rest
    | some m => (start, m) :: scanFrom index (start + m.length) (rest.drop (m.length - 1))
  termination_by tokens.length
  decreasing_by all_goals simp only [List.length_drop, List.length_cons]; omega

/-- The phrases of a request with their places. -/
def scan (index : Index) (tokens : List Token) : List (Nat × Match) := index.scanFrom 0 tokens

/-- How often a request names each report by a main keyword. Reports of one name share a count. A
main keyword inside a longer phrase does not count. -/
def mainHits (index : Index) (tokens : List Token) : List (String × Int) :=
  let named := (index.scan tokens).flatMap fun (_, m) =>
    (m.entries.filter (·.isMain)).map (·.reportName)
  ((index.reports.map (·.name)).eraseDups).map fun name => (name, (named.count name : Int))

end Index

end Inquiry.Keyword
