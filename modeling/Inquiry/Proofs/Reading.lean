import Inquiry.Query.Predicate
import Inquiry.Statement.Conditions
import Inquiry.Text.Digit
import Mathlib.Data.List.Forall2

/-!
# Reading conditions

A reader for the conditions of a statement, made without a look at how they are
written: text is cut into lexemes, and lexemes are grouped into items. A test on a column
is one item, with the AND of its BETWEEN. Expressions of columns are not read;
each is a symbol of its own.

`Reads` says how a text is read wherever it stands, so that texts can be read
piece by piece.
-/

namespace Inquiry.Reading

/-- What conditions are made of: characters, and expressions of columns. -/
inductive Symbol where
  | char (c : Char)
  | expression (s : String)
  deriving DecidableEq, Repr

/-- Symbols as plain text. -/
def plain (symbols : List Symbol) : List Char :=
  symbols.flatMap fun
    | .char c => [c]
    | .expression s => s.toList

/-- Characters of a text as symbols. -/
def symbols (s : String) : List Symbol := s.toList.map .char

@[simp] theorem plain_symbols (s : String) : plain (symbols s) = s.toList := by
  simp [plain, symbols, List.flatMap_map]

@[simp] theorem symbols_append (s t : String) : symbols (s ++ t) = symbols s ++ symbols t := by
  simp [symbols]

@[simp] theorem plain_append (a b : List Symbol) : plain (a ++ b) = plain a ++ plain b :=
  List.flatMap_append

/-- Blanks separate lexemes, letters and signs form runs, and any other
character is a lexeme by itself. -/
inductive Kind where
  | blank
  | letter
  | sign
  | mark
  deriving DecidableEq, Repr

/-- The kind of a character. -/
def kindOf (c : Char) : Kind :=
  if Text.isBlank c then .blank
  else if c.isAlphanum ∨ c = '_' then .letter
  else if c ∈ ['=', '<', '>'] then .sign
  else .mark

/-- Whether a character belongs to the same lexeme as the symbol before it. -/
def joins (c : Char) : List Symbol → Bool
  | .char d :: _ => (kindOf c = .letter ∨ kindOf c = .sign) ∧ kindOf c = kindOf d
  | _ => false

/-- An expression, or characters that belong together. -/
inductive Lexeme where
  | expression (s : String)
  | run (cs : List Char)
  deriving DecidableEq, Repr

/-- A character in front of the lexeme that it belongs to. -/
def Lexeme.extend (c : Char) : List Lexeme → List Lexeme
  | .run cs :: rest => .run (c :: cs) :: rest
  | lexemes => .run [c] :: lexemes

/-- The lexemes of a text. -/
def lexemes : List Symbol → List Lexeme
  | [] => []
  | .expression s :: rest => .expression s :: lexemes rest
  | .char c :: rest =>
    if kindOf c = .blank then lexemes rest
    else if joins c rest then Lexeme.extend c (lexemes rest)
    else .run [c] :: lexemes rest

/-- A part of a condition. -/
inductive Item (α : Type) where
  | opening
  | closing
  | not
  | and
  | or
  /-- A comparison of two numbers. -/
  | constant (b : Bool)
  | atom (a : α)
  deriving DecidableEq, Repr

/-- The same part with another atom. -/
def Item.map {α β : Type} (f : α → β) : Item α → Item β
  | .opening => .opening
  | .closing => .closing
  | .not => .not
  | .and => .and
  | .or => .or
  | .constant b => .constant b
  | .atom a => .atom (f a)

/-- The atom that an item is, if it is one. -/
def Item.atom? {α : Type} : Item α → Option α
  | .atom a => some a
  | _ => none

/-- A test on a column as it can be read: the column by its expression, whether
its case and the blanks around it count, the operator, and how many values are
bound. -/
structure Atom where
  expression : String
  folded : Bool
  operator : Operator
  places : Nat
  deriving DecidableEq, Repr

/-- The column of a test, and whether it is folded. -/
def operand? : List Lexeme → Option ((String × Bool) × List Lexeme)
  | .expression s :: rest => some ((s, false), rest)
  | .run ['U', 'P', 'P', 'E', 'R'] :: .run ['('] :: .run ['R', 'T', 'R', 'I', 'M'] :: .run ['('] ::
      .run ['L', 'T', 'R', 'I', 'M'] :: .run ['('] :: .expression s ::
      .run [')'] :: .run [')'] :: .run [')'] :: rest => some ((s, true), rest)
  | _ => none

/-- How many places follow the first one of a list. -/
def morePlaces? : List Lexeme → Option (Nat × List Lexeme)
  | .run [')'] :: rest => some (0, rest)
  | .run [','] :: .run ['?'] :: rest => (morePlaces? rest).map fun (n, rest) => (n + 1, rest)
  | _ => none

/-- The comparison with a sign. -/
def comparison? (sign : List Char) : Option Comparison :=
  [.equals, .notEquals, .contains, .greaterThan, .lessThan, .greaterOrEqual, .lessOrEqual].find?
    fun comparison => comparison.sign.toList = sign

/-- The operator of a test and the number of its places. -/
def test? : List Lexeme → Option ((Operator × Nat) × List Lexeme)
  | .run ['I', 'S'] :: .run ['N', 'U', 'L', 'L'] :: rest => some ((.isNull, 0), rest)
  | .run ['I', 'S'] :: .run ['N', 'O', 'T'] :: .run ['N', 'U', 'L', 'L'] :: rest =>
    some ((.isNotNull, 0), rest)
  | .run ['B', 'E', 'T', 'W', 'E', 'E', 'N'] :: .run ['?'] :: .run ['A', 'N', 'D'] ::
      .run ['?'] :: rest => some ((.between, 2), rest)
  | .run ['I', 'N'] :: .run ['('] :: .run ['?'] :: rest =>
    (morePlaces? rest).map fun (n, rest) => ((.oneOf, n + 1), rest)
  | .run sign :: .run ['?'] :: rest =>
    (comparison? sign).map fun comparison => ((.compare comparison, 1), rest)
  | _ => none

/-- The first item and what follows it. -/
def item? : List Lexeme → Option (Item Atom × List Lexeme)
  | .run ['('] :: rest => some (.opening, rest)
  | .run [')'] :: rest => some (.closing, rest)
  | .run ['N', 'O', 'T'] :: rest => some (.not, rest)
  | .run ['A', 'N', 'D'] :: rest => some (.and, rest)
  | .run ['O', 'R'] :: rest => some (.or, rest)
  | .run a :: .run ['='] :: .run b :: rest =>
    if (a ++ b).all Text.isDigit then some (.constant (Text.numeral a = Text.numeral b), rest)
    else none
  | lexemes =>
    match operand? lexemes with
    | none => none
    | some ((expression, folded), rest) =>
      (test? rest).map fun ((operator, places), rest) =>
        (.atom ⟨expression, folded, operator, places⟩, rest)

theorem length_lt_of_operand? {lexemes rest : List Lexeme} {operand : String × Bool}
    (h : operand? lexemes = some (operand, rest)) : rest.length < lexemes.length := by
  unfold operand? at h
  split at h
  all_goals cases h
  all_goals simp only [List.length_cons]
  all_goals omega

theorem length_lt_of_morePlaces? {lexemes rest : List Lexeme} {n : Nat}
    (h : morePlaces? lexemes = some (n, rest)) : rest.length < lexemes.length := by
  induction lexemes using morePlaces?.induct generalizing n rest with
  | case1 tail =>
      cases h
      simp
  | case2 tail ih =>
      rw [morePlaces?] at h
      obtain ⟨⟨m, rest'⟩, found, heq⟩ := Option.map_eq_some_iff.mp h
      cases heq
      have := ih found
      simp only [List.length_cons]
      omega
  | case3 tail h₁ h₂ => simp [morePlaces?] at h

theorem length_lt_of_test? {lexemes rest : List Lexeme} {test : Operator × Nat}
    (h : test? lexemes = some (test, rest)) : rest.length < lexemes.length := by
  unfold test? at h
  split at h
  case h_4 tail =>
    obtain ⟨⟨n, rest'⟩, found, heq⟩ := Option.map_eq_some_iff.mp h
    cases heq
    have := length_lt_of_morePlaces? found
    simp only [List.length_cons]
    omega
  case h_5 =>
    obtain ⟨comparison, -, heq⟩ := Option.map_eq_some_iff.mp h
    cases heq
    simp only [List.length_cons]
    omega
  all_goals cases h
  all_goals simp only [List.length_cons]
  all_goals omega

theorem length_lt_of_item? {lexemes rest : List Lexeme} {item : Item Atom}
    (h : item? lexemes = some (item, rest)) : rest.length < lexemes.length := by
  unfold item? at h
  split at h
  case h_6 =>
    split at h
    all_goals cases h
    simp only [List.length_cons]
    omega
  case h_7 =>
    split at h
    · cases h
    · next operand =>
        obtain ⟨_, found, heq⟩ := Option.map_eq_some_iff.mp h
        cases heq
        have := length_lt_of_operand? operand
        have := length_lt_of_test? found
        omega
  all_goals cases h
  all_goals simp only [List.length_cons]
  all_goals omega

/-- A column and a test on it are one item. -/
theorem item?_of_operand? {lexemes middle rest : List Lexeme} {expression : String} {folded : Bool}
    {operator : Operator} {places : Nat}
    (column : operand? lexemes = some ((expression, folded), middle))
    (test : test? middle = some ((operator, places), rest)) :
    item? lexemes = some (.atom ⟨expression, folded, operator, places⟩, rest) := by
  have found : item? lexemes = match operand? lexemes with
      | none => none
      | some ((expression, folded), rest) =>
        (test? rest).map fun ((operator, places), rest) =>
          (.atom ⟨expression, folded, operator, places⟩, rest) := by
    unfold operand? at column
    split at column
    · rfl
    · rfl
    · cases column
  rw [found, column]
  simp only [test, Option.map_some]

/-- All items of a text, if it has nothing else. -/
def items? (lexemes : List Lexeme) : Option (List (Item Atom)) :=
  if lexemes = [] then some []
  else
    match _h : item? lexemes with
    | none => none
    | some (item, rest) => (items? rest).map (item :: ·)
  termination_by lexemes.length
  decreasing_by exact length_lt_of_item? _h

theorem items?_of_item? {lexemes rest : List Lexeme} {item : Item Atom}
    (h : item? lexemes = some (item, rest)) : items? lexemes = (items? rest).map (item :: ·) := by
  have nonempty : lexemes ≠ [] := by
    rintro rfl
    exact absurd (length_lt_of_item? h) (Nat.not_lt_zero _)
  rw [items?, if_neg nonempty]
  split
  · next none => rw [h] at none; cases none
  · next some => rw [h] at some; cases some; rfl

/-- Whether a symbol never belongs to the lexeme beside it. -/
def Symbol.isApart : Symbol → Bool
  | .char c => kindOf c = .blank ∨ kindOf c = .mark
  | .expression _ => true

/-- Nothing that is written before a text reaches into it. -/
def StartsApart (text : List Symbol) : Prop := ∀ s ∈ text.head?, s.isApart = true

/-- A text does not reach into anything that is written behind it. -/
def EndsApart (text : List Symbol) : Prop := ∀ s ∈ text.getLast?, s.isApart = true

instance (text : List Symbol) : Decidable (StartsApart text) :=
  inferInstanceAs (Decidable (∀ s ∈ text.head?, s.isApart = true))

instance (text : List Symbol) : Decidable (EndsApart text) :=
  inferInstanceAs (Decidable (∀ s ∈ text.getLast?, s.isApart = true))

theorem StartsApart.append {a b : List Symbol} (ha : StartsApart a) (hb : a = [] → StartsApart b) :
    StartsApart (a ++ b) := by
  cases a with
  | nil => exact hb rfl
  | cons s a => exact ha

theorem EndsApart.of_append {a b : List Symbol} (h : EndsApart (a ++ b)) : EndsApart b := by
  intro s member
  apply h s
  rw [List.getLast?_append, Option.mem_def.mp member]
  rfl

theorem joins_eq_false_of_isApart {c : Char} (h : (Symbol.char c).isApart = true)
    (rest : List Symbol) : joins c rest = false := by
  have kind : kindOf c = .blank ∨ kindOf c = .mark := of_decide_eq_true h
  unfold joins
  split
  · rcases kind with kind | kind <;> simp [kind]
  · rfl

theorem StartsApart.joins_eq_false {rest : List Symbol} (h : StartsApart rest) (c : Char) :
    joins c rest = false := by
  unfold joins
  split
  · next d tail =>
      have kind : kindOf d = .blank ∨ kindOf d = .mark := of_decide_eq_true (h (.char d) rfl)
      apply decide_eq_false
      rintro ⟨own, same⟩
      rw [same] at own
      rcases kind with kind | kind <;> rw [kind] at own <;> exact absurd own (by decide)
  · rfl

/-- There is a lexeme that the character belongs to. -/
theorem lexemes_of_joins {c : Char} {text : List Symbol} (h : joins c text = true) :
    ∃ cs more, lexemes text = .run cs :: more := by
  match text with
  | [] => simp [joins] at h
  | .expression s :: rest => simp [joins] at h
  | .char d :: rest =>
      simp only [joins, decide_eq_true_eq] at h
      have visible : kindOf d ≠ .blank := by
        rintro blank
        rw [blank] at h
        rcases h with ⟨kind | kind, same⟩ <;> rw [kind] at same <;> cases same
      simp only [lexemes, if_neg visible]
      split
      · cases lexemes rest with
        | nil => exact ⟨_, _, rfl⟩
        | cons first more => cases first <;> exact ⟨_, _, rfl⟩
      · exact ⟨_, _, rfl⟩

/-- Texts can be cut into lexemes one by one if no lexeme reaches from one into
the other. -/
theorem lexemes_append {a b : List Symbol} (h : EndsApart a ∨ StartsApart b) :
    lexemes (a ++ b) = lexemes a ++ lexemes b := by
  induction a with
  | nil => rfl
  | cons s a ih =>
      have tail : EndsApart a ∨ StartsApart b :=
        h.imp_left fun ends => EndsApart.of_append (show EndsApart ([s] ++ a) from ends)
      have rest := ih tail
      cases s with
      | expression e => simp only [List.cons_append, lexemes, rest]
      | char c =>
          have apart : joins c (a ++ b) = joins c a := by
            cases a with
            | cons first a => cases first <;> rfl
            | nil =>
                rcases h with ends | starts
                · exact joins_eq_false_of_isApart (ends _ rfl) b
                · exact starts.joins_eq_false c
          simp only [List.cons_append, lexemes, apart, rest]
          split
          · rfl
          · split
            · next joined =>
                obtain ⟨cs, more, found⟩ := lexemes_of_joins joined
                rw [found]
                rfl
            · rfl

/-- Wherever a text stands, it is read as the given items; what follows is read
as if the text were not there. -/
def Reads (text : List Symbol) (items : List (Item Atom)) : Prop :=
  ∀ rest, EndsApart text ∨ StartsApart rest →
    items? (lexemes (text ++ rest)) = (items? (lexemes rest)).map (items ++ ·)

namespace Reads

theorem append {a b : List Symbol} {x y : List (Item Atom)} (ha : Reads a x) (hb : Reads b y)
    (apart : EndsApart a ∨ StartsApart b) : Reads (a ++ b) (x ++ y) := by
  intro rest hrest
  have second := hb rest (hrest.imp_left EndsApart.of_append)
  have first := ha (b ++ rest) <| by
    rcases apart with ends | starts
    · exact .inl ends
    · by_cases empty : b = []
      · subst empty
        rw [List.append_nil] at hrest
        exact hrest
      · exact .inr (starts.append fun nil => absurd nil empty)
  rw [List.append_assoc, first, second, Option.map_map]
  refine congrArg (fun f => (items? (lexemes rest)).map f) (funext fun more => ?_)
  exact (List.append_assoc x y more).symm

/-- A text that is one item is read as that item. -/
theorem of_item? {text : List Symbol} {item : Item Atom}
    (h : ∀ rest, item? (lexemes text ++ rest) = some (item, rest)) : Reads text [item] := by
  intro rest apart
  rw [lexemes_append apart, items?_of_item? (h (lexemes rest))]
  rfl

theorem items?_eq {text : List Symbol} {items : List (Item Atom)} (h : Reads text items) :
    items? (lexemes text) = some items := by
  have alone := h [] (.inr fun s member => by cases member)
  rw [List.append_nil] at alone
  rw [alone]
  simp [lexemes, items?]

/-- Texts are read one after the other if their separator keeps them apart. -/
theorem intercalate {separator : List Symbol} {item : Item Atom} (h : Reads separator [item])
    (starts : StartsApart separator) (ends : EndsApart separator) {texts : List (List Symbol)}
    {items : List (List (Item Atom))} (members : List.Forall₂ Reads texts items)
    (nonempty : texts ≠ []) :
    Reads (separator.intercalate texts) ([item].intercalate items) := by
  induction members with
  | nil => exact absurd rfl nonempty
  | @cons text first texts items head tail ih =>
      cases tail with
      | nil => simpa using head
      | cons =>
          have rest := h.append (ih (List.cons_ne_nil _ _)) (.inl ends)
          rw [List.intercalate_cons_cons, List.intercalate_cons_cons, List.append_assoc,
            List.append_assoc]
          refine head.append rest (.inr (starts.append ?_))
          -- A separator that is read as an item is not empty.
          rintro rfl
          have alone := h.items?_eq
          simp [lexemes, items?] at alone

theorem opening : Reads (symbols "(") [.opening] := of_item? fun _ => rfl

theorem closing : Reads (symbols ")") [.closing] := of_item? fun _ => rfl

theorem not : Reads (symbols "NOT ") [.not] := of_item? fun _ => rfl

theorem and : Reads (symbols " AND ") [.and] := of_item? fun _ => rfl

theorem or : Reads (symbols " OR ") [.or] := of_item? fun _ => rfl

theorem constant : Reads (symbols "1=1") [.constant true] := of_item? fun _ => rfl

end Reads

end Inquiry.Reading
