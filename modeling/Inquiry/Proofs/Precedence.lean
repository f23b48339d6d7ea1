import Inquiry.Proofs.Reading
import Mathlib.Data.List.Forall2

/-!
# The precedence of connectives

The items of a condition are evaluated from left to right as SQL does it:
parentheses first, then NOT before AND before OR. A frame for each open
parenthesis keeps what is known so far.

Items that are read like an atom wherever an operand is expected are operands;
the rules for operands follow the ways in which conditions are put together.
-/

namespace Inquiry.Reading

/-- What is known about the innermost open parenthesis: whether the operands of
an OR before the last one hold, whether the operands of AND behind it hold so
far, and what is expected. -/
structure Frame where
  earlier : Bool := false
  current : Bool := true
  /-- Whether the next operand is negated; nothing if an operator has to follow. -/
  awaited : Option Bool := some false
  deriving DecidableEq, Repr

namespace Frame

/-- The value of everything that has been read. -/
def value (f : Frame) : Bool := f.earlier || f.current

/-- The frame with one more operand of AND, if one is expected. -/
def take (f : Frame) (operand : Bool) : Option Frame :=
  f.awaited.map fun negated =>
    { f with current := f.current && (negated != operand), awaited := none }

end Frame

/-- Reads one item; the frame of the innermost parenthesis comes first. -/
def step : List Frame → Item Bool → Option (List Frame)
  | f :: rest, .opening => f.awaited.map fun _ => {} :: f :: rest
  | f :: g :: rest, .closing =>
    if f.awaited = none then (g.take f.value).map (· :: rest) else none
  | f :: rest, .not => f.awaited.map fun negated => { f with awaited := some !negated } :: rest
  | f :: rest, .and =>
    if f.awaited = none then some ({ f with awaited := some false } :: rest) else none
  | f :: rest, .or => if f.awaited = none then some ({ earlier := f.value } :: rest) else none
  | f :: rest, .constant b => (f.take b).map (· :: rest)
  | f :: rest, .atom b => (f.take b).map (· :: rest)
  | _, _ => none

/-- Reads items one after the other. -/
def run : List Frame → List (Item Bool) → Option (List Frame)
  | frames, [] => some frames
  | frames, item :: rest => (step frames item).bind (run · rest)

/-- The value of items, if they are a condition. -/
def value (items : List (Item Bool)) : Option Bool :=
  match run [{}] items with
  | some [f] => if f.awaited = none then some f.value else none
  | _ => none

theorem run_append (frames : List Frame) (a b : List (Item Bool)) :
    run frames (a ++ b) = (run frames a).bind (run · b) := by
  induction a generalizing frames with
  | nil => rfl
  | cons item a ih =>
      simp only [List.cons_append, run]
      cases step frames item with
      | none => rfl
      | some next => exact ih next

/-- Items that are read like an atom with the given value wherever an operand is
expected, negated or not. -/
def IsOperand (items : List (Item Bool)) (v : Bool) : Prop :=
  ∀ f rest, f.awaited ≠ none → run (f :: rest) items = step (f :: rest) (.atom v)

/-- Items that are read like an atom with the given value as operand of AND. -/
def IsConjunct (items : List (Item Bool)) (v : Bool) : Prop :=
  ∀ f rest, f.awaited = some false → run (f :: rest) items = step (f :: rest) (.atom v)

/-- Items that have the given value in parentheses. -/
def IsCondition (items : List (Item Bool)) (v : Bool) : Prop :=
  ∀ rest, ∃ f, run ({} :: rest) items = some (f :: rest) ∧ f.awaited = none ∧ f.value = v

namespace IsOperand

variable {items : List (Item Bool)} {v : Bool}

theorem atom (v : Bool) : IsOperand [.atom v] v := by
  intro f rest _
  rw [run]
  cases step (f :: rest) (.atom v) <;> rfl

/-- NOT in front of an operand is for that operand alone. -/
theorem not (h : IsOperand items v) : IsOperand (.not :: items) (!v) := by
  intro f rest awaited
  obtain ⟨negated, hf⟩ := Option.ne_none_iff_exists'.mp awaited
  have next := h { f with awaited := some !negated } rest (Option.some_ne_none _)
  simp only [run, step, hf, Option.map_some, Option.bind_some, next, Frame.take]
  cases negated <;> cases v <;> rfl

/-- A condition in parentheses is an operand. -/
theorem enclosed (h : IsCondition items v) : IsOperand (.opening :: items ++ [.closing]) v := by
  intro g rest awaited
  obtain ⟨negated, hg⟩ := Option.ne_none_iff_exists'.mp awaited
  obtain ⟨f, hf, complete, rfl⟩ := h (g :: rest)
  rw [List.cons_append, run, step, hg, Option.map_some, Option.bind_some, run_append, hf,
    Option.bind_some, run, step, if_pos complete]
  simp only [step, Frame.take, hg, Option.map_some, Option.bind_some, run]

end IsOperand

theorem intercalate_eq_append {α : Type} (separator first : List α) (others : List (List α)) :
    separator.intercalate (first :: others) = first ++ others.flatMap (separator ++ ·) := by
  induction others generalizing first with
  | nil => simp
  | cons second others ih =>
      rw [List.intercalate_cons_cons, ih, List.flatMap_cons, List.append_assoc, List.append_assoc]

/-- Operands of AND take one after the other. -/
theorem run_and {members : List (List (Item Bool))} {values : List Bool}
    (h : List.Forall₂ IsOperand members values) (f : Frame) (rest : List Frame)
    (awaited : f.awaited = none) :
    run (f :: rest) (members.flatMap (.and :: ·)) =
      some ({ f with current := f.current && values.all id } :: rest) := by
  induction h generalizing f with
  | nil => simp [run]
  | cons first others ih =>
      rename_i items v members values
      rw [List.flatMap_cons, List.cons_append, run, step, if_pos awaited, Option.bind_some,
        run_append, first _ rest (Option.some_ne_none false)]
      simp only [step, Frame.take, Option.map_some, Option.bind_some]
      rw [ih _ rfl]
      simp [awaited, Bool.and_assoc]

/-- Operands of OR: each of them starts anew. -/
theorem run_or {members : List (List (Item Bool))} {values : List Bool}
    (h : List.Forall₂ IsOperand members values) (f : Frame) (rest : List Frame)
    (awaited : f.awaited = none) :
    ∃ g, run (f :: rest) (members.flatMap (.or :: ·)) = some (g :: rest) ∧
      g.awaited = none ∧ g.value = (f.value || values.any id) := by
  induction h generalizing f with
  | nil => exact ⟨f, rfl, awaited, by simp⟩
  | cons first others ih =>
      rename_i items v members values
      obtain ⟨g, hg, complete, value⟩ :=
        ih { earlier := f.value, current := v, awaited := none } rfl
      refine ⟨g, ?_, complete, ?_⟩
      · rw [List.flatMap_cons, List.cons_append, run, step, if_pos awaited, Option.bind_some,
          run_append, first _ rest (Option.some_ne_none false)]
        simpa [step, Frame.take] using hg
      · rw [value]
        simp [Frame.value, Bool.or_assoc]

theorem IsConjunct.constant (b : Bool) : IsConjunct [.constant b] b := by
  intro f rest _
  have same : step (f :: rest) (.constant b) = step (f :: rest) (.atom b) := rfl
  rw [run, same]
  cases step (f :: rest) (.atom b) <;> rfl

/-- Operands that are joined by AND are an operand of AND together. -/
theorem IsConjunct.of_members {members : List (List (Item Bool))} {values : List Bool}
    (h : List.Forall₂ IsOperand members values) (nonempty : members ≠ []) :
    IsConjunct ([.and].intercalate members) (values.all id) := by
  cases h with
  | nil => exact absurd rfl nonempty
  | cons head tail =>
      intro f rest awaited
      have expected : f.awaited ≠ none := by
        rw [awaited]
        exact Option.some_ne_none false
      rw [intercalate_eq_append, run_append, head f rest expected]
      simp only [step, Frame.take, awaited, Option.map_some, Option.bind_some]
      refine (run_and tail _ rest rfl).trans ?_
      simp [Bool.and_assoc]

/-- Operands that are joined by OR are a condition together. -/
theorem IsCondition.of_members {members : List (List (Item Bool))} {values : List Bool}
    (h : List.Forall₂ IsOperand members values) (nonempty : members ≠ []) :
    IsCondition ([.or].intercalate members) (values.any id) := by
  cases h with
  | nil => exact absurd rfl nonempty
  | @cons items v members values head tail =>
      intro rest
      obtain ⟨f, hf, complete, value⟩ := run_or tail { current := v, awaited := none } rest rfl
      refine ⟨f, ?_, complete, ?_⟩
      · rw [intercalate_eq_append, run_append, head _ rest (Option.some_ne_none false)]
        simpa [step, Frame.take] using hf
      · rw [value]
        simp [Frame.value]

theorem IsConjunct.isCondition {items : List (Item Bool)} {v : Bool} (h : IsConjunct items v) :
    IsCondition items v := by
  intro rest
  refine ⟨{ current := v, awaited := none }, ?_, rfl, rfl⟩
  rw [h {} rest rfl]
  simp [step, Frame.take]

theorem IsCondition.value_eq {items : List (Item Bool)} {v : Bool} (h : IsCondition items v) :
    value items = some v := by
  obtain ⟨f, hf, complete, rfl⟩ := h []
  simp only [value, hf, if_pos complete]

/-- An operand of AND may be replaced by its value, whatever stands around it. -/
theorem IsConjunct.value_append {items : List (Item Bool)} {v : Bool} (h : IsConjunct items v)
    (before after : List (Item Bool)) :
    value (before ++ .and :: items ++ after) = value (before ++ .and :: .atom v :: after) := by
  have same (frames : List Frame) : run frames (.and :: (items ++ after)) =
      run frames (.and :: .atom v :: after) := by
    rw [run, run]
    cases frames with
    | nil => rfl
    | cons f rest =>
        rw [step]
        split
        · rw [Option.bind_some, Option.bind_some, run_append, h _ rest rfl, run]
        · rfl
  rw [value, value, List.append_assoc, List.cons_append, run_append, run_append]
  cases run [{}] before with
  | none => rfl
  | some frames => simp only [Option.bind_some, same]

end Inquiry.Reading
