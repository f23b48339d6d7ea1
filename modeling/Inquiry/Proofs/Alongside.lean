import Inquiry.Proofs.Gathering

/-!
# Queries side by side

Two readings of a request go side by side if both have a result or both fail for
causes of one class. `Alongside` relates their results; its rules follow the ways in
which steps are put together.

The results that matter are queries. Two queries are related if they differ in the
values they compare with only, and these are related one by one. The relation of
values is left open: related values may be the same text in two forms, or any two
values.
-/

namespace Inquiry

/-! ## Outcomes -/

/-- Two outcomes: results that are related, or failures of one class. -/
def Alongside {α β : Type} (R : α → β → Prop) : Except Failure α → Except Failure β → Prop
  | .ok a, .ok b => R a b
  | .error failure, .error other => failure.code? = other.code?
  | .ok _, .error _ | .error _, .ok _ => False

namespace Alongside

variable {α β γ δ : Type} {R : α → β → Prop} {S : γ → δ → Prop}

theorem refl {R : α → α → Prop} (h : ∀ a, R a a) (outcome : Except Failure α) :
    Alongside R outcome outcome := by
  cases outcome with
  | ok a => exact h a
  | error failure => rfl

theorem of_ok {first : Except Failure α} {second : Except Failure β} (h : Alongside R first second)
    {a : α} (found : first = .ok a) : ∃ b, second = .ok b ∧ R a b := by
  subst found
  cases second with
  | ok b => exact ⟨b, rfl, h⟩
  | error failure => exact h.elim

theorem of_error {first : Except Failure α} {second : Except Failure β}
    (h : Alongside R first second) {failure : Failure} (found : first = .error failure) :
    ∃ other, second = .error other ∧ failure.code? = other.code? := by
  subst found
  cases second with
  | ok b => exact h.elim
  | error other => exact ⟨other, rfl, h⟩

theorem bind_of_ok {first : Except Failure α} {second : Except Failure β}
    {next : α → Except Failure γ} {after : β → Except Failure δ} (h : Alongside R first second)
    (then_ : ∀ a b, first = .ok a → R a b → Alongside S (next a) (after b)) :
    Alongside S (first >>= next) (second >>= after) := by
  cases first <;> cases second
  case ok.ok a b => exact then_ a b rfl h
  case error.error => exact h
  all_goals exact h.elim

theorem bind {first : Except Failure α} {second : Except Failure β}
    {next : α → Except Failure γ} {after : β → Except Failure δ} (h : Alongside R first second)
    (then_ : ∀ a b, R a b → Alongside S (next a) (after b)) :
    Alongside S (first >>= next) (second >>= after) :=
  h.bind_of_ok fun a b _ => then_ a b

theorem map {first : Except Failure α} {second : Except Failure β} {f : α → γ} {g : β → δ}
    (h : Alongside R first second) (imp : ∀ a b, R a b → S (f a) (g b)) :
    Alongside S (first.map f) (second.map g) := by
  cases first <;> cases second
  case ok.ok a b => exact imp a b h
  case error.error => exact h
  all_goals exact h.elim

/-- The same steps over two lists, element by element. -/
theorem mapM {f : α → Except Failure γ} {g : β → Except Failure δ} {xs : List α} {ys : List β}
    (h : List.Forall₂ (fun x y => Alongside S (f x) (g y)) xs ys) :
    Alongside (List.Forall₂ S) (xs.mapM f) (ys.mapM g) := by
  induction h with
  | nil => exact .nil
  | cons head _ rest =>
      rw [List.mapM_cons, List.mapM_cons]
      exact head.bind fun _ _ own => rest.bind fun _ _ more => .cons own more

end Alongside

/-! ## Queries -/

variable {R : Scalar → Scalar → Prop}

/-- Tests with the same operator and related values. -/
structure Test.Corresponds (R : Scalar → Scalar → Prop) (test other : Test) : Prop where
  operator : test.operator = other.operator
  values : List.Forall₂ R test.values other.values

/-- Predicates on the same field with related values. -/
structure Predicate.Corresponds (R : Scalar → Scalar → Prop) (p q : Predicate) : Prop where
  field : p.field = q.field
  test : p.test.Corresponds R q.test

/-- Groups of the same shape with related predicates. -/
inductive Group.Corresponds (R : Scalar → Scalar → Prop) : Group → Group → Prop where
  | mk {predicates others : List Predicate} {groups more : List Group}
      (connective : Connective) (negated : Bool)
      (own : List.Forall₂ (Predicate.Corresponds R) predicates others)
      (nested : List.Forall₂ (Group.Corresponds R) groups more) :
      Corresponds R ⟨predicates, groups, connective, negated⟩ ⟨others, more, connective, negated⟩

/-- Nodes of the same kind with related predicates. -/
inductive Node.Corresponds (R : Scalar → Scalar → Prop) : Node → Node → Prop where
  | predicate {p q : Predicate} (h : p.Corresponds R q) :
      Corresponds R (.predicate p) (.predicate q)
  | group {g g' : Group} (h : g.Corresponds R g') :
      Corresponds R (.group g) (.group g')

/-- Queries that differ at most in the values they compare with, which are related. -/
structure Query.Corresponds (R : Scalar → Scalar → Prop) (q other : Query) : Prop where
  domain : q.domain = other.domain
  filters : List.Forall₂ (Group.Corresponds R) q.filters other.filters
  projections : q.projections = other.projections
  sortKeys : q.sortKeys = other.sortKeys
  limit : q.limit = other.limit
  report : q.report = other.report

/-- A test in place of related values. -/
theorem Predicate.corresponds_of {test other : Test} (h : test.Corresponds R other)
    (field : String) :
    Alongside (Predicate.Corresponds R) (Predicate.of field test) (Predicate.of field other) := by
  unfold Predicate.of
  split
  · rfl
  · exact ⟨rfl, h⟩

theorem Test.Corresponds.compare {value other : Scalar} (h : R value other)
    (comparison : Comparison) :
    Corresponds R (.compare comparison value) (.compare comparison other) :=
  ⟨rfl, .cons h .nil⟩

/-- Related tests have related opposites, or none of them has one. -/
theorem Test.Corresponds.opposite? {test other : Test} (h : test.Corresponds R other) :
    Option.Rel (Test.Corresponds R) (Request.opposite? test) (Request.opposite? other) := by
  obtain ⟨operator, values⟩ := h
  cases test <;> cases other <;> cases operator
  case compare.compare.refl comparison _ _ =>
    cases comparison
    case equals | notEquals => exact .some ⟨rfl, values⟩
    all_goals exact .none
  case isNull.isNull.refl | isNotNull.isNotNull.refl => exact .some ⟨rfl, values⟩
  all_goals exact .none

/-- The rules for a country go by the operator. -/
theorem Test.Corresponds.countryTest? {test other : Test} (h : test.Corresponds R other) :
    Option.Rel (fun a b => a.1.Corresponds R b.1 ∧ a.2 = b.2) (Request.Rules.countryTest? test)
      (Request.Rules.countryTest? other) := by
  obtain ⟨operator, values⟩ := h
  cases test <;> cases other <;> cases operator
  case compare.compare.refl comparison _ _ =>
    cases comparison
    case equals | notEquals | contains => exact .some ⟨⟨rfl, values⟩, rfl⟩
    all_goals exact .none
  case oneOf.oneOf.refl => exact .some ⟨⟨rfl, values⟩, rfl⟩
  all_goals exact .none

namespace Group.Corresponds

variable {g g' : Group}

theorem empty (connective : Connective) (negated : Bool) :
    Corresponds R ⟨[], [], connective, negated⟩ ⟨[], [], connective, negated⟩ :=
  .mk connective negated .nil .nil

theorem addNode (h : g.Corresponds R g') {node other : Node} (member : node.Corresponds R other) :
    (g.addNode node).Corresponds R (g'.addNode other) := by
  obtain ⟨connective, negated, own, nested⟩ := h
  cases member with
  | predicate h => exact .mk connective negated (List.rel_append own (.cons h .nil)) nested
  | group h => exact .mk connective negated own (List.rel_append nested (.cons h .nil))

theorem addNodes (h : g.Corresponds R g') {nodes others : List Node}
    (members : List.Forall₂ (Node.Corresponds R) nodes others) :
    (nodes.foldl Group.addNode g).Corresponds R (others.foldl Group.addNode g') := by
  induction members generalizing g g' with
  | nil => exact h
  | cons head _ ih => exact ih (h.addNode head)

end Group.Corresponds

namespace Request

/-- Conditions one by one, each with the same link to the one before. -/
def ConditionsCorrespond (R : Scalar → Scalar → Prop) :
    List (Node × Bool) → List (Node × Bool) → Prop :=
  List.Forall₂ fun c d => c.1.Corresponds R d.1 ∧ c.2 = d.2

theorem corresponds_runs {conditions others : List (Node × Bool)}
    (h : ConditionsCorrespond R conditions others) :
    List.Forall₂ (List.Forall₂ (Node.Corresponds R)) (runs conditions) (runs others) := by
  induction h with
  | nil => exact .nil
  | @cons c d rest rest' head tail ih =>
      have link : rest'.head?.any (·.2) = rest.head?.any (·.2) := by
        cases tail with
        | nil => rfl
        | cons h _ => simp [h.2]
      rw [runs, runs, link]
      split
      · generalize runs rest = all at ih
        generalize runs rest' = all' at ih
        cases ih with
        | nil => exact .cons (.cons head.1 .nil) .nil
        | cons first more => exact .cons (.cons head.1 first) more
      · exact .cons (.cons head.1 .nil) ih

theorem corresponds_addRun {g g' : Group} (h : g.Corresponds R g') {run other : List Node}
    (members : List.Forall₂ (Node.Corresponds R) run other) :
    (addRun g run).Corresponds R (addRun g' other) := by
  have all := (Group.Corresponds.empty (R := R) .or false).addNodes members
  unfold addRun
  cases members with
  | nil => exact h.addNode (.group all)
  | cons head rest =>
      cases rest with
      | nil => exact h.addNode head
      | cons _ _ => exact h.addNode (.group all)

/-- Related conditions are gathered in related groups. -/
theorem corresponds_gathered {conditions others : List (Node × Bool)}
    (h : ConditionsCorrespond R conditions others) :
    (gathered conditions).Corresponds R (gathered others) := by
  have all {all all' : List (List Node)}
      (h : List.Forall₂ (List.Forall₂ (Node.Corresponds R)) all all') {g g' : Group}
      (start : g.Corresponds R g') : (all.foldl addRun g).Corresponds R (all'.foldl addRun g') := by
    induction h generalizing g g' with
    | nil => exact start
    | cons head _ ih => exact ih (corresponds_addRun start head)
  rw [gathered_eq, gathered_eq]
  exact all (corresponds_runs h) (.empty .and false)

end Request

end Inquiry
