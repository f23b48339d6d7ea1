import Inquiry.Query.Group
import Mathlib.Data.List.Forall2

/-!
# Groups as trees

A group holds predicates and smaller groups to any depth. What a definition
says about a list of groups is what it says about each of them, so the list
versions below unfold to operations on lists, and one induction principle
serves every proof about groups.

The value of a group under a truth assignment is stated here apart from any
text: groups without predicates do not count, at any depth and whether or not
they are negated.
-/

namespace Inquiry

namespace Group

/-- Induction over nested groups. The hypothesis is about all member groups, so
a statement about lists of groups needs no induction of its own. -/
@[elab_as_elim]
theorem induction {motive : Group → Prop}
    (mk : ∀ predicates groups connective negated, (∀ g ∈ groups, motive g) →
      motive ⟨predicates, groups, connective, negated⟩) (g : Group) : motive g := by
  refine @Group.rec motive (fun groups => ∀ g ∈ groups, motive g) mk ?_ ?_ g
  · intro g member
    cases member
  · intro head tail ihHead ihTail g member
    rcases List.mem_cons.mp member with rfl | member
    · exact ihHead
    · exact ihTail g member

mutual

/-- Every predicate of a group at any depth: its own ones first, then those of
its groups. -/
def allPredicates : Group → List Predicate
  | ⟨predicates, groups, _, _⟩ => predicates ++ allPredicatesOf groups

/-- The predicates of several groups, one group after the other. -/
def allPredicatesOf : List Group → List Predicate
  | [] => []
  | group :: rest => group.allPredicates ++ allPredicatesOf rest

end

mutual

/-- Every group below a group, at any depth. -/
def descendants : Group → List Group
  | ⟨_, groups, _, _⟩ => withDescendants groups

/-- Several groups with every group below them. -/
def withDescendants : List Group → List Group
  | [] => []
  | group :: rest => group :: group.descendants ++ withDescendants rest

end

@[simp] theorem allPredicates_mk (predicates : List Predicate) (groups : List Group)
    (connective : Connective) (negated : Bool) :
    allPredicates ⟨predicates, groups, connective, negated⟩ =
      predicates ++ allPredicatesOf groups := by
  rw [allPredicates]

theorem allPredicatesOf_eq (groups : List Group) :
    allPredicatesOf groups = groups.flatMap allPredicates := by
  induction groups with
  | nil => rfl
  | cons group rest ih => rw [allPredicatesOf, ih, List.flatMap_cons]

theorem mem_allPredicatesOf {p : Predicate} {groups : List Group} {g : Group}
    (member : g ∈ groups) (hp : p ∈ g.allPredicates) : p ∈ allPredicatesOf groups := by
  rw [allPredicatesOf_eq]
  exact List.mem_flatMap.mpr ⟨g, member, hp⟩

@[simp] theorem descendants_mk (predicates : List Predicate) (groups : List Group)
    (connective : Connective) (negated : Bool) :
    descendants ⟨predicates, groups, connective, negated⟩ = withDescendants groups := by
  rw [descendants]

theorem withDescendants_eq (groups : List Group) :
    withDescendants groups = groups.flatMap fun g => g :: g.descendants := by
  induction groups with
  | nil => rfl
  | cons group rest ih => rw [withDescendants, ih, List.flatMap_cons]

theorem fieldsOf_eq (groups : List Group) : fieldsOf groups = groups.flatMap fields := by
  induction groups with
  | nil => rfl
  | cons group rest ih => rw [fieldsOf, ih, List.flatMap_cons]

theorem areEmpty_eq (groups : List Group) : areEmpty groups = groups.all isEmpty := by
  induction groups with
  | nil => rfl
  | cons group rest ih => rw [areEmpty, ih, List.all_cons]

/-- The fields of a group are those of its predicates, in the same order. -/
theorem fields_eq (g : Group) : g.fields = g.allPredicates.map (·.field) := by
  induction g using Group.induction with
  | mk predicates groups connective negated ih =>
      have nested : fieldsOf groups = (allPredicatesOf groups).map (·.field) := by
        rw [fieldsOf_eq, allPredicatesOf_eq, List.map_flatMap]
        exact List.flatMap_congr ih
      rw [fields, nested, allPredicates_mk, List.map_append]

theorem fieldsOf_eq_map (groups : List Group) :
    fieldsOf groups = (allPredicatesOf groups).map (·.field) := by
  rw [fieldsOf_eq, allPredicatesOf_eq, List.map_flatMap]
  exact List.flatMap_congr fun g _ => fields_eq g

/-- A group is empty exactly when no predicate is left at any depth. -/
theorem isEmpty_iff (g : Group) : g.isEmpty = true ↔ g.allPredicates = [] := by
  induction g using Group.induction with
  | mk predicates groups connective negated ih =>
      have nested : areEmpty groups = true ↔ allPredicatesOf groups = [] := by
        rw [areEmpty_eq, allPredicatesOf_eq, List.all_eq_true, List.flatMap_eq_nil_iff]
        exact forall₂_congr ih
      rw [isEmpty, allPredicates_mk, Bool.and_eq_true, List.isEmpty_iff, nested,
        List.append_eq_nil_iff]

end Group

/-- The value of joined conditions. -/
def Connective.combine : Connective → List Bool → Bool
  | .and, values => values.all id
  | .or, values => values.any id

namespace Group

mutual

/-- Whether a group holds when each predicate is given its truth. A negated
group holds when its content does not. -/
def value (truth : Predicate → Bool) : Group → Bool
  | ⟨predicates, groups, connective, negated⟩ =>
    negated != connective.combine (predicates.map truth ++ valuesOf truth groups)

/-- The values of the groups that are not empty. -/
def valuesOf (truth : Predicate → Bool) : List Group → List Bool
  | [] => []
  | group :: rest =>
    if group.isEmpty then valuesOf truth rest
    else group.value truth :: valuesOf truth rest

end

/-- Whether all of the groups hold that are not empty. -/
def allHold (truth : Predicate → Bool) (groups : List Group) : Bool :=
  Connective.and.combine (valuesOf truth groups)

@[simp] theorem value_mk (truth : Predicate → Bool) (predicates : List Predicate)
    (groups : List Group) (connective : Connective) (negated : Bool) :
    value truth ⟨predicates, groups, connective, negated⟩ =
      (negated != connective.combine (predicates.map truth ++ valuesOf truth groups)) := by
  rw [value]

theorem valuesOf_eq (truth : Predicate → Bool) (groups : List Group) :
    valuesOf truth groups = (groups.filter (!·.isEmpty)).map (value truth) := by
  induction groups with
  | nil => rfl
  | cons group rest ih =>
      rw [valuesOf, ih]
      cases h : group.isEmpty <;> simp [h]

section Fold

variable {α β : Type}

mutual

/-- What is made of a group when something is made of each predicate and of the
members of each group; nothing is made of an empty group. -/
def fold (leaf : Predicate → α) (join : Connective → Bool → List α → α) : Group → Option α
  | ⟨predicates, groups, connective, negated⟩ =>
    let members := predicates.map leaf ++ folds leaf join groups
    if members.isEmpty then none else some (join connective negated members)

/-- What is made of the groups that are not empty. -/
def folds (leaf : Predicate → α) (join : Connective → Bool → List α → α) : List Group → List α
  | [] => []
  | group :: rest => (group.fold leaf join).toList ++ folds leaf join rest

end

theorem fold_mk (leaf : Predicate → α) (join : Connective → Bool → List α → α)
    (predicates : List Predicate) (groups : List Group) (connective : Connective)
    (negated : Bool) :
    fold leaf join ⟨predicates, groups, connective, negated⟩ =
      if (predicates.map leaf ++ folds leaf join groups).isEmpty then none
      else some (join connective negated (predicates.map leaf ++ folds leaf join groups)) := by
  rw [fold]

theorem folds_eq (leaf : Predicate → α) (join : Connective → Bool → List α → α)
    (groups : List Group) :
    folds leaf join groups = groups.flatMap fun g => (g.fold leaf join).toList := by
  induction groups with
  | nil => rfl
  | cons group rest ih => rw [folds, ih, List.flatMap_cons]

/-- Two things that are related, or nothing twice. -/
def Related (R : α → β → Prop) (a : Option α) (b : Option β) : Prop :=
  List.Forall₂ R a.toList b.toList

theorem folds_related {R : α → β → Prop} {leaf : Predicate → α} {leaf' : Predicate → β}
    {join : Connective → Bool → List α → α} {join' : Connective → Bool → List β → β}
    {groups : List Group}
    (h : ∀ g ∈ groups, Related R (g.fold leaf join) (g.fold leaf' join')) :
    List.Forall₂ R (folds leaf join groups) (folds leaf' join' groups) := by
  induction groups with
  | nil => exact .nil
  | cons group rest ih =>
      rw [folds, folds]
      have first := h group List.mem_cons_self
      exact List.rel_append first (ih fun g member => h g (List.mem_cons_of_mem group member))

/-- What is made of a group in two ways is related if that holds for each
predicate and is passed on to joined members. -/
theorem fold_related {R : α → β → Prop} {leaf : Predicate → α} {leaf' : Predicate → β}
    {join : Connective → Bool → List α → α} {join' : Connective → Bool → List β → β}
    (joined : ∀ connective negated xs ys, xs ≠ [] → List.Forall₂ R xs ys →
      R (join connective negated xs) (join' connective negated ys)) (g : Group)
    (leaves : ∀ p ∈ g.allPredicates, R (leaf p) (leaf' p)) :
    Related R (g.fold leaf join) (g.fold leaf' join') := by
  induction g using Group.induction with
  | mk predicates groups connective negated ih =>
      rw [allPredicates_mk] at leaves
      have own : List.Forall₂ R (predicates.map leaf) (predicates.map leaf') := by
        rw [List.forall₂_map_left_iff, List.forall₂_map_right_iff, List.forall₂_same]
        exact fun p member => leaves p (List.mem_append_left _ member)
      have nested := folds_related fun g member => ih g member fun p hp =>
        leaves p (List.mem_append_right _ (mem_allPredicatesOf member hp))
      have members : List.Forall₂ R (_ ++ _) (_ ++ _) := List.rel_append own nested
      rw [fold_mk, fold_mk]
      cases hleft : predicates.map leaf ++ folds leaf join groups with
      | nil =>
          rw [hleft] at members
          rw [List.forall₂_nil_left_iff.mp members]
          exact .nil
      | cons x xs =>
          rw [hleft] at members
          obtain ⟨y, ys, -, -, hright⟩ := List.forall₂_cons_left_iff.mp members
          rw [hright] at members ⊢
          exact .cons (joined connective negated _ _ (List.cons_ne_nil x xs) members) .nil

theorem folds_related_of_leaves {R : α → β → Prop} {leaf : Predicate → α} {leaf' : Predicate → β}
    {join : Connective → Bool → List α → α} {join' : Connective → Bool → List β → β}
    (joined : ∀ connective negated xs ys, xs ≠ [] → List.Forall₂ R xs ys →
      R (join connective negated xs) (join' connective negated ys)) (groups : List Group)
    (leaves : ∀ p ∈ allPredicatesOf groups, R (leaf p) (leaf' p)) :
    List.Forall₂ R (folds leaf join groups) (folds leaf' join' groups) := by
  refine folds_related fun g member => fold_related joined g ?_
  intro p hp
  exact leaves p (mem_allPredicatesOf member hp)

/-- What holds for predicates and is passed on to joined members holds for groups. -/
theorem forall_folds {P : α → Prop} {leaf : Predicate → α} {join : Connective → Bool → List α → α}
    (joined : ∀ connective negated xs, (∀ x ∈ xs, P x) → P (join connective negated xs))
    (groups : List Group) (leaves : ∀ p ∈ allPredicatesOf groups, P (leaf p)) :
    ∀ x ∈ folds leaf join groups, P x := by
  have same {xs ys : List α} (h : List.Forall₂ (fun a _ => P a) xs ys) : ∀ x ∈ xs, P x := by
    induction h with
    | nil => simp
    | cons head tail ih => simpa using ⟨head, ih⟩
  have related : List.Forall₂ (fun a _ => P a) (folds leaf join groups) (folds leaf join groups) :=
    folds_related_of_leaves (fun connective negated xs _ _ h =>
      joined connective negated xs (same h)) groups leaves
  exact same related

/-- A function that passes through joined members passes through groups. -/
theorem map_folds (f : α → β) (leaf : Predicate → α) {join : Connective → Bool → List α → α}
    {join' : Connective → Bool → List β → β}
    (joined : ∀ connective negated xs, f (join connective negated xs) =
      join' connective negated (xs.map f)) (groups : List Group) :
    (folds leaf join groups).map f = folds (fun p => f (leaf p)) join' groups := by
  have same {xs : List α} {ys : List β} (h : List.Forall₂ (fun a b => f a = b) xs ys) :
      xs.map f = ys := by
    induction h with
    | nil => rfl
    | cons head tail ih => rw [List.map_cons, head, ih]
  refine same (folds_related_of_leaves ?_ groups fun p _ => rfl)
  intro connective negated xs ys _ h
  rw [joined, same h]

theorem folds_flatten_of {groups : List Group}
    (h : ∀ g ∈ groups, (g.fold (fun p => [p]) fun _ _ members => members.flatten).toList.flatten =
      g.allPredicates) :
    (folds (fun p => [p]) (fun _ _ members => members.flatten) groups).flatten =
      allPredicatesOf groups := by
  rw [folds_eq, allPredicatesOf_eq, ← List.flatMap_id', List.flatMap_assoc]
  refine List.flatMap_congr fun g member => ?_
  rw [List.flatMap_id', h g member]

theorem fold_flatten (g : Group) :
    (g.fold (fun p => [p]) fun _ _ members => members.flatten).toList.flatten =
      g.allPredicates := by
  induction g using Group.induction with
  | mk predicates groups connective negated ih =>
      have nested := folds_flatten_of ih
      have own : (predicates.map fun p => [p]).flatten = predicates := by
        rw [← List.flatMap_def, List.flatMap_singleton']
      rw [fold_mk, allPredicates_mk]
      split
      · next empty =>
          rw [List.isEmpty_iff, List.append_eq_nil_iff] at empty
          rw [← nested, empty.2, List.map_eq_nil_iff.mp empty.1]
          rfl
      · rw [Option.toList_some, List.flatten_singleton, List.flatten_append, nested, own]

/-- Nothing is lost when the members of groups are listed one after the other. -/
theorem folds_flatten (groups : List Group) :
    (folds (fun p => [p]) (fun _ _ members => members.flatten) groups).flatten =
      allPredicatesOf groups :=
  folds_flatten_of fun g _ => fold_flatten g

theorem valuesOf_isEmpty (truth : Predicate → Bool) (groups : List Group) :
    (valuesOf truth groups).isEmpty = areEmpty groups := by
  rw [valuesOf_eq, areEmpty_eq, List.isEmpty_map]
  induction groups with
  | nil => rfl
  | cons group rest ih => cases h : group.isEmpty <;> simp [h, ih]

theorem folds_value (truth : Predicate → Bool) {groups : List Group}
    (h : ∀ g ∈ groups,
      g.fold truth (fun connective negated values => negated != connective.combine values) =
        if g.isEmpty then none else some (g.value truth)) :
    folds truth (fun connective negated values => negated != connective.combine values) groups =
      valuesOf truth groups := by
  induction groups with
  | nil => rfl
  | cons group rest ih =>
      rw [folds, valuesOf, h group List.mem_cons_self,
        ih fun g member => h g (List.mem_cons_of_mem group member)]
      cases group.isEmpty <;> rfl

/-- The value of a group is made of the truth of its predicates. -/
theorem fold_value (truth : Predicate → Bool) (g : Group) :
    g.fold truth (fun connective negated values => negated != connective.combine values) =
      if g.isEmpty then none else some (g.value truth) := by
  induction g using Group.induction with
  | mk predicates groups connective negated ih =>
      have nested := folds_value truth ih
      have empty : (predicates.map truth ++ valuesOf truth groups).isEmpty =
          isEmpty ⟨predicates, groups, connective, negated⟩ := by
        rw [isEmpty, ← valuesOf_isEmpty truth groups]
        cases predicates <;> rfl
      rw [fold_mk, nested, empty, value_mk]

end Fold

end Group

end Inquiry
