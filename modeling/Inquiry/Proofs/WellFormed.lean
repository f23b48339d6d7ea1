import Inquiry.Expert
import Inquiry.Proofs.Statement

/-!
# Well-formed queries

A query is well-formed for a report if it speaks of the columns of the report
only, compares each column with values of its kind, has no empty group below
its main group, and asks for at least one row if it limits them.

The properties of predicates and groups follow the ways in which a request puts
them together: a test may become its opposite, a rule may replace a predicate,
and nodes are added to groups one after the other.
-/

namespace Inquiry

/-- Whether a value is of the kind that a column holds. -/
def Scalar.Belongs (v : Scalar) (c : Column) : Prop :=
  if c.numeric then ∃ n, v = .number n else ∃ s, v = .text s ∧ s ≠ ""

/-- A test that makes sense for a column. -/
structure Test.Suits (test : Test) (c : Column) : Prop where
  values : ∀ v ∈ test.values, v.Belongs c
  /-- Text is searched for in text columns only. -/
  operator : c.numeric = true → test.operator ≠ .compare .contains

/-- A predicate on a column of a report that makes sense for it. -/
def Predicate.Fits (p : Predicate) (r : Report) : Prop :=
  ∃ column, r.column? p.field = some column ∧ p.test.Suits column

/-- A group over columns of a report without empty groups below it. -/
structure Group.Fits (g : Group) (r : Report) : Prop where
  predicates : ∀ p ∈ g.allPredicates, p.Fits r
  groups : ∀ d ∈ g.descendants, d.isEmpty = false

/-- A report that has names and codes of countries in columns of one kind. -/
def Report.CountriesAgree (r : Report) : Prop :=
  ∀ land code, r.column? "land" = some land → r.column? "land_code" = some code →
    land.numeric = code.numeric

/-- A node that may be added to a group. -/
def Node.Fits : Node → Report → Prop
  | .predicate p, r => p.Fits r
  | .group g, r => g.Fits r ∧ g.isEmpty = false

/-- A query that makes sense for a report. -/
structure Query.IsWellFormed (q : Query) (r : Report) : Prop where
  predicates : ∀ p ∈ q.allPredicates, p.Fits r
  groups : ∀ g ∈ q.main.descendants, g.isEmpty = false
  /-- All conditions are below the main group. -/
  further : q.further = []
  projections : ∀ p ∈ q.projections, r.hasField p.field = true
  sortKeys : ∀ key ∈ q.sortKeys, r.hasField key.field = true
  limit : ∀ n, q.limit = some n → 1 ≤ n
  /-- The limit does not have too many digits. -/
  writable : ∀ n, q.limit = some n → isWritable n = true

namespace Report

theorem hasField_of_column? {r : Report} {field : String} {column : Column}
    (h : r.column? field = some column) : r.hasField field = true :=
  (r.hasField_iff field).mpr ⟨column, h⟩

/-- A field that is listed can be found, also if it is listed twice. -/
theorem hasField_of_mem {r : Report} {field : String} {column : Column}
    (h : (field, column) ∈ r.columns) : r.hasField field = true := by
  rw [hasField, column?, List.lookup_isSome_iff]
  exact ⟨(field, column), h, beq_self_eq_true field⟩

theorem mem_fields_of_hasField {r : Report} {field : String} (h : r.hasField field = true) :
    field ∈ r.fields := by
  obtain ⟨column, found⟩ := (r.hasField_iff field).mp h
  exact List.mem_map_of_mem (f := Prod.fst) (mem_columns_of_column? found)

end Report

/-- A value of the kind that a column holds can be bound to it. -/
theorem Scalar.Belongs.takes {v : Scalar} {c : Column} (h : v.Belongs c) : c.takes v = true := by
  rw [Belongs] at h
  rw [Column.takes]
  split at h
  · next numeric => rw [numeric, Bool.true_or]
  · obtain ⟨s, rfl, -⟩ := h
    exact Bool.or_true _

theorem Predicate.Fits.isWritable {p : Predicate} {r : Report} (h : p.Fits r) :
    p.IsWritable r := by
  obtain ⟨column, found, suits⟩ := h
  intro other lookup v member
  rw [found] at lookup
  cases lookup
  exact (suits.values v member).takes

namespace Test.Suits

variable {test other : Test} {c : Column}

/-- Only the kind of a column matters. -/
theorem congr (h : test.Suits c) {d : Column} (same : c.numeric = d.numeric) : test.Suits d := by
  constructor
  · intro v member
    have belongs := h.values v member
    rw [Scalar.Belongs] at belongs ⊢
    rwa [← same]
  · rw [← same]
    exact h.operator

theorem compare {comparison : Comparison} {v : Scalar} (belongs : v.Belongs c)
    (words : comparison = .contains → c.numeric = false) : (Test.compare comparison v).Suits c := by
  constructor
  · intro w member
    rw [List.mem_singleton.mp member]
    exact belongs
  · intro numeric searches
    cases searches
    rw [words rfl] at numeric
    cases numeric

theorem oneOf {first : Scalar} {others : List Scalar} (own : first.Belongs c)
    (further : ∀ v ∈ others, v.Belongs c) : (Test.oneOf first others).Suits c := by
  refine ⟨fun v member => ?_, fun _ => by simp [Test.operator]⟩
  rcases List.mem_cons.mp member with rfl | member
  · exact own
  · exact further v member

theorem between {low high : Scalar} (least : low.Belongs c) (most : high.Belongs c) :
    (Test.between low high).Suits c := by
  refine ⟨fun v member => ?_, fun _ => by simp [Test.operator]⟩
  rcases List.mem_cons.mp member with rfl | member
  · exact least
  · rw [List.mem_singleton.mp member]
    exact most

theorem opposite? (h : test.Suits c) (found : Request.opposite? test = some other) :
    other.Suits c := by
  unfold Request.opposite? at found
  split at found <;> cases found
  · exact ⟨h.values, fun _ => by simp [Test.operator]⟩
  · exact ⟨h.values, fun _ => by simp [Test.operator]⟩
  · exact ⟨h.values, fun _ => by simp [Test.operator]⟩
  · exact ⟨h.values, fun _ => by simp [Test.operator]⟩

theorem countryTest? (h : test.Suits c) {negated : Bool}
    (found : Request.Rules.countryTest? test = some (other, negated)) : other.Suits c := by
  unfold Request.Rules.countryTest? at found
  split at found <;> cases found
  · exact h
  · exact ⟨h.values, fun _ => by simp [Test.operator]⟩
  · exact h
  · exact h

end Test.Suits

namespace Group

variable {r : Report}

theorem allPredicatesOf_append (a b : List Group) :
    allPredicatesOf (a ++ b) = allPredicatesOf a ++ allPredicatesOf b := by
  rw [allPredicatesOf_eq, allPredicatesOf_eq, allPredicatesOf_eq, List.flatMap_append]

theorem withDescendants_append (a b : List Group) :
    withDescendants (a ++ b) = withDescendants a ++ withDescendants b := by
  rw [withDescendants_eq, withDescendants_eq, withDescendants_eq, List.flatMap_append]

theorem mem_allPredicates_addPredicate (g : Group) (p q : Predicate) :
    q ∈ (g.addPredicate p).allPredicates ↔ q ∈ g.allPredicates ∨ q = p := by
  obtain ⟨predicates, groups, connective, negated⟩ := g
  simp only [addPredicate, Group.predicates, Group.groups, allPredicates_mk, List.mem_append,
    List.mem_singleton]
  exact or_right_comm

theorem descendants_addPredicate (g : Group) (p : Predicate) :
    (g.addPredicate p).descendants = g.descendants := by
  obtain ⟨predicates, groups, connective, negated⟩ := g
  simp only [addPredicate, Group.groups, descendants_mk]

theorem mem_allPredicates_addGroup (g member : Group) (q : Predicate) :
    q ∈ (g.addGroup member).allPredicates ↔ q ∈ g.allPredicates ∨ q ∈ member.allPredicates := by
  obtain ⟨predicates, groups, connective, negated⟩ := g
  simp only [addGroup, Group.predicates, Group.groups, allPredicates_mk, allPredicatesOf_append,
    List.mem_append, allPredicatesOf, List.append_nil]
  exact or_assoc.symm

theorem mem_descendants_addGroup (g member d : Group) :
    d ∈ (g.addGroup member).descendants ↔
      d ∈ g.descendants ∨ d = member ∨ d ∈ member.descendants := by
  obtain ⟨predicates, groups, connective, negated⟩ := g
  simp only [addGroup, Group.groups, descendants_mk, withDescendants_append, List.mem_append,
    withDescendants, List.append_nil, List.mem_cons]

theorem isEmpty_eq_false_of_mem {g : Group} {p : Predicate} (h : p ∈ g.allPredicates) :
    g.isEmpty = false := by
  rw [← Bool.not_eq_true, isEmpty_iff]
  exact List.ne_nil_of_mem h

theorem fits_empty (connective : Connective) (negated : Bool) :
    (Group.mk [] [] connective negated).Fits r := by
  constructor <;> simp [allPredicatesOf, withDescendants]

/-- A group that fits still does with one more node, and is not empty then. -/
theorem Fits.addNode {g : Group} (h : g.Fits r) {node : Node} (fits : node.Fits r) :
    (g.addNode node).Fits r ∧ (g.addNode node).isEmpty = false := by
  cases node with
  | predicate p =>
      refine ⟨⟨?_, ?_⟩, ?_⟩
      · intro q member
        rcases (mem_allPredicates_addPredicate g p q).mp member with member | rfl
        · exact h.predicates q member
        · exact fits
      · intro d member
        apply h.groups d
        rwa [← descendants_addPredicate g p]
      · exact isEmpty_eq_false_of_mem ((mem_allPredicates_addPredicate g p p).mpr (.inr rfl))
  | group member =>
      obtain ⟨inner, nonempty⟩ := fits
      refine ⟨⟨?_, ?_⟩, ?_⟩
      · intro q hq
        rcases (mem_allPredicates_addGroup g member q).mp hq with hq | hq
        · exact h.predicates q hq
        · exact inner.predicates q hq
      · intro d hd
        rcases (mem_descendants_addGroup g member d).mp hd with hd | rfl | hd
        · exact h.groups d hd
        · exact nonempty
        · exact inner.groups d hd
      · have some : member.allPredicates ≠ [] := by
          rw [ne_eq, ← isEmpty_iff, nonempty]
          exact Bool.false_ne_true
        obtain ⟨p, hp⟩ := List.exists_mem_of_ne_nil _ some
        exact isEmpty_eq_false_of_mem ((mem_allPredicates_addGroup g member p).mpr (.inr hp))

theorem Fits.addNodes {g : Group} (h : g.Fits r) {nodes : List Node}
    (fits : ∀ n ∈ nodes, n.Fits r) : (nodes.foldl Group.addNode g).Fits r := by
  induction nodes generalizing g with
  | nil => exact h
  | cons node nodes ih =>
      exact ih (h.addNode (fits node List.mem_cons_self)).1
        fun n member => fits n (List.mem_cons_of_mem node member)

/-- Nodes that make up a group are a node again. -/
theorem fits_of_nodes {nodes : List Node} (fits : ∀ n ∈ nodes, n.Fits r) (nonempty : nodes ≠ [])
    (connective : Connective) (negated : Bool) :
    (Node.group (nodes.foldl addNode ⟨[], [], connective, negated⟩)).Fits r := by
  obtain ⟨front, last, rfl⟩ := List.eq_nil_or_concat nodes |>.resolve_left nonempty
  rw [List.concat_eq_append] at fits ⊢
  rw [List.foldl_append]
  have before : (front.foldl addNode ⟨[], [], connective, negated⟩).Fits r :=
    (fits_empty connective negated).addNodes fun n member =>
      fits n (List.mem_append_left _ member)
  exact before.addNode (fits last (List.mem_append_right _ List.mem_cons_self))

end Group

namespace Request

variable {r : Report}

/-- Rules that replace a predicate by a node that fits as well. -/
def Rules.Respect (rules : Rules) (r : Report) : Prop :=
  ∀ p : Predicate, p.Fits r → (rules.expand p r).Fits r

theorem Rules.respect_none (r : Report) : ({} : Rules).Respect r := fun _ fits => fits

/-- The rules for contracts look for a country by its name and by its code. -/
theorem Rules.respect_cover (agree : r.CountriesAgree) : Rules.cover.Respect r := by
  intro p fits
  change (expandCountry p r).Fits r
  rw [expandCountry]
  split
  · next country =>
      obtain ⟨field, hasCode⟩ := country
      obtain ⟨land, hland, suits⟩ := fits
      obtain ⟨code, hcode⟩ := (r.hasField_iff _).mp hasCode
      rw [field] at hland
      split
      · next test negated found =>
          have byName := suits.countryTest? found
          have byCode := byName.congr (agree land code hland hcode)
          refine ⟨⟨?_, ?_⟩, rfl⟩
          · simp only [Group.allPredicates_mk, Group.allPredicatesOf, List.append_nil,
              List.mem_cons, List.not_mem_nil, or_false]
            rintro q (rfl | rfl)
            · exact ⟨land, hland, byName⟩
            · exact ⟨code, hcode, byCode⟩
          · simp [Group.withDescendants]
      · exact ⟨land, field ▸ hland, suits⟩
  · exact fits

namespace Scope

variable {scope : Scope}

/-- A predicate that fits is finished as a node that fits. -/
theorem fits_finish (respect : scope.rules.Respect scope.report) {p : Predicate}
    (fits : p.Fits scope.report) (negate : Bool) : (scope.finish negate p).Fits scope.report := by
  obtain ⟨column, found, suits⟩ := fits
  rw [finish]
  cases negate with
  | false => exact respect p ⟨column, found, suits⟩
  | true =>
      simp only [if_true]
      split
      · next test opposite => exact respect _ ⟨column, found, suits.opposite? opposite⟩
      · exact (Group.fits_empty .and true).addNode (respect p ⟨column, found, suits⟩)

end Scope

end Request

end Inquiry
