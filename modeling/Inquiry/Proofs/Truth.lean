import Inquiry.Proofs.Gathering
import Mathlib.Data.Bool.AllAny
import Mathlib.Data.List.SplitBy

/-!
# What gathered conditions mean

A node has the value of its predicate or of its group. A group takes the values
of the nodes added to it one by one, in some order, as long as each of them counts
something: a group without predicates does not count.

The conditions of a request are split into runs before each one that is no
alternative. The group that gathers them holds exactly if every run has a
condition that does.
-/

namespace Inquiry

theorem Connective.combine_perm (connective : Connective) {xs ys : List Bool}
    (perm : xs.Perm ys) : connective.combine xs = connective.combine ys := by
  cases connective with
  | and => exact perm.all_eq
  | or => exact perm.any_eq

/-- The value of a node under a truth assignment. -/
def Node.value (truth : Predicate → Bool) : Node → Bool
  | .predicate p => truth p
  | .group g => g.value truth

/-- Whether a node has a predicate, so that it counts in a group. -/
def Node.Counts (node : Node) : Prop := node.predicates ≠ []

@[simp] theorem Node.value_predicate (truth : Predicate → Bool) (p : Predicate) :
    (Node.predicate p).value truth = truth p := rfl

@[simp] theorem Node.value_group (truth : Predicate → Bool) (g : Group) :
    (Node.group g).value truth = g.value truth := rfl

@[simp] theorem Node.counts_predicate (p : Predicate) : (Node.predicate p).Counts :=
  List.cons_ne_nil p []

namespace Group

variable (truth : Predicate → Bool)

/-- The values that a group joins: those of its predicates, and those of its
groups that are not empty. -/
def memberValues (g : Group) : List Bool := g.predicates.map truth ++ valuesOf truth g.groups

theorem value_eq (g : Group) :
    g.value truth = (g.negated != g.connective.combine (g.memberValues truth)) := by
  cases g
  rw [value_mk]
  rfl

theorem isEmpty_eq_false_of_counts {g : Group} (counts : (Node.group g).Counts) :
    g.isEmpty = false := by
  rw [← Bool.not_eq_true, isEmpty_iff]
  exact counts

@[simp] theorem connective_addNode (g : Group) (node : Node) :
    (g.addNode node).connective = g.connective := by
  cases node <;> rfl

@[simp] theorem negated_addNode (g : Group) (node : Node) :
    (g.addNode node).negated = g.negated := by
  cases node <;> rfl

/-- A node that counts adds its value. -/
theorem memberValues_addNode (g : Group) {node : Node} (counts : node.Counts) :
    ((g.addNode node).memberValues truth).Perm (node.value truth :: g.memberValues truth) := by
  cases node with
  | predicate p =>
      have values : (g.addPredicate p).memberValues truth =
          g.predicates.map truth ++ truth p :: valuesOf truth g.groups := by
        simp [memberValues, addPredicate, predicates, groups]
      rw [addNode, values]
      exact List.perm_middle
  | group member =>
      have values : (g.addGroup member).memberValues truth =
          g.memberValues truth ++ [member.value truth] := by
        simp [memberValues, addGroup, predicates, groups, valuesOf_eq,
          isEmpty_eq_false_of_counts counts]
      rw [addNode, values]
      exact List.perm_append_singleton _ _

/-- A group made of nodes joins their values. -/
theorem value_addNodes {nodes : List Node} (counts : ∀ node ∈ nodes, node.Counts) (g : Group) :
    (nodes.foldl addNode g).value truth = (g.negated !=
      g.connective.combine (nodes.map (Node.value truth) ++ g.memberValues truth)) := by
  induction nodes generalizing g with
  | nil => exact value_eq truth g
  | cons node nodes ih =>
      have moved := (memberValues_addNode truth g (counts node List.mem_cons_self)).append_left
        (nodes.map (Node.value truth))
      rw [List.foldl_cons, ih fun other member => counts other (List.mem_cons_of_mem node member),
        connective_addNode, negated_addNode, List.map_cons, List.cons_append,
        g.connective.combine_perm (moved.trans List.perm_middle)]

/-- A group made of one node has its value or, if it is negated, the opposite. -/
theorem value_addNode_mk {node : Node} (counts : node.Counts) (connective : Connective)
    (negated : Bool) :
    (addNode ⟨[], [], connective, negated⟩ node).value truth = (negated != node.value truth) := by
  have single : ∀ other ∈ [node], other.Counts := by simpa using counts
  have value := value_addNodes truth single ⟨[], [], connective, negated⟩
  cases connective <;>
    simpa [Connective.combine, memberValues, predicates, groups, valuesOf, Group.negated,
      Group.connective] using value

end Group

namespace Request

variable (truth : Predicate → Bool)

theorem splitBy_map {α β : Type} (f : α → β) (joins : β → β → Bool) (xs : List α) :
    (xs.map f).splitBy joins = (xs.splitBy fun a b => joins (f a) (f b)).map (List.map f) := by
  obtain ⟨flat, nonempty, chains, apart⟩ := List.splitBy_eq_iff.mp
    (rfl : xs.splitBy (fun a b => joins (f a) (f b)) = xs.splitBy _)
  refine List.splitBy_eq_iff.mpr ⟨?_, ?_, ?_, ?_⟩
  · rw [← List.map_flatten, ← flat]
  · simp
  · intro run member
    obtain ⟨own, hown, rfl⟩ := List.mem_map.mp member
    exact (List.isChain_map f).mpr (chains own hown)
  · refine (List.isChain_map (List.map f)).mpr (apart.imp ?_)
    rintro run next ⟨ha, hb, h⟩
    exact ⟨by simpa using ha, by simpa using hb, by simpa using h⟩

/-- Runs are split before each condition that is no alternative. -/
theorem runs_eq_splitBy (conditions : List (Node × Bool)) :
    runs conditions = (conditions.splitBy fun _ c => c.2).map (·.map (·.1)) := by
  induction conditions with
  | nil => rfl
  | cons c rest ih =>
      obtain ⟨node, alternative⟩ := c
      match rest with
      | [] => rfl
      | next :: rest =>
          rw [runs, ih, List.head?_cons, Option.any_some]
          cases joins : next.2 with
          | false =>
              have split := List.splitBy_append_cons (r := fun _ (c : Node × Bool) => c.2)
                (l := [(node, alternative)]) (a := next) rest (by simpa using joins)
              rw [List.singleton_append] at split
              rw [split]
              rfl
          | true =>
              -- The first run of the rest begins with `next`, and `node` comes before it.
              obtain ⟨run, more, heq⟩ := List.exists_cons_of_ne_nil
                (List.splitBy_ne_nil.mpr (List.cons_ne_nil next rest) :
                  (next :: rest).splitBy (fun _ c => c.2) ≠ [])
              obtain ⟨flat, nonempty, chains, apart⟩ := List.splitBy_eq_iff.mp heq
              cases run with
              | nil => exact absurd List.mem_cons_self nonempty
              | cons first others =>
                  obtain ⟨rfl, -⟩ := List.cons.inj flat
                  have split : ((node, alternative) :: next :: rest).splitBy (fun _ c => c.2) =
                      ((node, alternative) :: next :: others) :: more := by
                    refine List.splitBy_eq_iff.mpr ⟨?_, ?_, ?_, ?_⟩
                    · rw [flat]; rfl
                    · simpa using nonempty
                    · simpa [joins] using chains
                    · cases more with
                      | nil => exact List.isChain_singleton _
                      | cons other more =>
                          rw [List.isChain_cons_cons] at apart ⊢
                          obtain ⟨⟨ha, hb, h⟩, apart⟩ := apart
                          exact ⟨⟨List.cons_ne_nil _ _, hb, h⟩, apart⟩
                  rw [heq, split]
                  rfl

/-- A run adds the value of its alternatives. -/
theorem memberValues_addRun (g : Group) {run : List Node} (nonempty : run ≠ [])
    (counts : ∀ node ∈ run, node.Counts) :
    ((addRun g run).memberValues truth).Perm
        (run.any (Node.value truth) :: g.memberValues truth) ∧
      (addRun g run).connective = g.connective ∧ (addRun g run).negated = g.negated := by
  have group : (Node.group (run.foldl Group.addNode ⟨[], [], .or, false⟩)).Counts := by
    obtain ⟨node, rest, rfl⟩ := List.exists_cons_of_ne_nil nonempty
    obtain ⟨p, member⟩ := List.exists_mem_of_ne_nil _ (counts node List.mem_cons_self)
    refine List.ne_nil_of_mem (a := p) ((Group.mem_allPredicates_addNodes _ _ p).mpr (.inr ?_))
    exact ⟨node, List.mem_cons_self, member⟩
  unfold addRun
  split
  · next node =>
      refine ⟨?_, Group.connective_addNode g node, Group.negated_addNode g node⟩
      simpa using Group.memberValues_addNode truth g (counts node List.mem_cons_self)
  · refine ⟨?_, rfl, rfl⟩
    have value := Group.value_addNodes truth counts ⟨[], [], .or, false⟩
    have any : (run.foldl Group.addNode ⟨[], [], .or, false⟩).value truth =
        run.any (Node.value truth) := by
      simpa [Connective.combine, Group.memberValues, Group.predicates, Group.groups,
        Group.valuesOf, Group.negated, Group.connective] using value
    have added := Group.memberValues_addNode truth g group
    rw [Group.addNode, Node.value_group, any] at added
    exact added

/-- The group of all conditions holds if each run has a condition that does. -/
theorem value_gathered {conditions : List (Node × Bool)}
    (counts : ∀ c ∈ conditions, c.1.Counts) :
    (gathered conditions).value truth =
      (conditions.splitBy fun _ c => c.2).all (·.any (·.1.value truth)) := by
  have parts (rs : List (List Node)) (g : Group)
      (hrs : ∀ run ∈ rs, run ≠ [] ∧ ∀ node ∈ run, node.Counts) :
      (rs.foldl addRun g).value truth = (g.negated != g.connective.combine
        (rs.map (·.any (Node.value truth)) ++ g.memberValues truth)) := by
    induction rs generalizing g with
    | nil => exact g.value_eq truth
    | cons run rs ih =>
        obtain ⟨nonempty, nodes⟩ := hrs run List.mem_cons_self
        obtain ⟨values, connective, negated⟩ := memberValues_addRun truth g nonempty nodes
        have moved := (values.append_left (rs.map (·.any (Node.value truth)))).trans
          List.perm_middle
        rw [List.foldl_cons, ih _ fun other member => hrs other (List.mem_cons_of_mem run member),
          connective, negated, g.connective.combine_perm moved, List.map_cons, List.cons_append]
  have members : ∀ run ∈ runs conditions, run ≠ [] ∧ ∀ node ∈ run, node.Counts := by
    intro run member
    constructor
    · rw [runs_eq_splitBy] at member
      obtain ⟨own, hown, rfl⟩ := List.mem_map.mp member
      simpa using List.ne_nil_of_mem_splitBy hown
    · intro node hnode
      have flat := List.mem_flatten.mpr ⟨run, member, hnode⟩
      rw [flatten_runs] at flat
      obtain ⟨c, hc, rfl⟩ := List.mem_map.mp flat
      exact counts c hc
  rw [gathered_eq, parts _ _ members, runs_eq_splitBy]
  simp [Connective.combine, Group.empty, Group.memberValues, Group.predicates, Group.groups,
    Group.valuesOf, Group.negated, Group.connective, List.all_map, Function.comp_def]

end Request

end Inquiry
