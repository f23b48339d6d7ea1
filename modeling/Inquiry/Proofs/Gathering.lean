import Inquiry.Proofs.Mentions
import Mathlib.Data.List.Infix

/-!
# Conditions are kept

A condition that has been read is never dropped: every step of the reading keeps
the conditions before it, and all of them are gathered in the main group of the
query, alone or among alternatives.
-/

namespace Inquiry

/-- The predicates that a node stands for. -/
def Node.predicates : Node → List Predicate
  | .predicate p => [p]
  | .group g => g.allPredicates

/-- A group has the predicates of a node that is added to it. -/
theorem Group.perm_addNode (g : Group) (node : Node) :
    (g.addNode node).allPredicates.Perm (node.predicates ++ g.allPredicates) := by
  obtain ⟨predicates, groups, connective, negated⟩ := g
  cases node with
  | predicate p =>
      simp only [addNode, addPredicate, Group.predicates, Group.groups, allPredicates_mk,
        List.append_assoc, List.singleton_append, Node.predicates]
      exact List.perm_middle
  | group member =>
      simp only [addNode, addGroup, Group.predicates, Group.groups, allPredicates_mk,
        allPredicatesOf_append, allPredicatesOf, List.append_nil, Node.predicates]
      rw [← List.append_assoc]
      exact List.perm_append_comm

theorem Group.perm_addNodes (g : Group) (nodes : List Node) :
    (nodes.foldl addNode g).allPredicates.Perm
      (nodes.flatMap Node.predicates ++ g.allPredicates) := by
  induction nodes generalizing g with
  | nil => exact .refl _
  | cons node nodes ih =>
      rw [List.foldl_cons, List.flatMap_cons]
      refine (ih _).trans (((g.perm_addNode node).append_left _).trans ?_)
      rw [← List.append_assoc]
      exact List.perm_append_comm.append_right _

theorem Group.mem_allPredicates_addNode (g : Group) (node : Node) (p : Predicate) :
    p ∈ (g.addNode node).allPredicates ↔ p ∈ g.allPredicates ∨ p ∈ node.predicates := by
  rw [(g.perm_addNode node).mem_iff, List.mem_append, or_comm]

theorem Group.mem_allPredicates_addNodes (g : Group) (nodes : List Node) (p : Predicate) :
    p ∈ (nodes.foldl addNode g).allPredicates ↔
      p ∈ g.allPredicates ∨ ∃ node ∈ nodes, p ∈ node.predicates := by
  rw [(g.perm_addNodes nodes).mem_iff, List.mem_append, List.mem_flatMap, or_comm]

namespace Request

theorem flatten_runs (conditions : List (Node × Bool)) :
    (runs conditions).flatten = conditions.map (·.1) := by
  induction conditions with
  | nil => rfl
  | cons c rest ih =>
      rw [runs]
      split
      · split
        · next heq => rw [heq] at ih; simp [← ih]
        · next heq => rw [heq] at ih; simp [← ih]
      · simp [ih]

/-- A group with one more run of alternatives. -/
def addRun (group : Group) (run : List Node) : Group :=
  match run with
  | [node] => group.addNode node
  | nodes => group.addGroup (nodes.foldl Group.addNode ⟨[], [], .or, false⟩)

theorem gathered_eq (conditions : List (Node × Bool)) :
    gathered conditions = (runs conditions).foldl addRun .empty := rfl

theorem perm_addRun (g : Group) (run : List Node) :
    (addRun g run).allPredicates.Perm (run.flatMap Node.predicates ++ g.allPredicates) := by
  unfold addRun
  split
  · next node => simpa using g.perm_addNode node
  · have member := g.perm_addNode (.group (run.foldl Group.addNode ⟨[], [], .or, false⟩))
    have nodes := Group.perm_addNodes ⟨[], [], .or, false⟩ run
    rw [Group.allPredicates_mk, Group.allPredicatesOf, List.append_nil, List.append_nil] at nodes
    exact member.trans (nodes.append_right _)

/-- The predicates of a query are those of the conditions that were read, each as
often as it was. -/
theorem perm_gathered (conditions : List (Node × Bool)) :
    (gathered conditions).allPredicates.Perm (conditions.flatMap (·.1.predicates)) := by
  have all (rs : List (List Node)) (g : Group) : (rs.foldl addRun g).allPredicates.Perm
      (rs.flatten.flatMap Node.predicates ++ g.allPredicates) := by
    induction rs generalizing g with
    | nil => exact .refl _
    | cons run rs ih =>
        rw [List.foldl_cons, List.flatten_cons, List.flatMap_append]
        refine (ih _).trans (((perm_addRun g run).append_left _).trans ?_)
        rw [← List.append_assoc]
        exact List.perm_append_comm.append_right _
  have gathers := all (runs conditions) .empty
  rw [flatten_runs, List.flatMap_map] at gathers
  simpa [gathered_eq, Group.empty, Group.allPredicatesOf] using gathers

theorem mem_gathered (conditions : List (Node × Bool)) (p : Predicate) :
    p ∈ (gathered conditions).allPredicates ↔ ∃ c ∈ conditions, p ∈ c.1.predicates := by
  rw [(perm_gathered conditions).mem_iff, List.mem_flatMap]

namespace Scope

variable {scope : Scope} {field : String}

theorem conditions_of_mention {s s' : Progress} {behind rest : List Token}
    (h : scope.mention s field behind = .ok (s', rest)) : s.conditions <+: s'.conditions := by
  simp only [mention] at h
  split at h
  · obtain ⟨p, -, heq⟩ := ok_of_map h
    cases heq
    exact List.prefix_append _ _
  · split at h
    · cases h
    · cases h
      exact List.prefix_append _ _
    · cases h
      rw [Progress.conditions_project]

theorem mentions_of_step {s s' : Progress} {t : Token} {rest behind : List Token}
    (h : scope.step s t rest = .ok (s', behind)) :
    scope.mentions s (t :: rest) = scope.mentions s' behind := by
  rw [mentions]
  split <;> simp_all

theorem mentions_of_failed_step {s : Progress} {t : Token} {rest : List Token} {failure : Failure}
    (h : scope.step s t rest = .error failure) :
    scope.mentions s (t :: rest) = .error failure := by
  rw [mentions]
  split <;> simp_all

/-- Conditions that have been read are kept. -/
theorem conditions_of_step {s s' : Progress} {t : Token} {rest behind : List Token}
    (h : scope.step s t rest = .ok (s', behind)) : s.conditions <+: s'.conditions := by
  rw [step] at h
  split at h
  · cases h
    exact List.prefix_refl _
  · split at h
    · next steered =>
        cases h
        rw [(Progress.steer?_eq steered).1]
    · split at h
      · simp only at h
        split at h
        · split at h
          · cases h
          · exact conditions_of_mention h
        · cases h
          exact List.prefix_refl _
      · repeat' split at h
        all_goals cases h
        all_goals exact List.prefix_refl _

theorem conditions_of_mentions {s s' : Progress} {tokens : List Token}
    (h : scope.mentions s tokens = .ok s') : s.conditions <+: s'.conditions := by
  fun_induction mentions scope s tokens with
  | case1 s =>
      cases h
      exact List.prefix_refl _
  | case2 => cases h
  | case3 s t rest s₁ behind heq ih => exact (conditions_of_step heq).trans (ih h)

end Scope

end Request

end Inquiry
