import Inquiry.Query.Predicate

/-!
# Groups of conditions

Conditions are joined by AND or OR in groups, and groups may hold groups. A negated group stands for
the opposite of its content.
-/

namespace Inquiry

/-- How the members of a group are joined. -/
inductive Connective where
  | and
  | or
  deriving DecidableEq, Repr

/-- The word that joins two conditions. -/
def Connective.word : Connective → String
  | .and => "AND"
  | .or => "OR"

/-- Predicates and smaller groups, joined by one connective. -/
inductive Group where
  | mk (predicates : List Predicate) (groups : List Group) (connective : Connective)
      (negated : Bool)
  deriving Repr

namespace Group

/-- The group without members. -/
def empty : Group := ⟨[], [], .and, false⟩

instance : Inhabited Group := ⟨empty⟩

/-- The predicates that a group holds itself. -/
def predicates : Group → List Predicate
  | ⟨predicates, _, _, _⟩ => predicates

/-- The groups that a group holds itself. -/
def groups : Group → List Group
  | ⟨_, groups, _, _⟩ => groups

/-- How the members of a group are joined. -/
def connective : Group → Connective
  | ⟨_, _, connective, _⟩ => connective

/-- Whether a group stands for the opposite of its content. -/
def negated : Group → Bool
  | ⟨_, _, _, negated⟩ => negated

mutual

/-- Whether no predicate is left at any depth. -/
def isEmpty : Group → Bool
  | ⟨predicates, groups, _, _⟩ => predicates.isEmpty && areEmpty groups

/-- Whether all of the groups are empty. -/
def areEmpty : List Group → Bool
  | [] => true
  | group :: rest => group.isEmpty && areEmpty rest

end

mutual

/-- Every field that is mentioned: those of a group's predicates first, then those of its
groups. -/
def fields : Group → List String
  | ⟨predicates, groups, _, _⟩ => predicates.map (·.field) ++ fieldsOf groups

/-- The fields of several groups, one group after the other. -/
def fieldsOf : List Group → List String
  | [] => []
  | group :: rest => group.fields ++ fieldsOf rest

end

/-- The group with one more predicate. -/
def addPredicate (group : Group) (predicate : Predicate) : Group :=
  ⟨group.predicates ++ [predicate], group.groups, group.connective, group.negated⟩

/-- The group with one more member group. -/
def addGroup (group member : Group) : Group :=
  ⟨group.predicates, group.groups ++ [member], group.connective, group.negated⟩

end Group

/-- What a mention in a request can become: one predicate, or a group of them. -/
inductive Node where
  | predicate (p : Predicate)
  | group (g : Group)
  deriving Repr

/-- The group with one more member. -/
def Group.addNode (group : Group) : Node → Group
  | .predicate p => group.addPredicate p
  | .group g => group.addGroup g

end Inquiry
