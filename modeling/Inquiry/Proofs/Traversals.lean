import Inquiry.Proofs.PlainDigits
import Inquiry.Proofs.Statement

/-!
# Three ways through a group

A group of conditions is asked whether it is empty, which fields it mentions, and what
its text is. Each question goes through the tree by itself, and the three have to agree:
there is a text exactly if the group is not empty (`render_in_order`), and the values of
the predicates are bound in the order in which the fields are listed.

The predicates of a group are exactly those that pass the check of an operator with its
operand (`Predicate.check_operandOf`), and on a column of the report one of them fails only
if it holds an integer that cannot be written as text (`render_townNumbered`).
-/

namespace Inquiry

/-- The operand that a test is made from. -/
def Test.operandOf : Test → Operand
  | .compare _ value => .scalar value
  | .oneOf first others => .tuple ((first :: others).map .scalar)
  | .between low high => .range (.scalar low) (.scalar high)
  | .isNull | .isNotNull => .absent

/-- Every test is one that a caller can have checked: no test is left out by the check. -/
theorem Test.check_operandOf (field : String) (test : Test) :
    check field test.operator test.operandOf = .ok test := by
  cases test with
  | compare comparison value => rfl
  | oneOf first others =>
      have scalars (values : List Scalar) :
          (values.map Operand.scalar).mapM Operand.scalar? = some values := by
        induction values with
        | nil => rfl
        | cons value values ih =>
            rw [List.map_cons, List.mapM_cons, ih]
            rfl
      have members := scalars (first :: others)
      rw [List.map_cons] at members
      simp only [check, operator, operandOf, List.map_cons, members]
  | between low high => rfl
  | isNull => rfl
  | isNotNull => rfl

/-- Every predicate is one that a caller can have checked. -/
theorem Predicate.check_operandOf (p : Predicate) :
    check p.field p.test.operator p.test.operandOf = .ok p := by
  rw [check, dif_neg p.field_ne, Test.check_operandOf]
  rfl

namespace Group

theorem joined_eq_none_iff {connective : Connective} {negated : Bool} {members : List String} :
    joined connective negated members = none ↔ members = [] := by
  cases members <;> simp [joined]

/-- Joined members have a text that shows: at least the parentheses around them. -/
theorem ne_empty_of_joined {connective : Connective} {negated : Bool} {members : List String}
    {text : String} (h : joined connective negated members = some text) : text ≠ "" := by
  rw [joined] at h
  split at h
  · cases h
  · cases h
    rw [ne_eq, ← String.toList_inj]
    cases negated <;> simp

variable (text : Predicate → String)

theorem textsBy_eq_nil_iff {groups : List Group} :
    textsBy text groups = [] ↔ ∀ g ∈ groups, g.textBy text = none := by
  simp only [textsBy_eq, List.flatMap_eq_nil_iff, Option.toList_eq_nil_iff]

/-- A group has no text exactly if it is empty, at every depth: a group that holds nothing
but empty groups has none either. -/
theorem textBy_eq_none_iff (g : Group) : g.textBy text = none ↔ g.isEmpty = true := by
  induction g using Group.induction with
  | mk predicates groups connective negated ih =>
      have nested : textsBy text groups = [] ↔ areEmpty groups = true := by
        rw [textsBy_eq_nil_iff, areEmpty_eq, List.all_eq_true]
        exact forall₂_congr ih
      rw [textBy_mk, joined_eq_none_iff, List.append_eq_nil_iff, List.map_eq_nil_iff, nested,
        isEmpty, Bool.and_eq_true, List.isEmpty_iff]

theorem ne_empty_of_textBy {g : Group} {own : String} (h : g.textBy text = some own) :
    own ≠ "" := by
  obtain ⟨predicates, groups, connective, negated⟩ := g
  rw [textBy_mk] at h
  exact ne_empty_of_joined h

theorem isEmpty_iff_fields (g : Group) : g.isEmpty = true ↔ g.fields = [] := by
  rw [isEmpty_iff, fields_eq, List.map_eq_nil_iff]

/-- The three ways through a group agree. Over columns of the report, an empty group has no
text and binds nothing; every other group has a text, and behind the values that are bound
already it binds those of its predicates, one predicate after the other in the order of the
fields: its own predicates first, then those of its groups. Each of them is a predicate that
passes its check, and it binds what it binds when it is rendered by itself. If one of the
values cannot be written, then this is the failure, and some of the values in front of it
are bound. -/
theorem render_in_order {r : Report} {g : Group}
    (known : ∀ field ∈ g.fields, r.hasField field = true) (bound : List Scalar) :
    (g.isEmpty = true ↔ g.fields = []) ∧
      (g.isEmpty = true → (g.render r).render bound = (.ok none, bound)) ∧
      (g.isEmpty = false → (∀ p ∈ g.allPredicates, p.IsWritable r) →
        ∃ text, text ≠ "" ∧ (g.render r).render bound =
          (.ok (some text), bound ++ g.allPredicates.flatMap (·.boundValues r))) ∧
      ((¬ ∀ p ∈ g.allPredicates, p.IsWritable r) →
        ∃ front, front <+: g.allPredicates.flatMap (·.boundValues r) ∧
          (g.render r).render bound = (.error .integerNotWritten, bound ++ front)) ∧
      g.fields = g.allPredicates.map (·.field) ∧
      g.allPredicates = g.predicates ++ g.groups.flatMap allPredicates ∧
      ∀ p ∈ g.allPredicates,
        Predicate.check p.field p.test.operator p.test.operandOf = .ok p ∧
          (p.IsWritable r → ∀ earlier, ∃ text,
            (p.render r).render earlier = (.ok text, earlier ++ p.boundValues r)) := by
  have columns : ∀ p ∈ g.allPredicates, r.hasField p.field = true := by
    rw [fields_eq] at known
    exact fun p member => known _ (List.mem_map_of_mem member)
  have runs := g.render_runs columns
  have noText := g.textBy_eq_none_iff (·.sqlText r)
  refine ⟨g.isEmpty_iff_fields, fun empty => ?_, fun nonempty writable => ?_,
    fun some => runs.stops some bound, g.fields_eq, ?_, ?_⟩
  · have none := g.isEmpty_iff.mp empty
    have writable : ∀ p ∈ g.allPredicates, p.IsWritable r := by
      rw [none]
      exact fun p member => (List.not_mem_nil member).elim
    rw [runs.binds writable bound, noText.mpr empty, none, List.flatMap_nil, List.append_nil]
  · obtain ⟨own, htext⟩ : ∃ own, g.textBy (·.sqlText r) = some own := by
      rw [← Option.isSome_iff_exists, Option.isSome_iff_ne_none, ne_eq, noText, nonempty]
      exact Bool.false_ne_true
    exact ⟨own, ne_empty_of_textBy _ htext, by rw [runs.binds writable bound, htext]⟩
  · obtain ⟨predicates, groups, connective, negated⟩ := g
    rw [allPredicates_mk, allPredicatesOf_eq]
    rfl
  · intro p member
    refine ⟨p.check_operandOf, fun writable earlier => ⟨p.sqlText r, ?_⟩⟩
    exact Predicate.render_binds (columns p member) writable earlier

/-- A negated group that is not empty only because of a group two levels below it, next to
one that holds empty groups only. -/
theorem render_in_order_towns :
    let population : Predicate := ⟨"einwohner", .between (.number (.whole 1)) (.number (.whole 9)),
      by decide⟩
    let g : Group := ⟨[], [⟨[], [.empty], .or, true⟩, ⟨[], [⟨[population], [], .or, false⟩], .and,
      false⟩], .and, true⟩
    (∀ field ∈ g.fields, Report.towns.hasField field = true) ∧ g.isEmpty = false ∧
      ∃ text, text ≠ "" ∧ (g.render .towns).render [.text "Bonn"] =
        (.ok (some text), [.text "Bonn", .number (.whole 1), .number (.whole 9)]) := by
  intro population g
  have known : ∀ field ∈ g.fields, Report.towns.hasField field = true := by decide
  refine ⟨known, rfl, ?_⟩
  obtain ⟨-, -, rendered, -⟩ := render_in_order known [.text "Bonn"]
  refine rendered rfl fun p member => ?_
  rw [List.mem_singleton.mp member]
  rintro column lookup v -
  cases lookup
  rfl

/-- A predicate that passes its check, on a column of the report, whose group fails: the
number of the town has too many digits. -/
theorem render_townNumbered :
    let p : Predicate := .townNumbered (10 ^ maxDigits)
    let g : Group := ⟨[p], [], .and, false⟩
    Predicate.check "ort" (.compare .equals) (.scalar (.number (.whole (10 ^ maxDigits)))) = .ok p ∧
      (∀ field ∈ g.fields, Report.towns.hasField field = true) ∧
      ((g.render .towns).render []).1 = .error .integerNotWritten := by
  have large := not_isWritable_pow
  generalize (10 : Int) ^ maxDigits = n at large ⊢
  intro p g
  have known : ∀ p ∈ g.allPredicates, Report.towns.hasField p.field = true := by
    intro p member
    rw [List.mem_singleton.mp member]
    rfl
  have fails : ¬ ∀ p ∈ g.allPredicates, p.IsWritable .towns := fun writable =>
    Predicate.not_isWritable_townNumbered large (writable p List.mem_cons_self)
  obtain ⟨front, -, stopped⟩ := (g.render_runs known).stops fails []
  refine ⟨rfl, fun field member => ?_, by rw [stopped]⟩
  rw [List.mem_singleton.mp member]
  rfl

end Group

end Inquiry
