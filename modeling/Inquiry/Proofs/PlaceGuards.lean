import Inquiry.Proofs.Binding
import Inquiry.Proofs.Meaning

/-!
# What stands in front of a place

In a condition the place of a value stands behind an operator or a comma, and the
texts of a report leave the question marks to the values. So without a row limit
no place of a statement stands behind the words of one. `Sql.Guarded` says so for
a text; guarded texts may be put behind each other, and so it passes from the
tests through the groups to the whole statement.
-/

namespace Inquiry

namespace Sql

/-- What stands in front of the place of a value in a condition. -/
def guards : List (List Char) :=
  ["= ", "> ", "< ", "LIKE ", "BETWEEN ", "AND ", "IN (", ", "].map String.toList

/-- What stands in front of the place of a row limit. -/
def limitWords : List (List Char) := ["TOP (", "LIMIT "].map String.toList

/-- A text in which every place is the place of a value in a condition. -/
def Guarded (cs : List Char) : Prop :=
  ∀ before after, cs = before ++ '?' :: after → ∃ guard ∈ guards, guard <:+ before

/-- A text with a place for a row limit. -/
def LimitsRows (cs : List Char) : Prop := ∃ word ∈ limitWords, word ++ ['?'] <:+: cs

namespace Guarded

variable {a b : List Char}

theorem of_notMem (free : '?' ∉ a) : Guarded a := by
  rintro before after rfl
  exact absurd (List.mem_append_right before List.mem_cons_self) free

theorem append (ha : Guarded a) (hb : Guarded b) : Guarded (a ++ b) := by
  intro before after split
  rcases List.append_eq_append_iff.mp split with ⟨front, rfl, hback⟩ | ⟨back, rfl, hback⟩
  · obtain ⟨guard, known, suffix⟩ := hb front after hback
    exact ⟨guard, known, suffix.trans (List.suffix_append a front)⟩
  · cases back with
    | nil =>
        rw [List.nil_append] at hback
        obtain ⟨guard, known, suffix⟩ := hb [] after hback.symm
        exact ⟨guard, known, suffix.trans List.nil_suffix⟩
    | cons mark back =>
        obtain ⟨rfl, -⟩ := List.cons.inj hback
        exact ha before back rfl

/-- A place behind a guard. -/
theorem place (free : '?' ∉ a) {guard : List Char} (known : guard ∈ guards)
    (suffix : guard <:+ a) : Guarded (a ++ ['?']) := by
  intro before after split
  rcases List.append_eq_append_iff.mp split with ⟨front, rfl, hback⟩ | ⟨back, rfl, hback⟩
  · cases front with
    | nil => exact ⟨guard, known, by simpa using suffix⟩
    | cons c front =>
        have long := congrArg List.length hback
        simp at long
  · cases back with
    | nil => exact ⟨guard, known, by simpa using suffix⟩
    | cons mark back =>
        obtain ⟨rfl, -⟩ := List.cons.inj hback
        exact absurd (List.mem_append_right before List.mem_cons_self) free

theorem intercalate {texts : List String} (h : ∀ t ∈ texts, Guarded t.toList)
    {separator : String} (free : '?' ∉ separator.toList) :
    Guarded (separator.intercalate texts).toList := by
  induction texts with
  | nil => exact of_notMem (by simp)
  | cons first others ih =>
      have head := h first List.mem_cons_self
      have tail := ih fun t member => h t (List.mem_cons_of_mem first member)
      cases others with
      | nil => simpa using head
      | cons second others =>
          rw [String.intercalate_cons_cons, String.toList_append, String.toList_append]
          exact (head.append (of_notMem free)).append tail

/-- Places of values in conditions are no places of row limits. -/
theorem not_limitsRows (h : Guarded a) : ¬ LimitsRows a := by
  rintro ⟨word, known, before, after, split⟩
  have apart : ∀ word ∈ limitWords, ∀ guard ∈ guards, ¬ word <:+ guard ∧ ¬ guard <:+ word := by
    decide
  obtain ⟨guard, member, suffix⟩ := h (before ++ word) after (by simp [← split])
  obtain ⟨longer, shorter⟩ := apart word known guard member
  exact (List.suffix_or_suffix_of_suffix (List.suffix_append before word) suffix).elim
    longer shorter

end Guarded

end Sql

open Sql (Guarded)

theorem Test.text_guarded {c : Column} (test : Test) (free : '?' ∉ c.expression.toList) :
    Guarded (test.text c).toList := by
  have operand := Guarded.of_notMem (test.operand_free (by decide) free)
  have place (guard : String) (unmarked : '?' ∉ guard.toList)
      (known : ∃ word ∈ Sql.guards, word <:+ guard.toList) :
      Guarded (guard.toList ++ ['?']) := by
    obtain ⟨word, known, suffix⟩ := known
    exact .place unmarked known suffix
  rw [text_eq]
  cases test with
  | compare comparison _ =>
      have behind : Guarded ((" " ++ comparison.sign ++ " ").toList ++ ['?']) := by
        cases comparison <;> exact place _ (by decide) (by decide)
      simpa using operand.append behind
  | oneOf _ others =>
      have first := place " IN (" (by decide) (by decide)
      have closing : Guarded [')'] := .of_notMem (by decide)
      have further (others : List Scalar) :
          Guarded (String.join (others.map fun _ => ", ?")).toList := by
        induction others with
        | nil => exact .of_notMem (by simp)
        | cons _ others ih => simpa using (place ", " (by decide) (by decide)).append ih
      simpa using ((operand.append first).append (further others)).append closing
  | between =>
      have low := place " BETWEEN " (by decide) (by decide)
      have high := place " AND " (by decide) (by decide)
      simpa using (operand.append low).append high
  | isNull => simpa using operand.append (.of_notMem (show '?' ∉ " IS NULL".toList by decide))
  | isNotNull =>
      simpa using operand.append (.of_notMem (show '?' ∉ " IS NOT NULL".toList by decide))

theorem Predicate.sqlText_guarded {r : Report} (spares : r.SparesPlaces) (p : Predicate) :
    Guarded (p.sqlText r).toList := by
  rw [sqlText]
  cases found : r.column? p.field with
  | none => exact .of_notMem (by simp)
  | some column =>
      have free := spares.expressions _ (Report.mem_columns_of_column? found)
      exact p.test.text_guarded free

namespace Group

variable {r : Report}

theorem joinTexts_guarded (connective : Connective) (negated : Bool) {members : List String}
    (h : ∀ t ∈ members, Guarded t.toList) :
    Guarded (joinTexts connective negated members).toList := by
  have separator : '?' ∉ (" " ++ connective.word ++ " ").toList := by cases connective <;> decide
  have inner := Guarded.intercalate h separator
  have opening : Guarded ['('] := .of_notMem (by decide)
  have closing : Guarded [')'] := .of_notMem (by decide)
  have body := (opening.append inner).append closing
  have not : Guarded "NOT ".toList := .of_notMem (by decide)
  cases negated with
  | false => simpa [joinTexts] using body
  | true => simpa [joinTexts] using not.append body

/-- In the conditions of a statement, places belong to values. -/
theorem conditionsBy_guarded (spares : r.SparesPlaces) (groups : List Group) :
    Guarded (conditionsBy (·.sqlText r) groups).toList := by
  have members : ∀ t ∈ textsBy (·.sqlText r) groups, Guarded t.toList := by
    rw [textsBy_eq_folds]
    exact forall_folds (fun connective negated _ => joinTexts_guarded connective negated) groups
      fun p _ => p.sqlText_guarded spares
  simp only [conditionsBy]
  split
  · exact .of_notMem (by decide)
  · exact .intercalate members (by decide)

end Group

namespace Query

variable {q : Query} {r : Report} {settings : Settings}

/-- Before it is limited, a statement has no place for a row limit. -/
theorem body_guarded (spares : r.SparesPlaces) (once : r.skeleton.count .conditions = 1)
    {columns : List Column} {order : String} (hcolumns : q.resolveColumns r = .ok columns)
    (horder : q.renderOrder r = .ok order) :
    Guarded (q.body (·.sqlText r) r columns order).toList := by
  obtain ⟨before, after, freeBefore, freeAfter, around⟩ := body_around spares once hcolumns horder
  rw [around, String.toList_ofList]
  have conditions := Group.conditionsBy_guarded spares q.filters
  exact ((Guarded.of_notMem freeBefore).append conditions).append (.of_notMem freeAfter)

end Query

end Inquiry
