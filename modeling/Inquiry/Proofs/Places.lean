import Mathlib.Data.List.Basic

/-!
# Texts with places

A question mark in a text is a place for a value. `substituted` puts values in
their places from left to right, and `Fills` says that a text has exactly one
place for each value and what becomes of it. Both follow the concatenation of
texts, so the order of the values is checked piece by piece.
-/

namespace Inquiry.Sql

/-- The text with its first place replaced by the first value, its second place
by the second value, and so on. Places without a value stay as they are. -/
def substituted : List String → List Char → List Char
  | _, [] => []
  | [], c :: rest => c :: substituted [] rest
  | value :: values, c :: rest =>
    if c = '?' then value.toList ++ substituted values rest
    else c :: substituted (value :: values) rest

theorem substituted_cons_of_ne {c : Char} (h : c ≠ '?') (values : List String)
    (rest : List Char) : substituted values (c :: rest) = c :: substituted values rest := by
  cases values with
  | nil => rfl
  | cons value values => rw [substituted, if_neg h]

/-- Values are used up from left to right: a first part with as many places as
values leaves the further values to the second part. -/
theorem substituted_append {first : List String} {a : List Char}
    (h : a.count '?' = first.length) (second : List String) (b : List Char) :
    substituted (first ++ second) (a ++ b) = substituted first a ++ substituted second b := by
  induction a generalizing first with
  | nil =>
      rw [List.length_eq_zero_iff.mp h.symm]
      simp [substituted]
  | cons c a ih =>
      by_cases hc : c = '?'
      · subst hc
        cases first with
        | nil => simp at h
        | cons value first =>
            rw [List.count_cons_self, List.length_cons, Nat.add_right_cancel_iff] at h
            simp only [List.cons_append, substituted, if_true, ih h, List.append_assoc]
      · rw [List.count_cons_of_ne hc] at h
        simp only [List.cons_append, substituted_cons_of_ne hc, ih h]

theorem substituted_of_notMem {cs : List Char} (h : '?' ∉ cs) : substituted [] cs = cs := by
  induction cs with
  | nil => rfl
  | cons c cs ih =>
      rw [List.mem_cons, not_or] at h
      rw [substituted, ih h.2]

/-- A text has one place for each value, and becomes another text when the
values are put in their places. -/
structure Fills (values : List String) (sql text : List Char) : Prop where
  places : sql.count '?' = values.length
  filled : substituted values sql = text

namespace Fills

/-- A text without places stays as it is. -/
theorem of_notMem {cs : List Char} (h : '?' ∉ cs) : Fills [] cs cs :=
  ⟨List.count_eq_zero.mpr h, substituted_of_notMem h⟩

theorem place (value : String) : Fills [value] ['?'] value.toList :=
  ⟨rfl, List.append_nil _⟩

theorem append {first second : List String} {a b s t : List Char} (h₁ : Fills first a s)
    (h₂ : Fills second b t) : Fills (first ++ second) (a ++ b) (s ++ t) := by
  constructor
  · rw [List.count_append, h₁.places, h₂.places, List.length_append]
  · rw [substituted_append h₁.places, h₁.filled, h₂.filled]

/-- Text without places may stand before. -/
theorem prepend {values : List String} {a s : List Char} (h : Fills values a s)
    {cs : List Char} (free : '?' ∉ cs) : Fills values (cs ++ a) (cs ++ s) :=
  (of_notMem free).append h

/-- Text without places may stand behind. -/
theorem postpend {values : List String} {a s : List Char} (h : Fills values a s)
    {cs : List Char} (free : '?' ∉ cs) : Fills values (a ++ cs) (s ++ cs) := by
  simpa only [List.append_nil] using h.append (of_notMem free)

end Fills

/-- Texts that become other texts one by one, with all their values in a row. -/
inductive FillsEach : List String → List String → List String → Prop where
  | nil : FillsEach [] [] []
  | cons {first others : List String} {sql text : String} {sqls texts : List String}
      (head : Fills first sql.toList text.toList) (tail : FillsEach others sqls texts) :
      FillsEach (first ++ others) (sql :: sqls) (text :: texts)

namespace FillsEach

theorem append {first second sqls sqls' texts texts' : List String}
    (h₁ : FillsEach first sqls texts) (h₂ : FillsEach second sqls' texts') :
    FillsEach (first ++ second) (sqls ++ sqls') (texts ++ texts') := by
  induction h₁ with
  | nil => exact h₂
  | cons head _ ih =>
      rw [List.append_assoc]
      exact .cons head ih

/-- Pieces that belong to the elements of a list may be filled one by one. -/
theorem flatMap {α : Type} {values sqls texts : α → List String} (xs : List α)
    (h : ∀ x ∈ xs, FillsEach (values x) (sqls x) (texts x)) :
    FillsEach (xs.flatMap values) (xs.flatMap sqls) (xs.flatMap texts) := by
  induction xs with
  | nil => exact .nil
  | cons x xs ih =>
      simp only [List.flatMap_cons]
      exact (h x List.mem_cons_self).append (ih fun y hy => h y (List.mem_cons_of_mem x hy))

theorem singleton {values : List String} {sql text : String}
    (h : Fills values sql.toList text.toList) : FillsEach values [sql] [text] := by
  simpa only [List.append_nil] using cons h nil

/-- A list of places takes one value each. -/
theorem places {α : Type} (value : α → String) (xs : List α) :
    FillsEach (xs.map value) (xs.map fun _ => "?") (xs.map value) := by
  induction xs with
  | nil => exact .nil
  | cons x xs ih =>
      have first : Fills [value x] "?".toList (value x).toList := by
        simpa using Fills.place (value x)
      exact cons first ih

theorem isEmpty_eq {values sqls texts : List String} (h : FillsEach values sqls texts) :
    sqls.isEmpty = texts.isEmpty := by
  cases h <;> rfl

theorem values_eq_nil {values texts : List String} (h : FillsEach values [] texts) :
    values = [] := by
  cases h
  rfl

/-- A separator without places may stand between the pieces. -/
theorem intercalate {values sqls texts : List String} (h : FillsEach values sqls texts)
    {separator : String} (free : '?' ∉ separator.toList) :
    Fills values (separator.intercalate sqls).toList (separator.intercalate texts).toList := by
  induction h with
  | nil => exact .of_notMem (by simp)
  | cons head tail ih =>
      cases tail with
      | nil => simpa using head
      | cons second others =>
          simp only [String.intercalate_cons_cons, String.toList_append, List.append_assoc]
          exact head.append (ih.prepend free)

end FillsEach

theorem notMem_ofList {c : Char} {cs : List Char} (h : c ∉ cs) : c ∉ (String.ofList cs).toList := by
  rwa [String.toList_ofList]

/-- A text without the byte of a question mark has no question mark. -/
theorem notMem_of_bytes {s : String} (h : 63 ∉ s.toByteArray.data.toList) : '?' ∉ s.toList := by
  intro mark
  obtain ⟨before, after, hs⟩ := List.append_of_mem mark
  have byte : ['?'].utf8Encode.data.toList = [63] := by decide
  apply h
  rw [← String.utf8Encode_toList, hs, List.utf8Encode_append, ← List.singleton_append,
    List.utf8Encode_append]
  simp [byte]

theorem notMem_intercalate {c : Char} {separator : String} (free : c ∉ separator.toList)
    {texts : List String} (h : ∀ t ∈ texts, c ∉ t.toList) :
    c ∉ (separator.intercalate texts).toList := by
  induction texts with
  | nil => simp
  | cons first others ih =>
      have head := h first List.mem_cons_self
      cases others with
      | nil => simpa using head
      | cons second others =>
          have tail := ih fun t member => h t (List.mem_cons_of_mem first member)
          rw [String.intercalate_cons_cons]
          simp only [String.toList_append, List.mem_append, not_or]
          exact ⟨⟨head, free⟩, tail⟩

end Inquiry.Sql
