import Inquiry.Proofs.Blanks
import Inquiry.Proofs.CodeTables
import Inquiry.Sql.RowLimit
import Inquiry.Text.Case
import Mathlib.Data.List.Basic
import Mathlib.Data.List.Forall2
import Mathlib.Data.List.Infix

/-!
# Words in any case

The row limit looks for the letters of SELECT in any case, one by one, and the
guard raises a text and compares it. Both accept the same texts
(`upper_eq_select_iff`): no other letter is raised to one of these, and none is
raised to several of them.
-/

namespace Inquiry

namespace Sql

open Text

/-- A text that spells a word in any case. -/
def Spells (word cs : List Char) : Prop := List.Forall₂ (fun w c => c ∈ variants w) word cs

instance (word cs : List Char) : Decidable (Spells word cs) :=
  inferInstanceAs (Decidable (List.Forall₂ _ _ _))

/-- A word is found exactly if the text spells it and goes on with a blank. -/
theorem isSome_afterWord?_iff {word cs : List Char} :
    (afterWord? word cs).isSome = true ↔
      ∃ t blank rest, cs = t ++ blank :: rest ∧ Spells word t ∧ isBlank blank = true := by
  constructor
  · intro found
    induction cs generalizing word with
    | nil => cases word <;> cases found
    | cons c cs ih =>
        cases word with
        | nil =>
            simp only [afterWord?] at found
            split at found
            · next blank => exact ⟨[], c, cs, rfl, .nil, blank⟩
            · cases found
        | cons w word =>
            simp only [afterWord?] at found
            split at found
            · next member =>
                obtain ⟨t, blank, rest, rfl, spells, isBlank⟩ := ih found
                exact ⟨c :: t, blank, rest, rfl, .cons member spells, isBlank⟩
            · cases found
  · rintro ⟨t, blank, rest, rfl, spells, isBlank⟩
    induction spells with
    | nil => simp [afterWord?, isBlank]
    | cons member _ ih => simpa [afterWord?, member] using ih

/-- Whether a text is the beginning of a spelling of a word, or all of it. -/
def begun : (word cs : List Char) → Bool
  | _, [] => true
  | [], _ :: _ => false
  | w :: word, c :: cs => c ∈ variants w && begun word cs

/-- A text that is no such beginning decides whether the word is found in what it
begins. -/
theorem isSome_afterWord?_append {word cs : List Char} (decided : begun word cs = false)
    (more more' : List Char) :
    (afterWord? word (cs ++ more)).isSome = (afterWord? word (cs ++ more')).isSome := by
  induction cs generalizing word with
  | nil => simp [begun] at decided
  | cons c cs ih =>
      cases word with
      | nil =>
          simp only [List.cons_append, afterWord?]
          split <;> rfl
      | cons w word =>
          simp only [List.cons_append, afterWord?]
          split
          · next member =>
              refine ih ?_
              simpa [begun, member] using decided
          · rfl

/-! ### Raised letters -/

/-- A letter that counts as one of the word is raised to it. -/
theorem raised_of_mem_variants :
    ∀ w ∈ "SELECT".toList, ∀ c ∈ variants w, raised c = [w] := by
  decide +kernel

theorem mem_variants_of_run : ∀ run ∈ upperRuns, ∀ w ∈ "SELECT".toList,
    run.2.2.2 ≤ w.toNat → w.toNat - run.2.2.2 ≤ run.2.1 - run.1 →
      Char.ofNat (run.1 + (w.toNat - run.2.2.2)) ∈ variants w := by
  decide +kernel

theorem rows_refuse : ∀ row ∈ upperRows, ∀ tail ∈ "SELECT".toList.tails,
    ¬ ofCodes row.2 <+: tail := by
  decide +kernel

theorem mem_variants_self (w : Char) : w ∈ variants w := List.mem_cons_self

/-- A letter that is raised to the beginning of an end of the word counts as its
first letter. -/
theorem raised_prefix_of_select {c : Char} {tail : List Char} (ends : tail <:+ "SELECT".toList)
    (h : raised c <+: tail) : ∃ w rest, tail = w :: rest ∧ raised c = [w] ∧ c ∈ variants w := by
  have single {d : Char} (h : [d] <+: tail) : d ∈ "SELECT".toList ∧ ∃ rest, tail = d :: rest := by
    obtain ⟨rest, rfl⟩ := h
    exact ⟨ends.subset List.mem_cons_self, rest, rfl⟩
  rw [raised] at h ⊢
  split at h
  · next code found =>
      obtain ⟨letter, rest, rfl⟩ := single h
      refine ⟨Char.ofNat code, rest, rfl, rfl, ?_⟩
      obtain ⟨run, member, first, last, rfl⟩ := CodeTable.mem_of_stepped? found
      have valid : (Char.ofNat (run.2.2.2 + (c.toNat - run.1))).toNat =
          run.2.2.2 + (c.toNat - run.1) := by
        by_cases isValid : (run.2.2.2 + (c.toNat - run.1)).isValidChar
        · rw [Char.ofNat, dif_pos isValid]
          rfl
        · rw [Char.ofNat, dif_neg isValid] at letter
          exact absurd letter (by decide)
      have own := mem_variants_of_run run member _ letter (by omega) (by omega)
      rw [valid, Nat.add_sub_cancel_left, Nat.add_sub_cancel' first, Char.ofNat_toNat] at own
      exact own
  · split at h
    · next codes found =>
        exact absurd h (rows_refuse _ (CodeTable.mem_of_row? found) tail
          ((List.mem_tails _ _).mpr ends))
    · obtain ⟨-, rest, rfl⟩ := single h
      exact ⟨c, rest, rfl, rfl, mem_variants_self c⟩

theorem upper_of_spells {word t : List Char} (letters : word ⊆ "SELECT".toList)
    (spells : Spells word t) : upper t = word := by
  induction spells with
  | nil => rfl
  | cons member _ ih =>
      rw [List.cons_subset] at letters
      rw [upper, List.flatMap_cons, raised_of_mem_variants _ letters.1 _ member]
      exact congrArg _ (ih letters.2)

/-- The row limit and the guard take the same texts for the word SELECT. -/
theorem upper_eq_select_iff {t : List Char} :
    upper t = "SELECT".toList ↔ Spells "SELECT".toList t := by
  constructor
  · suffices spells : ∀ tail, tail <:+ "SELECT".toList → upper t = tail → Spells tail t from
      spells _ (List.suffix_refl _)
    induction t with
    | nil =>
        rintro tail - rfl
        exact .nil
    | cons c t ih =>
        intro tail ends same
        have first : raised c <+: tail := ⟨upper t, same⟩
        obtain ⟨w, rest, rfl, single, member⟩ := raised_prefix_of_select ends first
        have behind : upper t = rest := by
          rw [upper, List.flatMap_cons, single] at same
          exact (List.cons.inj same).2
        exact .cons member (ih rest ((List.suffix_cons w rest).trans ends) behind)
  · exact upper_of_spells fun _ => id

end Sql

end Inquiry
