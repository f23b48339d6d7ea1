import Inquiry.Text.Blank
import Mathlib.Data.List.DropRight

/-!
# Trimming and words

Trimming takes the blanks around a text away and nothing else. What it leaves is
found by its ends: it begins and ends at characters that are not blank.

A blank separates words, so the words of a text are those of its parts wherever it
is divided at a blank.
-/

namespace Inquiry.Text

/-- A statement about the letters of a list is decided by reading the list. The instance
stands before the one that would read every letter there is. -/
instance (priority := 2000) decidableForallMem (p : Char → Prop) [DecidablePred p]
    (cs : List Char) : Decidable (∀ c ∈ cs, p c) := List.decidableBAll p cs

/-! ## Trimming -/

/-- Trimming stops at a character that is no blank. -/
theorem trimStart_visible {c : Char} (visible : isBlank c = false) (before after : List Char) :
    trimStart (before ++ c :: after) = trimStart before ++ c :: after := by
  simp only [trimStart, List.dropWhile_append, List.dropWhile_cons, visible]
  cases before.dropWhile isBlank <;> simp

theorem trimEnd_visible {c : Char} (visible : isBlank c = false) (before after : List Char) :
    trimEnd (before ++ c :: after) = before ++ c :: trimEnd after := by
  simp only [trimEnd, List.reverse_append, List.reverse_cons, List.append_assoc,
    List.dropWhile_append, List.dropWhile_cons, visible]
  cases after.reverse.dropWhile isBlank <;> simp

theorem trimStart_append {cs : List Char} (h : trimStart cs ≠ []) (more : List Char) :
    trimStart (cs ++ more) = trimStart cs ++ more := by
  unfold trimStart at h ⊢
  rw [List.dropWhile_append, if_neg (by rwa [List.isEmpty_iff])]

theorem trimStart_trimStart (cs : List Char) : trimStart (trimStart cs) = trimStart cs :=
  List.dropWhile_idempotent isBlank cs

theorem trimStart_of_blanks {cs : List Char} (h : ∀ c ∈ cs, isBlank c = true) :
    trimStart cs = [] := List.dropWhile_eq_nil_iff.mpr h

theorem trimEnd_of_blanks {cs : List Char} (h : ∀ c ∈ cs, isBlank c = true) : trimEnd cs = [] := by
  rw [trimEnd, List.reverse_eq_nil_iff, List.dropWhile_eq_nil_iff]
  exact fun c member => h c (List.mem_reverse.mp member)

theorem trimEnd_sublist {cs : List Char} : (trimEnd cs).Sublist cs := by
  have within := (List.dropWhile_sublist isBlank : (cs.reverse.dropWhile isBlank).Sublist _)
  simpa [trimEnd] using within.reverse

theorem trimmed_sublist {cs : List Char} : (trimmed cs).Sublist cs :=
  trimEnd_sublist.trans (List.dropWhile_sublist isBlank)

/-- A text has nothing but blanks around what trimming leaves of it. -/
theorem exists_blanks (cs : List Char) :
    ∃ lead trail, cs = lead ++ trimmed cs ++ trail ∧ (∀ c ∈ lead, isBlank c = true) ∧
      ∀ c ∈ trail, isBlank c = true := by
  have ends : trimStart cs =
      trimmed cs ++ ((trimStart cs).reverse.takeWhile isBlank).reverse := by
    rw [trimmed, trimEnd, ← List.reverse_append, List.takeWhile_append_dropWhile,
      List.reverse_reverse]
  refine ⟨cs.takeWhile isBlank, ((trimStart cs).reverse.takeWhile isBlank).reverse, ?_, ?_, ?_⟩
  · rw [List.append_assoc, ← ends, trimStart, List.takeWhile_append_dropWhile]
  · exact fun c member => List.mem_takeWhile_imp member
  · exact fun c member => List.mem_takeWhile_imp (List.mem_reverse.mp member)

/-- A visible text is what trimming leaves of it with blanks around it. -/
theorem trimmed_of_visible {w : List Char} (ne : w ≠ []) (h : ∀ c ∈ w, isBlank c = false)
    {lead trail : List Char} (before : ∀ c ∈ lead, isBlank c = true)
    (behind : ∀ c ∈ trail, isBlank c = true) : trimmed (lead ++ w ++ trail) = w := by
  have starts : trimStart (lead ++ w ++ trail) = w ++ trail := by
    obtain ⟨c, rest, rfl⟩ := List.exists_cons_of_ne_nil ne
    have visible := trimStart_visible (h c List.mem_cons_self) lead (rest ++ trail)
    rw [trimStart_of_blanks before] at visible
    simpa using visible
  rw [trimmed, starts, ← List.dropLast_append_getLast ne, List.append_assoc]
  have visible := trimEnd_visible (h _ (List.getLast_mem ne)) w.dropLast trail
  rwa [trimEnd_of_blanks behind] at visible

/-- What trimming leaves begins visibly. -/
theorem visible_of_trimmed {cs rest : List Char} {c : Char} (h : trimmed cs = c :: rest) :
    isBlank c = false := by
  have starts : trimStart cs =
      c :: (rest ++ ((trimStart cs).reverse.takeWhile isBlank).reverse) := by
    rw [← List.cons_append, ← h, trimmed, trimEnd, ← List.reverse_append,
      List.takeWhile_append_dropWhile, List.reverse_reverse]
  have first := List.head?_dropWhile_not isBlank cs
  rw [show cs.dropWhile isBlank = _ from starts] at first
  simpa using first

/-- Trimming leaves every visible character. -/
theorem mem_trimmed {c : Char} (visible : isBlank c = false) {cs : List Char} (h : c ∈ cs) :
    c ∈ trimmed cs := by
  obtain ⟨lead, trail, split, blanks, blanks'⟩ := exists_blanks cs
  have shown {part : List Char} (blank : ∀ d ∈ part, isBlank d = true) : c ∉ part := by
    intro member
    rw [blank c member] at visible
    cases visible
  rw [split, List.mem_append, List.mem_append] at h
  exact (h.resolve_right (shown blanks')).resolve_left (shown blanks)

theorem trimmed_trimmed (cs : List Char) : trimmed (trimmed cs) = trimmed cs := by
  have starts : trimStart (trimmed cs) = trimmed cs := by
    cases kept : trimmed cs with
    | nil => rfl
    | cons c rest => exact List.dropWhile_cons_of_neg (by simp [visible_of_trimmed kept])
  rw [trimmed, starts, trimmed]
  exact List.rdropWhile_idempotent isBlank (trimStart cs)

/-! ## Words -/

theorem words_of_visible {w : List Char} (ne : w ≠ []) (h : ∀ c ∈ w, isBlank c = false) :
    words w = [w] := by
  induction w with
  | nil => exact absurd rfl ne
  | cons c rest ih =>
      have visible := h c List.mem_cons_self
      have tail : ∀ d ∈ rest, isBlank d = false := fun d member =>
        h d (List.mem_cons_of_mem c member)
      cases rest with
      | nil => simp [words, visible]
      | cons d rest =>
          rw [words, ih (List.cons_ne_nil d rest) tail]
          simp [visible, tail d List.mem_cons_self]

theorem words_ne_nil {c : Char} (visible : isBlank c = false) (cs : List Char) :
    words (c :: cs) ≠ [] := by
  rw [words, if_neg (by simp [visible])]
  split
  · split <;> simp
  · simp

/-- A blank separates words. -/
theorem words_append {blank : Char} (h : isBlank blank = true) (cs rest : List Char) :
    words (cs ++ blank :: rest) = words cs ++ words rest := by
  induction cs with
  | nil => simp [words, h]
  | cons c cs ih =>
      have head : (cs ++ blank :: rest).head?.any (fun d => !isBlank d) =
          cs.head?.any (fun d => !isBlank d) := by
        cases cs <;> simp [h]
      rw [List.cons_append, words, words, ih, head]
      split
      · rfl
      · split
        · next visible =>
            cases cs with
            | nil => cases visible
            | cons d cs =>
                obtain ⟨word, more, split⟩ := List.exists_cons_of_ne_nil
                  (words_ne_nil (by simpa using visible) cs)
                simp [split]
        · rfl

theorem words_blanks_append {blanks : List Char} (h : ∀ c ∈ blanks, isBlank c = true)
    (rest : List Char) : words (blanks ++ rest) = words rest := by
  induction blanks with
  | nil => rfl
  | cons c blanks ih =>
      rw [List.cons_append, words, if_pos (h c List.mem_cons_self)]
      exact ih fun d member => h d (List.mem_cons_of_mem c member)

theorem words_intercalate {ws : List (List Char)}
    (h : ∀ w ∈ ws, w ≠ [] ∧ ∀ c ∈ w, isBlank c = false) : words ([' '].intercalate ws) = ws := by
  induction ws with
  | nil => rfl
  | cons w ws ih =>
      obtain ⟨ne, visible⟩ := h w List.mem_cons_self
      cases ws with
      | nil => simpa using words_of_visible ne visible
      | cons w' ws =>
          have tail := ih fun v member => h v (List.mem_cons_of_mem w member)
          rw [List.intercalate_cons_cons, List.append_assoc, List.singleton_append,
            words_append (by decide), words_of_visible ne visible, tail]
          rfl

/-- A visible character is put in front of the first word, or it is a word by itself. -/
theorem words_cons {c : Char} (visible : isBlank c = false) (cs : List Char) :
    (∃ word more, words cs = word :: more ∧ words (c :: cs) = (c :: word) :: more) ∨
      words (c :: cs) = [c] :: words cs := by
  rw [words, if_neg (by simp [visible])]
  split
  · split
    · next word more split => exact .inl ⟨word, more, split, rfl⟩
    · next split => exact .inr (by rw [split])
  · exact .inr rfl

theorem subset_of_mem_words {cs word : List Char} (member : word ∈ words cs) : word ⊆ cs := by
  induction cs generalizing word with
  | nil => cases member
  | cons c cs ih =>
      have tail {w : List Char} (h : w ∈ words cs) : w ⊆ c :: cs :=
        List.Subset.trans (ih h) (List.subset_cons_self c cs)
      cases blank : isBlank c with
      | true =>
          rw [words, if_pos blank] at member
          exact tail member
      | false =>
          obtain ⟨first, more, split, own⟩ | own := words_cons blank cs
          · rw [own] at member
            rcases List.mem_cons.mp member with rfl | member
            · exact List.cons_subset_cons c (ih (split ▸ List.mem_cons_self))
            · exact tail (split ▸ List.mem_cons_of_mem first member)
          · rw [own] at member
            rcases List.mem_cons.mp member with rfl | member
            · exact List.cons_subset_cons c (List.nil_subset cs)
            · exact tail member

theorem visible_of_mem_words (cs : List Char) :
    ∀ word ∈ words cs, word ≠ [] ∧ ∀ c ∈ word, isBlank c = false := by
  induction cs with
  | nil => simp [words]
  | cons c cs ih =>
      cases blank : isBlank c with
      | true =>
          rw [words, if_pos blank]
          exact ih
      | false =>
          obtain ⟨first, more, split, own⟩ | own := words_cons blank cs
          · rw [split, List.forall_mem_cons] at ih
            rw [own, List.forall_mem_cons]
            exact ⟨⟨List.cons_ne_nil c first, List.forall_mem_cons.mpr ⟨blank, ih.1.2⟩⟩, ih.2⟩
          · rw [own, List.forall_mem_cons]
            exact ⟨⟨List.cons_ne_nil c [], by simpa using blank⟩, ih⟩

/-- Every visible character is in a word. -/
theorem exists_word {c : Char} (visible : isBlank c = false) {cs : List Char} (h : c ∈ cs) :
    ∃ word ∈ words cs, c ∈ word := by
  induction cs with
  | nil => cases h
  | cons d cs ih =>
      cases blank : isBlank d with
      | true =>
          rw [words, if_pos blank]
          rcases List.mem_cons.mp h with rfl | h
          · rw [visible] at blank
            cases blank
          · exact ih h
      | false =>
          obtain ⟨first, more, split, own⟩ | own := words_cons blank cs
          · rw [own, List.exists_mem_cons_iff]
            rcases List.mem_cons.mp h with rfl | h
            · exact .inl List.mem_cons_self
            · have known := ih h
              rw [split, List.exists_mem_cons_iff] at known
              exact known.imp_left (List.mem_cons_of_mem d)
          · rw [own, List.exists_mem_cons_iff]
            rcases List.mem_cons.mp h with rfl | h
            · exact .inl List.mem_cons_self
            · exact .inr (ih h)

theorem mem_intercalate {c : Char} (noSpace : c ≠ ' ') {ws : List (List Char)} :
    c ∈ [' '].intercalate ws ↔ ∃ word ∈ ws, c ∈ word := by
  induction ws with
  | nil => simp
  | cons w ws ih =>
      cases ws with
      | nil => simp
      | cons w' ws =>
          rw [List.intercalate_cons_cons, List.mem_append, List.mem_append, List.mem_singleton,
            or_iff_left noSpace, ih, List.exists_mem_cons_iff (a := w)]

/-- Only spaces are added to a text when its words are joined. -/
theorem mem_of_mem_spaced {c : Char} (noSpace : c ≠ ' ') {cs : List Char}
    (member : c ∈ spaced cs) : c ∈ cs := by
  obtain ⟨word, known, own⟩ := (mem_intercalate noSpace).mp member
  exact subset_of_mem_words known own

/-- Only blanks are dropped from it. -/
theorem mem_spaced_of_mem {c : Char} (visible : isBlank c = false) {cs : List Char} (h : c ∈ cs) :
    c ∈ spaced cs := by
  have noSpace : c ≠ ' ' := by
    rintro rfl
    cases visible
  exact (mem_intercalate noSpace).mpr (exists_word visible h)

theorem spaced_spaced (cs : List Char) : spaced (spaced cs) = spaced cs := by
  rw [spaced, spaced, words_intercalate (visible_of_mem_words cs)]

/-! ## Single blanks -/

theorem spaced_of_visible {w : List Char} (ne : w ≠ []) (h : ∀ c ∈ w, isBlank c = false) :
    spaced w = w := by
  rw [spaced, words_of_visible ne h, List.intercalate_singleton]

theorem spaced_around {w : List Char} (ne : w ≠ []) (h : ∀ c ∈ w, isBlank c = false)
    {lead trail : List Char} (before : ∀ c ∈ lead, isBlank c = true)
    (behind : ∀ c ∈ trail, isBlank c = true) : spaced (lead ++ w ++ trail) = w := by
  have ends : words (w ++ trail) = [w] := by
    cases trail with
    | nil => rw [List.append_nil, words_of_visible ne h]
    | cons b trail =>
        have nothing := words_blanks_append
          (fun c member => behind c (List.mem_cons_of_mem b member)) []
        rw [List.append_nil] at nothing
        rw [words_append (behind b List.mem_cons_self), words_of_visible ne h, nothing]
        rfl
  rw [spaced, List.append_assoc, words_blanks_append before, ends, List.intercalate_singleton]

theorem spaced_cons_cons {c d : Char} (visible : isBlank c = false) (visible' : isBlank d = false)
    (rest : List Char) : spaced (c :: d :: rest) = c :: spaced (d :: rest) := by
  obtain ⟨word, more, split⟩ := List.exists_cons_of_ne_nil (words_ne_nil visible' rest)
  have joined : words (c :: d :: rest) = (c :: word) :: more := by
    rw [words, if_neg (by simp [visible]), if_pos (by simp [visible']), split]
  rw [spaced, joined, spaced, split]
  cases more <;> simp

/-- A word goes on up to the next blank. -/
theorem spaced_append {w : List Char} (h : ∀ c ∈ w, isBlank c = false) {d : Char}
    (visible : isBlank d = false) (rest : List Char) :
    spaced (w ++ d :: rest) = w ++ spaced (d :: rest) := by
  induction w with
  | nil => rfl
  | cons c w ih =>
      have own := h c List.mem_cons_self
      have tail := ih fun e member => h e (List.mem_cons_of_mem c member)
      cases w with
      | nil => exact spaced_cons_cons own visible rest
      | cons e w =>
          rw [List.cons_append, List.cons_append,
            spaced_cons_cons own (h e (List.mem_cons_of_mem c List.mem_cons_self)),
            ← List.cons_append, tail]
          rfl

/-- Of the blanks between two words, one is left if there are any. -/
theorem spaced_append_blanks {w blanks : List Char} (ne : w ≠ []) (h : ∀ c ∈ w, isBlank c = false)
    (blank : ∀ c ∈ blanks, isBlank c = true) {d : Char} (visible : isBlank d = false)
    (rest : List Char) :
    ∃ gap, (∀ c ∈ gap, isBlank c = true) ∧
      spaced (w ++ (blanks ++ d :: rest)) = w ++ (gap ++ spaced (d :: rest)) := by
  cases blanks with
  | nil => exact ⟨[], by simp, spaced_append h visible rest⟩
  | cons b blanks =>
      have behind := words_blanks_append (fun c member => blank c (List.mem_cons_of_mem b member))
        (d :: rest)
      obtain ⟨word, more, split⟩ := List.exists_cons_of_ne_nil (words_ne_nil visible rest)
      refine ⟨[' '], by decide, ?_⟩
      rw [spaced, List.cons_append, words_append (blank b List.mem_cons_self),
        words_of_visible ne h, behind, spaced, split]
      simp

end Inquiry.Text
