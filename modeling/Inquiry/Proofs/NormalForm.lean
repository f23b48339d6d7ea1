import Inquiry.Proofs.LetterParts
import Inquiry.Text.Fold
import Mathlib.Data.List.Chain

/-!
# Composed and decomposed text stand for each other

Composed and decomposed text say the same: decomposing what has been composed gives
what decomposing alone gives (`decomposed_composed`), and both forms are folded like
the text itself.

Composing takes the characters one by one and holds back the marks that could not be
joined. Whatever has been done so far, the text spelled out again has the marks of
the original in order. The invariant is what is known of the marks held back
(`Pending`); a mark is joined past them only if its class is higher than theirs, and
then it could as well have stood in front of them (`orderMarks_past`).
-/

namespace Inquiry.Text

/-! ## Marks in order -/

/-- Whether two neighbours are in order: the second is no mark, or its class is not
lower. -/
def InOrder (c d : Char) : Prop := markClass d = 0 ∨ markClass c ≤ markClass d

theorem inOrder_of_letter {c : Char} (h : markClass c = 0) (d : Char) : InOrder c d :=
  .inr (h ▸ Nat.zero_le _)

theorem InOrder.trans {c d e : Char} (first : InOrder c d) (second : InOrder d e)
    (mark : 0 < markClass d) : InOrder c e := by
  unfold InOrder at *
  omega

theorem placeMark_past {c d : Char} (h : 0 < markClass d ∧ markClass d < markClass c)
    (rest : List Char) : placeMark c (d :: rest) = d :: placeMark c rest := by
  simp [placeMark, h]

theorem placeMark_stays {c d : Char} (h : ¬(0 < markClass d ∧ markClass d < markClass c))
    (rest : List Char) : placeMark c (d :: rest) = c :: d :: rest := by
  rw [placeMark, if_neg (by simpa using h)]

theorem placeMark_eq_cons {c : Char} {cs : List Char} (h : ∀ d ∈ cs.head?, InOrder c d) :
    placeMark c cs = c :: cs := by
  cases cs with
  | nil => rfl
  | cons d rest =>
      have inOrder := h d rfl
      unfold InOrder at inOrder
      exact placeMark_stays (by omega) rest

theorem head?_placeMark {c d : Char} {cs : List Char} (h : d ∈ (placeMark c cs).head?) :
    d = c ∨ d ∈ cs.head? := by
  cases cs with
  | nil => exact .inl (Option.some.inj h).symm
  | cons e rest =>
      rw [placeMark] at h
      split at h
      · exact .inr h
      · exact .inl (Option.some.inj h).symm

theorem isChain_placeMark {c : Char} {cs : List Char} (h : cs.IsChain InOrder) :
    (placeMark c cs).IsChain InOrder := by
  induction cs with
  | nil => exact List.isChain_singleton c
  | cons d rest ih =>
      obtain ⟨next, tail⟩ := List.isChain_cons.mp h
      rw [placeMark]
      split
      · next behind =>
          simp only [Bool.and_eq_true, decide_eq_true_eq] at behind
          refine List.isChain_cons.mpr ⟨fun e first => ?_, ih tail⟩
          rcases head?_placeMark first with rfl | first
          · exact .inr (Nat.le_of_lt behind.2)
          · exact next e first
      · next stays =>
          simp only [Bool.and_eq_true, decide_eq_true_eq] at stays
          refine List.isChain_cons_cons.mpr ⟨?_, h⟩
          unfold InOrder
          omega

theorem isChain_orderMarks (cs : List Char) : (orderMarks cs).IsChain InOrder := by
  induction cs with
  | nil => exact List.isChain_nil
  | cons c rest ih => exact isChain_placeMark ih

theorem orderMarks_of_isChain {cs : List Char} (h : cs.IsChain InOrder) : orderMarks cs = cs := by
  induction cs with
  | nil => rfl
  | cons c rest ih =>
      obtain ⟨next, tail⟩ := List.isChain_cons.mp h
      rw [orderMarks, ih tail, placeMark_eq_cons next]

theorem mem_orderMarks {c : Char} {cs : List Char} : c ∈ orderMarks cs ↔ c ∈ cs := by
  have placed (d : Char) (cs : List Char) : c ∈ placeMark d cs ↔ c = d ∨ c ∈ cs := by
    induction cs with
    | nil => simp [placeMark]
    | cons e rest ih =>
        rw [placeMark]
        split
        · rw [List.mem_cons, or_congr_right ih, List.mem_cons, or_left_comm]
        · exact List.mem_cons
  induction cs with
  | nil => rfl
  | cons d rest ih => rw [orderMarks, placed, List.mem_cons, or_congr_right ih]

theorem orderMarks_append_congr (cs : List Char) {ds es : List Char}
    (h : orderMarks ds = orderMarks es) : orderMarks (cs ++ ds) = orderMarks (cs ++ es) := by
  induction cs with
  | nil => exact h
  | cons c cs ih => rw [List.cons_append, List.cons_append, orderMarks, orderMarks, ih]

/-- A letter keeps the marks on both sides of it apart. -/
theorem orderMarks_letter {letter : Char} (h : markClass letter = 0) (cs ds : List Char) :
    orderMarks (cs ++ letter :: ds) = orderMarks cs ++ letter :: orderMarks ds := by
  have placed (c : Char) (cs ds : List Char) :
      placeMark c (cs ++ letter :: ds) = placeMark c cs ++ letter :: ds := by
    induction cs with
    | nil => simp [placeMark, h]
    | cons d cs ih =>
        rw [List.cons_append, placeMark, placeMark, ih]
        split <;> rfl
  induction cs with
  | nil => exact placeMark_eq_cons fun d _ => inOrder_of_letter h d
  | cons c cs ih => rw [List.cons_append, orderMarks, ih, placed, orderMarks]

/-- Two marks of different classes can be placed one after the other in any order. -/
theorem placeMark_comm {c d : Char} (h : 0 < markClass d ∧ markClass d < markClass c)
    (cs : List Char) : placeMark c (placeMark d cs) = placeMark d (placeMark c cs) := by
  induction cs with
  | nil =>
      have stays : ¬(0 < markClass c ∧ markClass c < markClass d) := by omega
      simp [placeMark, h, stays]
  | cons e rest ih =>
      by_cases past : 0 < markClass e ∧ markClass e < markClass d
      · rw [placeMark_past past, placeMark_past (c := c) (by omega), placeMark_past (by omega),
          placeMark_past past, ih]
      · rw [placeMark_stays past, placeMark_past h]
        by_cases behind : 0 < markClass e ∧ markClass e < markClass c
        · rw [placeMark_past behind, placeMark_stays past]
        · rw [placeMark_stays behind, placeMark_stays (by omega)]

/-- A mark may as well stand in front of marks of lower classes. -/
theorem orderMarks_past {c : Char} {marks : List Char}
    (h : ∀ d ∈ marks, 0 < markClass d ∧ markClass d < markClass c) (rest : List Char) :
    orderMarks (c :: (marks ++ rest)) = orderMarks (marks ++ c :: rest) := by
  induction marks with
  | nil => rfl
  | cons d marks ih =>
      have tail := ih fun e member => h e (List.mem_cons_of_mem d member)
      rw [List.cons_append, List.cons_append, orderMarks, orderMarks,
        placeMark_comm (h d List.mem_cons_self), ← orderMarks, tail, orderMarks]

/-! ## Joining -/

/-- The marks with a class. -/
def markCodes : List Nat := markRuns.flatMap fun run => List.range' run.1 (run.2.1 + 1 - run.1)

theorem markClass_of_not_mem {c : Char} (h : c.toNat ∉ markCodes) : markClass c = 0 := by
  refine CodeTable.numberAt_eq_zero fun run member within =>
    h (List.mem_flatMap.mpr ⟨run, member, ?_⟩)
  rw [List.mem_range'_1]
  omega

/-- What is joined is a letter and no mark. -/
theorem markClass_of_join? {base mark joined : Char} (h : join? base mark = some joined) :
    markClass joined = 0 := by
  have noSyllable : ∀ code ∈ markCodes, code < 0xAC00 ∨ 0xD7A3 < code := by decide +kernel
  have noComposite : ∀ row ∈ composites, (bits markCodes).testBit row.1 = false := by
    decide +kernel
  rcases join?_cases h with ⟨-, -, within⟩ | known
  · refine markClass_of_not_mem fun member => ?_
    have := noSyllable _ member
    omega
  · exact markClass_of_not_mem (not_mem_of_bits (noComposite _ known))

/-- One step of joining: the next character is joined, or it is a letter and begins
anew, or it is a mark and is held back. -/
theorem composeWith_step (letter : Char) (kept : List Char) (c : Char) (rest : List Char) :
    (∃ joined, join? letter c = some joined ∧ (∀ d ∈ kept.head?, markClass d < markClass c) ∧
        composeWith letter kept (c :: rest) = composeWith joined kept rest) ∨
      (markClass c = 0 ∧
        composeWith letter kept (c :: rest) = letter :: kept.reverse ++ composeWith c [] rest) ∨
      (0 < markClass c ∧
        composeWith letter kept (c :: rest) = composeWith letter (c :: kept) rest) := by
  generalize step : composeWith letter kept (c :: rest) = out
  rw [composeWith.eq_def] at step
  simp only at step
  split at step
  · next joined join =>
      simp only [Option.ite_none_right_eq_some] at join
      refine .inl ⟨joined, join.2, fun d first => ?_, step.symm⟩
      cases kept with
      | nil => cases first
      | cons e kept =>
          rw [← Option.some.inj first]
          exact of_decide_eq_true join.1
  · split at step
    · next letter => exact .inr (.inl ⟨letter, step.symm⟩)
    · next mark => exact .inr (.inr ⟨Nat.pos_of_ne_zero mark, step.symm⟩)

/-- What is known of the marks held back, the last one first, in front of the rest of
the text. -/
structure Pending (kept rest : List Char) : Prop where
  marks : ∀ c ∈ kept, 0 < markClass c
  sorted : kept.Pairwise fun c d => markClass d ≤ markClass c
  next : ∀ c ∈ kept, ∀ d ∈ rest.head?, InOrder c d
  inOrder : rest.IsChain InOrder

namespace Pending

variable {kept rest : List Char} {c : Char}

theorem start (h : (c :: rest).IsChain InOrder) : Pending [] rest :=
  ⟨by simp, .nil, by simp, (List.isChain_cons.mp h).2⟩

theorem below (h : Pending kept (c :: rest)) (last : ∀ d ∈ kept.head?, markClass d < markClass c) :
    ∀ d ∈ kept, 0 < markClass d ∧ markClass d < markClass c := by
  intro d member
  refine ⟨h.marks d member, ?_⟩
  cases kept with
  | nil => cases member
  | cons e kept =>
      have first := last e rfl
      rcases List.mem_cons.mp member with rfl | member
      · exact first
      · exact Nat.lt_of_le_of_lt ((List.pairwise_cons.mp h.sorted).1 d member) first

theorem passed (h : Pending kept (c :: rest)) (mark : 0 < markClass c) :
    ∀ d ∈ kept, ∀ e ∈ rest.head?, InOrder d e := by
  intro d member e first
  exact (h.next d member c rfl).trans ((List.isChain_cons.mp h.inOrder).1 e first) mark

theorem join (h : Pending kept (c :: rest)) (last : ∀ d ∈ kept.head?, markClass d < markClass c) :
    Pending kept rest := by
  refine ⟨h.marks, h.sorted, fun d member => ?_, (List.isChain_cons.mp h.inOrder).2⟩
  have own := h.below last d member
  exact h.passed (by omega) d member

theorem hold (h : Pending kept (c :: rest)) (mark : 0 < markClass c) :
    Pending (c :: kept) rest := by
  obtain ⟨next, inOrder⟩ := List.isChain_cons.mp h.inOrder
  refine ⟨?_, ?_, ?_, inOrder⟩
  · exact List.forall_mem_cons.mpr ⟨mark, h.marks⟩
  · refine List.pairwise_cons.mpr ⟨fun d member => ?_, h.sorted⟩
    exact (h.next d member c rfl).resolve_left (by omega)
  · exact List.forall_mem_cons.mpr ⟨next, h.passed mark⟩

end Pending

/-! ## Spelling out what has been joined -/

theorem flatMap_decompose {cs : List Char} (h : ∀ c ∈ cs, decompose c = [c]) :
    cs.flatMap decompose = cs := by
  rw [List.flatMap_congr h, List.flatMap_singleton']

/-- Spelled out, joined text has the marks of the letter, then those held back and the
rest, in order. -/
theorem orderMarks_composeWith {letter : Char} {kept rest : List Char} (pending : Pending kept rest)
    (wholeKept : ∀ c ∈ kept, decompose c = [c]) (whole : ∀ c ∈ rest, decompose c = [c]) :
    orderMarks ((composeWith letter kept rest).flatMap decompose) =
      orderMarks (decompose letter ++ (kept.reverse ++ rest)) := by
  have spelled {kept : List Char} (h : ∀ c ∈ kept, decompose c = [c]) (letter : Char) :
      (letter :: kept.reverse).flatMap decompose = decompose letter ++ kept.reverse := by
    rw [List.flatMap_cons, flatMap_decompose fun c member => h c (List.mem_reverse.mp member)]
  induction rest generalizing letter kept with
  | nil => rw [composeWith, spelled wholeKept, List.append_nil]
  | cons c rest ih =>
      have own := whole c List.mem_cons_self
      have tail : ∀ d ∈ rest, decompose d = [d] := fun d member =>
        whole d (List.mem_cons_of_mem c member)
      obtain ⟨joined, join, last, step⟩ | ⟨_, step⟩ | ⟨mark, step⟩ :=
        composeWith_step letter kept c rest
      · have below : ∀ d ∈ kept.reverse, 0 < markClass d ∧ markClass d < markClass c :=
          fun d member => pending.below last d (List.mem_reverse.mp member)
        rw [step, ih (pending.join last) wholeKept tail, decompose_of_join? join,
          List.append_assoc]
        exact orderMarks_append_congr (decompose letter) (orderMarks_past below rest)
      · have anew : orderMarks ((composeWith c [] rest).flatMap decompose) = _ :=
          ih (Pending.start pending.inOrder) (by simp) tail
        rw [step, List.flatMap_append, spelled wholeKept, ← List.append_assoc]
        refine orderMarks_append_congr _ (anew.trans ?_)
        rw [own]
        rfl
      · rw [step, ih (pending.hold mark) (List.forall_mem_cons.mpr ⟨own, wholeKept⟩) tail,
          List.reverse_cons, List.append_assoc]
        rfl

theorem orderMarks_composeMarks {cs : List Char} (inOrder : cs.IsChain InOrder)
    (whole : ∀ c ∈ cs, decompose c = [c]) :
    orderMarks ((composeMarks cs).flatMap decompose) = orderMarks cs := by
  induction cs with
  | nil => rfl
  | cons c rest ih =>
      have own := whole c List.mem_cons_self
      have tail : ∀ d ∈ rest, decompose d = [d] := fun d member =>
        whole d (List.mem_cons_of_mem c member)
      rw [composeMarks]
      split
      · rw [orderMarks_composeWith (Pending.start inOrder) (by simp) tail, own]
        rfl
      · rw [List.flatMap_cons, own, List.singleton_append, orderMarks,
          ih (List.isChain_cons.mp inOrder).2 tail, orderMarks]

theorem decompose_of_mem_decomposed {cs : List Char} :
    ∀ c ∈ decomposed cs, decompose c = [c] := by
  intro c member
  obtain ⟨d, _, part⟩ := List.mem_flatMap.mp (mem_orderMarks.mp member)
  exact decompose_of_mem part

/-- Decomposed text has nothing left to spell out. -/
theorem decomposed_decomposed (cs : List Char) : decomposed (decomposed cs) = decomposed cs := by
  rw [decomposed, flatMap_decompose decompose_of_mem_decomposed, decomposed,
    orderMarks_of_isChain (isChain_orderMarks _)]

/-- Decomposing takes back what composing did. -/
theorem decomposed_composed (cs : List Char) : decomposed (composed cs) = decomposed cs := by
  have inOrder : (decomposed cs).IsChain InOrder := isChain_orderMarks _
  rw [decomposed, composed, orderMarks_composeMarks inOrder decompose_of_mem_decomposed,
    orderMarks_of_isChain inOrder]

/-- What is decomposed to the same text is folded to the same text. -/
theorem folded_of_decomposed {cs ds : List Char} (h : decomposed cs = decomposed ds) :
    folded cs = folded ds := by
  rw [folded, composed, h, folded, composed]

/-! ## Composed text is in order -/

theorem isChain_composeWith {letter : Char} {kept rest : List Char} (pending : Pending kept rest)
    (start : markClass letter = 0) :
    (composeWith letter kept rest).IsChain InOrder ∧
      ∀ c ∈ (composeWith letter kept rest).head?, markClass c = 0 := by
  have opened {kept : List Char} (sorted : kept.Pairwise fun c d => markClass d ≤ markClass c)
      {letter : Char} (start : markClass letter = 0) :
      (letter :: kept.reverse).IsChain InOrder := by
    refine List.isChain_cons.mpr ⟨fun c _ => inOrder_of_letter start c, ?_⟩
    refine List.Pairwise.isChain (List.pairwise_reverse.mpr (sorted.imp fun h => .inr h))
  induction rest generalizing letter kept with
  | nil =>
      rw [composeWith]
      exact ⟨opened pending.sorted start, fun c first => by rw [← Option.some.inj first, start]⟩
  | cons c rest ih =>
      obtain ⟨joined, join, last, step⟩ | ⟨own, step⟩ | ⟨mark, step⟩ :=
        composeWith_step letter kept c rest
      · rw [step]
        exact ih (pending.join last) (markClass_of_join? join)
      · obtain ⟨chain, first⟩ := ih (Pending.start pending.inOrder) own
        rw [step]
        have own := opened pending.sorted start
        refine ⟨own.append chain fun _ _ d next => .inl (first d next), ?_⟩
        exact fun c first => by rw [← Option.some.inj first, start]
      · rw [step]
        exact ih (pending.hold mark) start

/-- Composed text is in order like decomposed text. -/
theorem isChain_composed (cs : List Char) : (composed cs).IsChain InOrder := by
  have joined {cs : List Char} (h : cs.IsChain InOrder) : (composeMarks cs).IsChain InOrder ∧
      ∀ c ∈ (composeMarks cs).head?, markClass c = 0 ∨ c ∈ cs.head? := by
    induction cs with
    | nil => exact ⟨List.isChain_nil, fun c first => .inr first⟩
    | cons c rest ih =>
        obtain ⟨next, tail⟩ := List.isChain_cons.mp h
        obtain ⟨chain, head⟩ := ih tail
        rw [composeMarks]
        split
        · next letter =>
            obtain ⟨chain, letters⟩ := isChain_composeWith (Pending.start h) letter
            exact ⟨chain, fun d first => .inl (letters d first)⟩
        · refine ⟨List.isChain_cons.mpr ⟨fun d first => ?_, chain⟩, fun d first => .inr first⟩
          exact (head d first).elim .inl (next d)
  exact (joined (isChain_orderMarks _)).1

/-! ## Characters of composed text -/

section Members

variable {P : Char → Prop} (joins : ∀ base mark c, join? base mark = some c → P c)

include joins

theorem forall_mem_composeWith {rest : List Char} (own : ∀ c ∈ rest, P c) {letter : Char}
    (hletter : P letter) {kept : List Char} (hkept : ∀ c ∈ kept, P c) :
    ∀ c ∈ composeWith letter kept rest, P c := by
  have opened {letter : Char} {kept : List Char} (hletter : P letter) (hkept : ∀ c ∈ kept, P c) :
      ∀ c ∈ letter :: kept.reverse, P c :=
    List.forall_mem_cons.mpr ⟨hletter, fun c member => hkept c (List.mem_reverse.mp member)⟩
  induction rest generalizing letter kept with
  | nil =>
      rw [composeWith]
      exact opened hletter hkept
  | cons d rest ih =>
      obtain ⟨first, tail⟩ := List.forall_mem_cons.mp own
      obtain ⟨joined, join, _, step⟩ | ⟨_, step⟩ | ⟨_, step⟩ := composeWith_step letter kept d rest
      · rw [step]
        exact ih tail (joins _ _ _ join) hkept
      · rw [step, List.forall_mem_append]
        exact ⟨opened hletter hkept, ih tail first (by simp)⟩
      · rw [step]
        exact ih tail hletter (List.forall_mem_cons.mpr ⟨first, hkept⟩)

/-- What is known of whole characters and of joined ones is known of composed text. -/
theorem forall_mem_composed (whole : ∀ c, decompose c = [c] → P c) (cs : List Char) :
    ∀ c ∈ composed cs, P c := by
  have marks (ds : List Char) (own : ∀ d ∈ ds, P d) : ∀ c ∈ composeMarks ds, P c := by
    induction ds with
    | nil => simp [composeMarks]
    | cons d rest ih =>
        obtain ⟨first, tail⟩ := List.forall_mem_cons.mp own
        rw [composeMarks]
        split
        · exact forall_mem_composeWith joins tail first (by simp)
        · exact List.forall_mem_cons.mpr ⟨first, ih tail⟩
  exact marks _ fun d member => whole d (decompose_of_mem_decomposed d member)

end Members

/-- A character that is not decomposed to one other character. -/
def IsProper (c : Char) : Prop := (decompose c).length = 1 → decompose c = [c]

instance (c : Char) : Decidable (IsProper c) := inferInstanceAs (Decidable (_ → _))

theorem isProper_of_mem_composed {cs : List Char} : ∀ c ∈ composed cs, IsProper c := by
  refine forall_mem_composed (P := IsProper) (fun base mark c join single => ?_)
    (fun c whole _ => whole) cs
  have nonempty := List.length_pos_iff.mpr (decompose_ne_nil base)
  rw [decompose_of_join? join, List.length_append, List.length_singleton] at single
  omega

end Inquiry.Text
