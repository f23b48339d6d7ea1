import Inquiry.Proofs.LetterCase

/-!
# The sigma at the end of a word

Of all letters only the capital sigma is lowered by regard to its neighbours. So lowering is
done in two steps: every capital sigma becomes the small one that belongs there
(`smallSigmas`), and then each letter is lowered by itself (`lowerAfter_eq`).

The neighbours that count are those that are not passed over. Marks that are not passed over
are no cased letters, so it does not matter in which order they stand, and a letter counts
like its parts, from both sides. Hence composing changes no sigma (`composed_smallSigmas`).
-/

namespace Inquiry.Text

open CodeTable

/-! ## Neighbours -/

/-- How a code point counts as a neighbour: it is passed over, or it is cased or not. -/
def casingOf (code : Nat) : Option Bool :=
  if covers ignorableRanges code then none else some (covers casedRanges code)

def casing (c : Char) : Option Bool := casingOf c.toNat

/-- The first neighbour that counts decides. -/
theorem meetsCased_eq (cs : List Char) : meetsCased cs = (cs.findSome? casing).getD false := by
  induction cs with
  | nil => rfl
  | cons c cs ih =>
      rw [List.findSome?_cons, meetsCased, List.dropWhile_cons, casing, casingOf]
      cases covers ignorableRanges c.toNat with
      | true => exact ih
      | false => rfl

theorem meetsCased_append (cs ds : List Char) :
    meetsCased (cs ++ ds) = (cs.findSome? casing).getD (meetsCased ds) := by
  rw [meetsCased_eq, List.findSome?_append, meetsCased_eq]
  cases cs.findSome? casing <;> rfl

/-- How a code point counts, looked up in two numbers. -/
def casingEntry (code : Nat) : Option Bool :=
  if (spanned ignorableRanges).testBit code then none
  else some ((spanned casedRanges).testBit code)

/-- What the tables say about neighbours. A mark is passed over or not cased, the letters of
Hangul count and are not cased, and what a code point has for its parts counts like it, from
both sides. -/
theorem casing_checked :
    ((ignorableRanges.flatMap fun range => [range.1, range.2 + 1]).IsChain (· ≤ ·) ∧
      (casedRanges.flatMap fun range => [range.1, range.2 + 1]).IsChain (· ≤ ·)) ∧
    (∀ code ∈ markCodes, casingEntry code ≠ some true) ∧
    (∀ range ∈ ignorableRanges ++ casedRanges, (range.2 < 0x1100 ∨ 0x1200 ≤ range.1) ∧
      (range.2 < 0xAC00 ∨ 0xD7A3 < range.1)) ∧
    (∀ row ∈ pairs, row.2.1.isValidChar ∧ row.2.2.isValidChar ∧
      (casingEntry row.2.1).or (casingEntry row.2.2) = casingEntry row.1 ∧
      (casingEntry row.2.2).or (casingEntry row.2.1) = casingEntry row.1) ∧
    (∀ block ∈ duplicates, ∀ image ∈ block.2.zipIdx, image.1.isValidChar ∧
      casingEntry image.1 = casingEntry (block.1 + image.2)) := by
  simp only [casingEntry, testBit_eq_digitAt]
  decide +kernel

theorem casingEntry_eq : casingEntry = casingOf := by
  have same {ranges : List (Nat × Nat)}
      (apart : (ranges.flatMap fun range => [range.1, range.2 + 1]).IsChain (· ≤ ·))
      (code : Nat) : (spanned ranges).testBit code = covers ranges code := by
    rw [Bool.eq_iff_iff, testBit_spanned, covers_iff (List.isChain_iff_pairwise.mp apart)]
  funext code
  rw [casingEntry, casingOf, same casing_checked.1.1, same casing_checked.1.2]

theorem casing_of_mark {c : Char} (mark : 0 < markClass c) : casing c ≠ some true := by
  have known : c.toNat ∈ markCodes := by
    by_contra unknown
    rw [markClass_of_not_mem unknown] at mark
    exact Nat.lt_irrefl 0 mark
  rw [casing, ← casingEntry_eq]
  exact casing_checked.2.1 _ known

theorem meetsCased_cons (c : Char) (cs : List Char) :
    meetsCased (c :: cs) = (casing c).getD (meetsCased cs) := by
  rw [← List.singleton_append, meetsCased_append, List.findSome?_singleton]

/-- It makes no difference in which order two marks stand. -/
theorem meetsCased_swap {c d : Char} (first : 0 < markClass c) (second : 0 < markClass d)
    (before after : List Char) :
    meetsCased (before ++ c :: d :: after) = meetsCased (before ++ d :: c :: after) := by
  have order {a b : Option Bool} (first : a ≠ some true) (second : b ≠ some true)
      (further : Bool) : a.getD (b.getD further) = b.getD (a.getD further) := by
    rcases a with - | - | - <;> rcases b with - | - | - <;> simp_all
  simp only [meetsCased_append before, meetsCased_cons]
  rw [order (casing_of_mark first) (casing_of_mark second)]

/-- Putting marks in order changes no neighbour, from either side. -/
theorem meetsCased_orderMarks (cs ds : List Char) :
    meetsCased (orderMarks cs ++ ds) = meetsCased (cs ++ ds) ∧
      meetsCased ((orderMarks cs).reverse ++ ds) = meetsCased (cs.reverse ++ ds) := by
  have placed (c : Char) (cs ds : List Char) :
      meetsCased (placeMark c cs ++ ds) = meetsCased (c :: cs ++ ds) ∧
        meetsCased ((placeMark c cs).reverse ++ ds) = meetsCased ((c :: cs).reverse ++ ds) := by
    induction cs generalizing ds with
    | nil => exact ⟨rfl, rfl⟩
    | cons d cs ih =>
        rw [placeMark]
        split
        · next past =>
            simp only [Bool.and_eq_true, decide_eq_true_eq] at past
            have swap := meetsCased_swap (c := c) (d := d) (by omega) past.1
            constructor
            · rw [List.cons_append, meetsCased_cons, (ih ds).1, ← meetsCased_cons]
              exact (swap [] (cs ++ ds)).symm
            · rw [List.reverse_cons, List.append_assoc, List.singleton_append, (ih (d :: ds)).2]
              simpa using swap cs.reverse ds
        · exact ⟨rfl, rfl⟩
  induction cs generalizing ds with
  | nil => exact ⟨rfl, rfl⟩
  | cons c cs ih =>
      rw [orderMarks]
      constructor
      · rw [(placed c _ ds).1, List.cons_append, meetsCased_cons, (ih ds).1, ← meetsCased_cons]
        rfl
      · rw [(placed c _ ds).2, List.reverse_cons, List.append_assoc, (ih _).2]
        simp

/-! ## Parts count like the letter -/

theorem casingOf_hangul {code : Nat}
    (h : (0x1100 ≤ code ∧ code < 0x1200) ∨ (0xAC00 ≤ code ∧ code ≤ 0xD7A3)) :
    casingOf code = some false := by
  have outside {ranges : List (Nat × Nat)} (known : ranges ⊆ ignorableRanges ++ casedRanges) :
      covers ranges code = false := by
    refine covers_eq_false fun range member => ?_
    have := casing_checked.2.2.1 range (known member)
    omega
  rw [casingOf, outside (List.subset_append_left _ _), outside (List.subset_append_right _ _)]
  rfl

/-- A code point counts like its parts, from both sides. -/
theorem casingOf_spellOut (depth code : Nat) :
    (spellOut depth code).findSome? casingOf = casingOf code ∧
      (spellOut depth code).reverse.findSome? casingOf = casingOf code := by
  induction depth generalizing code with
  | zero => simp [spellOut]
  | succ depth ih =>
      rw [spellOut_succ]
      split
      · next syllable =>
          -- Whatever comes first is a letter of Hangul.
          have first {codes : List Nat} (nonempty : codes ≠ [])
              (parts : ∀ own ∈ codes, own ∈ jamo code) :
              codes.findSome? casingOf = casingOf code := by
            obtain ⟨own, rest, rfl⟩ := List.exists_cons_of_ne_nil nonempty
            have range := jamo_range syllable (parts own List.mem_cons_self)
            rw [List.findSome?_cons, casingOf_hangul (.inl range), casingOf_hangul (.inr syllable)]
          have nonempty : jamo code ≠ [] := by simp [jamo]
          exact ⟨first nonempty fun _ => id, first (List.reverse_ne_nil_iff.mpr nonempty)
            fun _ => List.mem_reverse.mp⟩
      · cases pair : pair? code with
        | some parts =>
            obtain ⟨base, mark⟩ := parts
            obtain ⟨-, -, forward, backward⟩ := casing_checked.2.2.2.1 _ (mem_of_pair? pair)
            rw [casingEntry_eq] at forward backward
            simp only
            rw [List.findSome?_append, List.reverse_append, List.findSome?_append, (ih base).1,
              (ih base).2, List.reverse_singleton, List.findSome?_singleton]
            exact ⟨forward, backward⟩
        | none =>
            cases twin : inBlock? duplicates code with
            | some other =>
                obtain ⟨block, known, place, image, rfl⟩ := mem_of_inBlock? twin
                have same := (casing_checked.2.2.2.2 block known (other, place)
                  (List.mem_zipIdx_iff_getElem?.mpr image)).2
                rw [casingEntry_eq] at same
                exact same ▸ ih other
            | none => simp

theorem isValidChar_of_mem_spellOut {depth code : Nat} (valid : code.isValidChar) :
    ∀ own ∈ spellOut depth code, own.isValidChar := by
  induction depth generalizing code with
  | zero => simpa [spellOut] using valid
  | succ depth ih =>
      rw [spellOut_succ]
      split
      · next syllable =>
          intro own member
          have range := jamo_range syllable member
          exact .inl (by omega)
      · cases pair : pair? code with
        | some parts =>
            obtain ⟨base, mark, -⟩ := casing_checked.2.2.2.1 _ (mem_of_pair? pair)
            exact List.forall_mem_append.mpr ⟨ih base, by simpa using mark⟩
        | none =>
            cases twin : inBlock? duplicates code with
            | some other =>
                obtain ⟨block, known, place, image, rfl⟩ := mem_of_inBlock? twin
                exact ih (casing_checked.2.2.2.2 block known (other, place)
                  (List.mem_zipIdx_iff_getElem?.mpr image)).1
            | none => simpa using valid

/-- A letter counts like its parts, from both sides. -/
theorem casing_decompose (c : Char) : (decompose c).findSome? casing = casing c ∧
    (decompose c).reverse.findSome? casing = casing c := by
  have own {codes : List Nat} (valid : ∀ code ∈ codes, code.isValidChar) :
      (ofCodes codes).findSome? casing = codes.findSome? casingOf := by
    induction codes with
    | nil => rfl
    | cons code codes ih =>
        obtain ⟨first, further⟩ := List.forall_mem_cons.mp valid
        rw [List.findSome?_cons, ← ih further, ofCodes, List.map_cons, List.findSome?_cons, casing,
          toNat_ofNat first, ofCodes]
  have valid : ∀ code ∈ spellOut 4 c.toNat, code.isValidChar :=
    isValidChar_of_mem_spellOut c.valid
  constructor
  · exact (own valid).trans (casingOf_spellOut 4 c.toNat).1
  · rw [decompose, ofCodes, ← List.map_reverse, ← ofCodes,
      own fun code member => valid code (List.mem_reverse.mp member)]
    exact (casingOf_spellOut 4 c.toNat).2

theorem meetsCased_decomposed (cs ds : List Char) :
    meetsCased (decomposed cs ++ ds) = meetsCased (cs ++ ds) ∧
      meetsCased ((decomposed cs).reverse ++ ds) = meetsCased (cs.reverse ++ ds) := by
  obtain ⟨before, behind⟩ := meetsCased_orderMarks (cs.flatMap decompose) ds
  rw [decomposed, before, behind]
  clear before behind
  induction cs generalizing ds with
  | nil => exact ⟨rfl, rfl⟩
  | cons c cs ih =>
      obtain ⟨before, behind⟩ := casing_decompose c
      constructor
      · rw [List.flatMap_cons, List.append_assoc, meetsCased_append, before, (ih ds).1,
          ← meetsCased_cons]
        rfl
      · rw [List.flatMap_cons, List.reverse_append, List.append_assoc, (ih _).2,
          meetsCased_append cs.reverse, meetsCased_append, behind, ← meetsCased_cons,
          ← meetsCased_append, List.reverse_cons, List.append_assoc, List.singleton_append]

/-- Composing changes no neighbour, from either side. -/
theorem meetsCased_composed (cs ds : List Char) :
    meetsCased (composed cs ++ ds) = meetsCased (cs ++ ds) ∧
      meetsCased ((composed cs).reverse ++ ds) = meetsCased (cs.reverse ++ ds) := by
  obtain ⟨before, behind⟩ := meetsCased_decomposed (composed cs) ds
  rw [decomposed_composed] at before behind
  obtain ⟨before', behind'⟩ := meetsCased_decomposed cs ds
  exact ⟨before.symm.trans before', behind.symm.trans behind'⟩

/-! ## Letters that are never joined -/

theorem join?_eq_none {base mark : Char} (small : base.toNat < 0x1100 ∨ mark.toNat < 0x1100)
    (apart : ∀ row ∈ composites, ¬(row.2.1 = base.toNat ∧ row.2.2 = mark.toNat)) :
    join? base mark = none := by
  simp only [join?]
  split
  · rfl
  · rw [if_neg (by omega), if_neg (by omega), Option.map_eq_none_iff,
      Option.eq_none_iff_forall_ne_some]
    exact fun code found => apart _ (mem_of_composite? found) ⟨rfl, rfl⟩

/-- A letter without parts that is joined with nothing. -/
structure IsInert (letter : Char) : Prop extends IsBare letter where
  join (c : Char) : join? letter c = none
  joined (c : Char) : join? c letter = none

theorem IsInert.composeWith_eq {letter : Char} (inert : IsInert letter) (kept rest : List Char) :
    composeWith letter kept rest = letter :: (kept.reverse ++ composeMarks rest) := by
  induction rest generalizing kept with
  | nil => simp [composeWith, composeMarks]
  | cons c rest ih =>
      obtain ⟨joined, join, -⟩ | ⟨start, step⟩ | ⟨mark, step⟩ := composeWith_step letter kept c rest
      · rw [inert.join c] at join
        cases join
      · rw [step, composeMarks, if_pos start]
        rfl
      · rw [step, ih, composeMarks, if_neg (Nat.ne_of_gt mark)]
        simp

/-- Such a letter keeps what is on its two sides apart. -/
theorem IsInert.composeMarks_append {letter : Char} (inert : IsInert letter)
    (cs ds : List Char) :
    composeMarks (cs ++ letter :: ds) = composeMarks cs ++ letter :: composeMarks ds := by
  have own : composeMarks (letter :: ds) = letter :: composeMarks ds := by
    rw [composeMarks, if_pos inert.noMark, inert.composeWith_eq]
    rfl
  have after (start : Char) (kept cs : List Char) : composeWith start kept (cs ++ letter :: ds) =
      composeWith start kept cs ++ letter :: composeMarks ds := by
    induction cs generalizing start kept with
    | nil =>
        obtain ⟨joined, join, -⟩ | ⟨-, step⟩ | ⟨mark, -⟩ := composeWith_step start kept letter ds
        · rw [inert.joined start] at join
          cases join
        · rw [List.nil_append, step, composeWith, inert.composeWith_eq]
          rfl
        · rw [inert.noMark] at mark
          cases mark
    | cons c cs ih =>
        rw [List.cons_append, composeWith.eq_def, composeWith.eq_def start kept (c :: cs)]
        simp only [ih]
        split
        · rfl
        · split
          · rw [List.append_assoc]
          · rfl
  induction cs with
  | nil => exact own
  | cons c cs ih =>
      rw [List.cons_append, composeMarks, composeMarks]
      split
      · exact after c [] cs
      · rw [ih]
        rfl

theorem IsInert.composed_append {letter : Char} (inert : IsInert letter) (cs ds : List Char) :
    composed (cs ++ letter :: ds) = composed cs ++ letter :: composed ds := by
  rw [composed, decomposed_letter inert.whole inert.noMark, inert.composeMarks_append, composed,
    composed]

/-- The sigmas: the capital one, the one at the end of a word, and the other small one. -/
def sigmaCodes : List Nat := [0x03A3, 0x03C2, 0x03C3]

/-- What the tables say about the sigmas. They are parts of nothing else, and they are no marks
and have no parts. -/
theorem sigmas_checked : IsApart sigmaCodes ∧ ∀ c ∈ ofCodes sigmaCodes, c.toNat < 0x1100 ∧
    markClass c = 0 ∧ decompose c = [c] :=
  ⟨⟨by decide +kernel, by decide +kernel, by decide, by decide⟩, by decide +kernel⟩

theorem isInert_of_sigma {c : Char} (h : c.toNat ∈ sigmaCodes) : IsInert c := by
  obtain ⟨small, noMark, whole⟩ := sigmas_checked.2 c (mem_ofCodes h)
  have apart (row : Nat × Nat × Nat) (known : row ∈ composites) :=
    sigmas_checked.1.pairs row (List.mem_append_left _ known)
  refine ⟨⟨whole, noMark⟩, fun d => ?_, fun d => ?_⟩
  · refine join?_eq_none (.inl small) fun row known same => ?_
    exact not_mem_of_bits (apart row known).1 (same.1 ▸ h)
  · refine join?_eq_none (.inr small) fun row known same => ?_
    exact not_mem_of_bits (apart row known).2 (same.2 ▸ h)

theorem sigma_mem_composed {cs : List Char} (h : 'Σ' ∈ composed cs) : 'Σ' ∈ cs := by
  have parts {c : Char} : 'Σ' ∈ decompose c ↔ c = 'Σ' := by
    by_cases known : c.toNat ∈ sigmaCodes
    · rw [(isInert_of_sigma known).whole, List.mem_singleton, eq_comm]
    · refine ⟨fun member => absurd (by decide) (sigmas_checked.1.not_mem known member), ?_⟩
      rintro rfl
      exact absurd (by decide) known
  have spelled {cs : List Char} : 'Σ' ∈ decomposed cs ↔ 'Σ' ∈ cs := by
    rw [decomposed, mem_orderMarks, List.mem_flatMap]
    constructor
    · rintro ⟨c, member, own⟩
      exact parts.mp own ▸ member
    · exact fun member => ⟨_, member, parts.mpr rfl⟩
  rwa [← spelled, decomposed_composed, spelled] at h

/-! ## Small sigmas -/

/-- The small sigma that a capital one is lowered to, with the characters before it in
reverse. -/
def smallSigma (before rest : List Char) : Char :=
  if meetsCased before && !meetsCased rest then 'ς' else 'σ'

/-- A text with small sigmas in place of the capital ones. -/
def smallSigmasAfter (before : List Char) : List Char → List Char
  | [] => []
  | c :: rest =>
    (if c = 'Σ' then smallSigma before rest else c) :: smallSigmasAfter (c :: before) rest

def smallSigmas (cs : List Char) : List Char := smallSigmasAfter [] cs

theorem lowerAfter_eq (before cs : List Char) :
    lowerAfter before cs = (smallSigmasAfter before cs).flatMap lowered := by
  have own (before rest : List Char) :
      lowered (smallSigma before rest) = [smallSigma before rest] := by
    rw [smallSigma]
    split <;> decide
  induction cs generalizing before with
  | nil => rfl
  | cons c rest ih =>
      rw [lowerAfter, smallSigmasAfter, List.flatMap_cons, ← ih]
      split
      · rw [own]
        rfl
      · rfl

theorem lower_eq (cs : List Char) : lower cs = (smallSigmas cs).flatMap lowered :=
  lowerAfter_eq [] cs

theorem smallSigmasAfter_append {cs : List Char} (h : 'Σ' ∉ cs) (before rest : List Char) :
    smallSigmasAfter before (cs ++ rest) =
      cs ++ smallSigmasAfter (cs.reverse ++ before) rest := by
  induction cs generalizing before with
  | nil => rfl
  | cons c cs ih =>
      rw [List.mem_cons, not_or] at h
      rw [List.cons_append, smallSigmasAfter, if_neg (Ne.symm h.1), ih h.2]
      simp

theorem smallSigmas_of_not_mem {cs : List Char} (h : 'Σ' ∉ cs) (before : List Char) :
    smallSigmasAfter before cs = cs := by
  have whole := smallSigmasAfter_append h before []
  rwa [List.append_nil, smallSigmasAfter, List.append_nil] at whole

theorem smallSigma_mem (before rest : List Char) :
    (smallSigma before rest).toNat ∈ sigmaCodes := by
  rw [smallSigma]
  split <;> decide

/-- Composing changes no sigma: each has the same neighbours before and after. -/
theorem composed_smallSigmasAfter {before before' : List Char}
    (same : meetsCased before = meetsCased before') (cs : List Char) :
    composed (smallSigmasAfter before cs) = smallSigmasAfter before' (composed cs) := by
  -- The induction is on the length, from one sigma to the next.
  induction length : cs.length using Nat.strong_induction_on generalizing cs before before' with
  | _ n ih =>
      by_cases member : 'Σ' ∈ cs
      · obtain ⟨front, rest, rfl, first⟩ := List.eq_append_cons_of_mem member
        have capital : IsInert 'Σ' := isInert_of_sigma (by decide)
        have first' : 'Σ' ∉ composed front := fun own => first (sigma_mem_composed own)
        have shorter : rest.length < n := by
          rw [← length, List.length_append, List.length_cons]
          omega
        have here : smallSigma (front.reverse ++ before) rest =
            smallSigma ((composed front).reverse ++ before') (composed rest) := by
          have behind := (meetsCased_composed rest []).1
          rw [List.append_nil, List.append_nil] at behind
          rw [smallSigma, smallSigma, (meetsCased_composed front before').2,
            meetsCased_append, meetsCased_append, same, behind]
        have next : meetsCased ('Σ' :: (front.reverse ++ before)) =
            meetsCased ('Σ' :: ((composed front).reverse ++ before')) := by
          have cased : casing 'Σ' = some true := by decide
          rw [meetsCased_cons, meetsCased_cons, cased, Option.getD_some, Option.getD_some]
        rw [smallSigmasAfter_append first, smallSigmasAfter, if_pos rfl,
          (isInert_of_sigma (smallSigma_mem _ _)).composed_append, capital.composed_append,
          smallSigmasAfter_append first', smallSigmasAfter, if_pos rfl, here,
          ih _ shorter next rest rfl]
      · rw [smallSigmas_of_not_mem member,
          smallSigmas_of_not_mem fun own => member (sigma_mem_composed own)]

theorem composed_smallSigmas (cs : List Char) :
    composed (smallSigmas cs) = smallSigmas (composed cs) :=
  composed_smallSigmasAfter rfl cs

end Inquiry.Text
