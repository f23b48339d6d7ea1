import Inquiry.Proofs.Wordwise

/-!
# Lower case and the parts of letters

Lowering a letter and spelling it out can be done in any order (`decompose_lowered`): a
capital with accents is lowered to a letter that has the lowered parts. One letter only is
lowered to two, the dotted capital I; every other letter has a lower form of one letter
(`lowerLetter`), which is lowered to itself. Marks have no lower form, so texts too can be
lowered before or after they are decomposed (`decomposed_lowered`).

That a capital's parts are lowered with it is read off the table of pairs, row by row. As
the lowered row may stand anywhere in the table, both tables are packed into numbers
(`CodeTable.packed`).
-/

namespace Inquiry.Text

open CodeTable

/-- The letters that are lowered to one other letter, each with that letter. -/
def capitals : List (Nat × Nat) := lowerRuns.flatMap steps

def capitalCodes : List Nat := capitals.map (·.1)

/-- The lower form of a code point, apart from the dotted capital I. -/
def lowerCode (code : Nat) : Nat := (stepped? lowerRuns code).getD code

/-- The lower form of a letter, apart from the dotted capital I. -/
def lowerLetter (c : Char) : Char := Char.ofNat (lowerCode c.toNat)

theorem lowered_eq {c : Char} (h : c ≠ 'İ') : lowered c = [lowerLetter c] := by
  have other : row? lowerRows c.toNat = none := by
    rw [Option.eq_none_iff_forall_ne_some]
    intro codes found
    have known : ∀ row ∈ lowerRows, row.1 = 0x130 := by decide
    have code : c.toNat = 0x130 := known _ (mem_of_row? found)
    exact h (by rw [← Char.ofNat_toNat c, code])
  rw [lowered, lowerLetter, lowerCode]
  cases stepped? lowerRuns c.toNat with
  | some code => rfl
  | none => simp [other]

/-! ## Tables of capitals -/

/-- What the table says about a capital and its lower form. The lower form is no capital, and
neither of them is a mark or a letter of Hangul. If the capital is another letter in any
normal form, that one has the same lower form; if it has no parts, its lower form has none. -/
theorem capitals_checked :
    ((lowerRuns.flatMap fun run => [run.1, run.2.1 + 1]).IsChain (· ≤ ·) ∧
      (∀ run ∈ lowerRuns, run.1 ≤ run.2.1 ∧ 0 < run.2.2.1) ∧ capitalCodes.IsChain (· < ·)) ∧
    ∀ row ∈ capitals,
      ((bits (0x130 :: capitalCodes ++ markCodes)).testBit row.2 = false ∧
        (bits (0x130 :: markCodes)).testBit row.1 = false) ∧
      (0 < row.2 ∧ row.2 < 2 ^ 17 ∧ (row.2 < 0xAC00 ∨ 0xE000 ≤ row.2)) ∧
      ((row.1 < 0x1100 ∨ 0x1200 ≤ row.1) ∧ (row.1 < 0xAC00 ∨ 0xE000 ≤ row.1 ∧ row.1 < 2 ^ 17)) ∧
      ((bits (pairs.map (·.1))).testBit row.1 = false →
        if (bits twins).testBit row.1 = true then
          (inBlock? duplicates row.1).map lowerCode =
              some ((inBlock? duplicates row.2).getD row.2) ∧
            (inBlock? duplicates row.2 = none ∨
              (bits (pairs.map (·.1))).testBit row.2 = false)
        else (bits (twins ++ pairs.map (·.1))).testBit row.2 = false) := by
  refine ⟨by decide +kernel, ?_⟩
  -- Each part goes through the tables by itself.
  simp only [testBit_eq_digitAt, bits_eq_gathered, imp_and, forall_and]
  refine ⟨⟨?_, ?_⟩, ⟨?_, ?_, ?_⟩, ⟨?_, ?_⟩, ?_⟩
  all_goals decide +kernel

/-- The lower form of a code point, looked up in one number. -/
def lowerEntry (code : Nat) : Nat :=
  if entry (packed capitals) code = 0 then code else entry (packed capitals) code

/-- What the tables say about parts: a capital pair has a lower form with the lowered parts,
what is no capital has none among its parts, and the dotted capital I is spelled out like its
lower form. -/
theorem parts_lowered :
    (∀ row ∈ composites, (bits capitalCodes).testBit row.2.2 = false ∧ row.2.1 ≠ 0x130 ∧
      row.2.1 < 2 ^ 17 ∧ 0 < row.2.2 ∧ row.2.2 < 2 ^ 17 ∧
      if (bits capitalCodes).testBit row.1 = true then
        entry (packed (composites.map fun row => (row.1, row.2.1))) (lowerEntry row.1) =
            lowerEntry row.2.1 ∧
          entry (packed (composites.map fun row => (row.1, row.2.2))) (lowerEntry row.1) = row.2.2
      else row.1 = 0x130 ∨ (bits capitalCodes).testBit row.2.1 = false) ∧
    (∀ row ∈ separables, row.2.1 ≠ 0x130 ∧ (bits capitalCodes).testBit row.1 = false ∧
      (bits capitalCodes).testBit row.2.1 = false ∧
        (bits capitalCodes).testBit row.2.2 = false) ∧
    (∀ block ∈ duplicates, ∀ image ∈ block.2.zipIdx, image.1 ≠ 0x130 ∧
      ((bits capitalCodes).testBit image.1 = true →
        (bits capitalCodes).testBit (block.1 + image.2) = true)) ∧
    (lowered 'İ').flatMap decompose = (decompose 'İ').flatMap lowered := by
  simp only [testBit_eq_digitAt, bits_eq_gathered, lowerEntry, entry_eq_digitAt,
    packed_eq_gathered]
  decide +kernel

/-! ## Lower code points -/

theorem ascending_capitals : capitals.Pairwise (·.1 < ·.1) :=
  List.pairwise_map.mp (List.isChain_iff_pairwise.mp capitals_checked.1.2.2)

theorem stepped?_lowerRuns {code other : Nat} :
    stepped? lowerRuns code = some other ↔ (code, other) ∈ capitals := by
  have ascending := (List.pairwise_flatMap.mp
    (List.isChain_iff_pairwise.mp capitals_checked.1.1)).2
  refine stepped?_eq_some_iff (ascending.imp fun order => ?_) capitals_checked.1.2.1
  exact order _ (by simp) _ List.mem_cons_self

theorem lowerCode_of_mem {code other : Nat} (h : (code, other) ∈ capitals) :
    lowerCode code = other := by
  rw [lowerCode, stepped?_lowerRuns.mpr h, Option.getD_some]

theorem lowerCode_of_not_mem {code : Nat} (h : code ∉ capitalCodes) : lowerCode code = code := by
  have none : stepped? lowerRuns code = none := by
    rw [Option.eq_none_iff_forall_ne_some]
    exact fun other found => h (List.mem_map_of_mem (f := (·.1)) (stepped?_lowerRuns.mp found))
  rw [lowerCode, none, Option.getD_none]

theorem exists_capital {code : Nat} (h : code ∈ capitalCodes) :
    (code, lowerCode code) ∈ capitals := by
  obtain ⟨⟨code, other⟩, member, rfl⟩ := List.mem_map.mp h
  rwa [lowerCode_of_mem member]

theorem lowerEntry_eq (code : Nat) : lowerEntry code = lowerCode code := by
  have small : ∀ row ∈ capitals, row.2 < 2 ^ 17 := fun row member =>
    ((capitals_checked.2 row member).2.1).2.1
  have found : row? capitals code = stepped? lowerRuns code := by
    refine Option.ext fun other => ⟨fun found => ?_, fun found => ?_⟩
    · exact stepped?_lowerRuns.mpr (mem_of_row? found)
    · exact row?_of_mem ascending_capitals (stepped?_lowerRuns.mp found)
  rw [lowerEntry, entry_packed ascending_capitals small, found, lowerCode]
  cases step : stepped? lowerRuns code with
  | none => simp
  | some other =>
      have := (capitals_checked.2 _ (stepped?_lowerRuns.mp step)).2.1.1
      simp only [Option.getD_some]
      exact if_neg (Nat.ne_of_gt this)

/-- The parts of a pair are lowered with it. -/
theorem pair?_lowerCode {code base mark : Nat} (h : pair? code = some (base, mark))
    (plain : code ≠ 0x130) : pair? (lowerCode code) = some (lowerCode base, mark) ∧
      lowerCode mark = mark ∧ base ≠ 0x130 := by
  have unchanged (notCapital : code ∉ capitalCodes) (base' : base ∉ capitalCodes) :
      pair? (lowerCode code) = some (lowerCode base, mark) := by
    rw [lowerCode_of_not_mem notCapital, lowerCode_of_not_mem base', h]
  rcases List.mem_append.mp (mem_of_pair? h) with known | known
  · obtain ⟨plainMark, noDot, -, positive, -, parts⟩ := parts_lowered.1 _ known
    refine ⟨?_, lowerCode_of_not_mem (not_mem_of_bits plainMark), noDot⟩
    by_cases capital : code ∈ capitalCodes
    · rw [if_pos (testBit_bits.mpr capital), lowerEntry_eq, lowerEntry_eq] at parts
      have small : ∀ row ∈ composites, row.2.1 < 2 ^ 17 ∧ row.2.2 < 2 ^ 17 := by
        intro row member
        obtain ⟨-, -, base, -, mark, -⟩ := parts_lowered.1 row member
        exact ⟨base, mark⟩
      have found (f : Nat × Nat → Nat) (small : ∀ row ∈ composites, f row.2 < 2 ^ 17) :
          entry (packed (composites.map fun row => (row.1, f row.2))) (lowerCode code) =
            ((row? composites (lowerCode code)).map f).getD 0 := by
        rw [← row?_map]
        exact entry_packed (List.pairwise_map.mpr ascending_composites)
          (List.forall_mem_map.mpr small) (lowerCode code)
      rw [found (·.1) fun row member => (small row member).1,
        found (·.2) fun row member => (small row member).2] at parts
      cases row : row? composites (lowerCode code) with
      | none =>
          rw [row] at parts
          exact absurd parts.2 (Nat.ne_of_lt positive)
      | some own =>
          rw [row] at parts
          rw [pair?, row]
          exact congrArg some (Prod.ext parts.1 parts.2)
    · rw [if_neg (fun set => capital (testBit_bits.mp set))] at parts
      exact unchanged capital (not_mem_of_bits (parts.resolve_left plain))
  · obtain ⟨noDot, notCapital, base', plainMark⟩ := parts_lowered.2.1 _ known
    exact ⟨unchanged (not_mem_of_bits notCapital) (not_mem_of_bits base'),
      lowerCode_of_not_mem (not_mem_of_bits plainMark), noDot⟩

theorem noSyllable_lowerCode {code : Nat} (h : ¬(0xAC00 ≤ code ∧ code ≤ 0xD7A3)) :
    ¬(0xAC00 ≤ lowerCode code ∧ lowerCode code ≤ 0xD7A3) := by
  by_cases capital : code ∈ capitalCodes
  · have := (capitals_checked.2 _ (exists_capital capital)).2.1
    simp only at this
    omega
  · rwa [lowerCode_of_not_mem capital]

theorem not_pair_of_capital {code : Nat} (capital : code ∈ capitalCodes)
    (single : pair? code = none) : (bits (pairs.map (·.1))).testBit code = false := by
  rw [Bool.eq_false_iff, ne_eq, testBit_bits]
  intro member
  obtain ⟨row, known, rfl⟩ := List.mem_map.mp member
  rcases List.mem_append.mp known with known | known
  · rw [pair?, row?_of_mem ascending_composites known] at single
    cases single
  · exact not_mem_of_bits (parts_lowered.2.1 row known).2.1 capital

/-- The lower form of a letter without parts has no parts either. -/
theorem IsWhole.lowerCode {code : Nat} (whole : IsWhole code) : IsWhole (lowerCode code) := by
  by_cases capital : code ∈ capitalCodes
  · have checked := (capitals_checked.2 _ (exists_capital capital)).2.2.2
      (not_pair_of_capital capital whole.noPair)
    split at checked
    · rw [whole.noTwin] at checked
      cases checked.1
    · have apart := not_mem_of_bits checked
      rw [List.mem_append, not_or] at apart
      exact isWhole_of_not_pair ⟨apart.1, noSyllable_lowerCode whole.noSyllable⟩ apart.2
  · rwa [lowerCode_of_not_mem capital]

theorem spellOut_lowerCode_pair {depth code base mark : Nat} (h : pair? code = some (base, mark))
    (plain : code ≠ 0x130) (noSyllable : ¬(0xAC00 ≤ code ∧ code ≤ 0xD7A3))
    (own : base ≠ 0x130 → spellOut depth (lowerCode base) = (spellOut depth base).map lowerCode) :
    spellOut (depth + 1) (lowerCode code) = (spellOut (depth + 1) code).map lowerCode := by
  obtain ⟨pair, plainMark, noDot⟩ := pair?_lowerCode h plain
  rw [spellOut_succ, if_neg (noSyllable_lowerCode noSyllable), pair, spellOut_succ,
    if_neg noSyllable, h]
  simp only
  rw [own noDot, List.map_append, List.map_singleton, plainMark]

/-- A part is lowered by lowering its own parts. -/
theorem spellOut_lowerCode_part {depth code : Nat} (part : IsPart code) (plain : code ≠ 0x130) :
    spellOut depth (lowerCode code) = (spellOut depth code).map lowerCode := by
  induction depth generalizing code with
  | zero => rfl
  | succ depth ih =>
      cases pair : pair? code with
      | none =>
          have whole : IsWhole code := ⟨part.2, pair, inBlock?_of_not_twin part.1⟩
          rw [whole.lowerCode.spellOut_eq, whole.spellOut_eq, List.map_singleton]
      | some parts =>
          exact spellOut_lowerCode_pair pair plain part.2
            (ih (isPart_of_base _ (mem_of_pair? pair)))

/-- The parts of a Hangul syllable have no lower form. -/
theorem map_lowerCode_jamo {syllable : Nat} (within : 0xAC00 ≤ syllable ∧ syllable ≤ 0xD7A3) :
    (jamo syllable).map lowerCode = jamo syllable := by
  refine (List.map_congr_left fun code member => ?_).trans (List.map_id _)
  have range := jamo_range within member
  refine lowerCode_of_not_mem fun capital => ?_
  have := (capitals_checked.2 _ (exists_capital capital)).2.2.1.1
  simp only at this
  omega

/-- A letter that is another one in any normal form is lowered like that one. -/
theorem spellOut_lowerCode_twin {code other : Nat} (single : pair? code = none)
    (noSyllable : ¬(0xAC00 ≤ code ∧ code ≤ 0xD7A3))
    (twin : inBlock? duplicates code = some other) :
    spellOut 4 (lowerCode code) = (spellOut 4 code).map lowerCode := by
  obtain ⟨block, known, place, image, code_eq⟩ := mem_of_inBlock? twin
  have part : IsPart other := isPart_of_image block known other (List.mem_of_getElem? image)
  obtain ⟨noDot, capital⟩ := parts_lowered.2.2.1 block known (other, place)
    (List.mem_zipIdx_iff_getElem?.mpr image)
  have spelled : spellOut 4 code = spellOut 3 other := by
    rw [spellOut_succ, if_neg noSyllable, single, twin]
  have lowered : spellOut 3 (lowerCode other) = (spellOut 4 code).map lowerCode := by
    rw [spelled, spellOut_lowerCode_part part noDot]
  by_cases own : code ∈ capitalCodes
  · have checked := (capitals_checked.2 _ (exists_capital own)).2.2.2
      (not_pair_of_capital own single)
    have known : code ∈ twins := by
      by_contra noTwin
      rw [inBlock?_of_not_twin noTwin] at twin
      cases twin
    rw [if_pos (testBit_bits.mpr known), twin, Option.map_some] at checked
    obtain ⟨same, apart⟩ := checked
    cases image : inBlock? duplicates (lowerCode code) with
    | none =>
        have same : lowerCode other = lowerCode code := by
          rw [image, Option.getD_none] at same
          exact Option.some.inj same
        have stable := spellOut_stable (isWhole_of_mem_part part)
        rw [← same, spellOut_lowerCode_part part noDot, stable, ← spelled]
    | some other' =>
        rw [image, Option.getD_some] at same
        rw [image] at apart
        have same : lowerCode other = other' := Option.some.inj same
        have single' : pair? (lowerCode code) = none := by
          rw [Option.eq_none_iff_forall_ne_some]
          have apart := not_mem_of_bits (apart.resolve_left (Option.some_ne_none other'))
          exact fun parts found => apart (List.mem_map_of_mem (f := (·.1)) (mem_of_pair? found))
        rw [spellOut_succ, if_neg (noSyllable_lowerCode noSyllable), single', image,
          ← lowered, same]
  · have notCapital : other ∉ capitalCodes := fun member =>
      own (code_eq ▸ testBit_bits.mp (capital (testBit_bits.mpr member)))
    rw [lowerCode_of_not_mem own, ← lowered, lowerCode_of_not_mem notCapital, spelled]

/-- The parts of a code point are lowered with it. -/
theorem spellOut_lowerCode {code : Nat} (plain : code ≠ 0x130) :
    spellOut 4 (lowerCode code) = (spellOut 4 code).map lowerCode := by
  by_cases syllable : 0xAC00 ≤ code ∧ code ≤ 0xD7A3
  · have notCapital : code ∉ capitalCodes := by
      intro capital
      have := (capitals_checked.2 _ (exists_capital capital)).2.2.1.2
      simp only at this
      omega
    rw [lowerCode_of_not_mem notCapital, spellOut_succ, if_pos syllable,
      map_lowerCode_jamo syllable]
  · cases pair : pair? code with
    | some parts =>
        exact spellOut_lowerCode_pair pair plain syllable
          (spellOut_lowerCode_part (isPart_of_base _ (mem_of_pair? pair)))
    | none =>
        cases twin : inBlock? duplicates code with
        | some other => exact spellOut_lowerCode_twin pair syllable twin
        | none =>
            have whole : IsWhole code := ⟨syllable, pair, twin⟩
            rw [whole.lowerCode.spellOut_eq, whole.spellOut_eq, List.map_singleton]

/-! ## Lower letters -/

theorem isValidChar_lowerCode {code : Nat} (valid : code.isValidChar) :
    (lowerCode code).isValidChar := by
  by_cases capital : code ∈ capitalCodes
  · have := (capitals_checked.2 _ (exists_capital capital)).2.1
    simp only at this
    unfold Nat.isValidChar
    omega
  · rwa [lowerCode_of_not_mem capital]

theorem toNat_lowerLetter (c : Char) : (lowerLetter c).toNat = lowerCode c.toNat :=
  toNat_ofNat (isValidChar_lowerCode c.valid)

theorem lowerLetter_ofNat (code : Nat) :
    lowerLetter (Char.ofNat code) = Char.ofNat (lowerCode code) := by
  by_cases valid : code.isValidChar
  · rw [lowerLetter, toNat_ofNat valid]
  · have notCapital : code ∉ capitalCodes := by
      intro capital
      have := (capitals_checked.2 _ (exists_capital capital)).2.2.1.2
      refine valid ?_
      unfold Nat.isValidChar
      omega
    rw [lowerCode_of_not_mem notCapital, Char.ofNat, dif_neg valid]
    rfl

theorem decompose_lowerLetter {c : Char} (plain : c ≠ 'İ') :
    decompose (lowerLetter c) = (decompose c).map lowerLetter := by
  have noDot : c.toNat ≠ 0x130 := fun code => plain (by rw [← Char.ofNat_toNat c, code])
  rw [decompose, toNat_lowerLetter, spellOut_lowerCode noDot, decompose, ofCodes, ofCodes,
    List.map_map, List.map_map]
  exact List.map_congr_left fun code _ => (lowerLetter_ofNat code).symm

theorem ne_dotted {c : Char} (whole : decompose c = [c]) : c ≠ 'İ' := by
  rintro rfl
  revert whole
  decide

/-- Lowering and spelling out can be done in any order. -/
theorem decompose_lowered (c : Char) :
    (lowered c).flatMap decompose = (decompose c).flatMap lowered := by
  by_cases dotted : c = 'İ'
  · rw [dotted, parts_lowered.2.2.2]
  · have parts : (decompose c).flatMap lowered = (decompose c).flatMap fun d => [lowerLetter d] :=
      List.flatMap_congr fun d part => lowered_eq (ne_dotted (decompose_of_mem part))
    rw [lowered_eq dotted, List.flatMap_singleton, decompose_lowerLetter dotted, parts,
      List.map_eq_flatMap]

/-! ## Marks and lower letters -/

theorem lowerCode_lowerCode (code : Nat) : lowerCode (lowerCode code) = lowerCode code := by
  by_cases capital : code ∈ capitalCodes
  · have apart := not_mem_of_bits (capitals_checked.2 _ (exists_capital capital)).1.1
    exact lowerCode_of_not_mem fun member => apart (by simp [member])
  · rw [lowerCode_of_not_mem capital, lowerCode_of_not_mem capital]

theorem lowerLetter_lowerLetter (c : Char) : lowerLetter (lowerLetter c) = lowerLetter c := by
  rw [lowerLetter, toNat_lowerLetter, lowerCode_lowerCode, lowerLetter]

/-- A letter that lowering gives is lowered to itself. -/
theorem lowered_of_mem {c d : Char} (h : d ∈ lowered c) : lowered d = [d] := by
  by_cases dotted : c = 'İ'
  · have own : ∀ d ∈ lowered 'İ', lowered d = [d] := by decide
    exact own d (dotted ▸ h)
  · rw [lowered_eq dotted, List.mem_singleton] at h
    have other : d ≠ 'İ' := by
      intro again
      have code : lowerCode c.toNat = 0x130 := by rw [← toNat_lowerLetter, ← h, again]; rfl
      by_cases capital : c.toNat ∈ capitalCodes
      · have apart := not_mem_of_bits (capitals_checked.2 _ (exists_capital capital)).1.1
        exact apart (by simp [code])
      · rw [lowerCode_of_not_mem capital] at code
        exact dotted (by rw [← Char.ofNat_toNat c, code])
    rw [lowered_eq other, h, lowerLetter_lowerLetter]

theorem lowered_lowerLetter {c : Char} (plain : c ≠ 'İ') :
    lowered (lowerLetter c) = [lowerLetter c] := by
  refine lowered_of_mem (c := c) ?_
  rw [lowered_eq plain]
  exact List.mem_singleton_self _

theorem markClass_lowerLetter (c : Char) : markClass (lowerLetter c) = markClass c := by
  by_cases capital : c.toNat ∈ capitalCodes
  · obtain ⟨apart, noMark⟩ := (capitals_checked.2 _ (exists_capital capital)).1
    have own : markClass c = 0 :=
      markClass_of_not_mem fun member => not_mem_of_bits noMark (List.mem_cons_of_mem _ member)
    have lower : markClass (lowerLetter c) = 0 := by
      refine markClass_of_not_mem fun member => not_mem_of_bits apart ?_
      rw [toNat_lowerLetter] at member
      exact List.mem_append_right _ member
    rw [lower, own]
  · rw [lowerLetter, lowerCode_of_not_mem capital, Char.ofNat_toNat]

/-- A mark is no capital. -/
theorem lowerLetter_of_mark {c : Char} (mark : 0 < markClass c) : lowerLetter c = c := by
  have notCapital : c.toNat ∉ capitalCodes := by
    intro capital
    have noMark := (capitals_checked.2 _ (exists_capital capital)).1.2
    have own := markClass_of_not_mem (c := c) fun member =>
      not_mem_of_bits noMark (List.mem_cons_of_mem _ member)
    omega
  rw [lowerLetter, lowerCode_of_not_mem notCapital, Char.ofNat_toNat]

theorem lowered_of_mark {c : Char} (mark : 0 < markClass c) : lowered c = [c] := by
  have plain : c ≠ 'İ' := by
    rintro rfl
    revert mark
    decide
  rw [lowered_eq plain, lowerLetter_of_mark mark]

/-- A text can be lowered before or after it is decomposed. -/
theorem decomposed_lowered (cs : List Char) :
    decomposed (cs.flatMap lowered) = (decomposed cs).map lowerLetter := by
  have parts : (cs.flatMap decompose).flatMap lowered = (cs.flatMap decompose).map lowerLetter := by
    rw [List.map_eq_flatMap]
    refine List.flatMap_congr fun c part => lowered_eq (ne_dotted ?_)
    obtain ⟨d, -, part⟩ := List.mem_flatMap.mp part
    exact decompose_of_mem part
  rw [decomposed, List.flatMap_assoc, List.flatMap_congr fun c _ => decompose_lowered c,
    ← List.flatMap_assoc, parts, orderMarks_map markClass_lowerLetter, decomposed]

end Inquiry.Text
