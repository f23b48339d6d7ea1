import Inquiry.Proofs.Blanks
import Inquiry.Proofs.CodeTables
import Inquiry.Proofs.TokenText
import Inquiry.Text.Normal

/-!
# The parts of a letter

Decomposing spells a character out by tables and, for Hangul, by arithmetic. What
it is spelled as is whole, so it is spelled out no further (`decompose_of_mem`),
and a joined character is spelled as the letter and the mark that were joined
(`decompose_of_join?`).

Chains of equivalents are short. The pairs whose base is a pair again are a layer
of the table, those whose base is in that layer are the next one, and the third
layer is empty. The tables are large, and so sets of code points are read off the
bits of a number where a whole table is gone through.
-/

namespace Inquiry.Text

open CodeTable

/-- All pairs, whether or not they are joined in composed text. -/
def pairs : List (Nat × Nat × Nat) := composites ++ separables

/-- The base and the mark of a code point. -/
def pair? (code : Nat) : Option (Nat × Nat) := row? composites code <|> row? separables code

theorem mem_of_pair? {code : Nat} {parts : Nat × Nat} (h : pair? code = some parts) :
    (code, parts) ∈ pairs := by
  rw [pair?, Option.orElse_eq_orElse, Option.orElse_eq_or, Option.or_eq_some_iff] at h
  rcases h with found | ⟨-, found⟩
  · exact List.mem_append_left _ (mem_of_row? found)
  · exact List.mem_append_right _ (mem_of_row? found)

/-- The code points that are another one in any normal form. -/
def twins : List Nat := duplicates.flatMap fun block => List.range' block.1 block.2.length

theorem inBlock?_of_not_twin {code : Nat} (h : code ∉ twins) :
    inBlock? duplicates code = none := by
  rw [Option.eq_none_iff_forall_ne_some]
  intro other found
  obtain ⟨block, member, place, image, rfl⟩ := mem_of_inBlock? found
  obtain ⟨within, -⟩ := List.getElem?_eq_some_iff.mp image
  refine h (List.mem_flatMap.mpr ⟨block, member, ?_⟩)
  rw [List.mem_range'_1]
  omega

/-! ## Sets of code points -/

/-- A set of numbers as the bits of one number. -/
def bits (codes : List Nat) : Nat := codes.foldl (fun set code => set ||| 1 <<< code) 0

theorem testBit_bits {codes : List Nat} {code : Nat} :
    (bits codes).testBit code = true ↔ code ∈ codes := by
  have joined (set : Nat) :
      (codes.foldl (fun set code => set ||| 1 <<< code) set).testBit code = true ↔
        set.testBit code = true ∨ code ∈ codes := by
    induction codes generalizing set with
    | nil => simp
    | cons first codes ih =>
        have single : (1 <<< first).testBit code = true ↔ code = first := by
          rw [Nat.one_shiftLeft, Nat.testBit_two_pow, decide_eq_true_iff, eq_comm]
        rw [List.foldl_cons, ih, Nat.testBit_or, Bool.or_eq_true, single, List.mem_cons, or_assoc]
  rw [bits, joined]
  simp

theorem bits_eq_gathered (codes : List Nat) :
    bits codes = gathered 1 0 0 0 (codes.map fun code => (code, 1)) := by
  rw [gathered_eq, List.foldl_map, bits]
  simp only [Nat.one_mul]
  rfl

theorem not_mem_of_bits {codes : List Nat} {code : Nat} (h : (bits codes).testBit code = false) :
    code ∉ codes := by
  intro member
  rw [testBit_bits.mpr member] at h
  cases h

/-- The pairs whose base is a pair of the layer before. -/
def layer : Nat → List (Nat × Nat × Nat)
  | 0 => pairs
  | n + 1 => pairs.filter fun row => (bits ((layer n).map (·.1))).testBit row.2.1

/-- What the parts of a pair and the images of twins are: no twins and no Hangul
syllables. -/
def IsPart (code : Nat) : Prop := code ∉ twins ∧ ¬(0xAC00 ≤ code ∧ code ≤ 0xD7A3)

/-- Whether a code point is no part, by the bits of a number. -/
def isNoPart (code : Nat) : Bool :=
  (spanned ((0xAC00, 0xD7A3) ::
    duplicates.map fun block => (block.1, block.1 + block.2.length - 1))).testBit code

theorem isPart_of_bits {code : Nat} (h : isNoPart code = false) : IsPart code := by
  rw [isNoPart, Bool.eq_false_iff, ne_eq, testBit_spanned, List.exists_mem_cons_iff, not_or] at h
  refine ⟨fun twin => h.2 ?_, h.1⟩
  obtain ⟨block, known, within⟩ := List.mem_flatMap.mp twin
  rw [List.mem_range'_1] at within
  exact ⟨_, List.mem_map_of_mem known, by simp only; omega⟩

/-- What the tables say about parts. The third layer of pairs is empty. The base and the mark of
a pair are parts, and the mark is no pair again; the images of twins are parts; neither pairs nor
twins are letters of Hangul; and joined letters ascend by their code points. -/
theorem parts_checked :
    layer 3 = [] ∧
    (∀ row ∈ pairs, isNoPart row.2.1 = false ∧ isNoPart row.2.2 = false ∧
      (bits (pairs.map (·.1))).testBit row.2.2 = false ∧ (row.1 < 0x1100 ∨ 0x1200 ≤ row.1)) ∧
    ((∀ block ∈ duplicates, ∀ other ∈ block.2, isNoPart other = false) ∧
      ∀ code ∈ twins, code < 0x1100 ∨ 0x1200 ≤ code) ∧
    (composites.map (·.1)).IsChain (· < ·) ∧
      ∀ row ∈ composites, row.1 < 0xAC00 ∨ 0xE000 ≤ row.1 ∧ row.1 < 0x110000 := by
  decide +kernel

theorem isPart_of_base : ∀ row ∈ pairs, IsPart row.2.1 := fun row member =>
  isPart_of_bits (parts_checked.2.1 row member).1

theorem isPart_of_image : ∀ block ∈ duplicates, ∀ other ∈ block.2, IsPart other :=
  fun block member other image => isPart_of_bits (parts_checked.2.2.1.1 block member other image)

/-! ## Whole code points -/

/-- A code point that is spelled as itself. -/
structure IsWhole (code : Nat) : Prop where
  noSyllable : ¬(0xAC00 ≤ code ∧ code ≤ 0xD7A3)
  noPair : pair? code = none
  noTwin : inBlock? duplicates code = none

theorem spellOut_succ (depth code : Nat) : spellOut (depth + 1) code =
    if 0xAC00 ≤ code ∧ code ≤ 0xD7A3 then jamo code
    else match pair? code with
      | some (base, mark) => spellOut depth base ++ [mark]
      | none =>
        match inBlock? duplicates code with
        | some other => spellOut depth other
        | none => [code] := rfl

theorem IsWhole.spellOut_eq {code : Nat} (whole : IsWhole code) (depth : Nat) :
    spellOut depth code = [code] := by
  cases depth with
  | zero => rfl
  | succ depth => rw [spellOut_succ, if_neg whole.noSyllable, whole.noPair, whole.noTwin]

theorem isWhole_of_not_pair {code : Nat} (part : IsPart code) (h : code ∉ pairs.map (·.1)) :
    IsWhole code := by
  refine ⟨part.2, ?_, inBlock?_of_not_twin part.1⟩
  rw [Option.eq_none_iff_forall_ne_some]
  exact fun parts found => h (List.mem_map_of_mem (f := (·.1)) (mem_of_pair? found))

theorem isWhole_of_mark : ∀ row ∈ pairs, IsWhole row.2.2 := by
  intro row member
  obtain ⟨-, mark, pairless, -⟩ := parts_checked.2.1 row member
  exact isWhole_of_not_pair (isPart_of_bits mark) (not_mem_of_bits pairless)

/-- The consonants and vowels that Hangul syllables consist of. -/
theorem isWhole_of_jamo {code : Nat} (h : 0x1100 ≤ code ∧ code < 0x1200) : IsWhole code := by
  refine isWhole_of_not_pair ⟨fun twin => ?_, by omega⟩ fun pair => ?_
  · have := parts_checked.2.2.1.2 code twin
    omega
  · obtain ⟨row, member, rfl⟩ := List.mem_map.mp pair
    have := (parts_checked.2.1 row member).2.2.2
    omega

theorem jamo_range {syllable code : Nat} (within : 0xAC00 ≤ syllable ∧ syllable ≤ 0xD7A3)
    (member : code ∈ jamo syllable) : 0x1100 ≤ code ∧ code < 0x1200 := by
  simp only [jamo, List.cons_append, List.nil_append, List.mem_cons] at member
  rcases member with rfl | rfl | member
  · omega
  · omega
  · split at member
    · cases member
    · rw [List.mem_singleton] at member
      omega

/-- A part whose pair is in no deeper layer is spelled out in as many steps. -/
theorem isWhole_of_mem_layer {depth code : Nat} (part : IsPart code)
    (h : code ∉ (layer depth).map (·.1)) : ∀ own ∈ spellOut depth code, IsWhole own := by
  induction depth generalizing code with
  | zero =>
      intro own member
      rw [List.mem_singleton.mp member]
      exact isWhole_of_not_pair part h
  | succ depth ih =>
      rw [spellOut_succ, if_neg part.2]
      cases found : pair? code with
      | none =>
          have single := inBlock?_of_not_twin part.1
          simp only [single]
          intro own member
          rw [List.mem_singleton.mp member]
          exact ⟨part.2, found, single⟩
      | some parts =>
          have known := mem_of_pair? found
          have base : parts.1 ∉ (layer depth).map (·.1) := by
            intro deeper
            refine h (List.mem_map_of_mem (f := (·.1)) (List.mem_filter.mpr ⟨known, ?_⟩))
            exact testBit_bits.mpr deeper
          intro own member
          rcases List.mem_append.mp member with member | member
          · exact ih (isPart_of_base _ known) base own member
          · rw [List.mem_singleton.mp member]
            exact isWhole_of_mark _ known

theorem isWhole_of_mem_part {code : Nat} (part : IsPart code) :
    ∀ own ∈ spellOut 3 code, IsWhole own :=
  isWhole_of_mem_layer part (by simp [parts_checked.1])

/-- A code point is spelled as whole ones. -/
theorem isWhole_of_mem_spellOut (code : Nat) : ∀ own ∈ spellOut 4 code, IsWhole own := by
  rw [spellOut_succ]
  split
  · next syllable => exact fun own member => isWhole_of_jamo (jamo_range syllable member)
  · next noSyllable =>
      cases pair : pair? code with
      | some parts =>
          have known := mem_of_pair? pair
          intro own member
          rcases List.mem_append.mp member with member | member
          · exact isWhole_of_mem_part (isPart_of_base _ known) own member
          · rw [List.mem_singleton.mp member]
            exact isWhole_of_mark _ known
      | none =>
          cases twin : inBlock? duplicates code with
          | some other =>
              obtain ⟨block, known, place, image, -⟩ := mem_of_inBlock? twin
              exact isWhole_of_mem_part (isPart_of_image block known other
                (List.mem_of_getElem? image))
          | none =>
              intro own member
              rw [List.mem_singleton.mp member]
              exact ⟨noSyllable, pair, twin⟩

/-- Where all parts are whole, no further step does anything. -/
theorem spellOut_stable {depth code : Nat} (h : ∀ own ∈ spellOut depth code, IsWhole own) :
    spellOut (depth + 1) code = spellOut depth code := by
  induction depth generalizing code with
  | zero => exact (h code (List.mem_singleton_self code)).spellOut_eq 1
  | succ depth ih =>
      rw [spellOut_succ] at h
      rw [spellOut_succ (depth + 1), spellOut_succ depth]
      split
      · rfl
      · next noSyllable =>
          rw [if_neg noSyllable] at h
          cases pair : pair? code with
          | some parts =>
              rw [pair] at h
              exact congrArg (· ++ [parts.2])
                (ih fun own member => h own (List.mem_append_left _ member))
          | none =>
              cases twin : inBlock? duplicates code with
              | some other =>
                  rw [pair, twin] at h
                  exact ih h
              | none => rfl

/-! ## Letters -/

theorem toNat_ofNat {code : Nat} (valid : code.isValidChar) : (Char.ofNat code).toNat = code := by
  rw [Char.ofNat, dif_pos valid]
  rfl

theorem mem_ofCodes {c : Char} {codes : List Nat} (h : c.toNat ∈ codes) : c ∈ ofCodes codes :=
  List.mem_map.mpr ⟨c.toNat, h, Char.ofNat_toNat c⟩

theorem decompose_of_whole {c : Char} (whole : IsWhole c.toNat) : decompose c = [c] := by
  rw [decompose, whole.spellOut_eq]
  simp [ofCodes]

/-- The parts of a letter have no parts themselves. -/
theorem decompose_of_mem {c d : Char} (h : d ∈ decompose c) : decompose d = [d] := by
  obtain ⟨code, member, rfl⟩ := List.mem_map.mp h
  by_cases valid : code.isValidChar
  · apply decompose_of_whole
    rw [toNat_ofNat valid]
    exact isWhole_of_mem_spellOut _ code member
  · rw [Char.ofNat, dif_neg valid]
    decide

theorem decompose_ne_nil (c : Char) : decompose c ≠ [] := by
  have spelled (depth code : Nat) : spellOut depth code ≠ [] := by
    induction depth generalizing code with
    | zero => exact List.cons_ne_nil code []
    | succ depth ih =>
        rw [spellOut_succ]
        split
        · simp [jamo]
        · split
          · simp
          · split
            · exact ih _
            · simp
  exact fun nil => spelled 4 c.toNat (List.map_eq_nil_iff.mp nil)

theorem ascending_composites : composites.Pairwise (·.1 < ·.1) :=
  List.pairwise_map.mp (List.isChain_iff_pairwise.mp parts_checked.2.2.2.1)

theorem spellOut_of_composite {code base mark : Nat} (h : (code, base, mark) ∈ composites) :
    code.isValidChar ∧ spellOut 4 code = spellOut 4 base ++ [mark] := by
  have range := parts_checked.2.2.2.2 _ h
  have known : (code, base, mark) ∈ pairs := List.mem_append_left _ h
  have part : IsPart base := isPart_of_base _ known
  have pair : pair? code = some (base, mark) := by
    rw [pair?, row?_of_mem ascending_composites h]
    rfl
  refine ⟨by unfold Nat.isValidChar; omega, ?_⟩
  rw [spellOut_stable (isWhole_of_mem_part part), spellOut_succ, if_neg (by omega), pair]

theorem decompose_of_jamo {c : Char} (h : 0x1100 ≤ c.toNat ∧ c.toNat < 0x1200) :
    decompose c = [c] :=
  decompose_of_whole (isWhole_of_jamo h)

/-- A syllable by the numbers of its consonants and its vowel. -/
theorem decompose_syllable {lead vowel trail : Nat} (hlead : lead < 19) (hvowel : vowel < 21)
    (htrail : trail < 28) {c : Char} (h : c.toNat = 0xAC00 + (lead * 21 + vowel) * 28 + trail) :
    decompose c = ofCodes
      ([0x1100 + lead, 0x1161 + vowel] ++ if trail = 0 then [] else [0x11A7 + trail]) := by
  have first : (c.toNat - 0xAC00) / 588 = lead := by omega
  have second : (c.toNat - 0xAC00) % 588 / 28 = vowel := by omega
  have third : (c.toNat - 0xAC00) % 28 = trail := by omega
  rw [decompose, spellOut_succ, if_pos (by omega)]
  simp only [jamo, first, second, third]

/-- What is joined is a syllable of Hangul, or it stands in the table. -/
theorem join?_cases {base mark joined : Char} (h : join? base mark = some joined) :
    ((0x1100 ≤ base.toNat ∧ base.toNat ≤ 0x1112 ∨ 0xAC00 ≤ base.toNat) ∧
        (0x1161 ≤ mark.toNat ∧ mark.toNat ≤ 0x11C2) ∧
          0xAC00 ≤ joined.toNat ∧ joined.toNat ≤ 0xD7A3) ∨
      (joined.toNat, base.toNat, mark.toNat) ∈ composites := by
  have syllable {code : Nat} (within : code ≤ 0xD7A3) : (Char.ofNat code).toNat = code :=
    toNat_ofNat (Or.inl (by omega))
  simp only [join?] at h
  split at h
  · cases h
  · split at h
    · rw [← Option.some.inj h, syllable (by omega)]
      exact .inl (by omega)
    · split at h
      · rw [← Option.some.inj h, syllable (by omega)]
        exact .inl (by omega)
      · obtain ⟨code, found, rfl⟩ := Option.map_eq_some_iff.mp h
        have known := mem_of_composite? found
        rw [toNat_ofNat (spellOut_of_composite known).1]
        exact .inr known

/-- A joined character has the parts of its base, and then the mark. -/
theorem decompose_of_join? {base mark joined : Char} (h : join? base mark = some joined) :
    decompose joined = decompose base ++ [mark] := by
  have own (c : Char) {code : Nat} (h : c.toNat = code) : Char.ofNat code = c := by simp [← h]
  have valid {code : Nat} (h : code ≤ 0xD7A3) : (Char.ofNat code).toNat = code :=
    toNat_ofNat (Or.inl (by omega))
  simp only [join?] at h
  split at h
  · cases h
  · split at h
    · next leads =>
        -- A leading consonant and a vowel are a syllable.
        obtain ⟨lead, hlead⟩ := Nat.exists_eq_add_of_le leads.1
        obtain ⟨vowel, hvowel⟩ := Nat.exists_eq_add_of_le leads.2.2.1
        have code : 0xAC00 + ((base.toNat - 0x1100) * 21 + (mark.toNat - 0x1161)) * 28 =
            0xAC00 + (lead * 21 + vowel) * 28 + 0 := by omega
        rw [← Option.some.inj h, code,
          decompose_syllable (by omega) (by omega) (Nat.zero_lt_succ 27) (valid (by omega)),
          decompose_of_jamo (by omega)]
        simp [ofCodes, own base hlead, own mark hvowel]
    · split at h
      · next trails =>
          -- A trailing consonant is added to a syllable without one.
          obtain ⟨trail, htrail⟩ := Nat.exists_eq_add_of_le (Nat.le_of_succ_le trails.2.2.2.1)
          obtain ⟨lead, vowel, hlead, hvowel, hbase⟩ : ∃ lead vowel, lead < 19 ∧ vowel < 21 ∧
              base.toNat = 0xAC00 + (lead * 21 + vowel) * 28 + 0 :=
            ⟨(base.toNat - 0xAC00) / 588, (base.toNat - 0xAC00) % 588 / 28,
              by omega, by omega, by omega⟩
          have code : base.toNat + (mark.toNat - 0x11A7) =
              0xAC00 + (lead * 21 + vowel) * 28 + trail := by omega
          rw [← Option.some.inj h, code,
            decompose_syllable hlead hvowel (by omega) (valid (by omega)),
            decompose_syllable hlead hvowel (Nat.zero_lt_succ 27) hbase, if_neg (by omega)]
          simp [ofCodes, own mark htrail]
      · obtain ⟨code, found, rfl⟩ := Option.map_eq_some_iff.mp h
        obtain ⟨valid, spelled⟩ := spellOut_of_composite (mem_of_composite? found)
        rw [decompose, toNat_ofNat valid, spelled, decompose]
        simp [ofCodes]

/-! ## Blanks -/

/-- A set of code points that are parts of nothing else: whatever has one of them
among its parts is in the set itself. -/
structure IsApart (codes : List Nat) : Prop where
  pairs : ∀ row ∈ pairs, (bits codes).testBit row.2.1 = false ∧ (bits codes).testBit row.2.2 = false
  twins : ∀ block ∈ duplicates, ∀ image ∈ block.2.zipIdx, (bits codes).testBit image.1 = true →
    (bits codes).testBit (block.1 + image.2) = true
  jamo : ∀ code ∈ codes, code < 0x1100 ∨ 0x1200 ≤ code
  /-- Zero is what a number becomes that is no code point. -/
  zero : 0 ∉ codes

theorem IsApart.not_mem_spellOut {codes : List Nat} (apart : IsApart codes) {depth code : Nat}
    (h : code ∉ codes) : ∀ own ∈ spellOut depth code, own ∉ codes := by
  induction depth generalizing code with
  | zero =>
      intro own member
      rwa [List.mem_singleton.mp member]
  | succ depth ih =>
      rw [spellOut_succ]
      split
      · next syllable =>
          intro own member known
          have range := jamo_range syllable member
          have := apart.jamo own known
          omega
      · cases pair : pair? code with
        | some parts =>
            obtain ⟨base, mark⟩ := apart.pairs _ (mem_of_pair? pair)
            intro own member
            rcases List.mem_append.mp member with member | member
            · exact ih (not_mem_of_bits base) own member
            · rw [List.mem_singleton.mp member]
              exact not_mem_of_bits mark
        | none =>
            cases twin : inBlock? duplicates code with
            | some other =>
                obtain ⟨block, known, place, image, rfl⟩ := mem_of_inBlock? twin
                have placed : (other, place) ∈ block.2.zipIdx :=
                  List.mem_zipIdx_iff_getElem?.mpr image
                refine ih fun inside => h ?_
                exact testBit_bits.mp (apart.twins block known _ placed (testBit_bits.mpr inside))
            | none =>
                intro own member
                rwa [List.mem_singleton.mp member]

theorem IsApart.not_mem {codes : List Nat} (apart : IsApart codes) {c d : Char}
    (h : c.toNat ∉ codes) (member : d ∈ decompose c) : d.toNat ∉ codes := by
  obtain ⟨code, own, rfl⟩ := List.mem_map.mp member
  by_cases valid : code.isValidChar
  · rw [toNat_ofNat valid]
    exact apart.not_mem_spellOut h code own
  · rw [Char.ofNat, dif_neg valid]
    exact apart.zero

/-- What the tables say about blanks: they are parts of nothing else, are no marks, and are
spelled as blanks. -/
theorem blankCodes_checked : IsApart blankCodes ∧ ∀ c ∈ ofCodes blankCodes, markClass c = 0 ∧
    (decompose c).map isBlank = [true] ∧ (c = ' ' → decompose c = [' ']) :=
  ⟨⟨by decide +kernel, by decide +kernel, by decide, by decide⟩, by decide +kernel⟩

theorem blanks_checked {c : Char} (h : isBlank c = true) :
    markClass c = 0 ∧ (decompose c).map isBlank = [true] ∧ (c = ' ' → decompose c = [' ']) :=
  blankCodes_checked.2 c (mem_ofCodes (isBlank_iff.mp h))

theorem markClass_of_isBlank {c : Char} (h : isBlank c = true) : markClass c = 0 :=
  (blanks_checked h).1

theorem decompose_of_isBlank {c : Char} (h : isBlank c = true) :
    ∃ b, decompose c = [b] ∧ isBlank b = true ∧ (c = ' ' → b = ' ') := by
  obtain ⟨-, blank, space⟩ := blanks_checked h
  obtain ⟨b, parts, blank⟩ := List.map_eq_singleton_iff.mp blank
  exact ⟨b, parts, blank, fun own => List.singleton_inj.mp (parts.symm.trans (space own))⟩

/-- Visible characters have visible parts. -/
theorem visible_of_mem_decompose {c d : Char} (h : isBlank c = false) (member : d ∈ decompose c) :
    isBlank d = false := by
  rw [Bool.eq_false_iff, ne_eq, isBlank_iff] at h ⊢
  exact blankCodes_checked.1.not_mem h member

end Inquiry.Text
