import Inquiry.Proofs.LetterCase

/-!
# What folding leaves of a letter

Folding leaves letters without parts that present nothing, no marks and no umlauts
(`IsStripped`). They may still be capitals: letters are lowered before presentation forms are
replaced, so a capital that is only presented, like those of `™`, stays. A letter settles
(`Settles`) if only letters without a lower form come from it, and every stripped letter does.

What is left of a joined letter is what is left of its parts (`remainsOf_join?`), unless it is
one of the letters that are spelled with an e or could become one of them.
-/

namespace Inquiry.Text

open CodeTable

/-! ## Presentation forms -/

/-- The presentation forms, each with what it presents. -/
def presentations : List (Nat × List Nat) :=
  (compatibleRuns.flatMap fun run =>
      (List.range' run.1 (run.2.1 + 1 - run.1)).map fun code =>
        (code, [run.2.2 + (code - run.1)])) ++
    (compatibleLetters ++ compatibleIdeographs ++ presentationForms ++ presentationLigatures ++
      compatibleSymbols)

/-- What the tables say about a presentation form. It is no mark, and what it presents has no
parts, presents nothing and is no sharp s. If it is the lower form of a letter, it presents no
letter that has a lower form. -/
theorem presentations_checked : ∀ row ∈ presentations,
    (bits markCodes).testBit row.1 = false ∧
    (∀ code ∈ row.2, (code < 0xAC00 ∨ 0xE000 ≤ code ∧ code < 0x110000) ∧
      (bits (0xDF :: presentations.map (·.1) ++ pairs.map (·.1) ++ twins)).testBit code = false) ∧
    ((bits (capitals.map (·.2))).testBit row.1 = true →
      ∀ code ∈ row.2, (bits (0x130 :: capitalCodes)).testBit code = false) := by
  -- Each part goes through the tables by itself.
  simp only [testBit_eq_digitAt, bits_eq_gathered, imp_and, forall_and]
  refine ⟨?_, ⟨?_, ?_⟩, ?_⟩
  all_goals decide +kernel

theorem unpresent_cases (c : Char) : unpresent c = [c] ∨
    ∃ codes, (c.toNat, codes) ∈ presentations ∧ unpresent c = ofCodes codes := by
  rw [unpresent]
  cases shift : shifted? compatibleRuns c.toNat with
  | some code =>
      obtain ⟨run, known, behind, inside, rfl⟩ := mem_of_shifted? shift
      have own : (c.toNat, [run.2.2 + (c.toNat - run.1)]) ∈ presentations := by
        refine List.mem_append_left _ (List.mem_flatMap.mpr ⟨run, known, ?_⟩)
        exact List.mem_map.mpr ⟨c.toNat, List.mem_range'_1.mpr (by omega), rfl⟩
      exact .inr ⟨_, own, rfl⟩
  | none =>
      simp only
      split
      · next codes found =>
          refine .inr ⟨codes, List.mem_append_right _ ?_, rfl⟩
          have known := mem_of_row? found
          simp only [List.mem_append]
          split_ifs at known <;> tauto
      · exact .inl rfl

theorem unpresent_of_not_mem {c : Char} (h : c.toNat ∉ presentations.map (·.1)) :
    unpresent c = [c] := by
  rcases unpresent_cases c with own | ⟨codes, known, -⟩
  · exact own
  · exact absurd (List.mem_map_of_mem (f := (·.1)) known) h

/-- What is presented has no parts, presents nothing and is no sharp s. -/
theorem presented_of_mem {c : Char} {codes : List Nat} (known : (c.toNat, codes) ∈ presentations)
    {d : Char} (member : d ∈ ofCodes codes) :
    d.toNat ∈ codes ∧ decompose d = [d] ∧ unpresent d = [d] ∧ d ≠ 'ß' := by
  obtain ⟨code, own, rfl⟩ := List.mem_map.mp member
  obtain ⟨range, apart⟩ := (presentations_checked _ known).2.1 code own
  have valid : code.isValidChar := by
    unfold Nat.isValidChar
    omega
  have apart := not_mem_of_bits apart
  simp only [List.cons_append, List.mem_cons, List.mem_append, not_or] at apart
  obtain ⟨noSharp, ⟨noForm, noPair⟩, noTwin⟩ := apart
  have same : (Char.ofNat code).toNat = code := toNat_ofNat valid
  refine ⟨same.symm ▸ own, ?_, unpresent_of_not_mem (same.symm ▸ noForm), fun sharp => ?_⟩
  · refine decompose_of_whole (same.symm ▸ isWhole_of_not_pair ⟨noTwin, ?_⟩ noPair)
    omega
  · exact noSharp (same.symm.trans (congrArg Char.toNat sharp))

/-! ## Letters that are spelled with an e -/

/-- The letters A, O and U with dots or without, and the sharp s, in both cases. Only they are
joined to a letter that is spelled anew. -/
def umlautCodes : List Nat :=
  [0x41, 0x4F, 0x55, 0x61, 0x6F, 0x75, 0xC4, 0xD6, 0xDC, 0xDF, 0xE4, 0xF6, 0xFC, 0x1E9E]

/-- The composites of these letters. -/
def umlautComposites : List (Nat × Nat × Nat) :=
  composites.filter fun row => (bits umlautCodes).testBit row.2.1

/-- What the tables say about these letters. They are joined with marks only, and not to a
dotted capital I; nothing else is joined or lowered to one of them; the small ones are joined
like the capital ones; and the sharp s is part of nothing else. -/
theorem umlauts_checked :
    (∀ row ∈ composites, (bits umlautCodes).testBit row.2.2 = false ∧
      if (bits umlautCodes).testBit row.2.1 = true then
        0 < numberAt markRuns row.2.2 ∧ row.1 ≠ 0x130
      else (bits umlautCodes).testBit row.1 = false) ∧
    (∀ row ∈ capitals, (bits umlautCodes).testBit row.2 = (bits umlautCodes).testBit row.1) ∧
    (∀ code ∈ umlautCodes, joinsOf umlautComposites (lowerCode code) =
      (joinsOf umlautComposites code).map fun row => (lowerCode row.1, row.2)) ∧
    IsApart [0xDF] := by
  refine ⟨by decide +kernel, by decide +kernel, by decide +kernel, ?_⟩
  exact ⟨by decide +kernel, by decide +kernel, by decide, by decide⟩

theorem joinsOf_composites {code : Nat} (known : code ∈ umlautCodes) :
    joinsOf composites code = joinsOf umlautComposites code := by
  rw [joinsOf, joinsOf, umlautComposites, List.filter_filter]
  congr 1
  refine List.filter_congr fun row _ => ?_
  by_cases own : row.2.1 = code
  · simp [own, testBit_bits.mpr known]
  · simp [own]

theorem lowerCode_mem_umlautCodes {code : Nat} : lowerCode code ∈ umlautCodes ↔
    code ∈ umlautCodes := by
  by_cases capital : code ∈ capitalCodes
  · have same := umlauts_checked.2.1 _ (exists_capital capital)
    rw [← testBit_bits, same, testBit_bits]
  · rw [lowerCode_of_not_mem capital]

/-- What joins one of these letters is a mark. -/
theorem umlaut_join? {base mark joined : Char} (join : join? base mark = some joined)
    (known : base.toNat ∈ umlautCodes) : 0 < markClass mark ∧ joined ≠ 'İ' := by
  rcases join?_cases join with ⟨range, -⟩ | row
  · have apart : ∀ code ∈ umlautCodes, ¬(0x1100 ≤ code ∧ code ≤ 0x1112 ∨ 0xAC00 ≤ code) := by
      decide
    exact absurd range (apart _ known)
  · have checked := (umlauts_checked.1 _ row).2
    rw [if_pos (testBit_bits.mpr known)] at checked
    exact ⟨checked.1, fun dotted => checked.2 (congrArg Char.toNat dotted)⟩

/-- No other letter is joined to one of them, or with one. -/
theorem other_join? {base mark joined : Char} (join : join? base mark = some joined)
    (other : base.toNat ∉ umlautCodes) :
    joined.toNat ∉ umlautCodes ∧ mark.toNat ∉ umlautCodes := by
  rcases join?_cases join with ⟨-, range⟩ | row
  · have apart : ∀ code ∈ umlautCodes, ¬(0x1161 ≤ code ∧ code ≤ 0x11C2) ∧ code < 0xAC00 := by
      decide
    refine ⟨fun known => ?_, fun known => (apart _ known).1 range.1⟩
    have := (apart _ known).2
    omega
  · obtain ⟨mark, checked⟩ := umlauts_checked.1 _ row
    rw [if_neg (fun set => other (testBit_bits.mp set))] at checked
    exact ⟨not_mem_of_bits checked, not_mem_of_bits mark⟩

/-- The small ones of these letters are joined like the capital ones. -/
theorem join?_lowerLetter {letter : Char} (known : letter.toNat ∈ umlautCodes) (mark : Char) :
    join? (lowerLetter letter) mark = (join? letter mark).map lowerLetter := by
  have table {base : Char} (known : base.toNat ∈ umlautCodes) : join? base mark =
      if mark.toNat < 0x300 then none
      else (composite? composites base.toNat mark.toNat).map Char.ofNat := by
    have apart : ∀ code ∈ umlautCodes, code < 0x1100 ∨ 0x1112 < code ∧ code < 0xAC00 := by
      decide
    have := apart _ known
    simp only [join?]
    rw [if_neg (c := _ ∧ _) (by omega), if_neg (c := _ ∧ _) (by omega)]
  have small : (lowerLetter letter).toNat ∈ umlautCodes := by
    rw [toNat_lowerLetter, lowerCode_mem_umlautCodes]
    exact known
  rw [table small, table known, toNat_lowerLetter]
  split
  · rfl
  · rw [composite?_eq, joinsOf_composites (lowerCode_mem_umlautCodes.mpr known),
      umlauts_checked.2.2.1 _ known, composite?_eq, joinsOf_composites known, List.find?_map]
    simp only [Option.map_map, Function.comp_def, lowerLetter_ofNat]

/-! ## Stripped letters -/

/-- A character of which nothing is left to be folded but its case. -/
structure IsStripped (c : Char) : Prop extends IsBare c where
  plain : unpresent c = [c]
  noSharp : c ≠ 'ß'

theorem spellUmlaut_of_whole {c : Char} (whole : decompose c = [c]) (noSharp : c ≠ 'ß') :
    spellUmlaut c = [c] := by
  have parted : ∀ umlaut ∈ ['ä', 'ö', 'ü'], decompose umlaut ≠ [umlaut] := by decide
  simp only [List.forall_mem_cons] at parted
  rw [spellUmlaut, if_neg, if_neg, if_neg, if_neg noSharp]
  all_goals
    rintro rfl
    tauto

/-- What folding leaves of a letter that has been lowered. -/
def stripped (c : Char) : List Char :=
  (((spellUmlaut c).flatMap decompose).flatMap unpresent).filter fun d => markClass d == 0

theorem stripped_of_whole {c : Char} (whole : decompose c = [c]) (noSharp : c ≠ 'ß') :
    stripped c = (unpresent c).filter fun d => markClass d == 0 := by
  rw [stripped, spellUmlaut_of_whole whole noSharp, List.flatMap_singleton, whole,
    List.flatMap_singleton]

theorem IsStripped.stripped_eq {c : Char} (h : IsStripped c) : stripped c = [c] := by
  rw [stripped_of_whole h.whole h.noSharp, h.plain]
  simp [h.noMark]

theorem isStripped_of_mem_stripped {c d : Char} (h : d ∈ stripped c) : IsStripped d := by
  obtain ⟨member, noMark⟩ := List.mem_filter.mp h
  rw [beq_iff_eq] at noMark
  obtain ⟨part, member, presented⟩ := List.mem_flatMap.mp member
  obtain ⟨letter, spelled, member⟩ := List.mem_flatMap.mp member
  rcases unpresent_cases part with own | ⟨codes, known, image⟩
  · obtain rfl : d = part := by simpa [own] using presented
    refine ⟨⟨decompose_of_mem member, noMark⟩, own, ?_⟩
    -- The sharp s is part of nothing else, and it has been spelled.
    have apart : IsApart [0xDF] := umlauts_checked.2.2.2
    have noSharp : letter ≠ 'ß' := by
      rintro rfl
      rw [spellUmlaut] at spelled
      split_ifs at spelled with _ _ _ sharp
      all_goals simp_all [eq_comm]
    rintro rfl
    refine apart.not_mem (c := letter) (fun sharp => noSharp ?_) member (by decide)
    rw [← Char.ofNat_toNat letter, List.mem_singleton.mp sharp]
  · rw [image] at presented
    obtain ⟨-, whole, plain, noSharp⟩ := presented_of_mem known presented
    exact ⟨⟨whole, noMark⟩, plain, noSharp⟩

theorem unpresent_of_mark {c : Char} (mark : 0 < markClass c) : unpresent c = [c] := by
  refine unpresent_of_not_mem fun known => ?_
  obtain ⟨row, member, code⟩ := List.mem_map.mp known
  have noMark := markClass_of_not_mem (c := c)
    (code ▸ not_mem_of_bits (presentations_checked row member).1)
  omega

/-! ## What is left of a letter -/

/-- What folding leaves of a letter that stands by itself. -/
def remainsOf (c : Char) : List Char := (lowered c).flatMap stripped

/-- What the lowered parts of a letter present. -/
def lowParts (c : Char) : List Char := ((decompose c).flatMap lowered).flatMap unpresent

/-- Whether a letter is its own lower form. -/
def IsLow (c : Char) : Prop := lowered c = [c]

instance (c : Char) : Decidable (IsLow c) := inferInstanceAs (Decidable (_ = _))

/-- Whether only low letters come from a letter. -/
def Settles (c : Char) : Prop := ∀ d ∈ lowParts c, IsLow d

instance (c : Char) : Decidable (Settles c) := inferInstanceAs (Decidable (∀ d ∈ lowParts c, _))

theorem lowParts_of_mark {c : Char} (whole : decompose c = [c]) (mark : 0 < markClass c) :
    lowParts c = [c] := by
  rw [lowParts, whole, List.flatMap_singleton, lowered_of_mark mark, List.flatMap_singleton,
    unpresent_of_mark mark]

/-- Of a mark nothing is left. -/
theorem remainsOf_of_mark {c : Char} (whole : decompose c = [c]) (mark : 0 < markClass c) :
    remainsOf c = [] := by
  have noSharp : c ≠ 'ß' := by
    rintro rfl
    revert mark
    decide
  rw [remainsOf, lowered_of_mark mark, List.flatMap_singleton, stripped_of_whole whole noSharp,
    unpresent_of_mark mark]
  simp [Nat.ne_of_gt mark]

/-- A stripped letter settles. -/
theorem IsStripped.settles {c : Char} (h : IsStripped c) : Settles c := by
  have lower : lowered c = [lowerLetter c] := lowered_eq (ne_dotted h.whole)
  have own : IsLow (lowerLetter c) := lowered_lowerLetter (ne_dotted h.whole)
  intro d member
  rw [lowParts, h.whole, List.flatMap_singleton, lower, List.flatMap_singleton] at member
  rcases unpresent_cases (lowerLetter c) with same | ⟨codes, known, image⟩
  · rw [same, List.mem_singleton] at member
    exact member ▸ own
  · by_cases capital : c.toNat ∈ capitalCodes
    · rw [image] at member
      have code := (presented_of_mem known member).1
      rw [toNat_lowerLetter] at known
      have lowForm : lowerCode c.toNat ∈ capitals.map (·.2) :=
        List.mem_map_of_mem (f := (·.2)) (exists_capital capital)
      have apart := not_mem_of_bits
        ((presentations_checked _ known).2.2 (testBit_bits.mpr lowForm) _ code)
      rw [List.mem_cons, not_or] at apart
      have plain : d ≠ 'İ' := fun dotted => apart.1 (congrArg Char.toNat dotted)
      rw [IsLow, lowered_eq plain, lowerLetter, lowerCode_of_not_mem apart.2, Char.ofNat_toNat]
    · have same : lowerLetter c = c := by
        rw [lowerLetter, lowerCode_of_not_mem capital, Char.ofNat_toNat]
      rw [same] at member own
      rw [h.plain, List.mem_singleton] at member
      exact member ▸ own

/-! ## Joined letters -/

theorem spellUmlaut_of_not_mem {c : Char} (h : c.toNat ∉ umlautCodes) : spellUmlaut c = [c] := by
  rw [spellUmlaut, if_neg, if_neg, if_neg, if_neg]
  all_goals
    rintro rfl
    exact h (by decide)

theorem not_mem_umlautCodes_of_lowered {c d : Char} (h : c.toNat ∉ umlautCodes)
    (member : d ∈ lowered c) : d.toNat ∉ umlautCodes := by
  by_cases dotted : c = 'İ'
  · have own : ∀ d ∈ lowered 'İ', d.toNat ∉ umlautCodes := by decide
    exact own d (dotted ▸ member)
  · rw [lowered_eq dotted, List.mem_singleton] at member
    rwa [member, toNat_lowerLetter, lowerCode_mem_umlautCodes]

/-- Of any other letter the lowered parts are left, without marks. -/
theorem remainsOf_eq {c : Char} (h : c.toNat ∉ umlautCodes) :
    remainsOf c = (lowParts c).filter fun d => markClass d == 0 := by
  have spelled : (lowered c).flatMap stripped = (lowered c).flatMap fun d =>
      ((decompose d).flatMap unpresent).filter fun e => markClass e == 0 := by
    refine List.flatMap_congr fun d member => ?_
    rw [stripped, spellUmlaut_of_not_mem (not_mem_umlautCodes_of_lowered h member),
      List.flatMap_singleton]
  rw [remainsOf, spelled, ← List.filter_flatMap, ← List.flatMap_assoc, decompose_lowered, lowParts]

theorem lowParts_of_join? {base mark joined : Char} (join : join? base mark = some joined)
    (whole : decompose mark = [mark]) : lowParts joined = lowParts base ++ lowParts mark := by
  rw [lowParts, decompose_of_join? join, List.flatMap_append, List.flatMap_append, lowParts,
    lowParts, whole]

theorem remainsOf_of_join? {base mark joined : Char} (join : join? base mark = some joined)
    (other : base.toNat ∉ umlautCodes) (whole : decompose mark = [mark]) :
    remainsOf joined = remainsOf base ++ remainsOf mark := by
  obtain ⟨joined', mark'⟩ := other_join? join other
  rw [remainsOf_eq joined', remainsOf_eq other, remainsOf_eq mark', lowParts_of_join? join whole,
    List.filter_append]

theorem remainsOf_lowerLetter {c : Char} (plain : c ≠ 'İ') :
    remainsOf (lowerLetter c) = remainsOf c := by
  rw [remainsOf, lowered_lowerLetter plain, remainsOf, lowered_eq plain]

end Inquiry.Text
