import Inquiry.Expert
import Inquiry.Proofs.DateText
import Inquiry.Proofs.LongIntegers
import Inquiry.Proofs.Wordwise

/-!
# Literals have one form

Digits and the signs in numbers, dates and search patterns are not decomposed, and
nothing else is decomposed to them. So a text denotes a number, looks like a date or
holds a wildcard exactly if its decomposed form does, and wherever a literal is read
the form of the text does not matter.

The number of a broker may begin with a letter, and there are characters that are
decomposed to a plain letter. In composed text there are none.
-/

namespace Inquiry

namespace Text

/-- A string in composed form. -/
def composedForm (s : String) : String := String.ofList (composed s.toList)

/-- A string in decomposed form. -/
def decomposedForm (s : String) : String := String.ofList (decomposed s.toList)

theorem decomposedForm_decomposedForm (s : String) :
    decomposedForm (decomposedForm s) = decomposedForm s := by
  simp only [decomposedForm, String.toList_ofList, decomposed_decomposed]

theorem trim_decomposedForm (s : String) : trim (decomposedForm s) = decomposedForm (trim s) := by
  simp only [trim, decomposedForm, String.toList_ofList, wordwise_decomposed.trimmed]

/-! ## Characters of literals -/

/-- The digits of all scripts, and the signs of numbers, dates and patterns. -/
def literalCodes : List Nat :=
  ['%', '*', ',', '-', '.', '/'].map Char.toNat ++ digitZeros.flatMap (List.range' · 10)

theorem isApart_literalCodes : IsApart literalCodes :=
  ⟨by decide +kernel, by decide +kernel, by decide +kernel, by decide +kernel⟩

theorem mem_literalCodes_of_isDigit {c : Char} (h : isDigit c = true) : c.toNat ∈ literalCodes := by
  have among {zeros : List Nat} {code : Nat} (h : (digitAmong zeros code).isSome = true) :
      code ∈ zeros.flatMap (List.range' · 10) := by
    induction zeros with
    | nil => cases h
    | cons first zeros ih =>
        rw [digitAmong] at h
        rw [List.flatMap_cons, List.mem_append, List.mem_range'_1]
        split at h
        · cases h
        · split at h
          · exact .inl (by omega)
          · exact .inr (ih h)
  exact List.mem_append_right _ (among h)

theorem isBare_of_literal {c : Char} (h : c.toNat ∈ literalCodes) : IsBare c := by
  have unset {codes : List Nat}
      (checked : ∀ code ∈ literalCodes, (bits codes).testBit code = false) : c.toNat ∉ codes :=
    not_mem_of_bits (checked _ h)
  have pairless : c.toNat ∉ pairs.map (·.1) := unset (by decide +kernel)
  have single : c.toNat ∉ twins := unset (by decide +kernel)
  have noMark : c.toNat ∉ markCodes := unset (by decide +kernel)
  have noSyllable : ∀ code ∈ literalCodes, ¬(0xAC00 ≤ code ∧ code ≤ 0xD7A3) := by decide +kernel
  exact ⟨decompose_of_whole (isWhole_of_not_pair ⟨single, noSyllable c.toNat h⟩ pairless),
    markClass_of_not_mem noMark⟩

theorem isBare_of_isAlpha {c : Char} (h : c.isAlpha = true) : IsBare c := by
  have checked : ∀ code ∈ List.range 128, (Char.ofNat code).isAlpha = true →
      decompose (Char.ofNat code) = [Char.ofNat code] ∧ markClass (Char.ofNat code) = 0 := by
    decide +kernel
  have small : c.toNat < 128 := by
    change (decide ('A'.val ≤ c.val ∧ c.val ≤ 'Z'.val) ||
      decide ('a'.val ≤ c.val) && decide (c.val ≤ 'z'.val)) = true at h
    simp only [Bool.or_eq_true, Bool.and_eq_true, decide_eq_true_eq, UInt32.le_iff_toNat_le] at h
    have top : 'Z'.val.toNat = 90 ∧ 'z'.val.toNat = 122 := by decide
    change c.val.toNat < 128
    omega
  have own := checked c.toNat (List.mem_range.mpr small)
  rw [Char.ofNat_toNat] at own
  exact ⟨(own h).1, (own h).2⟩

/-- Nothing but a literal is decomposed to one. -/
theorem eq_of_literal_mem_decompose {c d : Char} (h : d.toNat ∈ literalCodes)
    (part : d ∈ decompose c) : c = d := by
  have own : c.toNat ∈ literalCodes := by
    by_contra other
    exact isApart_literalCodes.not_mem other part h
  rw [(isBare_of_literal own).whole] at part
  exact (List.mem_singleton.mp part).symm

theorem literal_mem_decomposed {c : Char} (h : c.toNat ∈ literalCodes) {cs : List Char} :
    c ∈ decomposed cs ↔ c ∈ cs := by
  rw [decomposed, mem_orderMarks, List.mem_flatMap]
  constructor
  · rintro ⟨d, member, part⟩
    exact eq_of_literal_mem_decompose h part ▸ member
  · intro member
    exact ⟨c, member, by rw [(isBare_of_literal h).whole]; exact List.mem_singleton_self c⟩

theorem eq_decomposed_of_literal {cs : List Char}
    (h : ∀ c ∈ decomposed cs, c.toNat ∈ literalCodes) : decomposed cs = cs := by
  refine decomposed_of_bare fun c member => isBare_of_literal ?_
  obtain ⟨d, part⟩ := List.exists_mem_of_ne_nil _ (decompose_ne_nil c)
  have own : d ∈ decomposed cs := mem_orderMarks.mpr (List.mem_flatMap.mpr ⟨c, member, part⟩)
  exact eq_of_literal_mem_decompose (h d own) part ▸ h d own

/-- What accepts literals only reads both forms of a text alike. -/
theorem reads_decomposed {α : Type} {read : List Char → α} {refused : α}
    (only : ∀ cs, read cs ≠ refused → ∀ c ∈ cs, c.toNat ∈ literalCodes) (cs : List Char) :
    read (decomposed cs) = read cs := by
  by_cases own : read cs = refused
  · by_cases other : read (decomposed cs) = refused
    · rw [own, other]
    · rw [eq_decomposed_of_literal (only _ other)]
  · rw [decomposed_of_bare fun c member => isBare_of_literal (only cs own c member)]

end Text

namespace Literal

open Text

/-! ## Numbers and dates -/

theorem digit_or_point_of_plainNumber? {negative : Bool} {cs : List Char}
    (h : plainNumber? negative cs ≠ none) : ∀ c ∈ cs, isDigit c = true ∨ c = '.' := by
  intro c member
  rw [← List.takeWhile_append_dropWhile (p := isDigit) (l := cs), List.mem_append] at member
  rcases member with whole | behind
  · exact .inl (List.mem_takeWhile_imp whole)
  · simp only [plainNumber?] at h
    split at h
    · exact absurd rfl h
    · split at h
      · next nothing =>
          rw [nothing] at behind
          cases behind
      · next sign fraction split =>
          split at h
          · next point =>
              rw [split] at behind
              rcases List.mem_cons.mp behind with rfl | behind
              · exact .inr point.1
              · exact .inl (List.all_eq_true.mp point.2.2 c behind)
          · exact absurd rfl h

/-- Without grouping, what is left of a text that is no literal is none either. -/
theorem literal_of_ungrouped {cs : List Char}
    (h : ∀ c ∈ ungrouped cs, c.toNat ∈ literalCodes) : ∀ c ∈ cs, c.toNat ∈ literalCodes := by
  have signs : ','.toNat ∈ literalCodes ∧ '.'.toNat ∈ literalCodes := by decide
  intro c member
  by_cases point : c = '.'
  · exact point ▸ signs.2
  · have kept : c ∈ cs.filter (· ≠ '.') := List.mem_filter.mpr ⟨member, by simpa using point⟩
    by_cases comma : c = ','
    · exact comma ▸ signs.1
    · have left : c ∈ ungrouped cs := by
        rw [ungrouped]
        split
        · exact List.mem_map.mpr ⟨c, kept, if_neg comma⟩
        · split
          · exact kept
          · exact member
      exact h c left

theorem number?_decomposedForm (text : String) : number? (decomposedForm text) = number? text := by
  have plain {negative : Bool} {cs : List Char} (h : plainNumber? negative cs ≠ none) :
      ∀ c ∈ cs, c.toNat ∈ literalCodes := by
    intro c member
    rcases digit_or_point_of_plainNumber? h c member with digit | rfl
    · exact mem_literalCodes_of_isDigit digit
    · decide
  have read (cs : List Char)
      (h : plainNumber? (signed (ungrouped cs)).1 (signed (ungrouped cs)).2 ≠ none) :
      ∀ c ∈ cs, c.toNat ∈ literalCodes := by
    refine literal_of_ungrouped ?_
    generalize ungrouped cs = left at h
    unfold signed at h
    split at h
    · exact List.forall_mem_cons.mpr ⟨by decide, plain h⟩
    · exact plain h
  simp only [number?, decomposedForm, String.toList_ofList, wordwise_decomposed.trimmed]
  exact reads_decomposed read (trimmed text.toList)

/-- An integer has the same digits in both forms, so it is read in both or in none. -/
theorem number_decomposedForm (text : String) : number (decomposedForm text) = number text := by
  have same := number?_decomposedForm text
  cases found : number? text with
  | none => rw [number_of_none (same.trans found), number_of_none found]
  | some n =>
      cases n with
      | decimal d => rw [number_of_decimal (same.trans found), number_of_decimal found]
      | whole n =>
          have signs : ∀ sign ∈ ['.', ',', '-'], sign.toNat ∈ literalCodes := by decide
          obtain ⟨negative, cs, whole, eq, written, -⟩ := number?_eq_whole_iff.mp found
          have bare : ∀ c ∈ trimmed text.toList, IsBare c := by
            rw [eq]
            exact fun c member => isBare_of_literal
              ((written.chars negative c member).elim mem_literalCodes_of_isDigit (signs c))
          have digits : digitCount (decomposedForm text) = digitCount text := by
            rw [digitCount_eq_countP_trimmed, digitCount_eq_countP_trimmed text, decomposedForm,
              String.toList_ofList, wordwise_decomposed.trimmed, decomposed_of_bare bare]
          rw [number_of_whole (same.trans found), number_of_whole found, digits]

theorem literal_of_isDateText {cs : List Char} (h : IsDateText ['.', '/', '-'] cs) :
    ∀ c ∈ cs, c.toNat ∈ literalCodes := by
  have signs : ∀ sign ∈ ['.', '/', '-'], sign.toNat ∈ literalCodes := by decide
  exact fun c member => (h.chars c member).elim mem_literalCodes_of_isDigit (signs c)

theorem looksLikeDate_decomposedForm (text : String) :
    looksLikeDate (decomposedForm text) = looksLikeDate text := by
  have shaped (cs : List Char) (h : (isDateShape ['.', '/'] [(1, 2), (1, 2), (2, 4)] cs ||
      isDateShape ['-'] [(4, 4), (1, 2), (1, 2)] cs) ≠ false) :
      ∀ c ∈ cs, c.toNat ∈ literalCodes := by
    rw [ne_eq, Bool.not_eq_false, Bool.or_eq_true] at h
    rcases h with shape | shape
    · exact literal_of_isDateText
        ((isDateText_of_isDateShape shape (List.cons_ne_nil _ _) (by decide)).mono (by decide))
    · exact literal_of_isDateText
        ((isDateText_of_isDateShape shape (List.cons_ne_nil _ _) (by decide)).mono (by decide))
  simp only [looksLikeDate, decomposedForm, String.toList_ofList, wordwise_decomposed.trimmed]
  exact reads_decomposed shaped (trimmed text.toList)

theorem date?_decomposedForm {text : String} (h : looksLikeDate text = true) :
    date? (decomposedForm text) = date? text := by
  have literal := literal_of_isDateText (isDateText_of_looksLikeDate h)
  have bare := decomposed_of_bare fun c member => isBare_of_literal (literal c member)
  rw [date?, decomposedForm, String.toList_ofList, wordwise_decomposed.trimmed, bare, date?]

/-! ## Patterns -/

/-- The sign for any run of characters, in place of the one that users write. -/
def percent (c : Char) : Char := if c = '*' then '%' else c

theorem decomposed_map_percent (cs : List Char) :
    decomposed (cs.map percent) = (decomposed cs).map percent := by
  have star : IsBare '*' := isBare_of_literal (by decide)
  have sign : IsBare '%' := isBare_of_literal (by decide)
  refine decomposed_map (fun c => ?_) fun c _ => ?_
  · by_cases own : c = '*'
    · rw [own, star.noMark]
      exact sign.noMark
    · rw [percent, if_neg own]
  · by_cases own : c = '*'
    · rw [own, star.whole]
      exact sign.whole
    · have kept : ∀ d ∈ decompose c, percent d = d := by
        intro d part
        refine if_neg fun same => own ?_
        rw [same] at part
        exact eq_of_literal_mem_decompose (by decide) part
      rw [percent, if_neg own, List.map_congr_left kept, List.map_id']

theorem any_wildcard_decomposed (cs : List Char) :
    ((decomposed cs).any fun c => c = '*' ∨ c = '%') = cs.any fun c => c = '*' ∨ c = '%' := by
  have codes : '*'.toNat ∈ literalCodes ∧ '%'.toNat ∈ literalCodes := by decide
  have found (cs : List Char) : (cs.any fun c => c = '*' ∨ c = '%') = true ↔
      '*' ∈ cs ∨ '%' ∈ cs := by
    simp only [List.any_eq_true, decide_eq_true_eq, and_or_left, exists_or, exists_eq_right]
  rw [Bool.eq_iff_iff, found, found, literal_mem_decomposed codes.1,
    literal_mem_decomposed codes.2]

/-- The pattern of a text in decomposed form is the decomposed form of its pattern. -/
theorem pattern_decomposedForm (text : String) :
    pattern (decomposedForm text) = decomposedForm (pattern text) := by
  have around (cs : List Char) :
      decomposed ('%' :: cs ++ ['%']) = '%' :: decomposed cs ++ ['%'] := by
    have sign : IsBare '%' := isBare_of_literal (by decide)
    rw [List.cons_append, decomposed_cons_of_bare sign, decomposed_letter sign.whole sign.noMark]
    rfl
  simp only [pattern, decomposedForm, String.toList_ofList, wordwise_decomposed.trimmed,
    any_wildcard_decomposed]
  split
  · exact congrArg String.ofList (decomposed_map_percent _).symm
  · exact congrArg String.ofList (around _).symm

end Literal

/-! ## The numbers of brokers -/

open Text

theorem Request.Rules.shape_of_isBrokerNumber {text : String}
    (h : isBrokerNumber text = true) : ∃ lead digits, text.toList = lead ++ digits ∧
      (lead = [] ∨ ∃ c, c.isAlpha = true ∧ lead = [c]) ∧ ∀ c ∈ digits, isDigit c = true := by
  simp only [isBrokerNumber, Bool.and_eq_true, decide_eq_true_eq, List.all_eq_true] at h
  generalize text.toList = cs at h
  cases cs with
  | nil => exact ⟨[], [], rfl, .inl rfl, by simp⟩
  | cons c rest =>
      obtain ⟨-, digits⟩ := h
      by_cases letter : c.isAlpha = true
      · simp only [letter, if_true] at digits
        exact ⟨[c], rest, rfl, .inr ⟨c, letter, rfl⟩, digits⟩
      · simp only [letter, Bool.false_eq_true, if_false] at digits
        exact ⟨[], c :: rest, rfl, .inl rfl, digits⟩

/-- Where no character is another one in disguise, a letter and digits are decomposed
text only of themselves. -/
theorem Text.eq_cons_of_decomposed {cs digits : List Char} {c : Char}
    (h : decomposed cs = c :: digits) (proper : ∀ d ∈ cs, IsProper d) (bare : IsBare c)
    (literal : ∀ d ∈ digits, d.toNat ∈ literalCodes) : decomposed cs = cs := by
  have parts : cs.flatMap decompose = c :: digits := by
    have own : ∀ d ∈ cs.flatMap decompose, IsBare d := by
      intro d member
      have placed : d ∈ decomposed cs := mem_orderMarks.mpr member
      rw [h] at placed
      rcases List.mem_cons.mp placed with rfl | placed
      · exact bare
      · exact isBare_of_literal (literal d placed)
    rw [← h, decomposed, orderMarks_of_bare own]
  cases cs with
  | nil => cases h
  | cons d rest =>
      obtain ⟨first, more, split⟩ := List.exists_cons_of_ne_nil (decompose_ne_nil d)
      rw [List.flatMap_cons, split, List.cons_append] at parts
      obtain ⟨rfl, behind⟩ := List.cons.inj parts
      -- A further part would be a literal, and a literal is decomposed to itself only.
      have alone : more = [] := by
        cases more with
        | nil => rfl
        | cons e more =>
            have known := literal e (behind ▸ List.mem_cons_self)
            have same := eq_of_literal_mem_decompose known
              (split ▸ List.mem_cons_of_mem first List.mem_cons_self)
            rw [same, (isBare_of_literal known).whole] at split
            cases split
      rw [alone] at split behind
      have whole : decompose d = [d] := proper d List.mem_cons_self (by rw [split]; rfl)
      obtain rfl : first = d := List.singleton_inj.mp (split.symm.trans whole)
      have tail : decomposed rest = rest := by
        refine eq_decomposed_of_literal fun e member => literal e ?_
        rw [← behind]
        exact mem_orderMarks.mp member
      rw [decomposed_cons_of_bare bare, tail]

/-- The form of a text does not decide whether it is the number of a broker. -/
theorem Request.Rules.isBrokerNumber_decomposedForm {text : String}
    (proper : ∀ c ∈ text.toList, IsProper c) :
    isBrokerNumber (decomposedForm text) = isBrokerNumber text := by
  have same (accepted : isBrokerNumber text = true ∨ isBrokerNumber (decomposedForm text) = true) :
      decomposed text.toList = text.toList := by
    rcases accepted with own | other
    · obtain ⟨lead, digits, split, leads, digit⟩ := shape_of_isBrokerNumber own
      refine decomposed_of_bare fun c member => ?_
      rw [split, List.mem_append] at member
      rcases member with first | behind
      · obtain rfl | ⟨letter, alpha, rfl⟩ := leads
        · cases first
        · exact List.mem_singleton.mp first ▸ isBare_of_isAlpha alpha
      · exact isBare_of_literal (mem_literalCodes_of_isDigit (digit c behind))
    · obtain ⟨lead, digits, split, leads, digit⟩ := shape_of_isBrokerNumber other
      have literal : ∀ c ∈ digits, c.toNat ∈ literalCodes := fun c member =>
        mem_literalCodes_of_isDigit (digit c member)
      rw [decomposedForm, String.toList_ofList] at split
      obtain rfl | ⟨letter, alpha, rfl⟩ := leads
      · exact eq_decomposed_of_literal (by rwa [split])
      · exact eq_cons_of_decomposed split proper (isBare_of_isAlpha alpha) literal
  by_cases accepted : isBrokerNumber text = true ∨ isBrokerNumber (decomposedForm text) = true
  · rw [decomposedForm, same accepted, String.ofList_toList]
  · simp only [not_or, Bool.not_eq_true] at accepted
    rw [accepted.1, accepted.2]

end Inquiry
