import Inquiry.Column
import Inquiry.Proofs.StrippedLetters
import Inquiry.Proofs.FinalSigma

/-!
# Folding as a normal form

What folding leaves of a text can be told from its decomposed form, letter by letter
(`remains`): marks leave nothing, and what a letter leaves does not depend on the letters and
marks around it (`remains_composeWith`). Only a letter that is spelled with an e has to be
followed through all joins, and it leaves low letters in any case (`low_composeWith`).

So a folded text has low letters only, and is folded to itself, exactly if all letters of the
text settle (`folded_folded_iff`). As a text and its lowered form are joined alike
(`remains_lowered`), case makes no difference to what is folded to the same.
-/

namespace Inquiry.Text

/-! ## What is left of a text -/

/-- What folding leaves of decomposed text. -/
def remains (cs : List Char) : List Char := (composeMarks cs).flatMap remainsOf

/-- Marks without parts, as they are held back while letters are joined. -/
def AreMarks (kept : List Char) : Prop := ∀ c ∈ kept, decompose c = [c] ∧ 0 < markClass c

theorem areMarks_nil : AreMarks [] := by simp [AreMarks]

theorem AreMarks.cons {kept : List Char} (marks : AreMarks kept) {c : Char}
    (whole : decompose c = [c]) (mark : 0 < markClass c) : AreMarks (c :: kept) :=
  List.forall_mem_cons.mpr ⟨⟨whole, mark⟩, marks⟩

theorem remains_mark {mark : Char} (h : 0 < markClass mark) (whole : decompose mark = [mark])
    (rest : List Char) : remains (mark :: rest) = remains rest := by
  rw [remains, composeMarks, if_neg (Nat.ne_of_gt h), List.flatMap_cons,
    remainsOf_of_mark whole h, List.nil_append, remains]

theorem remains_letter {letter : Char} (h : markClass letter = 0) (rest : List Char) :
    remains (letter :: rest) = (composeWith letter [] rest).flatMap remainsOf := by
  rw [remains, composeMarks, if_pos h]

/-- Of the marks that were held back nothing is left. -/
theorem remainsOf_kept {kept : List Char} (marks : AreMarks kept) (letter : Char) :
    (letter :: kept.reverse).flatMap remainsOf = remainsOf letter := by
  have nothing : kept.reverse.flatMap remainsOf = [] := by
    refine List.flatMap_eq_nil_iff.mpr fun c member => ?_
    obtain ⟨whole, mark⟩ := marks c (List.mem_reverse.mp member)
    exact remainsOf_of_mark whole mark
  rw [List.flatMap_cons, nothing, List.append_nil]

/-- Whether a mark may be joined depends on the marks held back alone. -/
theorem composeWith_mark {mark : Char} (h : 0 < markClass mark) (kept : List Char) :
    ∃ free : Bool, ∀ letter rest, composeWith letter kept (mark :: rest) =
      (if free then join? letter mark else none).elim (composeWith letter (mark :: kept) rest)
        fun joined => composeWith joined kept rest := by
  have noStart : markClass mark ≠ 0 := Nat.ne_of_gt h
  refine ⟨kept.head?.all fun last => markClass last < markClass mark, fun letter rest => ?_⟩
  rw [composeWith.eq_def]
  cases kept with
  | nil => cases join : join? letter mark <;> simp [join, noStart]
  | cons last kept =>
      by_cases free : markClass last < markClass mark
      · cases join : join? letter mark <;> simp [free, join, noStart]
      · simp [free, noStart]

/-- What is left of a letter does not depend on what it is joined with, unless it is one of
the letters that are spelled with an e. -/
theorem remains_composeWith {letter : Char} {kept rest : List Char}
    (other : letter.toNat ∉ umlautCodes) (marks : AreMarks kept)
    (whole : ∀ c ∈ rest, decompose c = [c]) :
    (composeWith letter kept rest).flatMap remainsOf = remainsOf letter ++ remains rest := by
  induction rest generalizing letter kept with
  | nil =>
      rw [composeWith, remainsOf_kept marks, remains, composeMarks, List.flatMap_nil,
        List.append_nil]
  | cons c rest ih =>
      obtain ⟨own, further⟩ := List.forall_mem_cons.mp whole
      obtain ⟨joined, join, -, step⟩ | ⟨start, step⟩ | ⟨mark, step⟩ :=
        composeWith_step letter kept c rest
      · obtain ⟨joined', own'⟩ := other_join? join other
        have single : remains (c :: rest) = remainsOf c ++ remains rest := by
          by_cases start : markClass c = 0
          · rw [remains_letter start, ih own' areMarks_nil further]
          · have mark := Nat.pos_of_ne_zero start
            rw [remains_mark mark own, remainsOf_of_mark own mark, List.nil_append]
        rw [step, ih joined' marks further, remainsOf_of_join? join other own, single,
          List.append_assoc]
      · rw [step, List.flatMap_append, remainsOf_kept marks, remains_letter start]
      · rw [step, ih other (marks.cons own mark) further, remains_mark mark own]

/-- One of those letters is joined with no letter. -/
theorem remains_composeWith_letter {letter c : Char} {kept : List Char}
    (known : letter.toNat ∈ umlautCodes) (marks : AreMarks kept) (start : markClass c = 0)
    (rest : List Char) : (composeWith letter kept (c :: rest)).flatMap remainsOf =
      remainsOf letter ++ remains (c :: rest) := by
  obtain ⟨joined, join, -⟩ | ⟨-, step⟩ | ⟨mark, -⟩ := composeWith_step letter kept c rest
  · have := (umlaut_join? join known).1
    omega
  · rw [step, List.flatMap_append, remainsOf_kept marks, remains_letter start]
  · omega

/-- Of bare text each letter leaves what it leaves by itself. -/
theorem remains_of_bare {cs : List Char} (bare : ∀ c ∈ cs, IsBare c) :
    remains cs = cs.flatMap remainsOf := by
  induction cs with
  | nil => rfl
  | cons c rest ih =>
      obtain ⟨own, further⟩ := List.forall_mem_cons.mp bare
      rw [remains_letter own.noMark, List.flatMap_cons, ← ih further]
      by_cases known : c.toNat ∈ umlautCodes
      · cases rest with
        | nil => simp [composeWith, remains, composeMarks]
        | cons d rest =>
            have next := (further d List.mem_cons_self).noMark
            exact remains_composeWith_letter known areMarks_nil next rest
      · exact remains_composeWith known areMarks_nil fun d member => (further d member).whole

/-! ## Lowered text -/

theorem lowerLetter_mem_umlautCodes {letter : Char} :
    (lowerLetter letter).toNat ∈ umlautCodes ↔ letter.toNat ∈ umlautCodes := by
  rw [toNat_lowerLetter, lowerCode_mem_umlautCodes]

/-- Whether what is left is the same when a letter, and what follows it, is lowered. -/
def JoinsLowered (rest : List Char) : Prop :=
  ∀ letter kept, letter ≠ 'İ' → AreMarks kept →
    (composeWith (lowerLetter letter) kept (rest.map lowerLetter)).flatMap remainsOf =
      (composeWith letter kept rest).flatMap remainsOf

/-- The lower form of a letter that is spelled with an e takes the same step. -/
theorem remains_composeWith_lowered {letter c : Char} {kept rest : List Char}
    (known : letter.toNat ∈ umlautCodes) (plain : letter ≠ 'İ') (marks : AreMarks kept)
    (own : decompose c = [c])
    (same : remains ((c :: rest).map lowerLetter) = remains (c :: rest))
    (joins : JoinsLowered rest) :
    (composeWith (lowerLetter letter) kept ((c :: rest).map lowerLetter)).flatMap remainsOf =
      (composeWith letter kept (c :: rest)).flatMap remainsOf := by
  by_cases start : markClass c = 0
  · rw [List.map_cons, remains_composeWith_letter (lowerLetter_mem_umlautCodes.mpr known) marks
        ((markClass_lowerLetter c).trans start),
      remains_composeWith_letter known marks start, ← List.map_cons, same,
      remainsOf_lowerLetter plain]
  · have mark := Nat.pos_of_ne_zero start
    obtain ⟨free, step⟩ := composeWith_mark mark kept
    have held := joins letter (c :: kept) plain (marks.cons own mark)
    rw [List.map_cons, lowerLetter_of_mark mark, step, step, join?_lowerLetter known]
    cases join : join? letter c with
    | none => cases free <;> exact held
    | some joined =>
        cases free with
        | true => exact joins joined kept (umlaut_join? join known).2 marks
        | false => exact held

/-- Of a text and of the lowered text the same is left. While letters are joined, both texts
hold back the same marks. -/
theorem remains_lowered {rest : List Char} (whole : ∀ c ∈ rest, decompose c = [c]) :
    remains (rest.map lowerLetter) = remains rest ∧ JoinsLowered rest := by
  induction rest with
  | nil =>
      refine ⟨rfl, fun letter kept plain marks => ?_⟩
      rw [List.map_nil, composeWith, composeWith, remainsOf_kept marks, remainsOf_kept marks,
        remainsOf_lowerLetter plain]
  | cons c rest ih =>
      obtain ⟨own, further⟩ := List.forall_mem_cons.mp whole
      obtain ⟨same, joins⟩ := ih further
      have same : remains ((c :: rest).map lowerLetter) = remains (c :: rest) := by
        rw [List.map_cons]
        by_cases start : markClass c = 0
        · rw [remains_letter start, remains_letter ((markClass_lowerLetter c).trans start),
            joins c [] (ne_dotted own) areMarks_nil]
        · have mark := Nat.pos_of_ne_zero start
          rw [lowerLetter_of_mark mark, remains_mark mark own, remains_mark mark own, same]
      refine ⟨same, fun letter kept plain marks => ?_⟩
      by_cases known : letter.toNat ∈ umlautCodes
      · exact remains_composeWith_lowered known plain marks own same joins
      · -- Any other letter leaves what it leaves by itself.
        have lowWhole : ∀ d ∈ (c :: rest).map lowerLetter, decompose d = [d] := by
          refine List.forall_mem_map.mpr fun d member => ?_
          have own := whole d member
          rw [decompose_lowerLetter (ne_dotted own), own, List.map_singleton]
        rw [remains_composeWith (mt lowerLetter_mem_umlautCodes.mp known) marks lowWhole,
          remains_composeWith known marks whole, same, remainsOf_lowerLetter plain]

/-! ## Settled text -/

theorem isLow_of_mark {c : Char} (mark : 0 < markClass c) : IsLow c := lowered_of_mark mark

theorem settles_of_mark {c : Char} (whole : decompose c = [c]) (mark : 0 < markClass c) :
    Settles c := by
  intro d member
  rw [lowParts_of_mark whole mark, List.mem_singleton] at member
  exact member ▸ isLow_of_mark mark

/-- Only low letters are left of a letter that settles, and of no other one, unless it is
spelled with an e. -/
theorem low_remainsOf_iff {c : Char} (other : c.toNat ∉ umlautCodes) :
    (∀ d ∈ remainsOf c, IsLow d) ↔ Settles c := by
  rw [remainsOf_eq other]
  constructor
  · intro low d member
    by_cases noMark : markClass d = 0
    · exact low d (List.mem_filter.mpr ⟨member, by simp [noMark]⟩)
    · exact isLow_of_mark (Nat.pos_of_ne_zero noMark)
  · exact fun settles d member => settles d (List.mem_of_mem_filter member)

/-- What the tables say about letters that settle: those that are spelled with an e, of which
only low letters are left, the sigmas, and the blanks, which are low. -/
theorem settled_checked :
    (∀ c ∈ ofCodes umlautCodes, Settles c ∧ ∀ d ∈ remainsOf c, IsLow d) ∧
      (∀ c ∈ ofCodes sigmaCodes, Settles c) ∧ ∀ c ∈ ofCodes blankCodes, IsLow c := by
  decide +kernel

theorem umlauts_low {letter : Char} (known : letter.toNat ∈ umlautCodes) :
    Settles letter ∧ ∀ d ∈ remainsOf letter, IsLow d :=
  settled_checked.1 letter (mem_ofCodes known)

/-- A letter that is spelled with an e leaves low letters also when it is joined. -/
theorem low_composeWith {letter : Char} {kept rest : List Char}
    (known : letter.toNat ∈ umlautCodes) (marks : AreMarks kept)
    (whole : ∀ c ∈ rest, decompose c = [c]) :
    ∃ low, (∀ c ∈ low, IsLow c) ∧
      (composeWith letter kept rest).flatMap remainsOf = low ++ remains rest := by
  induction rest generalizing letter kept with
  | nil =>
      refine ⟨_, (umlauts_low known).2, ?_⟩
      rw [composeWith, remainsOf_kept marks, remains, composeMarks, List.flatMap_nil,
        List.append_nil]
  | cons c rest ih =>
      obtain ⟨own, further⟩ := List.forall_mem_cons.mp whole
      by_cases start : markClass c = 0
      · exact ⟨_, (umlauts_low known).2, remains_composeWith_letter known marks start rest⟩
      · have mark := Nat.pos_of_ne_zero start
        obtain ⟨joined, join, -, step⟩ | ⟨start', -⟩ | ⟨-, step⟩ :=
          composeWith_step letter kept c rest
        · rw [step, remains_mark mark own]
          by_cases known' : joined.toNat ∈ umlautCodes
          · exact ih known' marks further
          · refine ⟨_, (low_remainsOf_iff known').mpr ?_, remains_composeWith known' marks further⟩
            rw [Settles, lowParts_of_join? join own]
            exact List.forall_mem_append.mpr ⟨(umlauts_low known).1, settles_of_mark own mark⟩
        · exact absurd start' start
        · rw [step, remains_mark mark own]
          exact ih known (marks.cons own mark) further

/-- Only low letters are left of a text exactly if all its letters settle. -/
theorem low_remains_iff {cs : List Char} (whole : ∀ c ∈ cs, decompose c = [c]) :
    (∀ d ∈ remains cs, IsLow d) ↔ ∀ c ∈ cs, Settles c := by
  induction cs with
  | nil => simp [remains, composeMarks]
  | cons c rest ih =>
      obtain ⟨own, further⟩ := List.forall_mem_cons.mp whole
      rw [List.forall_mem_cons, ← ih further]
      by_cases start : markClass c = 0
      · rw [remains_letter start]
        by_cases known : c.toNat ∈ umlautCodes
        · obtain ⟨low, all, left⟩ := low_composeWith known areMarks_nil further
          rw [left, List.forall_mem_append, and_iff_right all,
            and_iff_right (umlauts_low known).1]
        · rw [remains_composeWith known areMarks_nil further, List.forall_mem_append,
            low_remainsOf_iff known]
      · have mark := Nat.pos_of_ne_zero start
        rw [remains_mark mark own, and_iff_right (settles_of_mark own mark)]

/-! ## The folded form -/

theorem filter_orderMarks (cs : List Char) :
    (orderMarks cs).filter (fun c => markClass c == 0) =
      cs.filter fun c => markClass c == 0 := by
  have placed (c : Char) (cs : List Char) :
      (placeMark c cs).filter (fun d => markClass d == 0) =
        (c :: cs).filter fun d => markClass d == 0 := by
    induction cs with
    | nil => rfl
    | cons d rest ih =>
        rw [placeMark]
        split
        · next past =>
            simp only [Bool.and_eq_true, decide_eq_true_eq] at past
            have mark : (markClass c == 0) = false := by simp; omega
            have mark' : (markClass d == 0) = false := by simp; omega
            rw [List.filter_cons, ih, List.filter_cons, List.filter_cons, List.filter_cons, mark,
              mark']
            rfl
        · rfl
  induction cs with
  | nil => rfl
  | cons c rest ih => rw [orderMarks, placed, List.filter_cons, ih, List.filter_cons]

/-- Folding, seen from the decomposed text. -/
theorem folded_eq (cs : List Char) :
    folded cs = spaced (remains (decomposed (smallSigmas cs))) := by
  have left : remains (decomposed (smallSigmas cs)) =
      (lower (composed cs)).flatMap fun c => stripped c := by
    rw [remains, ← composed, composed_smallSigmas, lower_eq, List.flatMap_assoc]
    rfl
  rw [left, folded, plain, filter_orderMarks]
  simp only [stripped, List.filter_flatMap, List.flatMap_assoc]

/-- Blanks are low, so it does not matter that the words are joined anew. -/
theorem low_spaced_iff {cs : List Char} : (∀ c ∈ spaced cs, IsLow c) ↔ ∀ c ∈ cs, IsLow c := by
  have blanks {c : Char} (blank : isBlank c = true) : IsLow c :=
    settled_checked.2.2 c (mem_ofCodes (isBlank_iff.mp blank))
  constructor
  · intro low c member
    cases blank : isBlank c with
    | true => exact blanks blank
    | false => exact low c (mem_spaced_of_mem blank member)
  · intro low c member
    by_cases space : c = ' '
    · exact blanks (by rw [space]; decide)
    · exact low c (mem_of_mem_spaced space member)

theorem settles_iff_parts {c : Char} : Settles c ↔ ∀ d ∈ decompose c, Settles d := by
  have parts : lowParts c = (decompose c).flatMap lowParts := by
    rw [lowParts, List.flatMap_assoc]
    refine List.flatMap_congr fun d part => ?_
    rw [lowParts, decompose_of_mem part, List.flatMap_singleton]
  simp only [Settles, parts, List.mem_flatMap]
  constructor
  · exact fun low d part e member => low e ⟨d, part, member⟩
  · rintro low e ⟨d, part, member⟩
    exact low d part e member

theorem settles_smallSigmas (cs : List Char) :
    (∀ c ∈ smallSigmas cs, Settles c) ↔ ∀ c ∈ cs, Settles c := by
  have sigma {c : Char} (known : c.toNat ∈ sigmaCodes) : Settles c :=
    settled_checked.2.1 c (mem_ofCodes known)
  have after (before cs : List Char) :
      (∀ c ∈ smallSigmasAfter before cs, Settles c) ↔ ∀ c ∈ cs, Settles c := by
    induction cs generalizing before with
    | nil => rfl
    | cons c cs ih =>
        rw [smallSigmasAfter, List.forall_mem_cons, List.forall_mem_cons, ih]
        split
        · next capital =>
            have own : Settles c := sigma (by rw [capital]; decide)
            rw [and_iff_right (sigma (smallSigma_mem before cs)), and_iff_right own]
        · rfl
  exact after [] cs

/-- A folded text has low letters only, exactly if all letters of the text settle. -/
theorem low_folded_iff (cs : List Char) :
    (∀ d ∈ folded cs, IsLow d) ↔ ∀ c ∈ cs, Settles c := by
  rw [folded_eq, low_spaced_iff, low_remains_iff decompose_of_mem_decomposed,
    ← settles_smallSigmas cs]
  simp only [decomposed, mem_orderMarks, List.mem_flatMap]
  refine ⟨fun settles c member => settles_iff_parts.mpr fun d part => ?_, ?_⟩
  · exact settles d ⟨c, member, part⟩
  · rintro settles d ⟨c, member, part⟩
    exact settles_iff_parts.mp (settles c member) d part

theorem isStripped_of_mem_folded {cs : List Char} : ∀ c ∈ folded cs, IsStripped c := by
  intro c member
  by_cases space : c = ' '
  · rw [space]
    exact ⟨⟨by decide, by decide⟩, by decide, by decide⟩
  · rw [folded_eq] at member
    obtain ⟨letter, -, left⟩ := List.mem_flatMap.mp (mem_of_mem_spaced space member)
    obtain ⟨low, -, own⟩ := List.mem_flatMap.mp left
    exact isStripped_of_mem_stripped own

theorem sigma_not_mem {cs : List Char} (low : ∀ c ∈ cs, IsLow c) : 'Σ' ∉ cs := by
  have capital : ¬IsLow 'Σ' := by decide
  exact fun member => capital (low _ member)

/-- Text of stripped low letters is folded by joining its words anew. -/
theorem folded_of_stripped {cs : List Char} (stripped : ∀ c ∈ cs, IsStripped c)
    (low : ∀ c ∈ cs, IsLow c) : folded cs = spaced cs := by
  have bare : ∀ c ∈ cs, IsBare c := fun c member => (stripped c member).toIsBare
  have own : cs.flatMap remainsOf = cs := by
    refine (List.flatMap_congr fun c member => ?_).trans (List.flatMap_singleton' cs)
    rw [remainsOf, low c member, List.flatMap_singleton, (stripped c member).stripped_eq]
  rw [folded_eq, smallSigmas, smallSigmas_of_not_mem (sigma_not_mem low),
    decomposed_of_bare bare, remains_of_bare bare, own]

/-- Folding a folded text changes nothing exactly if all letters of the text settle. -/
theorem folded_folded_iff (cs : List Char) :
    folded (folded cs) = folded cs ↔ ∀ c ∈ cs, Settles c := by
  constructor
  · intro same
    rw [← low_folded_iff, ← same, low_folded_iff]
    exact fun c member => (isStripped_of_mem_folded c member).settles
  · intro settles
    rw [folded_of_stripped isStripped_of_mem_folded ((low_folded_iff cs).mpr settles), folded_eq,
      spaced_spaced]

theorem lower_eq_self_iff {cs : List Char} : lower cs = cs ↔ ∀ c ∈ cs, IsLow c := by
  constructor
  · intro same c member
    rw [← same, lower_eq] at member
    obtain ⟨d, -, own⟩ := List.mem_flatMap.mp member
    exact lowered_of_mem own
  · intro low
    rw [lower_eq, smallSigmas, smallSigmas_of_not_mem (sigma_not_mem low), List.flatMap_congr low,
      List.flatMap_singleton']

/-- Lowered text is folded like the text itself. -/
theorem folded_lower (cs : List Char) : folded (lower cs) = folded cs := by
  have low : ∀ c ∈ lower cs, IsLow c := by
    rw [lower_eq]
    intro c member
    obtain ⟨d, -, own⟩ := List.mem_flatMap.mp member
    exact lowered_of_mem own
  rw [folded_eq, smallSigmas, smallSigmas_of_not_mem (sigma_not_mem low), lower_eq,
    decomposed_lowered, (remains_lowered decompose_of_mem_decomposed).1, folded_eq]

/-! ## Folded strings -/

theorem fold_eq_iff {s t : String} : fold s = t ↔ folded s.toList = t.toList := by
  rw [fold, ← String.toList_inj, String.toList_ofList]

theorem toList_fold (t : String) : (fold t).toList = folded t.toList := by
  rw [fold, String.toList_ofList]

theorem fold_toLower (t : String) : fold (toLower t) = fold t := by
  rw [fold_eq_iff, toLower, String.toList_ofList, folded_lower, toList_fold]

theorem fold_fold_iff (t : String) : fold (fold t) = fold t ↔ ∀ c ∈ t.toList, Settles c := by
  rw [fold_eq_iff, toList_fold, folded_folded_iff]

theorem toLower_fold_iff (t : String) :
    toLower (fold t) = fold t ↔ ∀ c ∈ t.toList, Settles c := by
  rw [toLower, ← String.toList_inj, String.toList_ofList, toList_fold, lower_eq_self_iff,
    low_folded_iff]

end Inquiry.Text

namespace Inquiry.Column

open Text (fold fold_toLower isBlankText trim)

/-- A column is named by the words that are folded like one of its keywords. -/
theorem isNamedBy_iff {source header table : String} {keywords : List String} {numeric : Bool}
    {word : String} : (Column.of source header table keywords numeric).isNamedBy word = true ↔
      ∃ phrase ∈ keywords, isBlankText phrase = false ∧ fold (trim phrase) = fold word := by
  simp only [Column.isNamedBy, Column.of, keywordsOf, List.contains_iff_mem, List.mem_map,
    List.mem_filter, Bool.not_eq_true']
  constructor
  · rintro ⟨_, ⟨phrase, ⟨known, shown⟩, rfl⟩, same⟩
    rw [fold_toLower] at same
    exact ⟨phrase, known, shown, same⟩
  · rintro ⟨phrase, known, shown, same⟩
    refine ⟨_, ⟨phrase, ⟨known, shown⟩, rfl⟩, ?_⟩
    rw [fold_toLower, same]

end Inquiry.Column

namespace Inquiry.Text

/-- The folded form is a normal form exactly for texts whose letters settle: folding it again,
or lowering it, then changes nothing. Otherwise it has capitals that were only presented, and
folding once more settles them. No letter is left that would be spelled anew, and keywords and
words are compared without regard to case. -/
theorem fold_normal_form (t : String) :
    (fold (fold t) = fold t ↔ ∀ c ∈ t.toList, Settles c) ∧
    (toLower (fold t) = fold t ↔ ∀ c ∈ t.toList, Settles c) ∧
    fold (fold (fold t)) = fold (fold t) ∧
    (∀ c ∈ (fold t).toList, spellUmlaut c = [c]) ∧
    fold (toLower t) = fold t ∧
    ∀ source header table keywords numeric,
      (Column.of source header table keywords numeric).isNamedBy t = true ↔
        ∃ phrase ∈ keywords, isBlankText phrase = false ∧
          fold (toLower (trim phrase)) = fold (toLower t) := by
  have stripped : ∀ c ∈ (fold t).toList, IsStripped c := by
    rw [toList_fold]
    exact isStripped_of_mem_folded
  refine ⟨fold_fold_iff t, toLower_fold_iff t, ?_, ?_, fold_toLower t, ?_⟩
  · exact (fold_fold_iff (fold t)).mpr fun c member => (stripped c member).settles
  · intro c member
    exact spellUmlaut_of_whole (stripped c member).whole (stripped c member).noSharp
  · intro source header table keywords numeric
    simp only [Column.isNamedBy_iff, fold_toLower]

/-- The capitals of a trade mark are presented only, so they are not lowered at first. -/
theorem fold_trade_mark : ¬Settles '™' ∧ fold "™" = "TM" ∧ fold "TM" = "tm" ∧
    toLower (fold "™") ≠ fold "™" := by
  decide +kernel

end Inquiry.Text
