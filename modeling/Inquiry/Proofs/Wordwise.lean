import Inquiry.Proofs.NormalForm
import Inquiry.Token.Lexer

/-!
# Rewriting the words of a text

Putting marks in order and decomposing text leave blanks where they are and rewrite
what stands between them. Such a rewriting (`Wordwise`) may come before or after
trimming and before or after blanks are collapsed. Quotation marks are kept as well,
so decomposing a text and tidying it can be done in any order (`tidied_decomposed`),
unless the text has a character that becomes a quotation mark by being decomposed. In
composed text there is none.
-/

namespace Inquiry.Text

open Token (plainQuote tidied)

/-- A rewriting of text that leaves blanks where they are and words visible. -/
structure Wordwise (f : List Char → List Char) : Prop where
  nil : f [] = []
  blank : ∀ b, isBlank b = true → ∃ b', isBlank b' = true ∧ (b = ' ' → b' = ' ') ∧
    ∀ cs rest, f (cs ++ b :: rest) = f cs ++ b' :: f rest
  visible : ∀ w, w ≠ [] → (∀ c ∈ w, isBlank c = false) → f w ≠ [] ∧ ∀ c ∈ f w, isBlank c = false

/-- A text is one word, or a word, a blank and a further text. -/
theorem word_or_blank (cs : List Char) : (∀ c ∈ cs, isBlank c = false) ∨
    ∃ w b rest, cs = w ++ b :: rest ∧ (∀ c ∈ w, isBlank c = false) ∧ isBlank b = true := by
  induction cs with
  | nil => exact .inl (by simp)
  | cons c cs ih =>
      cases own : isBlank c with
      | true => exact .inr ⟨[], c, cs, rfl, by simp, own⟩
      | false =>
          rcases ih with visible | ⟨w, b, rest, rfl, visible, blank⟩
          · exact .inl (List.forall_mem_cons.mpr ⟨own, visible⟩)
          · exact .inr ⟨c :: w, b, rest, rfl, List.forall_mem_cons.mpr ⟨own, visible⟩, blank⟩

namespace Wordwise

variable {f : List Char → List Char}

theorem words (h : Wordwise f) (cs : List Char) : words (f cs) = (words cs).map f := by
  have word {w : List Char} (visible : ∀ c ∈ w, isBlank c = false) :
      Text.words (f w) = (Text.words w).map f := by
    by_cases empty : w = []
    · rw [empty, h.nil]
      rfl
    · obtain ⟨nonempty, shown⟩ := h.visible w empty visible
      rw [words_of_visible nonempty shown, words_of_visible empty visible]
      rfl
  induction hn : cs.length using Nat.strong_induction_on generalizing cs with
  | _ n ih =>
      rcases word_or_blank cs with visible | ⟨w, b, rest, rfl, visible, blank⟩
      · exact word visible
      · obtain ⟨b', blank', -, apart⟩ := h.blank b blank
        have shorter : rest.length < n := by
          rw [← hn, List.length_append, List.length_cons]
          omega
        rw [apart, words_append blank', words_append blank, word visible, ih _ shorter rest rfl,
          List.map_append]

theorem intercalate (h : Wordwise f) (ws : List (List Char)) :
    f ([' '].intercalate ws) = [' '].intercalate (ws.map f) := by
  obtain ⟨b', -, space, apart⟩ := h.blank ' ' (by decide)
  rw [space rfl] at apart
  induction ws with
  | nil => exact h.nil
  | cons w ws ih =>
      cases ws with
      | nil => simp
      | cons w' ws =>
          rw [List.intercalate_cons_cons, List.append_assoc, List.singleton_append, apart, ih]
          simp

theorem spaced (h : Wordwise f) (cs : List Char) : spaced (f cs) = f (spaced cs) := by
  rw [Text.spaced, h.words, ← h.intercalate, Text.spaced]

/-- The rewriting seen from the end of the text. -/
theorem reversed (h : Wordwise f) : Wordwise fun cs => (f cs.reverse).reverse := by
  refine ⟨by rw [List.reverse_nil, h.nil, List.reverse_nil], fun b blank => ?_,
    fun w nonempty visible => ?_⟩
  · obtain ⟨b', blank', space, apart⟩ := h.blank b blank
    refine ⟨b', blank', space, fun cs rest => ?_⟩
    have split := apart rest.reverse cs.reverse
    rw [List.reverse_append, List.reverse_cons, List.append_assoc, List.singleton_append, split]
    simp
  · have own := h.visible w.reverse (by simpa using nonempty)
      fun c member => visible c (List.mem_reverse.mp member)
    simpa using own

theorem trimStart (h : Wordwise f) (cs : List Char) : trimStart (f cs) = f (trimStart cs) := by
  induction cs with
  | nil =>
      rw [h.nil]
      exact h.nil.symm
  | cons c cs ih =>
      cases own : isBlank c with
      | true =>
          obtain ⟨b', blank', -, apart⟩ := h.blank c own
          have split : f (c :: cs) = b' :: f cs := by
            have split := apart [] cs
            rwa [h.nil] at split
          rw [split, Text.trimStart, List.dropWhile_cons_of_pos blank', Text.trimStart,
            List.dropWhile_cons_of_pos own]
          exact ih
      | false =>
          -- The first word stays visible, so nothing is trimmed on either side.
          have kept : ∃ d rest, f (c :: cs) = d :: rest ∧ isBlank d = false := by
            have word {w : List Char} (nonempty : w ≠ []) (visible : ∀ c ∈ w, isBlank c = false) :
                ∃ d rest, f w = d :: rest ∧ isBlank d = false := by
              obtain ⟨nonempty', shown⟩ := h.visible w nonempty visible
              obtain ⟨d, rest, split⟩ := List.exists_cons_of_ne_nil nonempty'
              exact ⟨d, rest, split, shown d (split ▸ List.mem_cons_self)⟩
            rcases word_or_blank (c :: cs) with visible | ⟨w, b, rest, split, visible, blank⟩
            · exact word (List.cons_ne_nil c cs) visible
            · have nonempty : w ≠ [] := by
                rintro rfl
                cases split
                rw [own] at blank
                cases blank
              obtain ⟨b', -, -, apart⟩ := h.blank b blank
              obtain ⟨d, more, first, shown⟩ := word nonempty visible
              rw [split, apart, first]
              exact ⟨d, _, rfl, shown⟩
          obtain ⟨d, rest, split, shown⟩ := kept
          rw [Text.trimStart, Text.trimStart, List.dropWhile_cons_of_neg (by simp [own]), split,
            List.dropWhile_cons_of_neg (by simp [shown])]

theorem trimmed (h : Wordwise f) (cs : List Char) : trimmed (f cs) = f (trimmed cs) := by
  have ends (cs : List Char) : trimEnd (f cs) = f (trimEnd cs) := by
    have back := h.reversed.trimStart cs.reverse
    simp only [List.reverse_reverse] at back
    rw [trimEnd, trimEnd, ← Text.trimStart, back, List.reverse_reverse, ← Text.trimStart]
  rw [Text.trimmed, h.trimStart, ends, Text.trimmed]

end Wordwise

/-! ## Ordering marks and decomposing -/

theorem wordwise_orderMarks : Wordwise orderMarks where
  nil := rfl
  blank b blank := ⟨b, blank, id, orderMarks_letter (markClass_of_isBlank blank)⟩
  visible w nonempty visible := by
    refine ⟨?_, fun c member => visible c (mem_orderMarks.mp member)⟩
    obtain ⟨c, rest, rfl⟩ := List.exists_cons_of_ne_nil nonempty
    exact List.ne_nil_of_mem (mem_orderMarks.mpr List.mem_cons_self)

/-- Decomposing keeps a letter that has no parts, and what is on its two sides
apart. -/
theorem decomposed_letter {letter whole : Char} (h : decompose letter = [whole])
    (noMark : markClass whole = 0) (cs ds : List Char) :
    decomposed (cs ++ letter :: ds) = decomposed cs ++ whole :: decomposed ds := by
  rw [decomposed, List.flatMap_append, List.flatMap_cons, h, List.singleton_append,
    orderMarks_letter noMark, decomposed, decomposed]

/-- A character that stays as it is when text is decomposed, and keeps its place. -/
structure IsBare (c : Char) : Prop where
  whole : decompose c = [c]
  noMark : markClass c = 0

theorem decomposed_cons_of_bare {c : Char} (h : IsBare c) (cs : List Char) :
    decomposed (c :: cs) = c :: decomposed cs :=
  decomposed_letter h.whole h.noMark [] cs

theorem orderMarks_of_bare {cs : List Char} (h : ∀ c ∈ cs, IsBare c) : orderMarks cs = cs := by
  induction cs with
  | nil => rfl
  | cons c cs ih =>
      obtain ⟨own, tail⟩ := List.forall_mem_cons.mp h
      rw [orderMarks, ih tail, placeMark_eq_cons fun d _ => inOrder_of_letter own.noMark d]

theorem decomposed_of_bare {cs : List Char} (h : ∀ c ∈ cs, IsBare c) : decomposed cs = cs := by
  rw [decomposed, flatMap_decompose fun c member => (h c member).whole, orderMarks_of_bare h]

theorem decomposed_eq_nil {cs : List Char} : decomposed cs = [] ↔ cs = [] := by
  refine ⟨fun nil => ?_, fun nil => by rw [nil]; rfl⟩
  cases cs with
  | nil => rfl
  | cons c rest =>
      obtain ⟨d, part⟩ := List.exists_mem_of_ne_nil _ (decompose_ne_nil c)
      have member : d ∈ decomposed (c :: rest) :=
        mem_orderMarks.mpr (List.mem_flatMap.mpr ⟨c, List.mem_cons_self, part⟩)
      rw [nil] at member
      cases member

theorem wordwise_decomposed : Wordwise decomposed where
  nil := rfl
  blank b blank := by
    obtain ⟨b', parts, blank', space⟩ := decompose_of_isBlank blank
    exact ⟨b', blank', space, decomposed_letter parts (markClass_of_isBlank blank')⟩
  visible w nonempty visible := by
    refine ⟨fun nil => nonempty (decomposed_eq_nil.mp nil), fun c member => ?_⟩
    obtain ⟨d, own, part⟩ := List.mem_flatMap.mp (mem_orderMarks.mp member)
    exact visible_of_mem_decompose (visible d own) part

/-! ## Quotation marks -/

/-- The characters that are read as quotation marks, and the one whose only part is
one. -/
def quoteCodes : List Nat :=
  [0x22, 0x27, 0x60, 0xAB, 0xBB, 0x1FEF, 0x2018, 0x2019, 0x201A, 0x201C, 0x201D, 0x201E]

theorem plainQuote_of_not_mem {c : Char} (h : c.toNat ∉ quoteCodes) : plainQuote c = c := by
  have marks : ∀ mark ∈ ['“', '”', '„', '«', '»', '‘', '’', '‚', '\x60'],
      mark.toNat ∈ quoteCodes := by decide
  rw [plainQuote, if_neg, if_neg]
  · exact fun member => h (marks c (List.mem_append_right ['“', '”', '„', '«', '»'] member))
  · exact fun member => h (marks c (List.mem_append_left ['‘', '’', '‚', '\x60'] member))

/-- The grave accent of its own, which is decomposed to a quotation mark. -/
def grave : Char := Char.ofNat 0x1FEF

/-- What the tables say about the characters that are read as quotation marks. They are parts of
nothing else; each has the class and the parts of the mark that it is read as, and of the two
plain marks it has none as a part unless it is one. -/
theorem quoteCodes_checked : IsApart quoteCodes ∧ ¬IsProper grave ∧
    ∀ c ∈ ofCodes quoteCodes, markClass (plainQuote c) = markClass c ∧
      (c ≠ grave → decompose (plainQuote c) = (decompose c).map plainQuote) ∧
      (∀ mark ∈ ['"', '\''], mark ∈ decompose c ↔ c = mark) ∧
      (IsProper c → IsProper (plainQuote c)) :=
  ⟨⟨by decide +kernel, by decide +kernel, by decide, by decide⟩, by decide +kernel,
    by decide +kernel⟩

theorem quotes_checked {c : Char} (h : c.toNat ∈ quoteCodes) :
    markClass (plainQuote c) = markClass c ∧
      (c ≠ grave → decompose (plainQuote c) = (decompose c).map plainQuote) ∧
      (∀ mark ∈ ['"', '\''], mark ∈ decompose c ↔ c = mark) ∧
      (IsProper c → IsProper (plainQuote c)) :=
  quoteCodes_checked.2.2 c (mem_ofCodes h)

theorem markClass_plainQuote (c : Char) : markClass (plainQuote c) = markClass c := by
  by_cases known : c.toNat ∈ quoteCodes
  · exact (quotes_checked known).1
  · rw [plainQuote_of_not_mem known]

/-- Any other character is a quotation mark exactly if its parts are. -/
theorem decompose_plainQuote {c : Char} (h : c ≠ grave) :
    decompose (plainQuote c) = (decompose c).map plainQuote := by
  by_cases known : c.toNat ∈ quoteCodes
  · exact (quotes_checked known).2.1 h
  · have parts : ∀ d ∈ decompose c, plainQuote d = d := fun d member =>
      plainQuote_of_not_mem (quoteCodes_checked.1.not_mem known member)
    rw [plainQuote_of_not_mem known, List.map_congr_left parts, List.map_id']

/-- Only a quotation mark has a part that is one. -/
theorem mark_mem_decompose {mark c : Char} (known : mark ∈ ['"', '\'']) :
    mark ∈ decompose c ↔ c = mark := by
  have codes : ∀ mark ∈ ['"', '\''], mark.toNat ∈ quoteCodes := by decide
  by_cases own : c.toNat ∈ quoteCodes
  · exact (quotes_checked own).2.2.1 mark known
  · constructor
    · exact fun part => absurd (codes mark known) (quoteCodes_checked.1.not_mem own part)
    · rintro rfl
      exact absurd (codes c known) own

theorem mark_mem_decomposed {mark : Char} (known : mark ∈ ['"', '\'']) {cs : List Char} :
    mark ∈ decomposed cs ↔ mark ∈ cs := by
  rw [decomposed, mem_orderMarks, List.mem_flatMap]
  constructor
  · rintro ⟨c, member, part⟩
    exact (mark_mem_decompose known).mp part ▸ member
  · exact fun member => ⟨mark, member, (mark_mem_decompose known).mpr rfl⟩

/-! ## Tidied text -/

theorem orderMarks_map {f : Char → Char} (h : ∀ c, markClass (f c) = markClass c)
    (cs : List Char) : orderMarks (cs.map f) = (orderMarks cs).map f := by
  have placed (c : Char) (cs : List Char) :
      placeMark (f c) (cs.map f) = (placeMark c cs).map f := by
    induction cs with
    | nil => rfl
    | cons d rest ih =>
        rw [List.map_cons, placeMark, placeMark, h, h, ih]
        split <;> rfl
  induction cs with
  | nil => rfl
  | cons c rest ih => rw [List.map_cons, orderMarks, ih, placed, orderMarks]

/-- Characters can be replaced before or after decomposing if their parts are replaced
alike and no mark changes its class. -/
theorem decomposed_map {f : Char → Char} (classes : ∀ c, markClass (f c) = markClass c)
    {cs : List Char} (parts : ∀ c ∈ cs, decompose (f c) = (decompose c).map f) :
    decomposed (cs.map f) = (decomposed cs).map f := by
  rw [decomposed, List.flatMap_map, List.flatMap_congr parts, ← List.map_flatMap,
    orderMarks_map classes, decomposed]

/-- Tidying and decomposing can be done in any order. -/
theorem tidied_decomposed {cs : List Char} (h : grave ∉ cs) :
    tidied (decomposed cs) = decomposed (tidied cs) := by
  have quotes : decomposed (cs.map plainQuote) = (decomposed cs).map plainQuote :=
    decomposed_map markClass_plainQuote fun c member =>
      decompose_plainQuote fun own => h (own ▸ member)
  rw [tidied, ← quotes, wordwise_decomposed.spaced, tidied]

/-- What is in order stays in order when it is tidied. -/
theorem isChain_tidied {cs : List Char} (h : cs.IsChain InOrder) :
    (tidied cs).IsChain InOrder := by
  have ordered : orderMarks (tidied cs) = tidied cs := by
    rw [tidied, ← wordwise_orderMarks.spaced, orderMarks_map markClass_plainQuote,
      orderMarks_of_isChain h]
  rw [← ordered]
  exact isChain_orderMarks _

theorem grave_not_mem_composed (cs : List Char) : grave ∉ composed cs :=
  fun member => quoteCodes_checked.2.1 (isProper_of_mem_composed grave member)

/-- Tidying adds quotation marks and spaces only. -/
theorem isProper_of_mem_tidied (cs : List Char) : ∀ c ∈ tidied (composed cs), IsProper c := by
  intro c member
  by_cases own : c = ' '
  · exact own ▸ fun _ => (blanks_checked (by decide)).2.2 rfl
  · obtain ⟨d, known, rfl⟩ := List.mem_map.mp (mem_of_mem_spaced own member)
    have proper := isProper_of_mem_composed d known
    by_cases quote : d.toNat ∈ quoteCodes
    · exact (quotes_checked quote).2.2.2 proper
    · rwa [plainQuote_of_not_mem quote]

end Inquiry.Text
