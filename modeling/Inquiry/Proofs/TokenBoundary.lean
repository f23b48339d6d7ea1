import Inquiry.Proofs.PlainPhrases

/-!
# Boundaries of tokens

No lexeme but a quotation reaches over a blank or a quotation mark. In front of
either, the readers do what they do at the end of the text (`lexeme?_append_of_quotations`). So
a request of two parts has the tokens of both, as long as no quotation goes from the
first part to the second (`ofText_append`).
-/

namespace Inquiry

namespace Text

theorem takeWhile_append_stop {p : Char → Bool} {stop : Char} (stops : p stop = false)
    (cs rest : List Char) : (cs ++ stop :: rest).takeWhile p = cs.takeWhile p := by
  rw [List.takeWhile_append]
  split
  · next whole =>
      rw [List.takeWhile_cons_of_neg (by simp [stops]), List.append_nil,
        (List.takeWhile_prefix p).eq_of_length whole]
  · rfl

theorem intercalate_append {xs ys : List (List Char)} (ne : xs ≠ []) (ne' : ys ≠ []) :
    [' '].intercalate (xs ++ ys) = [' '].intercalate xs ++ ' ' :: [' '].intercalate ys := by
  induction xs with
  | nil => exact absurd rfl ne
  | cons x xs ih =>
      cases xs with
      | nil =>
          obtain ⟨y, ys, rfl⟩ := List.exists_cons_of_ne_nil ne'
          simp
      | cons x' xs =>
          have tail := ih (List.cons_ne_nil x' xs)
          rw [List.cons_append, List.cons_append, List.intercalate_cons_cons, ← List.cons_append,
            tail, List.intercalate_cons_cons]
          simp only [List.append_assoc]

end Text

namespace Token

open Text

/-! ## Readers in front of a stop -/

/-- A character that is part of no lexeme but a quotation. -/
structure IsStop (c : Char) : Prop where
  noPart : isWordPart c = false
  noSign : c ∉ ['=', '>', ',']

namespace IsStop

variable {stop : Char}

theorem not_isWordChar (stops : IsStop stop) : isWordChar stop = false := by
  have noPart := stops.noPart
  rw [isWordPart, Bool.or_eq_false_iff] at noPart
  exact noPart.1

theorem not_isDigit (stops : IsStop stop) : isDigit stop = false :=
  Bool.eq_false_iff.mpr fun digit =>
    absurd (isWordChar_of_isDigit digit) (by simp [stops.not_isWordChar])

theorem not_mem (stops : IsStop stop) {signs : List Char}
    (parts : ∀ c ∈ signs, isWordPart c = true) : stop ∉ signs := by
  intro member
  have own := parts stop member
  rw [stops.noPart] at own
  cases own

end IsStop

theorem isStop_blank : IsStop ' ' := ⟨isWordPart_blank, by decide⟩

theorem isStop_of_mark : ∀ mark ∈ ['"', '\''], IsStop mark := by
  have checked : ∀ mark ∈ ['"', '\''], isWordPart mark = false ∧ mark ∉ ['=', '>', ','] := by
    decide
  exact fun mark known => ⟨(checked mark known).1, (checked mark known).2⟩

section Stop

variable {cs : List Char} {stop : Char} (rest : List Char)

theorem digitRun_le (cs : List Char) : digitRun cs ≤ cs.length :=
  (List.takeWhile_prefix _).length_le

theorem digitRun_append (stops : IsStop stop) (cs : List Char) :
    digitRun (cs ++ stop :: rest) = digitRun cs := by
  rw [digitRun, takeWhile_append_stop stops.not_isDigit]
  rfl

theorem drop_append {n : Nat} (h : n ≤ cs.length) :
    (cs ++ stop :: rest).drop n = cs.drop n ++ stop :: rest :=
  List.drop_append_of_le_length h

theorem quotation?_append {mark : Char} (other : mark ≠ stop) (closed : mark ∈ cs → mark ∉ rest)
    (ne : cs ≠ []) : quotation? mark (cs ++ stop :: rest) = quotation? mark cs := by
  obtain ⟨c, cs, rfl⟩ := List.exists_cons_of_ne_nil ne
  rw [List.cons_append, quotation?, quotation?]
  by_cases own : c = mark
  · subst own
    have free := closed List.mem_cons_self
    by_cases inside : c ∈ cs
    · have stops : ¬ (cs.takeWhile (· ≠ c)).length = cs.length := by
        intro whole
        have all := (List.takeWhile_prefix _).eq_of_length whole
        rw [← all] at inside
        simpa using List.mem_takeWhile_imp inside
      rw [List.takeWhile_append, if_neg stops]
      simp [inside]
    · simp [inside, free, other]
  · simp [own]

theorem dateParts?_append (stops : IsStop stop) {signs : List Char}
    (parts : ∀ c ∈ signs, isWordPart c = true) (lengths : List (Nat × Nat)) (cs : List Char) :
    dateParts? signs lengths (cs ++ stop :: rest) = dateParts? signs lengths cs := by
  induction lengths generalizing cs with
  | nil => rfl
  | cons length more ih =>
      obtain ⟨least, most⟩ := length
      cases more with
      | nil => simp only [dateParts?, digitRun_append rest stops]
      | cons second more =>
          simp only [dateParts?, digitRun_append rest stops, drop_append rest (digitRun_le cs)]
          cases cs.drop (digitRun cs) with
          | nil => simp [stops.not_mem parts]
          | cons sign behind => simp [ih]

theorem date?_append (stops : IsStop stop) (cs : List Char) :
    date? (cs ++ stop :: rest) = date? cs := by
  rw [date?, dateParts?_append rest stops (by decide), dateParts?_append rest stops (by decide)]
  rfl

theorem endsNumber_append (stops : IsStop stop) (cs : List Char) :
    endsNumber (cs ++ stop :: rest) = endsNumber cs := by
  cases cs with
  | nil =>
      have noSign : stop ∉ ['%', '*', '/', '-'] := stops.not_mem (by decide)
      simp [endsNumber, stops.not_isWordChar, noSign]
  | cons c cs => rfl

theorem digitGroups?_append (stops : IsStop stop) (cs : List Char) :
    digitGroups? (cs ++ stop :: rest) = digitGroups? cs := by
  fun_induction digitGroups? cs with
  | case1 =>
      have ends := endsNumber_append rest stops []
      have noPoint : stop ∉ ['.'] := stops.not_mem (by decide)
      have noComma : stop ≠ ',' := fun comma => stops.noSign (by simp [comma])
      rw [List.mem_singleton] at noPoint
      rw [List.nil_append] at ends ⊢
      rw [digitGroups?, if_neg (by simp [noPoint, noComma]), ends]
      rfl
  | case2 sign behind run group more found ih =>
      rw [List.cons_append, digitGroups?]
      simp only [digitRun_append rest stops, drop_append rest (digitRun_le behind)]
      rw [if_pos group, ih, found]
  | case3 sign behind run group blocked ends ih =>
      rw [List.cons_append, digitGroups?]
      simp only [digitRun_append rest stops, drop_append rest (digitRun_le behind)]
      rw [if_pos group, ih, blocked]
      rfl
  | case4 sign behind run group blocked ends ih =>
      rw [List.cons_append, digitGroups?]
      simp only [digitRun_append rest stops, drop_append rest (digitRun_le behind)]
      rw [if_pos group, ih, blocked]
      rfl
  | case5 sign behind run group ends =>
      rw [List.cons_append, digitGroups?]
      simp only [digitRun_append rest stops]
      rw [if_neg group]
      rfl
  | case6 sign behind run group ends =>
      rw [List.cons_append, digitGroups?]
      simp only [digitRun_append rest stops]
      rw [if_neg group]
      rfl

theorem number?_append (stops : IsStop stop) (ne : cs ≠ []) (previous : Option Char) :
    number? previous (cs ++ stop :: rest) = number? previous cs := by
  rw [number?, number?, List.head?_append_of_ne_nil cs ne]
  split
  · rfl
  · generalize hsign : (if cs.head? = some '-' then 1 else 0) = sign
    have within : sign ≤ cs.length := by
      have positive := List.length_pos_iff.mpr ne
      rw [← hsign]
      split <;> omega
    have digits := digitRun_le (cs.drop sign)
    rw [List.length_drop] at digits
    have behind : sign + digitRun (cs.drop sign) ≤ cs.length := by omega
    simp only [drop_append rest within, digitRun_append rest stops, drop_append rest behind,
      digitGroups?_append rest stops]

/-- Two characters decide about a comparison sign. -/
theorem comparison?_cons_cons (c d : Char) (cs : List Char) :
    comparison? (c :: d :: cs) = comparison? [c, d] := by
  by_cases first : c ∈ ['<', '>', '!', '=']
  · by_cases second : d ∈ ['=', '>']
    · simp only [List.mem_cons, List.not_mem_nil, or_false] at first second
      rcases first with rfl | rfl | rfl | rfl <;> rcases second with rfl | rfl <;> rfl
    · simp only [List.mem_cons, List.not_mem_nil, or_false, not_or] at first second
      rcases first with rfl | rfl | rfl | rfl <;> simp [comparison?, second]
  · simp only [List.mem_cons, List.not_mem_nil, or_false, not_or] at first
    simp [comparison?, first]

theorem comparison?_append (stops : IsStop stop) (ne : cs ≠ []) :
    comparison? (cs ++ stop :: rest) = comparison? cs := by
  obtain ⟨c, cs, rfl⟩ := List.exists_cons_of_ne_nil ne
  cases cs with
  | nil =>
      have noSign := stops.noSign
      simp only [List.mem_cons, List.not_mem_nil, or_false, not_or] at noSign
      by_cases first : c ∈ ['<', '>', '!', '=']
      · simp only [List.mem_cons, List.not_mem_nil, or_false] at first
        rcases first with rfl | rfl | rfl | rfl <;> simp [comparison?, noSign]
      · simp only [List.mem_cons, List.not_mem_nil, or_false, not_or] at first
        simp [comparison?, first]
  | cons d cs =>
      rw [List.cons_append, List.cons_append, comparison?_cons_cons, comparison?_cons_cons c d cs]

theorem word?_append (stops : IsStop stop) (cs : List Char) :
    word? (cs ++ stop :: rest) = word? cs := by
  rw [word?, takeWhile_append_stop stops.noPart]
  rfl

/-- What a lexeme is in front of a stop, it is at the end of the text, as long as the
quotations are the same. -/
theorem lexeme?_append_of_quotations (stops : IsStop stop) (ne : cs ≠ [])
    (quotations : ∀ mark ∈ ['"', '\''],
      quotation? mark (cs ++ stop :: rest) = quotation? mark cs)
    (previous : Option Char) : lexeme? previous (cs ++ stop :: rest) = lexeme? previous cs := by
  rw [lexeme?, quotations '"' (by decide), quotations '\'' (by decide), date?_append rest stops,
    number?_append rest stops ne, comparison?_append rest stops ne, word?_append rest stops,
    List.head?_append_of_ne_nil cs ne]
  rfl

/-- What a lexeme is in front of a blank, it is at the end of the text, unless a
quotation is closed behind the blank. -/
theorem lexeme?_append (ne : cs ≠ []) (closed : ∀ mark ∈ ['"', '\''], mark ∈ cs → mark ∉ rest)
    (previous : Option Char) : lexeme? previous (cs ++ ' ' :: rest) = lexeme? previous cs := by
  have other : ∀ mark ∈ ['"', '\''], mark ≠ ' ' := by decide
  exact lexeme?_append_of_quotations rest isStop_blank ne (fun mark known =>
    quotation?_append rest (other mark known) (closed mark known) ne) previous

end Stop

/-! ## Lexemes are within the text -/

theorem length_takeWhile_lt {α : Type} {p : α → Bool} {l : List α} {a : α} (member : a ∈ l)
    (stops : p a = false) : (l.takeWhile p).length < l.length := by
  refine Nat.lt_of_le_of_ne (List.takeWhile_prefix p).length_le fun whole => ?_
  rw [← (List.takeWhile_prefix p).eq_of_length whole] at member
  rw [List.mem_takeWhile_imp member] at stops
  cases stops

theorem le_of_quotation? {mark : Char} {cs : List Char} {n : Nat}
    (h : quotation? mark cs = some n) : n ≤ cs.length := by
  cases cs with
  | nil => cases h
  | cons c cs =>
      rw [quotation?] at h
      split at h
      · next found =>
          have within := length_takeWhile_lt (p := (· ≠ mark)) found.2 (by simp)
          cases h
          rw [List.length_cons]
          omega
      · cases h

theorem le_of_dateParts? {signs : List Char} {parts : List (Nat × Nat)} {cs : List Char} {n : Nat}
    (h : dateParts? signs parts cs = some n) : n ≤ cs.length := by
  induction parts generalizing cs n with
  | nil => cases h
  | cons part more ih =>
      obtain ⟨least, most⟩ := part
      have run := digitRun_le cs
      cases more with
      | nil =>
          simp only [dateParts?] at h
          split at h <;> cases h
          exact run
      | cons second more =>
          simp only [dateParts?] at h
          split at h
          · split at h
            · cases h
            · next sign behind left =>
                split at h
                · obtain ⟨further, found, rfl⟩ := Option.map_eq_some_iff.mp h
                  have within := ih found
                  have length := congrArg List.length left
                  rw [List.length_drop, List.length_cons] at length
                  omega
                · cases h
          · cases h

theorem le_of_digitGroups? {cs : List Char} {n : Nat} (h : digitGroups? cs = some n) :
    n ≤ cs.length := by
  fun_induction digitGroups? cs generalizing n with
  | case1 => cases h; exact Nat.le_refl 0
  | case2 sign behind run group more found =>
      rename_i ih
      have within := ih found
      have digits := digitRun_le behind
      cases h
      rw [List.length_drop] at within
      rw [List.length_cons]
      omega
  | case3 | case4 | case5 | case6 =>
      split at h <;> cases h <;> exact Nat.zero_le _

theorem le_of_number? {previous : Option Char} {cs : List Char} {n : Nat}
    (h : number? previous cs = some n) : n ≤ cs.length := by
  obtain ⟨sign, groups, -, digits, found, rfl⟩ := exists_of_number? h
  have run := digitRun_le (cs.drop sign)
  have within := le_of_digitGroups? found
  rw [List.length_drop] at run within
  omega

theorem le_of_comparison? {cs : List Char} {n : Nat} (h : comparison? cs = some n) :
    n ≤ cs.length := by
  unfold comparison? at h
  split at h <;> cases h <;> simp

theorem le_of_word? {cs : List Char} {n : Nat} (h : word? cs = some n) : n ≤ cs.length := by
  have length := congrArg List.length (take_of_word? h)
  have run := (List.takeWhile_prefix (p := isWordPart) (l := cs)).length_le
  rw [word?] at h
  split at h
  · cases h
  · next found =>
      cases h
      omega

/-- A lexeme ends within the text. -/
theorem le_of_lexeme? {previous : Option Char} {cs : List Char} {kind : Kind} {n : Nat}
    (h : lexeme? previous cs = some (kind, n)) : n ≤ cs.length := by
  have found := finds_of_lexeme? h
  cases kind with
  | quoted =>
      obtain ⟨mark, -, quotation⟩ := found
      exact le_of_quotation? quotation
  | date =>
      simp only [Finds, date?, Option.orElse_eq_orElse, Option.orElse_eq_or,
        Option.or_eq_some_iff] at found
      exact found.elim le_of_dateParts? fun dashes => le_of_dateParts? dashes.2
  | number => exact le_of_number? found
  | operator => exact le_of_comparison? found
  | comma =>
      obtain ⟨head, rfl⟩ := found
      exact List.length_pos_iff.mpr fun nil => by simp [nil] at head
  | word => exact le_of_word? found

/-! ## Two parts of a text -/

/-- A text is cut at a blank, unless a quotation of the first part is closed behind
it. -/
theorem cut_append (previous : Option Char) (cs rest : List Char)
    (closed : ∀ mark ∈ ['"', '\''], mark ∈ cs → mark ∉ rest) :
    cut previous (cs ++ ' ' :: rest) =
      cut previous cs ++ .skipped ' ' :: cut (some ' ') rest := by
  fun_induction cut previous cs with
  | case1 previous => exact cut_blank previous rest
  | case2 previous c cs none ih =>
      have found := lexeme?_append rest (List.cons_ne_nil c cs) closed previous
      rw [none, List.cons_append] at found
      rw [List.cons_append, cut, found]
      simp only [List.cons_append]
      rw [ih fun mark known member => closed mark known (List.mem_cons_of_mem c member)]
  | case3 previous c cs kind length found text ih =>
      have within := le_of_lexeme? found
      have found' := lexeme?_append rest (List.cons_ne_nil c cs) closed previous
      rw [found, List.cons_append] at found'
      rw [List.length_cons] at within
      have inside : length - 1 ≤ cs.length := by omega
      rw [List.cons_append, cut, found']
      simp only [List.cons_append, List.take_append_of_le_length inside, drop_append rest inside]
      rw [ih fun mark known member =>
        closed mark known (List.mem_cons_of_mem c (List.mem_of_mem_drop member))]

/-- Behind a blank, a lexeme is what it is at the beginning of a text. -/
theorem lexeme?_blank (cs : List Char) : lexeme? (some ' ') cs = lexeme? none cs := by
  have number : number? (some ' ') cs = number? none cs := by
    have apart : (some ' ').any (fun c => isWordChar c || c ∈ ['.', ',']) = false := by
      rw [Option.any_some, isWordChar_blank]
      rfl
    rw [number?, number?, apart]
    rfl
  rw [lexeme?, lexeme?, number]

theorem cut_behind_blank (cs : List Char) : cut (some ' ') cs = cut none cs := by
  cases cs with
  | nil => rw [cut, cut]
  | cons c cs => rw [cut, cut, lexeme?_blank]

/-- A request of two parts has the tokens of both, unless a quotation goes from the
first part to the second. -/
theorem ofText_append {a b : String} (closed : ∀ mark ∈ ['"', '\''],
      mark ∈ a.toList.map plainQuote → mark ∉ b.toList.map plainQuote) :
    ofText (a ++ " " ++ b) = ofText a ++ ofText b := by
  have split : (a ++ " " ++ b).toList.map plainQuote =
      a.toList.map plainQuote ++ ' ' :: b.toList.map plainQuote := by
    have blank : plainQuote ' ' = ' ' := by decide
    simp [blank]
  have noSpace : ∀ mark ∈ ['"', '\''], mark ≠ ' ' := by decide
  rw [ofText, ofText, ofText, tidied, split, tidied, tidied, spaced, spaced, spaced,
    words_append (by decide)]
  generalize a.toList.map plainQuote = as at closed
  generalize b.toList.map plainQuote = bs at closed
  have empty : (cut none ([' '].intercalate [])).filterMap ofPiece? = [] := by
    rw [List.intercalate_nil, cut]
    rfl
  by_cases first : words as = []
  · rw [first, empty]
    rfl
  · by_cases second : words bs = []
    · rw [second, empty, List.append_nil, List.append_nil]
    · rw [intercalate_append first second, cut_append, cut_behind_blank]
      · rw [List.filterMap_append, List.filterMap_cons_none rfl]
      · intro mark known member member'
        have other := noSpace mark known
        exact closed mark known (mem_of_mem_spaced other member) (mem_of_mem_spaced other member')

end Token

end Inquiry
