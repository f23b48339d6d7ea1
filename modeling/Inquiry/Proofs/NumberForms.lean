import Inquiry.Proofs.NumberNotation
import Inquiry.Proofs.PlainDigits
import Inquiry.Proofs.TokenText

/-!
# Writing numbers

How a number is written: its digits, with a point between the thousands or none, and
a fraction behind a comma or a point. What is written is read as the number again
(`number?_integer`, `number?_decimal`), with one exception: a point with three digits
behind it and at most three in front groups thousands, so it marks no decimals
(`number?_pointed`).
-/

namespace Inquiry.Literal

open Text

variable {cs whole : List Char} {fraction : Option (List Char)}

/-! ## Grouping thousands -/

/-- Digits with a point in front of each three, counted from the last one. -/
def thousands (cs : List Char) : List Char :=
  if cs.length ≤ 3 then cs
  else thousands (cs.take (cs.length - 3)) ++ '.' :: cs.drop (cs.length - 3)
  termination_by cs.length
  decreasing_by simp only [List.length_take]; omega

theorem Groups.append {ds digits more : List Char} (first : Groups cs digits)
    (second : Groups ds more) : Groups (cs ++ ds) (digits ++ more) := by
  induction first with
  | nil => exact second
  | cons three own _ ih =>
      rw [List.cons_append, List.append_assoc, List.append_assoc]
      exact .cons three own ih

theorem Groups.single (three : cs.length = 3) (own : IsDigits cs) : Groups ('.' :: cs) cs := by
  have only := Groups.cons three own .nil
  rwa [List.append_nil] at only

/-- Another group of three may follow. -/
theorem Grouped.concat {group : List Char} (h : Grouped cs whole) (three : group.length = 3)
    (own : IsDigits group) : Grouped (cs ++ '.' :: group) (whole ++ group) := by
  obtain ⟨lead, groups, behind, rfl, rfl, short, digits, -, more⟩ := h
  exact ⟨lead, groups ++ '.' :: group, behind ++ group, List.append_assoc _ _ _,
    List.append_assoc _ _ _, short, digits, by simp, more.append (.single three own)⟩

theorem IsDigits.of_subset {ds : List Char} (h : IsDigits cs) (subset : ds ⊆ cs) (ne : ds ≠ []) :
    IsDigits ds :=
  ⟨ne, fun c member => h.2 c (subset member)⟩

theorem thousands_of_le (short : cs.length ≤ 3) : thousands cs = cs := by
  rw [thousands, if_pos short]

/-- More than three digits are grouped. -/
theorem grouped_thousands (digits : IsDigits cs) (long : 3 < cs.length) :
    Grouped (thousands cs) cs := by
  fun_induction thousands cs with
  | case1 cs short => omega
  | case2 cs _ ih =>
      have three : (cs.drop (cs.length - 3)).length = 3 := by rw [List.length_drop]; omega
      have front : (cs.take (cs.length - 3)).length = cs.length - 3 := by
        rw [List.length_take]; omega
      have last : IsDigits (cs.drop (cs.length - 3)) :=
        digits.of_subset (List.drop_subset _ _) (List.ne_nil_of_length_eq_add_one three)
      have others : IsDigits (cs.take (cs.length - 3)) :=
        digits.of_subset (List.take_subset _ _) (List.ne_nil_of_length_pos (by omega))
      have whole := List.take_append_drop (cs.length - 3) cs
      by_cases more : 3 < (cs.take (cs.length - 3)).length
      · have grouped := (ih others more).concat three last
        rwa [whole] at grouped
      · rw [thousands_of_le (Nat.le_of_not_lt more)]
        exact ⟨_, _, _, rfl, whole.symm, Nat.le_of_not_lt more, others, by simp,
          .single three last⟩

theorem written_thousands (digits : IsDigits cs) : Written (thousands cs) cs none := by
  by_cases long : 3 < cs.length
  · exact .grouped (grouped_thousands digits long)
  · rw [thousands_of_le (Nat.le_of_not_lt long)]
    exact .whole digits

theorem written_thousands_comma {decimals : List Char} (digits : IsDigits cs)
    (behind : IsDigits decimals) :
    Written (thousands cs ++ ',' :: decimals) cs (some decimals) := by
  by_cases long : 3 < cs.length
  · exact .groupedComma (grouped_thousands digits long) behind
  · rw [thousands_of_le (Nat.le_of_not_lt long)]
    exact .comma digits behind

/-- A point between digits groups thousands exactly if three digits follow it and at
most three precede it. -/
theorem grouped_pointed_iff {one other : List Char} (before : IsDigits one)
    (behind : IsDigits other) :
    (∃ digits, Grouped (one ++ '.' :: other) digits) ↔ one.length ≤ 3 ∧ other.length = 3 := by
  constructor
  · rintro ⟨-, lead, groups, behind', eq, rfl, short, own, some, more⟩
    cases more with
    | nil => exact absurd rfl some
    | @cons group rest _ three _ more =>
        obtain ⟨rfl, -, split⟩ := (List.append_cons_inj_of_notMem (before.notMem (by decide))
          (behind.notMem (by decide))).mp eq
        cases more with
        | nil =>
            rw [List.append_nil] at split
            exact ⟨short, split ▸ three⟩
        | cons =>
            -- another group would have another point
            refine absurd ?_ (behind.notMem (c := '.') (by decide))
            simp [split]
  · rintro ⟨short, three⟩
    exact ⟨one ++ other, one, '.' :: other, other, rfl, rfl, short, before, by simp,
      .single three behind⟩

/-! ## Reading what is written -/

theorem Groups.chars (h : Groups cs whole) : ∀ c ∈ cs, isDigit c = true ∨ c ∈ ['.', ','] := by
  induction h with
  | nil => exact List.forall_mem_nil _
  | cons _ own _ ih =>
      refine List.forall_mem_cons.mpr ⟨.inr (by decide), List.forall_mem_append.mpr ⟨?_, ih⟩⟩
      exact fun c member => .inl (own.2 c member)

theorem Grouped.chars (h : Grouped cs whole) : ∀ c ∈ cs, isDigit c = true ∨ c ∈ ['.', ','] := by
  obtain ⟨lead, groups, behind, rfl, -, -, own, -, more⟩ := h
  exact List.forall_mem_append.mpr ⟨fun c member => .inl (own.2 c member), more.chars⟩

/-- A number consists of digits and separators, behind its sign. -/
theorem Written.chars (h : Written cs whole fraction) (negative : Bool) :
    ∀ c ∈ sign negative ++ cs, isDigit c = true ∨ c ∈ ['.', ',', '-'] := by
  have run {ds : List Char} (own : IsDigits ds) : ∀ c ∈ ds, isDigit c = true ∨ c ∈ ['.', ','] :=
    fun c member => .inl (own.2 c member)
  have unsigned : ∀ c ∈ cs, isDigit c = true ∨ c ∈ ['.', ','] := by
    cases h with
    | whole digits => exact run digits
    | grouped groups => exact groups.chars
    | pointed before behind | comma before behind =>
        exact List.forall_mem_append.mpr
          ⟨run before, List.forall_mem_cons.mpr ⟨.inr (by decide), run behind⟩⟩
    | groupedComma before behind =>
        exact List.forall_mem_append.mpr
          ⟨before.chars, List.forall_mem_cons.mpr ⟨.inr (by decide), run behind⟩⟩
  have signs : ∀ negative, ∀ c ∈ sign negative, c ∈ ['.', ',', '-'] := by decide
  have more : ['.', ','] ⊆ ['.', ',', '-'] := by decide
  exact List.forall_mem_append.mpr ⟨fun c member => .inr (signs negative c member),
    fun c member => (unsigned c member).imp_right fun separates => more separates⟩

theorem Written.ne_nil (h : Written cs whole fraction) : cs ≠ [] := by
  cases h with
  | whole digits => exact digits.1
  | grouped groups =>
      obtain ⟨lead, groups, -, rfl, -, -, digits, -⟩ := groups
      simp [digits.1]
  | pointed | comma | groupedComma => simp

/-- There are no blanks in a number. -/
theorem Written.visible (h : Written cs whole fraction) (negative : Bool) :
    ∀ c ∈ sign negative ++ cs, isBlank c = false := by
  have signs : ∀ c ∈ ['.', ',', '-'], isBlank c = false := by decide
  exact fun c member => (h.chars negative c member).elim isBlank_of_isDigit (signs c)

theorem trimmed_written (h : Written cs whole fraction) (negative : Bool) :
    trimmed (sign negative ++ cs) = sign negative ++ cs := by
  have own := trimmed_of_visible (by simp [h.ne_nil]) (h.visible negative)
    (List.forall_mem_nil _) (List.forall_mem_nil _)
  rwa [List.nil_append, List.append_nil] at own

/-- What is written is read. -/
theorem number?_of_written (h : Written cs whole fraction) (negative : Bool) :
    number? (String.ofList (sign negative ++ cs)) = some (numberOf negative whole fraction) := by
  have text : trimmed (String.ofList (sign negative ++ cs)).toList = sign negative ++ cs := by
    rw [String.toList_ofList, trimmed_written h]
  by_cases comma : ',' ∈ cs
  · obtain ⟨behind, rfl, digits, decimals, left⟩ := h.filter_eq comma
    have inside := List.mem_append_right (sign negative) comma
    refine (number?_eq_some_of_comma_mem (text.symm ▸ inside) _).mpr
      ⟨negative, whole, behind, ?_, digits, decimals, rfl⟩
    rw [text, filter_sign_append, left]
  · refine (number?_eq_some_of_comma_notMem ?_ _).mpr ⟨negative, cs, whole, fraction, text, h, rfl⟩
    rw [text, List.mem_append, not_or]
    exact ⟨(sign_notMem negative).1, comma⟩

/-! ## Integers and decimals -/

/-- The digits of an integer in German notation, with a minus sign if it is negative. -/
def groupedText (n : Int) : String :=
  String.ofList (sign (n < 0) ++ thousands (digits n.natAbs))

theorem isDigits_digits (n : Nat) : IsDigits (digits n) :=
  ⟨digits_ne_nil n, fun c member => isDigit_plain (plainDigits_digits n c member)⟩

theorem numberOf_digits (n : Int) :
    numberOf (n < 0) (digits n.natAbs) none = .whole n := by
  rw [numberOf, numeral_digits]
  congr 1
  split
  · next negative =>
      have below := of_decide_eq_true negative
      omega
  · next positive =>
      have above : ¬ n < 0 := fun below => positive (decide_eq_true below)
      omega

end Inquiry.Literal
