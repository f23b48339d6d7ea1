import Inquiry.Proofs.NumberForms
import Inquiry.Request.Value
import Inquiry.Statement.Conditions

/-!
# Integers with many digits

A text that denotes an integer is read if it has at most `maxDigits` digits, and zeros
in front count among them. With more digits it is in one of the notations and still no
number is read, but reading it fails (`number_iff`). A decimal may have any number of
digits.

So every number that is read can be written again (`isWritable_of_number`).
-/

namespace Inquiry.Literal

open Text

variable {cs whole : List Char} {fraction : Option (List Char)}

/-! ## Counting digits -/

theorem IsDigits.countP_eq (h : IsDigits cs) : cs.countP isDigit = cs.length :=
  List.countP_eq_length.mpr h.2

/-- Points do not count. -/
theorem Grouped.countP_eq (h : Grouped cs whole) : cs.countP isDigit = whole.length := by
  obtain ⟨left, digits⟩ := h.filter_eq
  have pointless : cs.countP isDigit = (cs.filter (· ≠ '.')).countP isDigit := by
    rw [List.countP_filter]
    refine List.countP_congr fun c _ => ?_
    have point : isDigit '.' = false := isDigit_sign '.' (by decide)
    by_cases same : c = '.'
    · simp [same, point]
    · simp [same]
  rw [pointless, left, digits.countP_eq]

/-- Every digit of an integer is one of its whole part. -/
theorem Written.countP_eq (h : Written cs whole none) (negative : Bool) :
    (sign negative ++ cs).countP isDigit = whole.length := by
  have unsigned : (sign negative).countP isDigit = 0 := by
    cases negative <;> decide
  have own : cs.countP isDigit = whole.length := by
    cases h with
    | whole digits => exact digits.countP_eq
    | grouped groups => exact groups.countP_eq
  rw [List.countP_append, unsigned, own, Nat.zero_add]

theorem digitCount_eq_countP_trimmed (text : String) :
    digitCount text = (trimmed text.toList).countP isDigit := by
  have none {cs : List Char} (blanks : ∀ c ∈ cs, isBlank c = true) : cs.countP isDigit = 0 := by
    rw [List.countP_eq_zero]
    intro c member digit
    have visible := isBlank_of_isDigit digit
    rw [blanks c member] at visible
    cases visible
  obtain ⟨lead, trail, around, before, behind⟩ := exists_blanks text.toList
  rw [digitCount, around, List.countP_append, List.countP_append, none before, none behind,
    ← around, Nat.zero_add, Nat.add_zero]

/-! ## Numbers that are read -/

/-- The texts that denote an integer. -/
theorem number?_eq_whole_iff {text : String} {n : Int} :
    number? text = some (.whole n) ↔ ∃ negative cs whole, trimmed text.toList =
      sign negative ++ cs ∧ Written cs whole none ∧ .whole n = numberOf negative whole none := by
  rw [number?_eq_some_iff]
  constructor
  · rintro (⟨negative, cs, whole, fraction, eq, written, value⟩ |
      ⟨negative, whole, fraction, -, -, -, value⟩)
    · cases fraction with
      | none => exact ⟨negative, cs, whole, eq, written, value⟩
      | some fraction => cases value
    · cases value
  · rintro ⟨negative, cs, whole, eq, written, value⟩
    exact .inl ⟨negative, cs, whole, none, eq, written, value⟩

theorem digitCount_of_written {text : String} {negative : Bool}
    (eq : trimmed text.toList = sign negative ++ cs) (written : Written cs whole none) :
    digitCount text = whole.length := by
  rw [digitCount_eq_countP_trimmed, eq, written.countP_eq]

theorem number_of_whole {text : String} {n : Int} (h : number? text = some (.whole n)) :
    number text = if maxDigits < digitCount text then .error (.integerNotRead (digitCount text))
      else .ok (some (.whole n)) := by
  rw [number, h]

theorem number_of_decimal {text : String} {d : Decimal} (h : number? text = some (.decimal d)) :
    number text = .ok (some (.decimal d)) := by
  rw [number, h]

theorem number_of_none {text : String} (h : number? text = none) : number text = .ok none := by
  rw [number, h]

/-- A number that is read is the one that the text denotes. -/
theorem number?_of_number {text : String} {n? : Option Number} (h : number text = .ok n?) :
    number? text = n? := by
  cases found : number? text with
  | none =>
      rw [number_of_none found] at h
      exact Except.ok.inj h
  | some n =>
      cases n with
      | whole n =>
          rw [number_of_whole found] at h
          split at h
          · cases h
          · exact Except.ok.inj h
      | decimal d =>
          rw [number_of_decimal found] at h
          exact Except.ok.inj h

/-- What cannot be read is an integer with too many digits. -/
theorem number_eq_error_iff {text : String} {failure : Failure} :
    number text = .error failure ↔ ∃ n, number? text = some (.whole n) ∧
      maxDigits < digitCount text ∧ failure = .integerNotRead (digitCount text) := by
  constructor
  · intro h
    cases found : number? text with
    | none =>
        rw [number_of_none found] at h
        cases h
    | some n =>
        cases n with
        | whole n =>
            rw [number_of_whole found] at h
            split at h
            · next many => exact ⟨n, rfl, many, (Except.error.inj h).symm⟩
            · cases h
        | decimal d =>
            rw [number_of_decimal found] at h
            cases h
  · rintro ⟨n, found, many, rfl⟩
    rw [number_of_whole found, if_pos many]

/-- A number is read unless it is an integer with too many digits. -/
theorem number_eq_ok_some_iff {text : String} {n : Number} :
    number text = .ok (some n) ↔ number? text = some n ∧
      ∀ m, n = .whole m → digitCount text ≤ maxDigits := by
  constructor
  · intro h
    have found := number?_of_number h
    refine ⟨found, ?_⟩
    rintro m rfl
    rw [number_of_whole found] at h
    split at h
    · cases h
    · next few => exact Nat.le_of_not_lt few
  · rintro ⟨found, few⟩
    cases n with
    | whole m => rw [number_of_whole found, if_neg (Nat.not_lt.mpr (few m rfl))]
    | decimal d => exact number_of_decimal found

/-- Which texts are read as numbers, and as which ones: those in plain or German notation,
and those with one comma between digits once all points are dropped. An integer must not
have too many digits; with more of them reading fails. -/
theorem number_iff (text : String) :
    (∀ n, number text = .ok (some n) ↔
      (∃ negative cs whole fraction, trimmed text.toList = sign negative ++ cs ∧
        Written cs whole fraction ∧ (fraction = none → whole.length ≤ maxDigits) ∧
          n = numberOf negative whole fraction) ∨
      ∃ negative whole fraction,
        (trimmed text.toList).filter (· ≠ '.') = sign negative ++ (whole ++ ',' :: fraction) ∧
          IsDigits whole ∧ IsDigits fraction ∧ n = numberOf negative whole (some fraction)) ∧
    ∀ failure, number text = .error failure ↔
      ∃ negative cs whole, trimmed text.toList = sign negative ++ cs ∧ Written cs whole none ∧
        maxDigits < whole.length ∧ failure = .integerNotRead whole.length := by
  refine ⟨fun n => ?_, fun failure => ?_⟩
  · rw [number_eq_ok_some_iff, number?_eq_some_iff]
    constructor
    · rintro ⟨⟨negative, cs, whole, fraction, eq, written, rfl⟩ | other, few⟩
      · refine .inl ⟨negative, cs, whole, fraction, eq, written, ?_, rfl⟩
        rintro rfl
        rw [← digitCount_of_written eq written]
        exact few _ rfl
      · exact .inr other
    · rintro (⟨negative, cs, whole, fraction, eq, written, few, rfl⟩ |
        ⟨negative, whole, fraction, eq, before, behind, rfl⟩)
      · refine ⟨.inl ⟨negative, cs, whole, fraction, eq, written, rfl⟩, fun m value => ?_⟩
        cases fraction with
        | none =>
            rw [digitCount_of_written eq written]
            exact few rfl
        | some fraction => cases value
      · refine ⟨.inr ⟨negative, whole, fraction, eq, before, behind, rfl⟩, fun m value => ?_⟩
        cases value
  · rw [number_eq_error_iff]
    constructor
    · rintro ⟨n, found, many, rfl⟩
      obtain ⟨negative, cs, whole, eq, written, -⟩ := number?_eq_whole_iff.mp found
      rw [digitCount_of_written eq written] at many ⊢
      exact ⟨negative, cs, whole, eq, written, many, rfl⟩
    · rintro ⟨negative, cs, whole, eq, written, many, rfl⟩
      rw [← digitCount_of_written eq written] at many ⊢
      exact ⟨_, number?_eq_whole_iff.mpr ⟨negative, cs, whole, eq, written, rfl⟩, many, rfl⟩

/-- Points behind the comma are dropped like those before it, so a number in English
notation is read as one, though it is written in neither notation. -/
theorem point_behind_comma :
    number "1,234.56" = .ok (some (.decimal (.ofDigits false ['1'] ['2', '3', '4', '5', '6']))) ∧
      ¬ ∃ negative cs whole fraction, trimmed "1,234.56".toList = sign negative ++ cs ∧
        Written cs whole fraction := by
  refine ⟨by decide +kernel, ?_⟩
  rintro ⟨negative, cs, whole, fraction, eq, written⟩
  have text : trimmed "1,234.56".toList = ['1', ',', '2', '3', '4', '.', '5', '6'] := by
    decide +kernel
  rw [text] at eq
  cases negative with
  | true => cases eq
  | false => exact written.point_notMem ['1'] eq.symm (by decide)

/-! ## Reading and writing -/

theorem number?_trim (text : String) : number? (trim text) = number? text := by
  simp only [number?, trim, String.toList_ofList, trimmed_trimmed]

theorem digitCount_trim (text : String) : digitCount (trim text) = digitCount text := by
  rw [digitCount_eq_countP_trimmed, digitCount_eq_countP_trimmed text, trim, String.toList_ofList,
    trimmed_trimmed]

theorem number_trim (text : String) : number (trim text) = number text := by
  rw [number, number, number?_trim, digitCount_trim]

/-- What is written is read, unless it is an integer with too many digits. -/
theorem number_of_written (h : Written cs whole fraction) (negative : Bool) :
    number (String.ofList (sign negative ++ cs)) =
      if fraction = none ∧ maxDigits < whole.length then .error (.integerNotRead whole.length)
      else .ok (some (numberOf negative whole fraction)) := by
  have found := number?_of_written h negative
  cases fraction with
  | none =>
      have text : trimmed (String.ofList (sign negative ++ cs)).toList = sign negative ++ cs := by
        rw [String.toList_ofList, trimmed_written h]
      rw [number_of_whole found, digitCount_of_written text h]
      simp [numberOf]
  | some fraction =>
      rw [number_of_decimal found]
      simp [numberOf]

/-- An integer is read from its digits, grouped or not, if it does not have too many. -/
theorem number_integer (n : Int) :
    let read := if isWritable n then .ok (some (.whole n))
      else .error (.integerNotRead (digits n.natAbs).length)
    number (integerText n) = read ∧ number (groupedText n) = read := by
  have own := isDigits_digits n.natAbs
  have plain := number_of_written (.whole own) (n < 0)
  have grouped := number_of_written (written_thousands own) (n < 0)
  have signs : (if n < 0 then ['-'] else []) = sign (n < 0) := by simp [sign]
  have limit : (if (none : Option (List Char)) = none ∧ maxDigits < (digits n.natAbs).length then
        (.error (.integerNotRead (digits n.natAbs).length) : Except Failure (Option Number))
      else .ok (some (.whole n))) =
      if isWritable n then .ok (some (.whole n))
      else .error (.integerNotRead (digits n.natAbs).length) := by
    by_cases short : (digits n.natAbs).length ≤ maxDigits
    · simp [isWritable, short]
    · simp [isWritable, short, Nat.lt_of_not_le short]
  rw [numberOf_digits, limit] at plain grouped
  exact ⟨by rw [integerText, signs, plain], grouped⟩

/-- A number with a fraction, plain or grouped in front of the comma, of any length. -/
theorem number_decimal {decimals : List Char} (own : IsDigits whole) (behind : IsDigits decimals)
    (negative : Bool) :
    number (String.ofList (sign negative ++ (whole ++ ',' :: decimals))) =
        .ok (some (.decimal ⟨negative, numeral (whole ++ decimals), -(decimals.length : Int)⟩)) ∧
      number (String.ofList (sign negative ++ (thousands whole ++ ',' :: decimals))) =
        .ok (some (.decimal ⟨negative, numeral (whole ++ decimals), -(decimals.length : Int)⟩)) :=
  ⟨number_of_written (.comma own behind) negative,
    number_of_written (written_thousands_comma own behind) negative⟩

/-- A point between digits groups thousands where it can, and marks decimals where it
cannot. -/
theorem number_pointed {decimals : List Char} (own : IsDigits whole) (behind : IsDigits decimals)
    (negative : Bool) :
    number (String.ofList (sign negative ++ (whole ++ '.' :: decimals))) =
      .ok (some (if whole.length ≤ 3 ∧ decimals.length = 3 then
          numberOf negative (whole ++ decimals) none
        else .decimal ⟨negative, numeral (whole ++ decimals), -(decimals.length : Int)⟩)) := by
  split
  · next groups =>
      have grouped : Grouped (whole ++ '.' :: decimals) (whole ++ decimals) :=
        ⟨whole, '.' :: decimals, decimals, rfl, rfl, groups.1, own, by simp,
          .single groups.2 behind⟩
      have few : ¬ maxDigits < (whole ++ decimals).length := by
        rw [List.length_append, maxDigits]
        omega
      rw [number_of_written (.grouped grouped) negative, if_neg fun many => few many.2]
  · next single =>
      have plain (all : List Char) : ¬ Grouped (whole ++ '.' :: decimals) all :=
        fun grouped => single ((grouped_pointed_iff own behind).mp ⟨all, grouped⟩)
      exact number_of_written (.pointed own behind plain) negative

/-- Every number that is read can be written. -/
theorem isWritable_of_number {text : String} {n : Number} (h : number text = .ok (some n)) :
    n.isWritable = true := by
  obtain ⟨found, few⟩ := number_eq_ok_some_iff.mp h
  cases n with
  | decimal d => rfl
  | whole n =>
      obtain ⟨negative, cs, whole, eq, written, value⟩ := number?_eq_whole_iff.mp found
      have short : whole.length ≤ maxDigits := by
        rw [← digitCount_of_written eq written]
        exact few n rfl
      have abs : n.natAbs = numeral whole := by
        rw [Number.whole.inj value]
        cases negative <;> simp
      rw [Number.isWritable, isWritable_iff, abs]
      exact Nat.lt_of_lt_of_le (numeral_lt whole) (Nat.pow_le_pow_right (by decide) short)

end Inquiry.Literal

namespace Inquiry.Request

variable {column : Column} {field : String} {searches : Bool} {value : Token}

/-- What is bound to a column of numbers. -/
theorem bound_of_numeric (numeric : column.numeric = true) (undated : value.kind ≠ .date) :
    bound column field searches value = (Literal.number value.raw).bind fun n? =>
      (n?.map Scalar.number).elim (.error (.notANumber (Text.trim value.raw) field)) .ok := by
  simp only [bound, numeric, if_true, undated, if_false, Literal.number_trim]
  cases Literal.number value.raw with
  | error failure => rfl
  | ok n? => cases n? <;> rfl

/-- What a value of a request is bound as can be written where it has to be. -/
theorem takes_of_bound {v : Scalar} (h : bound column field searches value = .ok v) :
    column.takes v = true := by
  rw [Column.takes]
  cases numeric : column.numeric with
  | true => rfl
  | false =>
      simp only [bound, numeric, Bool.false_eq_true, if_false] at h
      split at h
      · split at h <;> cases h
        rfl
      · cases h
        rfl

/-- What cannot be bound is malformed, or an integer with too many digits in a column of
numbers. -/
theorem error_of_bound {failure : Failure}
    (h : bound column field searches value = .error failure) :
    failure.code? = some .malformedValue ∨
      column.numeric = true ∧ Literal.number value.raw = .error failure := by
  cases numeric : column.numeric with
  | true =>
      by_cases dated : value.kind = .date
      · simp only [bound, numeric, if_true, dated] at h
        cases h
        exact .inl rfl
      · rw [bound_of_numeric numeric dated] at h
        cases read : Literal.number value.raw with
        | error own =>
            rw [read] at h
            cases h
            exact .inr ⟨rfl, rfl⟩
        | ok n? =>
            rw [read] at h
            cases n? <;> cases h
            exact .inl rfl
  | false =>
      simp only [bound, numeric, Bool.false_eq_true, if_false] at h
      split at h
      · split at h <;> cases h
        exact .inl rfl
      · cases h

end Inquiry.Request
