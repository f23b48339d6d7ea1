import Inquiry.Calendar
import Inquiry.Scalar
import Mathlib.Algebra.Group.Int.Defs
import Mathlib.Algebra.Group.Nat.Defs
import Mathlib.Data.List.Basic
import Mathlib.Data.List.Induction

/-!
# Plain digits

The digits `0` to `9`, which the catalogue's columns and all numbers that are written
here consist of. The digits of a number denote it again, zeros in front do not
matter (`numeral_padded`), and texts of equally many plain digits are ordered as
their numbers are (`lt_iff_numeral_lt`). So an integer has too many digits to be
written exactly if it is large enough (`isWritable_iff`).
-/

namespace Inquiry.Text

/-- Digits from `0` to `9` only. -/
def PlainDigits (cs : List Char) : Prop := ∀ c ∈ cs, c.isDigit = true

theorem PlainDigits.append {cs ds : List Char} (first : PlainDigits cs) (second : PlainDigits ds) :
    PlainDigits (cs ++ ds) :=
  fun c member => (List.mem_append.mp member).elim (first c) (second c)

theorem plainDigits_cons {c : Char} {cs : List Char} :
    PlainDigits (c :: cs) ↔ c.isDigit = true ∧ PlainDigits cs :=
  List.forall_mem_cons

theorem PlainDigits.notMem {cs : List Char} (h : PlainDigits cs) {c : Char}
    (other : c.isDigit = false) : c ∉ cs := by
  intro member
  rw [h c member] at other
  cases other

theorem toNat_mem_of_isDigit {c : Char} (h : c.isDigit = true) :
    48 ≤ c.toNat ∧ c.toNat < 58 := by
  obtain ⟨least, most⟩ := Char.isDigit_iff_toNat.mp h
  exact ⟨least, Nat.lt_succ_of_le most⟩

/-! ## The number that plain digits denote -/

theorem digit?_plain {c : Char} (h : c.isDigit = true) : digit? c = some (c.toNat - 48) := by
  obtain ⟨least, most⟩ := toNat_mem_of_isDigit h
  rw [digit?, digitZeros, digitAmong, if_neg (Nat.not_lt.mpr least), if_pos most]

theorem isDigit_plain {c : Char} (h : c.isDigit = true) : isDigit c = true := by
  rw [isDigit, digit?_plain h]
  rfl

theorem numeral_plain {cs : List Char} (h : PlainDigits cs) :
    numeral cs = Nat.ofDigitChars 10 cs 0 := by
  rw [numeral, Nat.ofDigitChars_eq_foldl]
  refine List.foldl_ext _ _ _ fun n c member => ?_
  rw [digit?_plain (h c member)]
  rfl

theorem numeral_append {cs ds : List Char} (first : PlainDigits cs) (second : PlainDigits ds) :
    numeral (cs ++ ds) = numeral cs * 10 ^ ds.length + numeral ds := by
  rw [numeral_plain first, numeral_plain second, numeral_plain (first.append second),
    Nat.ofDigitChars_append, Nat.ofDigitChars_eq_ofDigitChars_zero, Nat.mul_comm]

theorem numeral_cons {c : Char} {cs : List Char} (first : c.isDigit = true) (h : PlainDigits cs) :
    numeral (c :: cs) = (c.toNat - 48) * 10 ^ cs.length + numeral cs := by
  have own : numeral [c] = c.toNat - 48 := by
    simp [numeral, digit?_plain first]
  have one : PlainDigits [c] := plainDigits_cons.mpr ⟨first, List.forall_mem_nil _⟩
  rw [← own, ← numeral_append one h, List.singleton_append]

theorem digitAmong_lt {zeros : List Nat} {code d : Nat} (h : digitAmong zeros code = some d) :
    d < 10 := by
  fun_induction digitAmong zeros code with
  | case1 | case2 => cases h
  | case3 => cases h; omega
  | case4 first rest before _ behind ih => exact ih h

/-- A number is less than the power of ten for its digits, of whatever script they are. -/
theorem numeral_lt (cs : List Char) : numeral cs < 10 ^ cs.length := by
  induction cs using List.reverseRecOn with
  | nil => decide
  | append_singleton cs c ih =>
      have digit : (digit? c).getD 0 < 10 := by
        cases found : digit? c with
        | none => exact Nat.zero_lt_succ 9
        | some d => exact digitAmong_lt found
      have last : numeral (cs ++ [c]) = 10 * numeral cs + (digit? c).getD 0 := by
        rw [numeral, List.foldl_append]
        rfl
      rw [last, List.length_append, List.length_singleton, Nat.pow_succ]
      omega

/-! ## The order of the texts -/

/-- Of two texts with equally many digits the first one has the smaller number. -/
theorem lt_iff_numeral_lt {as bs : List Char} (same : as.length = bs.length) (ha : PlainDigits as)
    (hb : PlainDigits bs) : as < bs ↔ numeral as < numeral bs := by
  induction as generalizing bs with
  | nil =>
      rw [List.length_nil] at same
      rw [List.eq_nil_of_length_eq_zero same.symm]
      simp
  | cons a as ih =>
      cases bs with
      | nil => cases same
      | cons b bs =>
          have same : as.length = bs.length := Nat.succ.inj same
          obtain ⟨digitA, ha⟩ := plainDigits_cons.mp ha
          obtain ⟨digitB, hb⟩ := plainDigits_cons.mp hb
          have least := (toNat_mem_of_isDigit digitA).1
          have boundA := numeral_lt as
          have boundB := numeral_lt bs
          rw [List.cons_lt_cons_iff, ih same ha hb, numeral_cons digitA ha, numeral_cons digitB hb,
            ← same]
          rw [← same] at boundB
          -- The leading digits decide unless they are the same.
          rcases Nat.lt_trichotomy a.toNat b.toNat with lt | eq | gt
          · refine iff_of_true (.inl lt) ?_
            have more : (a.toNat - 48 + 1) * 10 ^ as.length ≤ (b.toNat - 48) * 10 ^ as.length :=
              Nat.mul_le_mul_right _ (by omega)
            rw [Nat.succ_mul] at more
            omega
          · rw [Char.toNat_inj.mp eq]
            simp
          · have leastB := (toNat_mem_of_isDigit digitB).1
            have more : (b.toNat - 48 + 1) * 10 ^ as.length ≤ (a.toNat - 48) * 10 ^ as.length :=
              Nat.mul_le_mul_right _ (by omega)
            rw [Nat.succ_mul] at more
            refine iff_of_false ?_ (by omega)
            rintro (lt | ⟨rfl, -⟩)
            · exact Nat.lt_asymm gt lt
            · exact Nat.lt_irrefl _ gt

/-! ## The digits of a number -/

theorem plainDigits_digits (n : Nat) : PlainDigits (digits n) :=
  fun _ => Nat.isDigit_of_mem_toDigits (by decide) (by decide)

theorem digits_ne_nil (n : Nat) : digits n ≠ [] := Nat.toDigits_ne_nil

theorem numeral_digits (n : Nat) : numeral (digits n) = n := by
  rw [numeral_plain (plainDigits_digits n), digits, Nat.ofDigitChars_ten_toDigits]

theorem length_digits_le_iff {n width : Nat} (some : 0 < width) :
    (digits n).length ≤ width ↔ n < 10 ^ width :=
  Nat.length_toDigits_le_iff (by decide) some

end Inquiry.Text

namespace Inquiry

theorem isWritable_iff {n : Int} : isWritable n = true ↔ n.natAbs < 10 ^ maxDigits := by
  rw [isWritable, decide_eq_true_iff, Text.length_digits_le_iff (by decide)]

/-- The smallest positive integer that cannot be written. -/
theorem not_isWritable_pow : isWritable (10 ^ maxDigits) = false := by
  have irrefl (width : Nat) : ¬ ((10 : Int) ^ width).natAbs < 10 ^ width := by
    rw [Int.natAbs_pow]
    exact Nat.lt_irrefl (10 ^ width)
  rw [Bool.eq_false_iff, ne_eq, isWritable_iff]
  exact irrefl maxDigits

end Inquiry

namespace Inquiry.Date

open Text

theorem plainDigits_padded (width n : Nat) : PlainDigits (padded width n) := by
  refine PlainDigits.append (fun c zero => ?_) (plainDigits_digits n)
  rw [List.eq_of_mem_replicate zero]
  rfl

theorem length_padded_of_lt {width n : Nat} (some : 0 < width) (h : n < 10 ^ width) :
    (padded width n).length = width := by
  have fits := (length_digits_le_iff some).mpr h
  rw [padded, List.length_append, List.length_replicate]
  omega

theorem padded_of_le {width n : Nat} (h : width ≤ (digits n).length) :
    padded width n = digits n := by
  rw [padded, Nat.sub_eq_zero_of_le h, List.replicate_zero, List.nil_append]

/-- Zeros in front do not change the number. -/
theorem numeral_padded (width n : Nat) : numeral (padded width n) = n := by
  have zeros : numeral (List.replicate (width - (digits n).length) '0') = 0 := by
    rw [numeral_plain fun c zero => List.eq_of_mem_replicate zero ▸ rfl,
      Nat.ofDigitChars_replicate_zero, Nat.mul_zero]
  rw [padded,
    numeral_append (fun c zero => List.eq_of_mem_replicate zero ▸ rfl) (plainDigits_digits n),
    zeros, numeral_digits, Nat.zero_mul, Nat.zero_add]

end Inquiry.Date
