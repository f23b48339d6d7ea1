import Inquiry.Proofs.PlainDigits
import Mathlib.Algebra.BigOperators.Intervals
import Mathlib.Algebra.Order.BigOperators.Group.Finset

/-!
# The order of the days

Days are counted from the first day of year one. A day of an earlier year comes
earlier, and so does one of an earlier month of the same year; so the parts of two
dates decide their order one after the other (`Date.dayNumber_lt_iff`).

The compact form has year, month and day in that order, each with a fixed number of
digits. So the order of the compact texts is the order of the days
(`Date.compact_le_iff`), and a column of such texts can be compared and searched for
a range.
-/

namespace Inquiry

open Text

namespace Calendar

/-- The number of days in the months of a year that come before a month. -/
def daysBefore (year month : Nat) : Nat := ∑ m ∈ Finset.Ico 1 month, daysIn year m

/-- The length of a year, all months together. -/
def daysOf (year : Nat) : Nat := daysBefore year 13

theorem daysIn_le (year month : Nat) : daysIn year month ≤ 31 := by
  unfold daysIn
  split
  · split <;> decide
  · split <;> decide

theorem daysBefore_succ {year month : Nat} (h : 1 ≤ month) :
    daysBefore year (month + 1) = daysBefore year month + daysIn year month :=
  Finset.sum_Ico_succ_top h _

theorem daysBefore_le {year month later : Nat} (h : month ≤ later) :
    daysBefore year month ≤ daysBefore year later :=
  Finset.sum_le_sum_of_subset (Finset.Ico_subset_Ico_right h)

end Calendar

namespace Date

open Calendar

theorem of?_self (d : Date) : of? d.year d.month d.day = some d := by
  rw [of?, dif_pos ⟨d.year_mem, d.month_mem, d.day_mem⟩]

/-- The number of a day, counted from the first day of year one. -/
def dayNumber (d : Date) : Nat :=
  ∑ year ∈ Finset.Ico 1 d.year, daysOf year + daysBefore d.year d.month + d.day

/-- A day comes before the month ends. -/
theorem day_le_daysBefore {d : Date} {later : Nat} (h : d.month < later) :
    daysBefore d.year d.month + d.day ≤ daysBefore d.year later := by
  calc daysBefore d.year d.month + d.day
      ≤ daysBefore d.year d.month + daysIn d.year d.month := Nat.add_le_add_left d.day_mem.2 _
    _ = daysBefore d.year (d.month + 1) := (daysBefore_succ d.month_mem.1).symm
    _ ≤ daysBefore d.year later := daysBefore_le h

theorem dayNumber_lt_of_year {a b : Date} (h : a.year < b.year) : a.dayNumber < b.dayNumber := by
  have inYear : daysBefore a.year a.month + a.day ≤ daysOf a.year :=
    day_le_daysBefore (Nat.lt_succ_of_le a.month_mem.2)
  have years : ∑ year ∈ Finset.Ico 1 a.year, daysOf year + daysOf a.year ≤
      ∑ year ∈ Finset.Ico 1 b.year, daysOf year := by
    rw [← Finset.sum_Ico_succ_top a.year_mem.1]
    exact Finset.sum_le_sum_of_subset (Finset.Ico_subset_Ico_right h)
  have first := b.day_mem.1
  simp only [dayNumber]
  omega

theorem dayNumber_lt_of_month {a b : Date} (year : a.year = b.year) (h : a.month < b.month) :
    a.dayNumber < b.dayNumber := by
  have inMonth := day_le_daysBefore h
  have first := b.day_mem.1
  simp only [dayNumber, ← year]
  omega

/-- The parts of two dates decide one after the other which day is earlier. -/
theorem dayNumber_lt_iff (a b : Date) :
    a.dayNumber < b.dayNumber ↔ a.year < b.year ∨ (a.year = b.year ∧
      (a.month < b.month ∨ (a.month = b.month ∧ a.day < b.day))) := by
  rcases Nat.lt_trichotomy a.year b.year with lt | year | gt
  · exact iff_of_true (dayNumber_lt_of_year lt) (.inl lt)
  · rcases Nat.lt_trichotomy a.month b.month with lt | month | gt
    · exact iff_of_true (dayNumber_lt_of_month year lt) (.inr ⟨year, .inl lt⟩)
    · simp [dayNumber, year, month]
    · have later := dayNumber_lt_of_month year.symm gt
      omega
  · have later := dayNumber_lt_of_year gt
    omega

/-! ## The compact form -/

/-- Eight digits that spell a date: the year, the month, the day. -/
structure Spelt (d : Date) (cs : List Char) : Prop where
  length : cs.length = 8
  plain : PlainDigits cs
  year : numeral (cs.take 4) = d.year
  month : numeral ((cs.drop 4).take 2) = d.month
  day : numeral (cs.drop 6) = d.day

variable (d : Date)

theorem toList_compact :
    d.compact.toList = padded 4 d.year ++ padded 2 d.month ++ padded 2 d.day :=
  String.toList_ofList

theorem length_year : (padded 4 d.year).length = 4 :=
  length_padded_of_lt (by decide) (Nat.lt_succ_of_le d.year_mem.2)

theorem length_month : (padded 2 d.month).length = 2 :=
  length_padded_of_lt (by decide) (Nat.lt_of_le_of_lt d.month_mem.2 (by decide))

theorem day_le : d.day ≤ 31 := Nat.le_trans d.day_mem.2 (daysIn_le _ _)

theorem length_day : (padded 2 d.day).length = 2 :=
  length_padded_of_lt (by decide) (Nat.lt_of_le_of_lt d.day_le (by decide))

theorem plainDigits_compact : PlainDigits d.compact.toList := by
  rw [toList_compact]
  exact ((plainDigits_padded 4 _).append (plainDigits_padded 2 _)).append (plainDigits_padded 2 _)

theorem length_compact : d.compact.toList.length = 8 := by
  rw [toList_compact, List.length_append, List.length_append, length_year, length_month,
    length_day]

theorem spelt_compact : d.Spelt d.compact.toList where
  length := d.length_compact
  plain := d.plainDigits_compact
  year := by
    rw [toList_compact, List.append_assoc, List.take_left' d.length_year, numeral_padded]
  month := by
    rw [toList_compact, List.append_assoc, List.drop_left' d.length_year,
      List.take_left' d.length_month, numeral_padded]
  day := by
    have front : (padded 4 d.year ++ padded 2 d.month).length = 6 := by
      rw [List.length_append, length_year, length_month]
    rw [toList_compact, List.drop_left' front, numeral_padded]

theorem numeral_compact :
    numeral d.compact.toList = (d.year * 100 + d.month) * 100 + d.day := by
  have year := plainDigits_padded 4 d.year
  have month := plainDigits_padded 2 d.month
  have day := plainDigits_padded 2 d.day
  have whole := numeral_append (year.append month) day
  rw [numeral_append year month, length_month, length_day, numeral_padded, numeral_padded,
    numeral_padded] at whole
  rw [toList_compact]
  exact whole

variable {d} {a b : Date}

theorem compact_lt_iff : a.compact < b.compact ↔ a.dayNumber < b.dayNumber := by
  have same : a.compact.toList.length = b.compact.toList.length :=
    a.length_compact.trans b.length_compact.symm
  have order : a.compact < b.compact ↔
      numeral a.compact.toList < numeral b.compact.toList :=
    lt_iff_numeral_lt same a.plainDigits_compact b.plainDigits_compact
  have months := a.month_mem.2
  have others := b.month_mem.2
  have days := a.day_le
  have further := b.day_le
  rw [order, numeral_compact, numeral_compact, dayNumber_lt_iff]
  omega

/-- The compact texts are ordered as the days are. -/
theorem compact_le_iff : a.compact ≤ b.compact ↔ a.dayNumber ≤ b.dayNumber := by
  rw [← String.not_lt, compact_lt_iff, Nat.not_lt]

end Date

end Inquiry
