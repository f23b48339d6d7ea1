import Inquiry.Text.Digit

/-!
# Calendar dates

Dates of the Gregorian calendar, and the compact form in which they are stored: eight digits, the
year first, so that the order of the texts is the order of the days.
-/

namespace Inquiry

namespace Calendar

/-- Leap years are divisible by four, full centuries only by four hundred. -/
def isLeap (year : Nat) : Bool := year % 4 == 0 && (year % 100 != 0 || year % 400 == 0)

/-- The length of a month. -/
def daysIn (year month : Nat) : Nat :=
  if month = 2 then if isLeap year then 29 else 28
  else if month ∈ [4, 6, 9, 11] then 30
  else 31

end Calendar

/-- A day that exists, in a year of at most four digits. -/
structure Date where
  year : Nat
  month : Nat
  day : Nat
  year_mem : 1 ≤ year ∧ year ≤ 9999
  month_mem : 1 ≤ month ∧ month ≤ 12
  day_mem : 1 ≤ day ∧ day ≤ Calendar.daysIn year month
  deriving DecidableEq, Repr

namespace Date

/-- The date with the given parts, if there is one. -/
def of? (year month day : Nat) : Option Date :=
  if h : (1 ≤ year ∧ year ≤ 9999) ∧ (1 ≤ month ∧ month ≤ 12) ∧
      1 ≤ day ∧ day ≤ Calendar.daysIn year month then
    some ⟨year, month, day, h.1, h.2.1, h.2.2⟩
  else none

/-- Digits of a number with zeros in front, at least `width` of them. -/
def padded (width n : Nat) : List Char :=
  List.replicate (width - (Text.digits n).length) '0' ++ Text.digits n

/-- Year, month and day without signs between them. -/
def compact (d : Date) : String :=
  String.ofList (padded 4 d.year ++ padded 2 d.month ++ padded 2 d.day)

end Date

end Inquiry
