import Inquiry.Literal.Date
import Inquiry.Proofs.Blanks
import Inquiry.Proofs.DayOrder
import Inquiry.Proofs.TokenText
import Mathlib.Tactic.FinCases
import Mathlib.Tactic.IntervalCases

/-!
# The notations of a date

A date is written with points or slashes in day-month-year order, with hyphens in
year-month-day order, or in compact form. Its day and its month may have a zero in
front, or none where a sign ends them. All these texts denote the same day
(`date?_of_notation`).

A literal that denotes a day at all has therefore one normal form, which denotes the
day again, and the normal forms are ordered as the days are (`dates_normalised`).
-/

namespace Inquiry.Literal

open Text

/-! ## Preferred readings -/

variable {part : DatePart} {parts : List DatePart} {fields read : DateFields}
  {cs rest : List Char} {n : Nat}

theorem suffix_of_smallNumber (h : (n, rest) ∈ smallNumber cs) : rest <:+ cs := by
  unfold smallNumber at h
  split at h
  · split at h
    · obtain ⟨-, rfl⟩ := Prod.mk.inj (List.mem_singleton.mp h)
      exact ⟨['0', _], rfl⟩
    · cases h
  · split at h
    · obtain ⟨-, rfl⟩ := Prod.mk.inj (List.mem_singleton.mp h)
      exact List.suffix_cons _ _
    · cases h
  · cases h

theorem suffix_of_monthReadings (h : (n, rest) ∈ monthReadings cs) : rest <:+ cs := by
  rw [monthReadings.eq_def, List.mem_append] at h
  rcases h with h | h
  · split at h
    case h_4 => cases h
    all_goals
      obtain ⟨-, rfl⟩ := Prod.mk.inj (List.mem_singleton.mp h)
      exact ⟨[_, _], rfl⟩
  · exact suffix_of_smallNumber h

theorem suffix_of_dayReadings (h : (n, rest) ∈ dayReadings cs) : rest <:+ cs := by
  rw [dayReadings.eq_def, List.mem_append, List.mem_append] at h
  rcases h with (h | h) | h
  · split at h
    case h_5 => cases h
    case h_1 | h_2 =>
      obtain ⟨-, rfl⟩ := Prod.mk.inj (List.mem_singleton.mp h)
      exact ⟨[_, _], rfl⟩
    all_goals
      split at h
      · obtain ⟨-, rfl⟩ := Prod.mk.inj (List.mem_singleton.mp h)
        exact ⟨[_, _], rfl⟩
      · cases h
  · exact suffix_of_smallNumber h
  · split at h
    · split at h
      · obtain ⟨-, rfl⟩ := Prod.mk.inj (List.mem_singleton.mp h)
        exact ⟨[_, _], rfl⟩
      · cases h
    · cases h

theorem suffix_of_yearReadings (h : (n, rest) ∈ yearReadings cs) : rest <:+ cs := by
  unfold yearReadings at h
  split at h
  · split at h
    · obtain ⟨-, rfl⟩ := Prod.mk.inj (List.mem_singleton.mp h)
      exact ⟨[_, _, _, _], rfl⟩
    · cases h
  · cases h

/-- What a part leaves of a text is the end of the text. -/
theorem suffix_of_readings (h : (read, rest) ∈ part.readings fields cs) : rest <:+ cs := by
  cases part with
  | day =>
      obtain ⟨⟨n, _⟩, member, heq⟩ := List.mem_map.mp h
      obtain ⟨-, rfl⟩ := Prod.mk.inj heq
      exact suffix_of_dayReadings member
  | month =>
      obtain ⟨⟨n, _⟩, member, heq⟩ := List.mem_map.mp h
      obtain ⟨-, rfl⟩ := Prod.mk.inj heq
      exact suffix_of_monthReadings member
  | year =>
      obtain ⟨⟨n, _⟩, member, heq⟩ := List.mem_map.mp h
      obtain ⟨-, rfl⟩ := Prod.mk.inj heq
      exact suffix_of_yearReadings member
  | sign c =>
      cases cs with
      | nil => cases h
      | cons d cs =>
          simp only [DatePart.readings] at h
          split at h
          · obtain ⟨-, rfl⟩ := Prod.mk.inj (List.mem_singleton.mp h)
            exact List.suffix_cons _ _
          · cases h

/-- A form has no reading for a text that lacks one of its signs. -/
theorem dateReadings_eq_nil {c : Char} (needed : .sign c ∈ parts) (absent : c ∉ cs) :
    dateReadings parts fields cs = [] := by
  induction parts generalizing fields cs with
  | nil => cases needed
  | cons part parts ih =>
      rw [dateReadings, List.flatMap_eq_nil_iff]
      rintro ⟨read, rest⟩ member
      rcases List.mem_cons.mp needed with rfl | later
      · cases cs with
        | nil => cases member
        | cons d cs =>
            have other : d ≠ c := fun same => absent (same ▸ List.mem_cons_self)
            rw [DatePart.readings, if_neg other] at member
            cases member
      · exact ih later fun present => absent ((suffix_of_readings member).subset present)

theorem dateIn?_eq_none {form : List DatePart} {c : Char} (needed : .sign c ∈ form)
    (absent : c ∉ cs) : dateIn? form cs = none := by
  rw [dateIn?, dateReadings_eq_nil needed absent]

/-- The preferred reading takes the preferred reading of each part. -/
theorem head?_dateReadings_cons {found : DateFields × List Char}
    (first : (part.readings fields cs).head? = some (read, rest))
    (others : (dateReadings parts read rest).head? = some found) :
    (dateReadings (part :: parts) fields cs).head? = some found := by
  obtain ⟨more, readings⟩ := List.head?_eq_some_iff.mp first
  rw [dateReadings, readings, List.flatMap_cons, List.head?_append, others]
  rfl

theorem head?_dateReadings_sign {found : DateFields × List Char} {c : Char}
    (others : (dateReadings parts fields rest).head? = some found) :
    (dateReadings (.sign c :: parts) fields (c :: rest)).head? = some found :=
  head?_dateReadings_cons (by rw [DatePart.readings, if_pos rfl, List.head?_cons]) others

theorem dateIn?_of_head {form : List DatePart} {d : Date}
    (preferred : (dateReadings form {} cs).head? = some (⟨d.year, d.month, d.day⟩, []))
    (late : 1000 ≤ d.year) : dateIn? form cs = some d := by
  obtain ⟨more, readings⟩ := List.head?_eq_some_iff.mp preferred
  simp only [dateIn?, readings, Date.of?_self, Option.filter_some, late, decide_true, if_true]

/-! ## Days, months and years -/

/-- A day or a month as it is written: a zero in front of a single digit is free. -/
def WrittenPart (n : Nat) (cs : List Char) : Prop := cs = digits n ∨ cs = Date.padded 2 n

/-- What may stand behind a single digit: nothing, or a sign. -/
def Ends (cs : List Char) : Prop := cs = [] ∨ ∃ c ∈ ['.', '/', '-'], ∃ rest, cs = c :: rest

theorem WrittenPart.plainDigits (h : WrittenPart n cs) : PlainDigits cs := by
  rcases h with rfl | rfl
  · exact plainDigits_digits n
  · exact Date.plainDigits_padded 2 n

theorem WrittenPart.cases (h : WrittenPart n cs) :
    cs = Date.padded 2 n ∨ (n < 10 ∧ cs = [n.digitChar]) := by
  rcases h with rfl | padded
  · by_cases small : n < 10
    · exact .inr ⟨small, Nat.toDigits_of_lt_base small⟩
    · have long : ¬ (digits n).length ≤ 1 :=
        fun short => small ((length_digits_le_iff Nat.one_pos).mp short)
      exact .inl (Date.padded_of_le (Nat.lt_of_not_le long)).symm
  · exact .inl padded

theorem head?_dayReadings_padded (some : 1 ≤ n) (most : n ≤ 31) (rest : List Char) :
    (dayReadings (Date.padded 2 n ++ rest)).head? = .some (n, rest) := by
  interval_cases n <;> rfl

theorem head?_dayReadings (h : WrittenPart n cs) (some : 1 ≤ n) (most : n ≤ 31)
    (ends : Ends rest) : (dayReadings (cs ++ rest)).head? = .some (n, rest) := by
  obtain rfl | ⟨small, rfl⟩ := h.cases
  · exact head?_dayReadings_padded some most rest
  · obtain rfl | ⟨c, sign, rest, rfl⟩ := ends
    · interval_cases n <;> rfl
    · fin_cases sign <;> interval_cases n <;> rfl

theorem head?_monthReadings_padded (some : 1 ≤ n) (most : n ≤ 12) (rest : List Char) :
    (monthReadings (Date.padded 2 n ++ rest)).head? = .some (n, rest) := by
  interval_cases n <;> rfl

theorem head?_monthReadings (h : WrittenPart n cs) (some : 1 ≤ n) (most : n ≤ 12)
    (ends : Ends rest) : (monthReadings (cs ++ rest)).head? = .some (n, rest) := by
  obtain rfl | ⟨small, rfl⟩ := h.cases
  · exact head?_monthReadings_padded some most rest
  · obtain rfl | ⟨c, sign, rest, rfl⟩ := ends
    · interval_cases n <;> rfl
    · fin_cases sign <;> interval_cases n <;> rfl

theorem head?_yearReadings (d : Date) (rest : List Char) :
    (yearReadings (Date.padded 4 d.year ++ rest)).head? = some (d.year, rest) := by
  have plain := Date.plainDigits_padded 4 d.year
  have value := Date.numeral_padded 4 d.year
  have four := d.length_year
  generalize Date.padded 4 d.year = cs at *
  match cs, four with
  | [a, b, c, e], _ =>
      have digits : [a, b, c, e].all isDigit = true :=
        List.all_eq_true.mpr fun x member => isDigit_plain (plain x member)
      rw [← value, List.cons_append, List.cons_append, List.cons_append, List.cons_append,
        List.nil_append, yearReadings, if_pos digits, List.head?_cons]

/-! ## Four notations -/

/-- The notations of a date. -/
inductive DateNotation (d : Date) : List Char → Prop where
  | points {day month : List Char} (ownDay : WrittenPart d.day day)
      (ownMonth : WrittenPart d.month month) :
      DateNotation d (day ++ '.' :: (month ++ '.' :: Date.padded 4 d.year))
  | slashes {day month : List Char} (ownDay : WrittenPart d.day day)
      (ownMonth : WrittenPart d.month month) :
      DateNotation d (day ++ '/' :: (month ++ '/' :: Date.padded 4 d.year))
  | hyphens {day month : List Char} (ownDay : WrittenPart d.day day)
      (ownMonth : WrittenPart d.month month) :
      DateNotation d (Date.padded 4 d.year ++ '-' :: (month ++ '-' :: day))
  | compact : DateNotation d (Date.padded 4 d.year ++ Date.padded 2 d.month ++ Date.padded 2 d.day)

variable {d : Date}

theorem DateNotation.visible (h : DateNotation d cs) : ∀ c ∈ cs, isBlank c = false := by
  have plain {cs : List Char} (h : PlainDigits cs) : ∀ c ∈ cs, isBlank c = false :=
    fun c member => isBlank_of_isDigit (isDigit_plain (h c member))
  have year := plain (Date.plainDigits_padded 4 d.year)
  cases h with
  | points day month | slashes day month =>
      simp only [List.forall_mem_append, List.forall_mem_cons]
      exact ⟨plain day.plainDigits, by decide, plain month.plainDigits, by decide, year⟩
  | hyphens day month =>
      simp only [List.forall_mem_append, List.forall_mem_cons]
      exact ⟨year, by decide, plain month.plainDigits, by decide, plain day.plainDigits⟩
  | compact => exact plain (d.toList_compact ▸ d.plainDigits_compact)

theorem DateNotation.ne_nil (h : DateNotation d cs) : cs ≠ [] := by
  cases h with
  | points | slashes | hyphens => simp
  | compact =>
      rw [← d.toList_compact]
      exact List.ne_nil_of_length_eq_add_one d.length_compact

theorem head?_readings_year :
    (DatePart.year.readings fields (Date.padded 4 d.year ++ rest)).head? =
      some ({ fields with year := d.year }, rest) := by
  rw [DatePart.readings, List.head?_map, head?_yearReadings, Option.map_some]

theorem head?_readings_month (h : WrittenPart d.month cs) (ends : Ends rest) :
    (DatePart.month.readings fields (cs ++ rest)).head? =
      some ({ fields with month := d.month }, rest) := by
  rw [DatePart.readings, List.head?_map, head?_monthReadings h d.month_mem.1 d.month_mem.2 ends,
    Option.map_some]

theorem head?_readings_day (h : WrittenPart d.day cs) (ends : Ends rest) :
    (DatePart.day.readings fields (cs ++ rest)).head? =
      some ({ fields with day := d.day }, rest) := by
  rw [DatePart.readings, List.head?_map, head?_dayReadings h d.day_mem.1 d.day_le ends,
    Option.map_some]

theorem Ends.sign {c : Char} (h : c ∈ ['.', '/', '-']) (rest : List Char) : Ends (c :: rest) :=
  .inr ⟨c, h, rest, rfl⟩

/-- The form of day, month and year with a sign between them. -/
def dayFirst (c : Char) : List DatePart := [.day, .sign c, .month, .sign c, .year]

/-- The form of year, month and day with hyphens between them. -/
def yearFirst : List DatePart := [.year, .sign '-', .month, .sign '-', .day]

theorem dateForms_eq :
    dateForms = [dayFirst '.', dayFirst '/', yearFirst, [.year, .month, .day]] := rfl

theorem sign_mem_dayFirst (c : Char) : .sign c ∈ dayFirst c := by simp [dayFirst]

theorem head?_dayFirst {c : Char} (sign : c ∈ ['.', '/', '-']) {day month : List Char}
    (ownDay : WrittenPart d.day day) (ownMonth : WrittenPart d.month month) :
    (dateReadings (dayFirst c) {}
      (day ++ c :: (month ++ c :: Date.padded 4 d.year))).head? =
        some (⟨d.year, d.month, d.day⟩, []) := by
  have year : (dateReadings [.year] ⟨0, d.month, d.day⟩ (Date.padded 4 d.year)).head? =
      some (⟨d.year, d.month, d.day⟩, []) := by
    rw [← List.append_nil (Date.padded 4 d.year)]
    exact head?_dateReadings_cons head?_readings_year rfl
  exact head?_dateReadings_cons (head?_readings_day ownDay (.sign sign _))
    (head?_dateReadings_sign
      (head?_dateReadings_cons (head?_readings_month ownMonth (.sign sign _))
        (head?_dateReadings_sign year)))

theorem head?_yearFirst {day month : List Char} (ownDay : WrittenPart d.day day)
    (ownMonth : WrittenPart d.month month) :
    (dateReadings yearFirst {}
      (Date.padded 4 d.year ++ '-' :: (month ++ '-' :: day))).head? =
        some (⟨d.year, d.month, d.day⟩, []) := by
  have last : (dateReadings [.day] ⟨d.year, d.month, 0⟩ day).head? =
      some (⟨d.year, d.month, d.day⟩, []) := by
    rw [← List.append_nil day]
    exact head?_dateReadings_cons (head?_readings_day ownDay (.inl rfl)) rfl
  exact head?_dateReadings_cons head?_readings_year
    (head?_dateReadings_sign
      (head?_dateReadings_cons (head?_readings_month ownMonth (.sign (by decide) _))
        (head?_dateReadings_sign last)))

/-- In compact form nothing ends the month but its two digits. -/
theorem head?_compact :
    (dateReadings [.year, .month, .day] {}
      (Date.padded 4 d.year ++ Date.padded 2 d.month ++ Date.padded 2 d.day)).head? =
        some (⟨d.year, d.month, d.day⟩, []) := by
  have last : (dateReadings [.day] ⟨d.year, d.month, 0⟩ (Date.padded 2 d.day)).head? =
      some (⟨d.year, d.month, d.day⟩, []) := by
    rw [← List.append_nil (Date.padded 2 d.day)]
    exact head?_dateReadings_cons (head?_readings_day (.inr rfl) (.inl rfl)) rfl
  have month : (DatePart.month.readings ⟨d.year, 0, 0⟩
      (Date.padded 2 d.month ++ Date.padded 2 d.day)).head? =
        some (⟨d.year, d.month, 0⟩, Date.padded 2 d.day) := by
    rw [DatePart.readings, List.head?_map,
      head?_monthReadings_padded d.month_mem.1 d.month_mem.2, Option.map_some]
  rw [List.append_assoc]
  exact head?_dateReadings_cons head?_readings_year (head?_dateReadings_cons month last)

/-- The forms are tried one after the other. The signs of the forms in front are not in
the text, so that these have no reading for it. -/
theorem findSome?_dateForms (h : DateNotation d cs) (late : 1000 ≤ d.year) :
    dateForms.findSome? (dateIn? · cs) = some d := by
  have year := Date.plainDigits_padded 4 d.year
  cases h with
  | points ownDay ownMonth =>
      have first := dateIn?_of_head (head?_dayFirst (c := '.') (by decide) ownDay ownMonth) late
      simp only [dateForms_eq, List.findSome?_cons, first]
  | @slashes day month ownDay ownMonth =>
      have pointless : '.' ∉ day ++ '/' :: (month ++ '/' :: Date.padded 4 d.year) := by
        simp [ownDay.plainDigits.notMem, ownMonth.plainDigits.notMem, year.notMem]
      have first := dateIn?_eq_none (sign_mem_dayFirst '.') pointless
      have second := dateIn?_of_head (head?_dayFirst (c := '/') (by decide) ownDay ownMonth) late
      simp only [dateForms_eq, List.findSome?_cons, first, second]
  | @hyphens day month ownDay ownMonth =>
      have absent (c : Char) (sign : c ∈ ['.', '/']) :
          c ∉ Date.padded 4 d.year ++ '-' :: (month ++ '-' :: day) := by
        have none : ∀ c ∈ ['.', '/'], c.isDigit = false ∧ c ≠ '-' := by decide
        obtain ⟨noDigit, noHyphen⟩ := none c sign
        simp [year.notMem noDigit, ownMonth.plainDigits.notMem noDigit,
          ownDay.plainDigits.notMem noDigit, noHyphen]
      have first := dateIn?_eq_none (sign_mem_dayFirst '.') (absent '.' (by decide))
      have second := dateIn?_eq_none (sign_mem_dayFirst '/') (absent '/' (by decide))
      have third := dateIn?_of_head (head?_yearFirst ownDay ownMonth) late
      simp only [dateForms_eq, List.findSome?_cons, first, second, third]
  | compact =>
      have plain : PlainDigits
          (Date.padded 4 d.year ++ Date.padded 2 d.month ++ Date.padded 2 d.day) :=
        d.toList_compact ▸ d.plainDigits_compact
      have first := dateIn?_eq_none (sign_mem_dayFirst '.') (plain.notMem (c := '.') rfl)
      have second := dateIn?_eq_none (sign_mem_dayFirst '/') (plain.notMem (c := '/') rfl)
      have hyphen : .sign '-' ∈ yearFirst := by simp [yearFirst]
      have third := dateIn?_eq_none hyphen (plain.notMem (c := '-') rfl)
      have fourth := dateIn?_of_head head?_compact late
      simp only [dateForms_eq, List.findSome?_cons, first, second, third, fourth]

/-- A text with a notation of a date, and blanks around it, denotes the date. -/
theorem date?_of_notation (h : DateNotation d cs) (late : 1000 ≤ d.year) {before behind : List Char}
    (lead : ∀ c ∈ before, isBlank c = true) (trail : ∀ c ∈ behind, isBlank c = true) :
    date? (String.ofList (before ++ cs ++ behind)) = some d := by
  rw [date?, String.toList_ofList, trimmed_of_visible h.ne_nil h.visible lead trail]
  exact findSome?_dateForms h late

theorem date?_compact (late : 1000 ≤ d.year) : date? d.compact = some d := by
  have own := date?_of_notation (.compact (d := d)) late (List.forall_mem_nil _)
    (List.forall_mem_nil _)
  rwa [List.nil_append, List.append_nil] at own

theorem late_of_date? {text : String} (h : date? text = some d) : 1000 ≤ d.year := by
  obtain ⟨form, -, found⟩ := List.exists_of_findSome?_eq_some h
  unfold dateIn? at found
  split at found
  · exact of_decide_eq_true (Option.filter_eq_some_iff.mp found).2
  · cases found

/-- A text that denotes a date denotes a day that exists, in a year of four digits. Its
compact form spells year, month and day in eight digits and denotes the same day. Every
notation of such a day, with blanks around it or none, denotes it. And of two texts
that denote days, the compact forms are ordered as the days are. -/
theorem dates_normalised :
    (∀ {text d}, date? text = some d →
      d.Spelt d.compact.toList ∧ (1000 ≤ d.year ∧ d.year ≤ 9999) ∧
        (1 ≤ d.month ∧ d.month ≤ 12) ∧ (1 ≤ d.day ∧ d.day ≤ Calendar.daysIn d.year d.month) ∧
        date? d.compact = some d) ∧
    (∀ {d : Date} {cs before behind}, 1000 ≤ d.year → DateNotation d cs →
      (∀ c ∈ before, isBlank c = true) → (∀ c ∈ behind, isBlank c = true) →
      date? (String.ofList (before ++ cs ++ behind)) = some d) ∧
    (∀ {a b da db}, date? a = some da → date? b = some db →
      (da.compact ≤ db.compact ↔ da.dayNumber ≤ db.dayNumber)) := by
  refine ⟨fun {text d} denotes => ?_, fun late written => date?_of_notation written late,
    fun _ _ => Date.compact_le_iff⟩
  have late := late_of_date? denotes
  exact ⟨d.spelt_compact, ⟨late, d.year_mem.2⟩, d.month_mem, d.day_mem, date?_compact late⟩

/-- A day that few years have. -/
def leapDay : Date := ⟨2024, 2, 29, by decide, by decide, by decide⟩

/-- The day after it. -/
def dayAfter : Date := ⟨2024, 3, 1, by decide, by decide, by decide⟩

theorem dates_normalised_leapDay :
    (leapDay.Spelt leapDay.compact.toList ∧ date? leapDay.compact = some leapDay) ∧
      date? "29/02/2024 " = some leapDay ∧
      (leapDay.compact ≤ dayAfter.compact ↔ leapDay.dayNumber ≤ dayAfter.dayNumber) := by
  obtain ⟨normal, notations, order⟩ := dates_normalised
  have denotes : date? "29.2.2024" = some leapDay := by decide +kernel
  have next : date? "2024-3-1" = some dayAfter := by decide +kernel
  obtain ⟨spelt, -, -, -, again⟩ := normal denotes
  have slashes : DateNotation leapDay (['2', '9'] ++ '/' :: (['0', '2'] ++ '/' :: _)) :=
    .slashes (.inl (by decide)) (.inr (by decide))
  have blank : date? (String.ofList ([] ++ (['2', '9'] ++ '/' :: (['0', '2'] ++ '/' ::
      Date.padded 4 leapDay.year)) ++ [' '])) = some leapDay :=
    notations (by decide) slashes (by decide) (by decide)
  have text : String.ofList ([] ++ (['2', '9'] ++ '/' :: (['0', '2'] ++ '/' ::
      Date.padded 4 leapDay.year)) ++ [' ']) = "29/02/2024 " := by decide +kernel
  exact ⟨⟨spelt, again⟩, text ▸ blank, order denotes next⟩

end Inquiry.Literal
