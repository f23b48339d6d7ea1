import Inquiry.Literal.Number
import Mathlib.Data.List.Basic
import Mathlib.Data.List.TakeWhile

/-!
# The notations of numbers

A number is written in plain notation, `1234.5`, or in German notation, where points
group the thousands and a comma marks the decimals, `1.234,5`. A text without a
comma is a number exactly if it is written in one of these ways. In a text with a
comma the points are dropped wherever they stand: whether what is left has one comma
between digits is all that counts (`number?_eq_some_iff`).
-/

namespace Inquiry.Literal

open Text

/-- Digits, at least one. -/
def IsDigits (cs : List Char) : Prop := cs ≠ [] ∧ ∀ c ∈ cs, isDigit c = true

instance (cs : List Char) : Decidable (IsDigits cs) :=
  inferInstanceAs (Decidable (cs ≠ [] ∧ ∀ c ∈ cs, isDigit c = true))

/-- Groups of three digits, each behind a point, with these digits. -/
inductive Groups : List Char → List Char → Prop where
  | nil : Groups [] []
  | cons {group cs digits : List Char} (three : group.length = 3) (own : IsDigits group)
      (more : Groups cs digits) : Groups ('.' :: (group ++ cs)) (group ++ digits)

/-- One to three digits and at least one group of three, with all these digits. -/
def Grouped (cs digits : List Char) : Prop :=
  ∃ lead groups behind, cs = lead ++ groups ∧ digits = lead ++ behind ∧
    lead.length ≤ 3 ∧ IsDigits lead ∧ groups ≠ [] ∧ Groups groups behind

/-- A number as it is written, without its sign: the text, the digits of the whole
part, and those of the fraction if there is one. Points group where they can. -/
inductive Written : List Char → List Char → Option (List Char) → Prop where
  | whole {cs : List Char} (digits : IsDigits cs) : Written cs cs none
  | grouped {cs whole : List Char} (groups : Grouped cs whole) : Written cs whole none
  | pointed {whole fraction : List Char} (before : IsDigits whole) (behind : IsDigits fraction)
      (single : ∀ digits, ¬ Grouped (whole ++ '.' :: fraction) digits) :
      Written (whole ++ '.' :: fraction) whole (some fraction)
  | comma {whole fraction : List Char} (before : IsDigits whole) (behind : IsDigits fraction) :
      Written (whole ++ ',' :: fraction) whole (some fraction)
  | groupedComma {cs whole fraction : List Char} (before : Grouped cs whole)
      (behind : IsDigits fraction) : Written (cs ++ ',' :: fraction) whole (some fraction)

/-- The sign of a number as it is written. -/
def sign (negative : Bool) : List Char := if negative then ['-'] else []

/-- The number with the given sign and digits. -/
def numberOf (negative : Bool) (whole : List Char) : Option (List Char) → Number
  | none => .whole (if negative then -(numeral whole : Int) else numeral whole)
  | some fraction => .decimal (.ofDigits negative whole fraction)

/-! ## Digits and signs -/

theorem isDigit_sign : ∀ c ∈ ['.', ',', '-'], isDigit c = false := by decide

theorem IsDigits.notMem {cs : List Char} (h : IsDigits cs) {c : Char} (sign : c ∈ ['.', ',', '-']) :
    c ∉ cs := by
  intro member
  have digit := h.2 c member
  rw [isDigit_sign c sign] at digit
  cases digit

theorem IsDigits.append {cs ds : List Char} (h : IsDigits cs) (more : ∀ c ∈ ds, isDigit c = true) :
    IsDigits (cs ++ ds) :=
  ⟨by simp [h.1], fun c member => (List.mem_append.mp member).elim (h.2 c) (more c)⟩

theorem takeWhile_digits {cs : List Char} (h : ∀ c ∈ cs, isDigit c = true) (rest : List Char)
    (ends : ∀ c ∈ rest.head?, isDigit c = false) :
    (cs ++ rest).takeWhile isDigit = cs ∧ (cs ++ rest).dropWhile isDigit = rest := by
  rw [List.takeWhile_append_of_pos h, List.dropWhile_append_of_pos h]
  cases rest with
  | nil => simp
  | cons c rest =>
      have noDigit : ¬ isDigit c = true := by simp [ends c rfl]
      rw [List.takeWhile_cons_of_neg noDigit, List.dropWhile_cons_of_neg noDigit, List.append_nil]
      exact ⟨rfl, rfl⟩

theorem sign_signed (cs : List Char) : sign (signed cs).1 ++ (signed cs).2 = cs := by
  unfold signed
  split <;> rfl

theorem signed_sign (negative : Bool) {cs : List Char} (unsigned : cs.head? ≠ some '-') :
    signed (sign negative ++ cs) = (negative, cs) := by
  cases negative with
  | true => rfl
  | false =>
      rw [sign, if_neg Bool.false_ne_true, List.nil_append]
      unfold signed
      split
      · exact absurd rfl unsigned
      · rfl

/-! ## Plain notation -/

theorem plainNumber?_digits (negative : Bool) {cs : List Char} (h : IsDigits cs) :
    plainNumber? negative cs = some (numberOf negative cs none) := by
  obtain ⟨all, nothing⟩ := takeWhile_digits h.2 [] (by simp)
  rw [List.append_nil] at all nothing
  simp only [plainNumber?, all, nothing, if_neg h.1]
  rfl

theorem plainNumber?_pointed (negative : Bool) {whole fraction : List Char}
    (before : IsDigits whole) (behind : IsDigits fraction) :
    plainNumber? negative (whole ++ '.' :: fraction) =
      some (numberOf negative whole (some fraction)) := by
  obtain ⟨all, rest⟩ := takeWhile_digits before.2 ('.' :: fraction)
    (by simpa using isDigit_sign '.' (by decide))
  have digits : fraction.all isDigit = true := List.all_eq_true.mpr behind.2
  simp only [plainNumber?, all, rest, if_neg before.1, digits, behind.1, ne_eq, not_false_eq_true,
    and_self, if_true]
  rfl

theorem of_plainNumber? {negative : Bool} {cs : List Char} {n : Number}
    (h : plainNumber? negative cs = some n) :
    (IsDigits cs ∧ n = numberOf negative cs none) ∨
      ∃ whole fraction, cs = whole ++ '.' :: fraction ∧ IsDigits whole ∧ IsDigits fraction ∧
        n = numberOf negative whole (some fraction) := by
  have split := List.takeWhile_append_dropWhile (p := isDigit) (l := cs)
  have before : ∀ c ∈ cs.takeWhile isDigit, isDigit c = true := fun c => List.mem_takeWhile_imp
  simp only [plainNumber?] at h
  generalize cs.takeWhile isDigit = whole at *
  generalize cs.dropWhile isDigit = rest at *
  split at h
  · cases h
  · next some =>
      split at h
      · cases h
        rw [List.append_nil] at split
        exact split ▸ .inl ⟨⟨some, before⟩, rfl⟩
      · next point fraction =>
          split at h
          · next decimals =>
              cases h
              obtain ⟨rfl, ne, digits⟩ := decimals
              exact .inr ⟨whole, fraction, split.symm, ⟨some, before⟩,
                ⟨ne, List.all_eq_true.mp digits⟩, rfl⟩
          · cases h

/-! ## Grouping points -/

/-- Digits stay when points are dropped. -/
theorem IsDigits.filter_eq {cs : List Char} (h : IsDigits cs) : cs.filter (· ≠ '.') = cs := by
  rw [List.filter_eq_self]
  intro c member
  simpa using fun point : c = '.' => h.notMem (by decide) (point ▸ member)

theorem Groups.filter_eq {cs digits : List Char} (h : Groups cs digits) :
    cs.filter (· ≠ '.') = digits ∧ ∀ c ∈ digits, isDigit c = true := by
  induction h with
  | nil => simp
  | @cons group cs digits three own more ih =>
      refine ⟨?_, (own.append ih.2).2⟩
      rw [List.filter_cons_of_neg (by simp), List.filter_append, own.filter_eq, ih.1]

theorem Grouped.filter_eq {cs digits : List Char} (h : Grouped cs digits) :
    cs.filter (· ≠ '.') = digits ∧ IsDigits digits := by
  obtain ⟨lead, groups, behind, rfl, rfl, -, own, -, more⟩ := h
  obtain ⟨left, further⟩ := more.filter_eq
  exact ⟨by rw [List.filter_append, own.filter_eq, left], own.append further⟩

theorem isThousands_iff (cs : List Char) :
    isThousands cs = true ↔ ∃ digits, Groups cs digits := by
  constructor
  · intro h
    fun_induction isThousands cs with
    | case1 => exact ⟨[], .nil⟩
    | case2 a b c rest ih =>
        simp only [Bool.and_eq_true] at h
        obtain ⟨⟨⟨ha, hb⟩, hc⟩, more⟩ := h
        obtain ⟨digits, groups⟩ := ih more
        have own : IsDigits [a, b, c] := ⟨List.cons_ne_nil _ _, by simp [ha, hb, hc]⟩
        exact ⟨_, @Groups.cons [a, b, c] rest digits rfl own groups⟩
    | case3 => cases h
  · rintro ⟨digits, groups⟩
    induction groups with
    | nil => rfl
    | @cons group cs digits three own more ih =>
        match group, three with
        | [a, b, c], _ =>
            have digits : isDigit a = true ∧ isDigit b = true ∧ isDigit c = true := by
              simpa using own.2
            simp [isThousands, digits, ih]

theorem isGrouped_iff (cs : List Char) : isGrouped cs = true ↔ ∃ digits, Grouped cs digits := by
  constructor
  · intro h
    simp only [isGrouped, Bool.and_eq_true, decide_eq_true_eq] at h
    obtain ⟨⟨⟨some, short⟩, more⟩, thousands⟩ := h
    obtain ⟨digits, groups⟩ := (isThousands_iff _).mp thousands
    have own : IsDigits (cs.takeWhile isDigit) :=
      ⟨List.ne_nil_of_length_pos some, fun c => List.mem_takeWhile_imp⟩
    exact ⟨cs.takeWhile isDigit ++ digits, _, _, digits, List.takeWhile_append_dropWhile.symm, rfl,
      short, own, more, groups⟩
  · rintro ⟨digits, ⟨lead, groups, behind, rfl, rfl, short, own, ne, more⟩⟩
    have ends : ∀ c ∈ groups.head?, isDigit c = false := by
      cases more with
      | nil => exact absurd rfl ne
      | cons => simpa using isDigit_sign '.' (by decide)
    obtain ⟨all, rest⟩ := takeWhile_digits own.2 groups ends
    have thousands := (isThousands_iff groups).mpr ⟨behind, more⟩
    have some := List.length_pos_iff.mpr own.1
    simp [isGrouped, all, rest, thousands, short, ne, Nat.succ_le_of_lt some]

/-! ## Commas -/

/-- Turns commas into points. -/
def replaceCommas (cs : List Char) : List Char := cs.map fun c => if c = ',' then '.' else c

theorem replaceCommas_eq_self {cs : List Char} (h : ',' ∉ cs) : replaceCommas cs = cs := by
  induction cs with
  | nil => rfl
  | cons c cs ih =>
      rw [List.mem_cons, not_or] at h
      rw [replaceCommas, List.map_cons, if_neg (Ne.symm h.1)]
      exact congrArg (c :: ·) (ih h.2)

theorem comma_notMem_of_replaceCommas {cs ds : List Char} (h : replaceCommas cs = ds)
    (pointless : '.' ∉ ds) : ',' ∉ cs := by
  intro comma
  exact pointless (h ▸ List.mem_map.mpr ⟨',', comma, if_pos rfl⟩)

theorem replaceCommas_append_comma {before behind : List Char} (one : ',' ∉ before)
    (other : ',' ∉ behind) :
    replaceCommas (before ++ ',' :: behind) = before ++ '.' :: behind := by
  have point : replaceCommas (before ++ ',' :: behind) =
      replaceCommas before ++ '.' :: replaceCommas behind := by
    rw [replaceCommas, List.map_append, List.map_cons, if_pos rfl]
    rfl
  rw [point, replaceCommas_eq_self one, replaceCommas_eq_self other]

/-- In a text without points the point that was put for a comma tells where it was. -/
theorem eq_of_replaceCommas {cs before behind : List Char} (pointless : '.' ∉ cs)
    (one : '.' ∉ before) (other : '.' ∉ behind)
    (h : replaceCommas cs = before ++ '.' :: behind) : cs = before ++ ',' :: behind := by
  obtain ⟨a, b, rfl, left, right⟩ := List.map_eq_append_iff.mp h
  obtain ⟨c, d, rfl, point, last⟩ := List.map_eq_cons_iff.mp right
  have comma : c = ',' := by
    by_contra other
    rw [if_neg other] at point
    exact pointless (by simp [point])
  have first : a = before :=
    (replaceCommas_eq_self (comma_notMem_of_replaceCommas left one)).symm.trans left
  have second : d = behind :=
    (replaceCommas_eq_self (comma_notMem_of_replaceCommas last other)).symm.trans last
  rw [first, comma, second]

theorem sign_notMem : ∀ negative, ',' ∉ sign negative ∧ '.' ∉ sign negative := by decide

theorem filter_sign_append (negative : Bool) (cs : List Char) :
    (sign negative ++ cs).filter (· ≠ '.') = sign negative ++ cs.filter (· ≠ '.') := by
  cases negative <;> simp [sign]

theorem IsDigits.head? {cs : List Char} (h : IsDigits cs) (rest : List Char) :
    (cs ++ rest).head? ≠ some '-' := by
  cases cs with
  | nil => exact absurd rfl h.1
  | cons c cs =>
      rw [List.cons_append, List.head?_cons, ne_eq, Option.some.injEq]
      rintro rfl
      exact h.notMem (by decide) List.mem_cons_self

/-- Digits alone are not grouped: there is no point among them. -/
theorem IsDigits.not_isGrouped {cs : List Char} (digits : IsDigits cs) : ¬ isGrouped cs = true := by
  intro grouped
  obtain ⟨_, lead, groups, behind, rfl, -, -, -, some, more⟩ := (isGrouped_iff _).mp grouped
  cases more with
  | nil => exact some rfl
  | cons => exact digits.notMem (c := '.') (by decide) (by simp)

/-! ## All notations -/

theorem Written.head? {cs whole : List Char} {fraction : Option (List Char)}
    (h : Written cs whole fraction) : cs.head? ≠ some '-' := by
  cases h with
  | whole digits => simpa using digits.head? []
  | grouped groups =>
      obtain ⟨lead, groups, -, rfl, -, -, digits, -⟩ := groups
      exact digits.head? groups
  | pointed before => exact before.head? _
  | comma before => exact before.head? _
  | groupedComma before =>
      obtain ⟨lead, groups, -, rfl, -, -, digits, -⟩ := before
      rw [List.append_assoc]
      exact digits.head? _

/-- The number that a text without a comma denotes. -/
theorem number?_eq_some_of_comma_notMem {text : String} (comma : ',' ∉ trimmed text.toList)
    (n : Number) :
    number? text = some n ↔ ∃ negative cs whole fraction,
      trimmed text.toList = sign negative ++ cs ∧ Written cs whole fraction ∧
        n = numberOf negative whole fraction := by
  simp only [number?, ungrouped, if_neg comma]
  generalize trimmed text.toList = cs at *
  constructor
  · intro h
    obtain ⟨negative, own, split⟩ : ∃ negative own, signed cs = (negative, own) := ⟨_, _, rfl⟩
    have signs := sign_signed cs
    rw [split] at h signs
    by_cases groups : isGrouped own = true
    · obtain ⟨digits, grouped⟩ := (isGrouped_iff own).mp groups
      obtain ⟨left, all⟩ := grouped.filter_eq
      rw [if_pos groups, ← signs, filter_sign_append, left,
        signed_sign negative (by simpa using all.head? []), plainNumber?_digits negative all] at h
      exact ⟨negative, own, digits, none, signs.symm, .grouped grouped, (Option.some.inj h).symm⟩
    · rw [if_neg groups, split] at h
      obtain ⟨digits, value⟩ | ⟨whole, fraction, rfl, before, behind, value⟩ := of_plainNumber? h
      · exact ⟨negative, own, own, none, signs.symm, .whole digits, value⟩
      · have single (digits : List Char) : ¬ Grouped (whole ++ '.' :: fraction) digits :=
          fun grouped => groups ((isGrouped_iff _).mpr ⟨digits, grouped⟩)
        exact ⟨negative, _, whole, some fraction, signs.symm, .pointed before behind single, value⟩
  · rintro ⟨negative, own, whole, fraction, rfl, written, rfl⟩
    rw [signed_sign negative written.head?]
    cases written with
    | whole digits =>
        rw [if_neg digits.not_isGrouped, signed_sign negative (by simpa using digits.head? [])]
        exact plainNumber?_digits negative digits
    | grouped groups =>
        obtain ⟨left, digits⟩ := groups.filter_eq
        rw [if_pos ((isGrouped_iff own).mpr ⟨whole, groups⟩), filter_sign_append, left,
          signed_sign negative (by simpa using digits.head? [])]
        exact plainNumber?_digits negative digits
    | @pointed whole fraction before behind single =>
        have plain : ¬ isGrouped (whole ++ '.' :: fraction) = true := by
          intro grouped
          obtain ⟨digits, grouped⟩ := (isGrouped_iff _).mp grouped
          exact single digits grouped
        rw [if_neg plain, signed_sign negative (before.head? _)]
        exact plainNumber?_pointed negative before behind
    | comma => simp at comma
    | groupedComma => simp at comma

/-- The number that a text with a comma denotes. Its points count for nothing. -/
theorem number?_eq_some_of_comma_mem {text : String} (comma : ',' ∈ trimmed text.toList)
    (n : Number) :
    number? text = some n ↔ ∃ negative whole fraction,
      (trimmed text.toList).filter (· ≠ '.') = sign negative ++ (whole ++ ',' :: fraction) ∧
        IsDigits whole ∧ IsDigits fraction ∧ n = numberOf negative whole (some fraction) := by
  have ungroups : ungrouped (trimmed text.toList) =
      replaceCommas ((trimmed text.toList).filter (· ≠ '.')) := by
    rw [ungrouped, if_pos comma, replaceCommas]
  have kept : ',' ∈ (trimmed text.toList).filter (· ≠ '.') := by simp [comma]
  have pointless : '.' ∉ (trimmed text.toList).filter (· ≠ '.') := by simp
  simp only [number?, ungroups]
  generalize (trimmed text.toList).filter (· ≠ '.') = cs at *
  constructor
  · intro h
    have signs := sign_signed (replaceCommas cs)
    obtain ⟨digits, -⟩ | ⟨whole, fraction, eq, before, behind, value⟩ := of_plainNumber? h
    · -- without a point there was no comma
      refine absurd kept (comma_notMem_of_replaceCommas signs.symm ?_)
      rw [List.mem_append, not_or]
      exact ⟨(sign_notMem _).2, digits.notMem (by decide)⟩
    · rw [eq, ← List.append_assoc] at signs
      refine ⟨_, whole, fraction, ?_, before, behind, value⟩
      rw [← List.append_assoc]
      refine eq_of_replaceCommas pointless ?_ (behind.notMem (by decide)) signs.symm
      rw [List.mem_append, not_or]
      exact ⟨(sign_notMem _).2, before.notMem (by decide)⟩
  · rintro ⟨negative, whole, fraction, rfl, before, behind, rfl⟩
    have points : replaceCommas (sign negative ++ (whole ++ ',' :: fraction)) =
        sign negative ++ (whole ++ '.' :: fraction) := by
      rw [← List.append_assoc, ← List.append_assoc]
      refine replaceCommas_append_comma ?_ (behind.notMem (by decide))
      rw [List.mem_append, not_or]
      exact ⟨(sign_notMem _).1, before.notMem (by decide)⟩
    rw [points, signed_sign negative (before.head? _)]
    exact plainNumber?_pointed negative before behind

theorem filter_append_comma {cs whole fraction : List Char}
    (before : cs.filter (· ≠ '.') = whole) (behind : IsDigits fraction) :
    (cs ++ ',' :: fraction).filter (· ≠ '.') = whole ++ ',' :: fraction := by
  rw [List.filter_append, List.filter_cons_of_pos (by decide), before, behind.filter_eq]

/-- What is left of a number with a comma when its points are dropped. -/
theorem Written.filter_eq {cs whole : List Char} {fraction : Option (List Char)}
    (h : Written cs whole fraction) (comma : ',' ∈ cs) :
    ∃ behind, fraction = some behind ∧ IsDigits whole ∧ IsDigits behind ∧
      cs.filter (· ≠ '.') = whole ++ ',' :: behind := by
  cases h with
  | whole digits => exact absurd comma (digits.notMem (by decide))
  | grouped groups =>
      obtain ⟨left, digits⟩ := groups.filter_eq
      refine absurd (left ▸ List.mem_filter.mpr ⟨comma, by decide⟩) (digits.notMem (by decide))
  | pointed before behind =>
      obtain inside | inside := List.mem_append.mp comma
      · exact absurd inside (before.notMem (by decide))
      · rw [List.mem_cons, or_iff_right (by decide)] at inside
        exact absurd inside (behind.notMem (by decide))
  | @comma whole fraction before behind =>
      exact ⟨fraction, rfl, before, behind, filter_append_comma before.filter_eq behind⟩
  | @groupedComma _ whole fraction before behind =>
      exact ⟨fraction, rfl, before.filter_eq.2, behind,
        filter_append_comma before.filter_eq.1 behind⟩

/-- Which texts are numbers, and which ones: those in plain or German notation, and those
with one comma between digits once all points are dropped. -/
theorem number?_eq_some_iff (text : String) (n : Number) :
    number? text = some n ↔
      (∃ negative cs whole fraction, trimmed text.toList = sign negative ++ cs ∧
        Written cs whole fraction ∧ n = numberOf negative whole fraction) ∨
      ∃ negative whole fraction,
        (trimmed text.toList).filter (· ≠ '.') = sign negative ++ (whole ++ ',' :: fraction) ∧
          IsDigits whole ∧ IsDigits fraction ∧ n = numberOf negative whole (some fraction) := by
  by_cases comma : ',' ∈ trimmed text.toList
  · rw [number?_eq_some_of_comma_mem comma, or_iff_right_of_imp]
    rintro ⟨negative, cs, whole, fraction, eq, written, value⟩
    have unsigned : ',' ∈ cs :=
      (List.mem_append.mp (eq ▸ comma)).resolve_left (sign_notMem negative).1
    obtain ⟨behind, rfl, digits, decimals, left⟩ := written.filter_eq unsigned
    exact ⟨negative, whole, behind, by rw [eq, filter_sign_append, left], digits, decimals, value⟩
  · rw [number?_eq_some_of_comma_notMem comma, or_iff_left]
    rintro ⟨negative, whole, fraction, eq, -⟩
    have kept : ',' ∈ (trimmed text.toList).filter (· ≠ '.') := by rw [eq]; simp
    exact comma (List.mem_filter.mp kept).1

theorem Grouped.comma_notMem {cs digits : List Char} (h : Grouped cs digits) : ',' ∉ cs := by
  intro comma
  have kept : ',' ∈ cs.filter (· ≠ '.') := List.mem_filter.mpr ⟨comma, by decide⟩
  rw [h.filter_eq.1] at kept
  exact h.filter_eq.2.notMem (by decide) kept

/-- In no notation there is a point behind the comma. -/
theorem Written.point_notMem {cs whole : List Char} {fraction : Option (List Char)}
    (h : Written cs whole fraction) (before : List Char) {behind : List Char}
    (eq : cs = before ++ ',' :: behind) : '.' ∉ behind := by
  have comma : ',' ∈ cs := by simp [eq]
  -- the fraction is all there is behind the comma, since there is only one
  have decimals {one fraction : List Char} (own : ',' ∉ one) (digits : IsDigits fraction)
      (same : cs = one ++ ',' :: fraction) : '.' ∉ behind := by
    obtain ⟨-, -, rfl⟩ := (List.append_cons_inj_of_notMem own (digits.notMem (by decide))).mp
      (same.symm.trans eq)
    exact digits.notMem (by decide)
  cases h with
  | whole digits => exact absurd comma (digits.notMem (by decide))
  | grouped groups => exact absurd comma groups.comma_notMem
  | pointed one other => exact absurd comma (by
      simp [one.notMem (c := ',') (by decide), other.notMem (c := ',') (by decide)])
  | comma one digits => exact decimals (one.notMem (by decide)) digits rfl
  | groupedComma one digits => exact decimals one.comma_notMem digits rfl

end Inquiry.Literal
