import Inquiry.Text.CodeTable
import Mathlib.Algebra.Group.Nat.Defs
import Mathlib.Data.List.Basic

/-!
# Looking code points up

What is found in a table of code points stands in the table, and in an ascending
table every row is found. In a table of runs a code point outside of all runs has no
number.
-/

namespace Inquiry.Text.CodeTable

theorem mem_of_stepped? {runs : List (Nat × Nat × Nat × Nat)} {c code : Nat}
    (h : stepped? runs c = some code) :
    ∃ run ∈ runs, run.1 ≤ c ∧ c ≤ run.2.1 ∧ code = run.2.2.2 + (c - run.1) := by
  induction runs with
  | nil => cases h
  | cons run rest ih =>
      obtain ⟨first, last, step, image⟩ := run
      rw [stepped?] at h
      split at h
      · cases h
      · next behind =>
          split at h
          · next inside =>
              split at h
              · cases h
                exact ⟨_, List.mem_cons_self, Nat.le_of_not_lt behind, inside, rfl⟩
              · cases h
          · obtain ⟨run, member, found⟩ := ih h
            exact ⟨run, List.mem_cons_of_mem _ member, found⟩

theorem mem_of_shifted? {runs : List (Nat × Nat × Nat)} {c code : Nat}
    (h : shifted? runs c = some code) :
    ∃ run ∈ runs, run.1 ≤ c ∧ c ≤ run.2.1 ∧ code = run.2.2 + (c - run.1) := by
  induction runs with
  | nil => cases h
  | cons run rest ih =>
      obtain ⟨first, last, image⟩ := run
      rw [shifted?] at h
      split at h
      · cases h
      · next behind =>
          split at h
          · next inside =>
              cases h
              exact ⟨_, List.mem_cons_self, Nat.le_of_not_lt behind, inside, rfl⟩
          · obtain ⟨run, member, found⟩ := ih h
            exact ⟨run, List.mem_cons_of_mem _ member, found⟩

theorem mem_of_row? {α : Type} {table : List (Nat × α)} {code : Nat} {image : α}
    (h : row? table code = some image) : (code, image) ∈ table := by
  induction table with
  | nil => cases h
  | cons row table ih =>
      rw [row?] at h
      split at h
      · cases h
      · split at h
        · next own =>
            cases h
            exact own ▸ List.mem_cons_self
        · exact List.mem_cons_of_mem row (ih h)

/-- In an ascending table, every row is found. -/
theorem row?_of_mem {α : Type} {table : List (Nat × α)}
    (ascending : table.Pairwise (·.1 < ·.1)) {code : Nat} {image : α}
    (member : (code, image) ∈ table) : row? table code = some image := by
  induction table with
  | nil => cases member
  | cons row table ih =>
      obtain ⟨first, behind⟩ := List.pairwise_cons.mp ascending
      rcases List.mem_cons.mp member with rfl | member
      · simp [row?]
      · have below := first _ member
        rw [row?, if_neg (by omega), if_neg (by omega)]
        exact ih behind member

theorem mem_of_inBlock? {table : List (Nat × List Nat)} {code other : Nat}
    (h : inBlock? table code = some other) :
    ∃ block ∈ table, ∃ place, block.2[place]? = some other ∧ code = block.1 + place := by
  induction table with
  | nil => cases h
  | cons block table ih =>
      rw [inBlock?] at h
      split at h
      · cases h
      · split at h
        · exact ⟨block, List.mem_cons_self, code - block.1, h, by omega⟩
        · obtain ⟨found, member, within⟩ := ih h
          exact ⟨found, List.mem_cons_of_mem block member, within⟩

theorem mem_of_composite? {table : List (Nat × Nat × Nat)} {code base mark : Nat}
    (h : composite? table base mark = some code) : (code, base, mark) ∈ table := by
  induction table with
  | nil => cases h
  | cons row table ih =>
      rw [composite?] at h
      split at h
      · next own =>
          cases h
          rw [← own.1, ← own.2]
          exact List.mem_cons_self
      · exact List.mem_cons_of_mem row (ih h)

/-- The composites of a base, each with its mark. -/
def joinsOf (table : List (Nat × Nat × Nat)) (base : Nat) : List (Nat × Nat) :=
  (table.filter fun row => row.2.1 == base).map fun row => (row.1, row.2.2)

theorem composite?_eq (table : List (Nat × Nat × Nat)) (base mark : Nat) :
    composite? table base mark =
      ((joinsOf table base).find? fun row => row.2 == mark).map (·.1) := by
  induction table with
  | nil => rfl
  | cons row table ih =>
      obtain ⟨code, own, other⟩ := row
      rw [composite?, ih, joinsOf, joinsOf, List.filter_cons]
      by_cases base' : own = base
      · by_cases mark' : other = mark <;> simp [base', mark']
      · simp [base']

theorem numberAt_eq_zero {runs : List (Nat × Nat × Nat)} {code : Nat}
    (h : ∀ run ∈ runs, ¬(run.1 ≤ code ∧ code ≤ run.2.1)) : numberAt runs code = 0 := by
  induction runs with
  | nil => rfl
  | cons run runs ih =>
      obtain ⟨first, last, number⟩ := run
      obtain ⟨own, further⟩ := List.forall_mem_cons.mp h
      simp only at own
      rw [numberAt]
      split
      · rfl
      · rw [if_neg (by omega)]
        exact ih further

theorem covers_eq_false {ranges : List (Nat × Nat)} {code : Nat}
    (h : ∀ range ∈ ranges, ¬(range.1 ≤ code ∧ code ≤ range.2)) : covers ranges code = false := by
  induction ranges with
  | nil => rfl
  | cons range ranges ih =>
      obtain ⟨first, last⟩ := range
      obtain ⟨own, further⟩ := List.forall_mem_cons.mp h
      simp only at own
      rw [covers]
      split
      · rfl
      · rw [if_neg (by omega)]
        exact ih further

/-- In ranges that lie apart, the search finds every range that holds the code point. -/
theorem covers_iff {ranges : List (Nat × Nat)}
    (apart : (ranges.flatMap fun range => [range.1, range.2 + 1]).Pairwise (· ≤ ·)) {code : Nat} :
    covers ranges code = true ↔ ∃ range ∈ ranges, range.1 ≤ code ∧ code ≤ range.2 := by
  induction ranges with
  | nil => simp [covers]
  | cons range ranges ih =>
      obtain ⟨first, last⟩ := range
      rw [List.flatMap_cons, List.pairwise_append] at apart
      obtain ⟨own, further, order⟩ := apart
      have forward : first ≤ last + 1 := List.rel_of_pairwise_cons own (List.mem_singleton_self _)
      have later (before : code < last + 1) :
          ¬∃ range ∈ ranges, range.1 ≤ code ∧ code ≤ range.2 := by
        rintro ⟨range, known, within⟩
        have behind := order (last + 1) (by simp) range.1
          (List.mem_flatMap.mpr ⟨range, known, List.mem_cons_self⟩)
        omega
      rw [List.exists_mem_cons_iff, covers]
      split
      · next before =>
          simp only [Bool.false_eq_true, later (by omega), or_false, false_iff]
          omega
      · split
        · simp only [true_iff]
          omega
        · rw [ih further, or_iff_right]
          omega

theorem row?_map {α β : Type} (f : α → β) (table : List (Nat × α)) (code : Nat) :
    row? (table.map fun row => (row.1, f row.2)) code = (row? table code).map f := by
  induction table with
  | nil => rfl
  | cons row table ih =>
      rw [List.map_cons, row?, row?, ih]
      split
      · rfl
      · split <;> rfl

/-! ## Runs with steps -/

/-- The code points of a run that have an image, each with its image. -/
def steps (run : Nat × Nat × Nat × Nat) : List (Nat × Nat) :=
  (List.range ((run.2.1 - run.1) / run.2.2.1 + 1)).map fun n =>
    (run.1 + n * run.2.2.1, run.2.2.2 + n * run.2.2.1)

theorem mem_steps {first last step image code other : Nat} (forward : first ≤ last)
    (proper : 0 < step) : (code, other) ∈ steps (first, last, step, image) ↔
      first ≤ code ∧ code ≤ last ∧ (code - first) % step = 0 ∧ other = image + (code - first) := by
  simp only [steps, List.mem_map]
  constructor
  · rintro ⟨n, within, heq⟩
    obtain ⟨rfl, rfl⟩ := Prod.mk.inj heq
    rw [List.mem_range, Nat.lt_succ_iff, Nat.le_div_iff_mul_le proper] at within
    rw [Nat.add_sub_cancel_left]
    exact ⟨Nat.le_add_right _ _, by omega, Nat.mul_mod_left n step, rfl⟩
  · rintro ⟨behind, inside, regular, rfl⟩
    refine ⟨(code - first) / step, ?_, ?_⟩
    · rw [List.mem_range, Nat.lt_succ_iff]
      exact Nat.div_le_div_right (by omega)
    · rw [Nat.div_mul_cancel (Nat.dvd_of_mod_eq_zero regular)]
      exact Prod.ext (by simp only; omega) rfl

/-- In runs that lie apart, what is found is what stands in a run. -/
theorem stepped?_eq_some_iff {runs : List (Nat × Nat × Nat × Nat)}
    (apart : runs.Pairwise fun run later => run.2.1 < later.1)
    (proper : ∀ run ∈ runs, run.1 ≤ run.2.1 ∧ 0 < run.2.2.1) {code image : Nat} :
    stepped? runs code = some image ↔ (code, image) ∈ runs.flatMap steps := by
  induction runs with
  | nil => simp [stepped?]
  | cons run runs ih =>
      obtain ⟨first, last, step, start⟩ := run
      obtain ⟨behind, apart⟩ := List.pairwise_cons.mp apart
      obtain ⟨⟨forward, positive⟩, proper⟩ := List.forall_mem_cons.mp proper
      have later (inside : code ≤ last) : (code, image) ∉ runs.flatMap steps := by
        intro member
        obtain ⟨run, known, own⟩ := List.mem_flatMap.mp member
        have first := ((mem_steps (proper run known).1 (proper run known).2).mp own).1
        exact absurd (Nat.lt_of_le_of_lt inside (behind run known)) (Nat.not_lt.mpr first)
      rw [List.flatMap_cons, List.mem_append, mem_steps forward positive, stepped?]
      split
      · next before =>
          simp only [reduceCtorEq, later (Nat.le_of_lt (Nat.lt_of_lt_of_le before forward)),
            or_false, false_iff]
          omega
      · split
        · next inside =>
            simp only [later inside, or_false]
            split
            · next regular => simp [inside, regular, eq_comm]; omega
            · next irregular => simp [irregular]
        · next outside =>
            rw [ih apart proper]
            simp [outside]

/-! ## Tables as numbers -/

/-- The code points of ranges as the bits of one number. -/
def spanned (ranges : List (Nat × Nat)) : Nat :=
  ranges.foldl (fun set range => set ||| (2 ^ (range.2 + 1 - range.1) - 1) <<< range.1) 0

theorem testBit_spanned {ranges : List (Nat × Nat)} {code : Nat} :
    (spanned ranges).testBit code = true ↔ ∃ range ∈ ranges, range.1 ≤ code ∧ code ≤ range.2 := by
  have joined (set : Nat) : (ranges.foldl (fun set range =>
      set ||| (2 ^ (range.2 + 1 - range.1) - 1) <<< range.1) set).testBit code = true ↔
        set.testBit code = true ∨ ∃ range ∈ ranges, range.1 ≤ code ∧ code ≤ range.2 := by
    induction ranges generalizing set with
    | nil => simp
    | cons range ranges ih =>
        have own : ((2 ^ (range.2 + 1 - range.1) - 1) <<< range.1).testBit code = true ↔
            range.1 ≤ code ∧ code ≤ range.2 := by
          rw [Nat.testBit_shiftLeft, Nat.testBit_two_pow_sub_one, Bool.and_eq_true,
            decide_eq_true_iff, decide_eq_true_iff]
          omega
        rw [List.foldl_cons, ih, Nat.testBit_or, Bool.or_eq_true, own, List.exists_mem_cons_iff,
          or_assoc]
  rw [spanned, joined]
  simp

/-- A table of numbers below `2 ^ 17` as the digits of one number, so that looking a code
point up takes no search. -/
def packed (table : List (Nat × Nat)) : Nat :=
  table.foldl (fun digits row => digits ||| row.2 <<< (17 * row.1)) 0

/-- The number that belongs to a code point, and zero if there is none. -/
def entry (digits code : Nat) : Nat := digits >>> (17 * code) % 2 ^ 17

theorem entry_shiftLeft {code own value : Nat} (small : value < 2 ^ 17) :
    entry (value <<< (17 * own)) code = if code = own then value else 0 := by
  rw [entry]
  rcases Nat.lt_trichotomy code own with before | rfl | behind
  · obtain ⟨n, rfl⟩ := Nat.exists_eq_add_of_lt before
    have shift : 17 * (code + n + 1) = 17 * n + 17 + 17 * code := by omega
    rw [if_neg (by omega), shift, Nat.shiftLeft_add, Nat.shiftLeft_shiftRight, Nat.shiftLeft_add,
      Nat.shiftLeft_eq _ 17]
    exact Nat.mul_mod_left _ _
  · rw [if_pos rfl, Nat.shiftLeft_shiftRight, Nat.mod_eq_of_lt small]
  · obtain ⟨n, rfl⟩ := Nat.exists_eq_add_of_lt behind
    have shift : 17 * (own + n + 1) = 17 * own + (17 + 17 * n) := by omega
    rw [if_neg (by omega), shift, Nat.shiftRight_add, Nat.shiftLeft_shiftRight, Nat.shiftRight_add,
      Nat.shiftRight_eq_div_pow value, Nat.div_eq_of_lt small, Nat.zero_shiftRight, Nat.zero_mod]

theorem entry_packed {table : List (Nat × Nat)} (ascending : table.Pairwise (·.1 < ·.1))
    (small : ∀ row ∈ table, row.2 < 2 ^ 17) (code : Nat) :
    entry (packed table) code = (row? table code).getD 0 := by
  have joined (digits : Nat) :
      entry (table.foldl (fun digits row => digits ||| row.2 <<< (17 * row.1)) digits) code =
        entry digits code ||| (row? table code).getD 0 := by
    induction table generalizing digits with
    | nil => simp [row?]
    | cons row table ih =>
        obtain ⟨own, image⟩ := row
        obtain ⟨behind, ascending⟩ := List.pairwise_cons.mp ascending
        obtain ⟨below, small⟩ := List.forall_mem_cons.mp small
        have further : code ≤ own → row? table code = none := by
          intro inside
          rw [Option.eq_none_iff_forall_ne_some]
          exact fun image found => absurd (behind _ (mem_of_row? found)) (Nat.not_lt.mpr inside)
        have split : entry (digits ||| image <<< (17 * own)) code =
            entry digits code ||| if code = own then image else 0 := by
          rw [← entry_shiftLeft below]
          simp only [entry, Nat.shiftRight_or_distrib, Nat.or_mod_two_pow]
        rw [List.foldl_cons, ih ascending small, split, row?]
        rcases Nat.lt_trichotomy code own with before | rfl | after
        · simp [further (Nat.le_of_lt before), before, Nat.ne_of_lt before]
        · simp [further (Nat.le_refl code)]
        · simp [Nat.not_lt_of_lt after, Nat.ne_of_gt after]
  rw [packed, joined]
  simp [entry]

/-! ## Pages

To shift a whole table for every code point makes a number as long as the table each time. So
where a table is gone through, it is cut into pages once, and a code point is looked up in the
page it stands on. -/

/-- One of the pages of a number, with 1024 digits of the given width. -/
def page (width number : Nat) : Nat → Nat
  | 0 => number % 2 ^ (width * 1024)
  | n + 1 => (number >>> (width * 1024 * (n + 1))) % 2 ^ (width * 1024)

/-- A digit of a number, looked up in its page. -/
def digitAt (width number place : Nat) : Nat :=
  (page width number (place / 1024) >>> (width * (place % 1024))) % 2 ^ width

theorem digitAt_eq (width number place : Nat) :
    digitAt width number place = number >>> (width * place) % 2 ^ width := by
  have start : page width number (place / 1024) =
      (number >>> (width * 1024 * (place / 1024))) % 2 ^ (width * 1024) := by
    cases place / 1024 <;> rfl
  have within : width + width * (place % 1024) ≤ width * 1024 := by
    rw [Nat.add_comm, ← Nat.mul_succ]
    exact Nat.mul_le_mul_left width (Nat.mod_lt place (by decide))
  refine Nat.eq_of_testBit_eq fun bit => ?_
  rw [digitAt, start, Nat.testBit_mod_two_pow, Nat.testBit_mod_two_pow, Nat.testBit_shiftRight,
    Nat.testBit_mod_two_pow, Nat.testBit_shiftRight, Nat.testBit_shiftRight]
  by_cases inside : bit < width
  · have own : width * 1024 * (place / 1024) + (width * (place % 1024) + bit) =
        width * place + bit := by
      rw [← Nat.add_assoc, Nat.mul_assoc, ← Nat.mul_add, Nat.div_add_mod]
    rw [own, decide_eq_true (p := width * (place % 1024) + bit < width * 1024) (by omega),
      Bool.true_and]
  · simp [inside]

theorem testBit_eq_digitAt (set code : Nat) :
    set.testBit code = Nat.beq (digitAt 1 set code) 1 := by
  rw [digitAt_eq, Nat.one_mul, Nat.pow_one, Nat.testBit_eq_decide_div_mod_eq,
    Nat.shiftRight_eq_div_pow, Bool.eq_iff_iff, decide_eq_true_iff, Nat.beq_eq]

theorem entry_eq_digitAt : entry = digitAt 17 := by
  funext digits code
  rw [digitAt_eq, entry]

/-- Digits of a number, each with its place, of which those near `base` are held back until a
place is met that is on another page. -/
def gathered (width base held number : Nat) : List (Nat × Nat) → Nat
  | [] => number ||| held <<< (width * base)
  | (place, digit) :: rows =>
    bif Nat.ble base place && Nat.blt place (base + 1024) then
      gathered width base (held ||| digit <<< (width * (place - base))) number rows
    else gathered width place digit (number ||| held <<< (width * base)) rows

theorem gathered_eq (width base held number : Nat) (rows : List (Nat × Nat)) :
    gathered width base held number rows =
      rows.foldl (fun number row => number ||| row.2 <<< (width * row.1))
        (number ||| held <<< (width * base)) := by
  induction rows generalizing base held number with
  | nil => rfl
  | cons row rows ih =>
      obtain ⟨place, digit⟩ := row
      rw [gathered, List.foldl_cons, ih, ih]
      cases near : Nat.ble base place && Nat.blt place (base + 1024) with
      | true =>
          have behind : base ≤ place :=
            Nat.ble_eq.mp (Bool.and_eq_true_iff.mp near).1
          have own : width * (place - base) + width * base = width * place := by
            rw [← Nat.mul_add, Nat.sub_add_cancel behind]
          rw [cond_true, Nat.shiftLeft_or_distrib, ← Nat.shiftLeft_add, own, Nat.or_assoc]
      | false => rw [cond_false]

theorem packed_eq_gathered : packed = gathered 17 0 0 0 := by
  funext table
  rw [gathered_eq]
  rfl

end Inquiry.Text.CodeTable
