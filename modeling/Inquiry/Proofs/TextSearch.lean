import Inquiry.Literal.Pattern
import Inquiry.Proofs.Blanks
import Inquiry.Proofs.CodeTables
import Inquiry.Proofs.LetterParts
import Inquiry.Statement.Conditions
import Mathlib.Data.List.Basic
import Mathlib.Data.List.Forall2
import Mathlib.Data.List.Infix

/-!
# What a text search finds

A text search binds a pattern, and the database compares it with LIKE: a percent sign
fits any run of characters there, an underscore any single one, and any other character
itself. A value without wildcards is thus searched for anywhere in the text, and one with
wildcards is compared with the whole text (`search_of_pattern`). An underscore of the
value goes into the pattern as it is. So the search finds exactly the texts that are
asked for if, and only if, the value holds no underscore.
-/

namespace Inquiry.Literal

open Text

/-! ### Patterns -/

section Patterns

/-- Whether a text fits a pattern. Some characters of a pattern fit any run of characters,
others any single one; the rest fit themselves. -/
def fits (isRun isOne : Char → Bool) : List Char → List Char → Bool
  | [], cs => cs.isEmpty
  | p :: ps, cs =>
    if isRun p then cs.tails.any (fits isRun isOne ps)
    else (cs.head?.any fun c => isOne p || p == c) && fits isRun isOne ps cs.tail

variable {isRun isOne isOne' : Char → Bool} {p c : Char} {ps cs : List Char}

theorem fits_run (run : isRun p = true) :
    fits isRun isOne (p :: ps) cs = true ↔
      ∃ passed rest, cs = passed ++ rest ∧ fits isRun isOne ps rest = true := by
  rw [fits, if_pos run, List.any_eq_true]
  constructor
  · rintro ⟨rest, tail, fit⟩
    obtain ⟨passed, split⟩ := (List.mem_tails _ _).mp tail
    exact ⟨passed, rest, split.symm, fit⟩
  · rintro ⟨passed, rest, split, fit⟩
    exact ⟨rest, (List.mem_tails _ _).mpr ⟨passed, split.symm⟩, fit⟩

theorem fits_char (noRun : isRun p = false) :
    fits isRun isOne (p :: ps) cs = true ↔
      ∃ c rest, cs = c :: rest ∧ (isOne p = true ∨ p = c) ∧ fits isRun isOne ps rest = true := by
  rw [fits, noRun, if_neg Bool.false_ne_true]
  cases cs with
  | nil => simp
  | cons c cs => simp [and_assoc]

/-- The characters of a pattern that only fit themselves stand in every text that fits. -/
theorem mem_of_fits {q : Char} (noRun : isRun q = false) (noOne : isOne q = false)
    (member : q ∈ ps) (h : fits isRun isOne ps cs = true) : q ∈ cs := by
  induction ps generalizing cs with
  | nil => cases member
  | cons p ps ih =>
      cases run : isRun p with
      | true =>
          obtain ⟨passed, rest, rfl, fit⟩ := (fits_run run).mp h
          rcases List.mem_cons.mp member with rfl | later
          · rw [run] at noRun
            cases noRun
          · exact List.mem_append_right _ (ih later fit)
      | false =>
          obtain ⟨c, rest, rfl, fitsHere, fit⟩ := (fits_char run).mp h
          rcases List.mem_cons.mp member with rfl | later
          · rw [noOne] at fitsHere
            obtain rfl := fitsHere.resolve_left Bool.false_ne_true
            exact List.mem_cons_self
          · exact List.mem_cons_of_mem _ (ih later fit)

/-- Which single characters fit anything only matters for those of the pattern. -/
theorem fits_congr (same : ∀ p ∈ ps, isOne p = isOne' p) :
    fits isRun isOne ps = fits isRun isOne' ps := by
  induction ps with
  | nil => rfl
  | cons p ps ih =>
      rw [List.forall_mem_cons] at same
      funext cs
      rw [fits, fits, ih same.2, same.1]

/-- A pattern fits itself, also if characters that stand for any others are replaced. -/
theorem fits_map_self {f : Char → Char}
    (keeps : ∀ p ∈ ps, isRun p = true ∨ isOne p = true ∨ f p = p) :
    fits isRun isOne ps (ps.map f) = true := by
  induction ps with
  | nil => rfl
  | cons p ps ih =>
      rw [List.forall_mem_cons] at keeps
      cases run : isRun p with
      | true => exact (fits_run run).mpr ⟨[f p], ps.map f, rfl, ih keeps.2⟩
      | false =>
          refine (fits_char run).mpr ⟨f p, ps.map f, rfl, ?_, ih keeps.2⟩
          exact (keeps.1.resolve_left (by simp [run])).imp_right Eq.symm

/-- A pattern without runs, and any run behind it, fits a text that begins with what fits
the pattern character by character. -/
theorem fits_append_run (noRuns : ∀ p ∈ ps, isRun p = false) (run : isRun p = true) :
    fits isRun isOne (ps ++ [p]) cs = true ↔
      ∃ part, part <+: cs ∧ List.Forall₂ (fun q c => isOne q = true ∨ q = c) ps part := by
  induction ps generalizing cs with
  | nil =>
      rw [List.nil_append, fits_run run]
      constructor
      · intro _
        exact ⟨[], List.nil_prefix, .nil⟩
      · intro _
        exact ⟨cs, [], (List.append_nil cs).symm, rfl⟩
  | cons q ps ih =>
      rw [List.forall_mem_cons] at noRuns
      rw [List.cons_append, fits_char noRuns.1]
      constructor
      · rintro ⟨c, rest, rfl, fitsHere, fit⟩
        obtain ⟨part, begins, fitsParts⟩ := (ih noRuns.2).mp fit
        exact ⟨c :: part, List.cons_prefix_cons.mpr ⟨rfl, begins⟩, .cons fitsHere fitsParts⟩
      · rintro ⟨part, begins, fitsParts⟩
        cases fitsParts with
        | @cons _ c _ part fitsHere fitsParts =>
            obtain ⟨rest, rfl⟩ := begins
            exact ⟨c, part ++ rest, rfl, fitsHere,
              (ih noRuns.2).mpr ⟨part, List.prefix_append _ _, fitsParts⟩⟩

/-- Between two runs, the pattern fits a part of the text character by character. -/
theorem fits_between_runs (noRuns : ∀ p ∈ ps, isRun p = false) (run : isRun p = true) :
    fits isRun isOne (p :: (ps ++ [p])) cs = true ↔
      ∃ part, part <:+: cs ∧ List.Forall₂ (fun q c => isOne q = true ∨ q = c) ps part := by
  rw [fits_run run]
  constructor
  · rintro ⟨passed, rest, rfl, fit⟩
    obtain ⟨part, begins, fitsParts⟩ := (fits_append_run noRuns run).mp fit
    exact ⟨part, begins.isInfix.trans (List.suffix_append _ _).isInfix, fitsParts⟩
  · rintro ⟨part, ⟨passed, rest, split⟩, fitsParts⟩
    refine ⟨passed, part ++ rest, by rw [← split, List.append_assoc], ?_⟩
    exact (fits_append_run noRuns run).mpr ⟨part, List.prefix_append _ _, fitsParts⟩

end Patterns

/-! ### Marks in raised texts

The characters with a meaning in patterns are no letters, and no letter is raised to one
of them. -/

section Marks

/-- The characters that have a meaning in values or in patterns. -/
def marks : List Char := ['*', '%', '_']

variable {m c : Char} {cs : List Char}

theorem runs_spare_marks : ∀ run ∈ upperRuns, ∀ m ∈ marks,
    ¬ (run.2.2.2 ≤ m.toNat ∧ m.toNat - run.2.2.2 ≤ run.2.1 - run.1) := by
  decide +kernel

theorem rows_spare_marks : ∀ row ∈ upperRows, ∀ m ∈ marks, m ∉ ofCodes row.2 := by
  decide

theorem raised_mark : ∀ m ∈ marks, raised m = [m] := by decide

theorem mem_raised_iff (mark : m ∈ marks) : m ∈ raised c ↔ m = c := by
  refine ⟨fun member => ?_, fun same => ?_⟩
  · rw [raised] at member
    split at member
    · next code found =>
        obtain ⟨run, known, first, last, rfl⟩ := CodeTable.mem_of_stepped? found
        have same := List.mem_singleton.mp member
        by_cases valid : (run.2.2.2 + (c.toNat - run.1)).isValidChar
        · have := congrArg Char.toNat same
          rw [toNat_ofNat valid] at this
          exact absurd ⟨by omega, by omega⟩ (runs_spare_marks run known m mark)
        · rw [Char.ofNat, dif_neg valid] at same
          subst same
          exact absurd mark (by decide)
    · split at member
      · next codes found =>
          exact absurd member (rows_spare_marks _ (CodeTable.mem_of_row? found) m mark)
      · exact List.mem_singleton.mp member
  · rw [← same, raised_mark m mark]
    exact List.mem_cons_self

theorem mem_upper_iff (mark : m ∈ marks) : m ∈ upper cs ↔ m ∈ cs := by
  rw [upper, List.mem_flatMap]
  constructor
  · rintro ⟨c, member, raises⟩
    rwa [(mem_raised_iff mark).mp raises]
  · intro member
    exact ⟨m, member, (mem_raised_iff mark).mpr rfl⟩

/-- Replacing a mark by another before or after raising a text is the same. -/
theorem upper_replace {m' : Char} (mark : m ∈ marks) (mark' : m' ∈ marks) :
    upper (cs.map fun c => if c = m then m' else c) =
      (upper cs).map fun c => if c = m then m' else c := by
  induction cs with
  | nil => rfl
  | cons c cs ih =>
      have here : raised (if c = m then m' else c) =
          (raised c).map fun c => if c = m then m' else c := by
        split
        · next same =>
            rw [same, raised_mark m mark, raised_mark m' mark', List.map_singleton, if_pos rfl]
        · next other =>
            have spared : ∀ d ∈ raised c, (if d = m then m' else d) = d := by
              intro d member
              refine if_neg fun same => other ?_
              exact ((mem_raised_iff mark).mp (same ▸ member)).symm
            rw [List.map_congr_left spared, List.map_id']
      rw [upper, upper, List.map_cons, List.flatMap_cons, List.flatMap_cons, List.map_append,
        here]
      exact congrArg _ ih

end Marks

/-! ### Searches -/

section Searches

/-- A wildcard of a value. -/
def isWild (c : Char) : Bool := c = '*' ∨ c = '%'

/-- Whether the database finds a text with LIKE. -/
def like (pattern text : String) : Bool := fits (· == '%') (· == '_') pattern.toList text.toList

/-- Whether a text is one that is asked for, all letters raised: one that contains the
value, or one that fits it if the value has wildcards. -/
def Finds (v text : String) : Prop :=
  if hasWildcard v then
    fits isWild (fun _ => false) (upper (trimmed v.toList)) (upper text.toList) = true
  else upper (trimmed v.toList) <:+: upper text.toList

variable {v : String} {m : Char} {ps cs : List Char}

theorem isWild_iff {c : Char} : isWild c = true ↔ c = '*' ∨ c = '%' := decide_eq_true_iff

theorem mem_marks_of_isWild {c : Char} (h : isWild c = true) : c ∈ marks := by
  rcases isWild_iff.mp h with rfl | rfl <;> decide

theorem isBlank_of_mem_marks : ∀ m ∈ marks, isBlank m = false := by decide

theorem mem_trimmed_iff (mark : m ∈ marks) : m ∈ trimmed cs ↔ m ∈ cs :=
  ⟨fun member => trimmed_sublist.subset member, mem_trimmed (isBlank_of_mem_marks m mark)⟩

/-- Neither trimming nor raising a text changes which marks it holds. -/
theorem mem_searched_iff (mark : m ∈ marks) : m ∈ upper (trimmed cs) ↔ m ∈ cs :=
  (mem_upper_iff mark).trans (mem_trimmed_iff mark)

theorem hasWildcard_iff : hasWildcard v = true ↔ ∃ c ∈ v.toList, isWild c = true :=
  List.any_eq_true

/-- A star may be written for the percent sign of a pattern. -/
theorem fits_percent :
    fits (· == '%') (· == '_') (ps.map fun c => if c = '*' then '%' else c) =
      fits isWild (· == '_') ps := by
  induction ps with
  | nil => rfl
  | cons p ps ih =>
      funext cs
      rw [List.map_cons, fits, fits, ih]
      by_cases star : p = '*'
      · rw [star]
        rfl
      · have run : isWild p = (p == '%') := by
          rw [isWild, Bool.eq_iff_iff, decide_eq_true_iff, beq_iff_eq]
          exact or_iff_right star
        rw [if_neg star, run]

/-- Trimming does not see which mark stands where. -/
theorem trimmed_replace {m' : Char} (mark : m ∈ marks) (mark' : m' ∈ marks) :
    trimmed (cs.map fun c => if c = m then m' else c) =
      (trimmed cs).map fun c => if c = m then m' else c := by
  have blind : (isBlank ∘ fun c => if c = m then m' else c) = isBlank := by
    funext c
    rw [Function.comp_apply]
    split
    · next same => rw [same, isBlank_of_mem_marks m mark, isBlank_of_mem_marks m' mark']
    · rfl
  rw [trimmed, trimmed, trimEnd, trimEnd, trimStart, trimStart, List.dropWhile_map, blind,
    ← List.map_reverse, List.dropWhile_map, blind, List.map_reverse]

/-- The pattern that is bound for a value. -/
theorem bind_pattern {c : Column} (text : c.numeric = false) (v : String) :
    c.bind true (.text (pattern v)) = .text (String.ofList
      (if hasWildcard v then
        (upper (trimmed v.toList)).map fun c => if c = '*' then '%' else c
      else '%' :: (upper (trimmed v.toList) ++ ['%']))) := by
  have wild : (trimmed v.toList).any (fun c => c = '*' ∨ c = '%') = hasWildcard v := by
    rw [Bool.eq_iff_iff, hasWildcard_iff, List.any_eq_true]
    refine exists_congr fun c => and_congr_left fun wild => ?_
    exact mem_trimmed_iff (mem_marks_of_isWild wild)
  rw [Column.bind, text, if_neg Bool.false_ne_true, if_pos rfl, toUpper, trim, Scalar.asText,
    pattern]
  simp only [String.toList_ofList, wild]
  split
  · rw [trimmed_replace (by decide) (by decide), trimmed_trimmed,
      upper_replace (by decide) (by decide)]
  · have visible : isBlank '%' = false := by decide
    have starts : trimStart ('%' :: trimmed v.toList ++ ['%']) =
        '%' :: trimmed v.toList ++ ['%'] := List.dropWhile_cons_of_neg (by rw [visible]; decide)
    have ends : trimEnd ('%' :: trimmed v.toList ++ ['%']) = '%' :: trimmed v.toList ++ ['%'] :=
      trimEnd_visible visible _ []
    rw [trimmed, starts, ends, upper, List.flatMap_append, List.flatMap_cons]
    rfl

/-- A text without underscores is not asked for with a value that has one. -/
theorem not_finds_of_notMem {text : String} (member : '_' ∈ v.toList)
    (free : '_' ∉ upper text.toList) : ¬ Finds v text := by
  have searched := (mem_searched_iff (by decide)).mpr member
  rw [Finds]
  split
  · exact fun fit => free (mem_of_fits (by decide) rfl searched fit)
  · exact fun part => free (part.subset searched)

/-- Raised, the value with a star for every underscore. -/
theorem exists_upper_replaced (v : String) :
    ∃ text : String, upper text.toList =
      (upper (trimmed v.toList)).map fun c => if c = '_' then '*' else c := by
  refine ⟨String.ofList ((trimmed v.toList).map fun c => if c = '_' then '*' else c), ?_⟩
  rw [String.toList_ofList, upper_replace (by decide) (by decide)]

theorem notMem_replaced : '_' ∉ cs.map fun c => if c = '_' then '*' else c := by
  rw [List.mem_map]
  rintro ⟨c, -, same⟩
  split at same
  · cases same
  · next other => exact other same

theorem forall₂_replaced :
    List.Forall₂ (fun w d => w = '_' ∨ w = d) cs (cs.map fun c => if c = '_' then '*' else c) := by
  rw [List.forall₂_map_right_iff, List.forall₂_same]
  intro c _
  split
  · next same => exact Or.inl same
  · exact Or.inr rfl

/-- Without underscores, character by character means being the same. -/
theorem forall₂_iff_eq {part : List Char} (free : '_' ∉ ps) :
    List.Forall₂ (fun w d => w = '_' ∨ w = d) ps part ↔ ps = part := by
  constructor
  · intro same
    have plain := (List.forall₂_and_left (p := fun w => w ≠ '_') ps part).mpr
      ⟨fun w member other => free (other ▸ member), same⟩
    exact List.forall₂_eq_eq_eq ▸ plain.imp fun _ _ both => both.2.resolve_left both.1
  · rintro rfl
    exact List.forall₂_same.mpr fun _ _ => Or.inr rfl

/-- The texts found with the pattern of a value with wildcards. -/
theorem like_of_wild (cs : List Char) (s : String) :
    like (String.ofList (cs.map fun c => if c = '*' then '%' else c)) (toUpper s) =
      fits isWild (· == '_') cs (upper s.toList) := by
  rw [like, toUpper, String.toList_ofList, String.toList_ofList, fits_percent]

/-- The texts found with the pattern of a value without wildcards. -/
theorem like_iff_of_plain (plain : ∀ c ∈ cs, isWild c = false) (s : String) :
    like (String.ofList ('%' :: (cs ++ ['%']))) (toUpper s) = true ↔
      ∃ part, part <:+: upper s.toList ∧
        List.Forall₂ (fun w d => w = '_' ∨ w = d) cs part := by
  have noRuns : ∀ c ∈ cs, (c == '%') = false := by
    intro c member
    rw [beq_eq_false_iff_ne]
    rintro rfl
    exact absurd (plain '%' member) (by decide)
  rw [like, toUpper, String.toList_ofList, String.toList_ofList, fits_between_runs noRuns rfl]
  simp only [beq_iff_eq]

/-- A text search binds one pattern. With LIKE the database finds with it the texts that
have the value as a part, or that fit the value if it has wildcards, where an underscore
of the value stands for any character. Those are the texts that are asked for if the
value holds no underscore, and only then. -/
theorem search_of_pattern {c : Column} (text : c.numeric = false) (v : String) :
    ∃ bound, (Test.compare .contains (.text (pattern v))).values.map
        (c.bind (Test.compare .contains (.text (pattern v))).foldsText) = [.text bound] ∧
      (hasWildcard v = false → ∀ s, like bound (toUpper s) = true ↔
        ∃ part, part <:+: upper s.toList ∧
          List.Forall₂ (fun w d => w = '_' ∨ w = d) (upper (trimmed v.toList)) part) ∧
      (hasWildcard v = true → ∀ s, like bound (toUpper s) =
        fits isWild (· == '_') (upper (trimmed v.toList)) (upper s.toList)) ∧
      ((∀ s, like bound (toUpper s) = true ↔ Finds v s) ↔ '_' ∉ v.toList) := by
  refine ⟨_, congrArg (fun bound => [bound]) (bind_pattern text v), ?_⟩
  obtain ⟨widened, raisedText⟩ := exists_upper_replaced v
  have notAsked (member : '_' ∈ v.toList) : ¬ Finds v widened :=
    not_finds_of_notMem member (raisedText ▸ notMem_replaced)
  have searched : '_' ∉ upper (trimmed v.toList) ↔ '_' ∉ v.toList :=
    not_congr (mem_searched_iff (by decide))
  cases wild : hasWildcard v with
  | true =>
      rw [if_pos rfl]
      refine ⟨(nomatch ·), fun _ => like_of_wild _, ?_⟩
      simp only [like_of_wild]
      constructor
      · intro same member
        refine notAsked member ((same widened).mp ?_)
        rw [raisedText]
        refine fits_map_self fun p _ => Or.inr ?_
        by_cases one : p = '_'
        · exact Or.inl (beq_iff_eq.mpr one)
        · exact Or.inr (if_neg one)
      · intro free s
        have none : ∀ p ∈ upper (trimmed v.toList), (p == '_') = false := fun p member =>
          beq_eq_false_iff_ne.mpr fun one => searched.mpr free (one ▸ member)
        rw [Finds, if_pos wild, fits_congr none]
  | false =>
      have plain : ∀ c ∈ upper (trimmed v.toList), isWild c = false := by
        intro c member
        rw [← Bool.not_eq_true]
        intro isWild
        have own := (mem_searched_iff (mem_marks_of_isWild isWild)).mp member
        rw [hasWildcard_iff.mpr ⟨c, own, isWild⟩] at wild
        cases wild
      rw [if_neg Bool.false_ne_true]
      refine ⟨fun _ => like_iff_of_plain plain, (nomatch ·), ?_⟩
      simp only [like_iff_of_plain plain]
      constructor
      · intro same member
        refine notAsked member ((same widened).mp ⟨_, List.infix_refl _, ?_⟩)
        rw [raisedText]
        exact forall₂_replaced
      · intro free s
        rw [Finds, wild, if_neg Bool.false_ne_true]
        simp only [forall₂_iff_eq (searched.mpr free), exists_eq_right']

theorem search_of_pattern_towns :
    ({ source := "T.ORT" } : Column).bind true (.text (pattern " Berg ")) = .text "%BERG%" ∧
      ∀ s, like "%BERG%" (toUpper s) = true ↔ "BERG".toList <:+: upper s.toList := by
  obtain ⟨bound, binds, -, -, finds⟩ :=
    search_of_pattern (c := { source := "T.ORT" }) rfl " Berg "
  have binding : ({ source := "T.ORT" } : Column).bind true (.text (pattern " Berg ")) =
      .text "%BERG%" := by decide +kernel
  obtain rfl : "%BERG%" = bound := by
    simpa [Test.values, Test.foldsText, binding] using binds
  have plain : hasWildcard " Berg " = false := by decide
  have searched : upper (trimmed " Berg ".toList) = "BERG".toList := by decide +kernel
  refine ⟨binding, fun s => (finds.mpr (by decide) s).trans ?_⟩
  rw [Finds, plain, if_neg Bool.false_ne_true, searched]

/-- An underscore of the value also finds texts that do not have the value as a part. -/
theorem search_finds_more :
    hasWildcard "A_B" = false ∧ like "%A_B%" (toUpper "axb") = true ∧ ¬ Finds "A_B" "axb" := by
  refine ⟨by decide, by decide, ?_⟩
  exact not_finds_of_notMem (by decide) (by decide)

end Searches

end Inquiry.Literal
