import Inquiry.Proofs.Lookahead
import Inquiry.Proofs.SortBlock

/-!
# Readers stop at operators

No field and no value reaches over an operator: no value begins with one, none goes on
with one, and no keyword does either if the index spares it. So what the readers find
among the tokens before an operator is the same whatever stands behind it, and they
leave the operator with what stands behind it.
-/

namespace Inquiry

namespace Keyword.Index

/-- No phrase goes on from the end of the tokens, or begins, with the next one. -/
def Spares (index : Index) (front : List Token) (next : Token) : Prop :=
  ∀ own, own <:+ front → ∀ keys ∈ index.phrases, ¬ own.map (·.key) ++ [next.key] <+: keys

variable {index : Index} {front own : List Token} {t : Token}

theorem Spares.of_suffix (spares : index.Spares front t) (suffix : own <:+ front) :
    index.Spares own t := fun _ h => spares _ (h.trans suffix)

/-- A token is spared that is part of no phrase. -/
theorem spares_of_unregistered (unregistered : ∀ keys ∈ index.phrases, t.key ∉ keys)
    (front : List Token) : index.Spares front t :=
  fun _ _ keys known begins => unregistered keys known (begins.subset (by simp))

/-- At the beginning a token is spared with which no phrase begins. -/
theorem spares_nil_iff :
    index.Spares [] t ↔ ∀ keys ∈ index.phrases, keys.head? ≠ some t.key := by
  simp only [Spares, List.suffix_nil, forall_eq, List.map_nil, List.nil_append]
  refine forall₂_congr fun keys known => not_congr ?_
  rw [List.head?_eq_some_iff, List.prefix_iff_exists_append_eq]
  simp only [List.singleton_append, eq_comm]

/-- A phrase at the beginning ends before a token that is spared. -/
theorem Spares.startsWith_eq (spares : index.Spares front t) (behind : List Token)
    {keys : List String} (known : keys ∈ index.phrases) :
    startsWith keys (front ++ t :: behind) = startsWith keys front := by
  rw [Bool.eq_iff_iff, startsWith_iff, startsWith_iff, List.map_append, List.map_cons,
    List.append_cons]
  constructor
  · intro begins
    rcases List.prefix_or_prefix_of_prefix begins (List.prefix_append _ _) with within | around
    · rcases List.prefix_concat_iff.mp within with rfl | within
      · exact absurd (List.prefix_refl _) (spares front (List.suffix_refl front) _ known)
      · exact within
    · exact absurd around (spares front (List.suffix_refl front) keys known)
  · exact fun begins => begins.trans ((List.prefix_append _ _).trans (List.prefix_append _ _))

theorem Spares.longestAt_eq (spares : index.Spares front t) (behind : List Token) :
    index.longestAt (front ++ t :: behind) = index.longestAt front := by
  apply Nat.le_antisymm
  · refine longestAt_le_iff.mpr fun keys known begins => ?_
    rw [spares.startsWith_eq behind known] at begins
    exact longestAt_le_iff.mp (Nat.le_refl _) keys known begins
  · refine longestAt_le_iff.mpr fun keys known begins => ?_
    rw [← spares.startsWith_eq behind known] at begins
    exact longestAt_le_iff.mp (Nat.le_refl _) keys known begins

/-- The longest phrase is found as if the token and what follows it were not there. -/
theorem Spares.matchAt_eq (spares : index.Spares front t) (behind : List Token) :
    index.matchAt (front ++ t :: behind) = index.matchAt front := by
  have longest := spares.longestAt_eq behind
  have fits : index.longestAt front ≤ front.length := by
    refine longestAt_le_iff.mpr fun keys _ begins => ?_
    simpa using ((startsWith_iff _ _).mp begins).length_le
  cases front with
  | nil =>
      have nothing : index.longestAt (t :: behind) = 0 := longest.trans (Nat.le_zero.mp fits)
      change index.matchAt (t :: behind) = none
      rw [matchAt, nothing]
      split <;> rfl
  | cons u front =>
      rw [List.cons_append] at longest ⊢
      rw [matchAt, matchAt, longest]
      split
      · rfl
      · split
        · rfl
        · next n length =>
            rw [length] at fits
            rw [← List.cons_append, List.take_append_of_le_length fits]

end Keyword.Index

namespace Request

open Keyword.Index

/-- The words of comparisons, `in`, and `ist`. -/
def linkingWords : List String := comparingPhrases.flatMap (·.1) ++ ["in"] ++ beingWords

/-- A token with which an operator ends: a sign that compares, or one of these words. -/
inductive Operates (o : Token) : Prop where
  | sign (kind : o.kind = .operator) (own : o.key = o.raw)
      (known : o.raw ∈ comparingSigns.map (·.1)) : Operates o
  | word (links : o.isWordIn linkingWords = true) : Operates o

theorem dropWhile_before {α : Type} {p : α → Bool} {a : α} (stops : p a = false)
    (front behind : List α) :
    (front ++ a :: behind).dropWhile p = front.dropWhile p ++ a :: behind := by
  induction front with
  | nil => exact List.dropWhile_cons_of_neg (by simp [stops])
  | cons b front ih =>
      rw [List.cons_append, List.dropWhile_cons, List.dropWhile_cons, ih]
      split <;> rfl

namespace Operates

variable {o : Token} (operates : Operates o)

include operates

theorem notIn {words : List String} (apart : ∀ w ∈ linkingWords, words.contains w = false) :
    o.isWordIn words = false := by
  cases operates with
  | sign kind => exact isWordIn_of_kind (by simp [kind]) words
  | word links => exact isWordIn_of_apart links apart

theorem key_notIn {words : List String}
    (apart : ∀ w ∈ linkingWords ++ comparingSigns.map (·.1), w ∉ words) : o.key ∉ words := by
  cases operates with
  | sign _ own known => exact apart _ (own ▸ List.mem_append_right _ known)
  | word links => exact apart _ (List.mem_append_left _ (isWordIn_iff.mp links).2)

theorem kind_eq : o.kind = .operator ∨ o.kind = .word := by
  cases operates with
  | sign kind => exact .inl kind
  | word links => exact .inr (isWordIn_iff.mp links).1

theorem startsPlainWord_eq (scope : Scope) (behind : List Token) :
    scope.startsPlainWord (o :: behind) = false := by
  cases operates with
  | sign kind => simp [Scope.startsPlainWord, kind]
  | word links =>
      by_contra plain
      rw [Bool.not_eq_false] at plain
      have steady := isWordIn_mono links (show linkingWords ⊆ steadyWords by decide)
      rw [Scope.notIn_of_startsPlainWord plain] at steady
      cases steady

theorem value?_eq (scope : Scope) (behind : List Token) : scope.value? (o :: behind) = none := by
  rw [← Option.not_isSome_iff_eq_none, Scope.value?_isSome, operates.startsPlainWord_eq,
    Bool.or_false]
  rcases operates.kind_eq with kind | kind <;> simp [Token.isValue, kind]

theorem separatesValues_eq (andToo : Bool) : Scope.separatesValues o andToo = false := by
  have words := operates.key_notIn (show ∀ w ∈ _, w ∉ ["oder", "und"] by decide)
  simp only [List.mem_cons, List.not_mem_nil, or_false, not_or] at words
  rcases operates.kind_eq with kind | kind <;> simp [Scope.separatesValues, kind, words]

theorem noCurrency : (o.kind == .word && isCurrency o.key) = false := by
  cases operates with
  | sign kind => simp [kind]
  | word links =>
      have free : ∀ w ∈ linkingWords, isCurrency w = false := by decide +kernel
      rw [free _ (isWordIn_iff.mp links).2, Bool.and_false]

end Operates

namespace Scope

variable {scope : Scope} {o : Token} {front : List Token}

/-! ## Fields and values -/

section Values

variable (spares : scope.index.Spares front o) (behind : List Token)

include spares

theorem fieldAt_before : scope.fieldAt (front ++ o :: behind) = scope.fieldAt front := by
  rw [fieldAt, spares.matchAt_eq, fieldAt]

variable (operates : Operates o)

include operates

theorem startsPlainWord_before :
    scope.startsPlainWord (front ++ o :: behind) = scope.startsPlainWord front := by
  cases front with
  | nil => exact operates.startsPlainWord_eq scope behind
  | cons t front =>
      have found := spares.matchAt_eq behind
      rw [List.cons_append] at found ⊢
      rw [startsPlainWord, startsPlainWord, found]

theorem plainWords_before :
    scope.plainWords (front ++ o :: behind) =
      ((scope.plainWords front).1, (scope.plainWords front).2 ++ o :: behind) := by
  induction front with
  | nil =>
      change scope.plainWords (o :: behind) = ([], o :: behind)
      rw [plainWords, operates.startsPlainWord_eq, if_neg Bool.false_ne_true]
  | cons t front ih =>
      have starts := startsPlainWord_before spares behind operates
      rw [List.cons_append] at starts ⊢
      rw [plainWords, starts, ih (spares.of_suffix (List.suffix_cons t front)), plainWords]
      split <;> rfl

theorem plainValue?_before :
    scope.plainValue? (front ++ o :: behind) =
      (scope.plainValue? front).map fun (value, rest) => (value, rest ++ o :: behind) := by
  rw [plainValue?, plainWords_before spares behind operates, plainValue?]
  generalize scope.plainWords front = read
  obtain ⟨words, rest⟩ := read
  cases words <;> rfl

theorem value?_before :
    scope.value? (front ++ o :: behind) =
      (scope.value? front).map fun (value, rest) => (value, rest ++ o :: behind) := by
  cases front with
  | nil => exact operates.value?_eq scope behind
  | cons t front =>
      have plain := plainValue?_before spares behind operates
      rw [List.cons_append] at plain ⊢
      rw [value?, value?]
      cases t.kind with
      | number =>
          have rest := dropWhile_before (p := fun u => u.kind == .word && isCurrency u.key)
            operates.noCurrency front behind
          simp only [rest, Option.map_some]
      | date | quoted => rfl
      | word | operator | comma => exact plain

end Values

/-- What follows a value is what stands behind it. -/
theorem suffix_of_value? {tokens rest : List Token} {value : Token}
    (read : scope.value? tokens = some (value, rest)) : rest <:+ tokens := by
  have plain (read : scope.plainValue? tokens = some (value, rest)) : rest <:+ tokens := by
    have parts := scope.plainWords_eq tokens
    rw [plainValue?] at read
    split at read
    · cases read
    · next words =>
        rw [words] at parts
        cases read
        exact ⟨_, parts⟩
  cases tokens with
  | nil => cases read
  | cons t tokens =>
      rw [value?] at read
      split at read
      · cases read
        exact (List.dropWhile_suffix _).trans (List.suffix_cons _ _)
      · cases read
        exact List.suffix_cons _ _
      · cases read
        exact List.suffix_cons _ _
      all_goals exact plain read

theorem suffix_furtherValues (scope : Scope) (andToo : Bool) (tokens : List Token) :
    (scope.furtherValues andToo tokens).2 <:+ tokens := by
  fun_induction furtherValues scope andToo tokens with
  | case1 => exact List.suffix_refl []
  | case2 separator rest _ value after found more left read ih =>
      rw [read] at ih
      exact ih.trans ((suffix_of_value? found).trans (List.suffix_cons separator rest))
  | case3 separator rest => exact List.suffix_refl _
  | case4 separator rest => exact List.suffix_refl _

theorem suffix_values (scope : Scope) (andToo : Bool) (tokens : List Token) :
    (scope.values andToo tokens).2 <:+ tokens := by
  rw [values]
  split
  · exact List.suffix_refl tokens
  · next read => exact (scope.suffix_furtherValues andToo _).trans (suffix_of_value? read)

theorem suffix_of_bounds? {tokens rest : List Token} {low high : Token}
    (read : scope.bounds? tokens = some (low, high, rest)) : rest <:+ tokens := by
  rw [bounds?] at read
  split at read
  · cases read
  · next first =>
      split at read
      · obtain ⟨_, second, ⟨⟩⟩ := Option.map_eq_some_iff.mp read
        exact (suffix_of_value? second).trans
          ((List.drop_suffix 1 _).trans (suffix_of_value? first))
      · cases read

section Lists

variable (spares : scope.index.Spares front o) (behind : List Token) (operates : Operates o)

include spares operates

theorem furtherValues_before (andToo : Bool) :
    scope.furtherValues andToo (front ++ o :: behind) =
      ((scope.furtherValues andToo front).1,
        (scope.furtherValues andToo front).2 ++ o :: behind) := by
  fun_induction furtherValues scope andToo front with
  | case1 => rw [List.nil_append, furtherValues, if_neg (by simp [operates.separatesValues_eq])]
  | case2 separator rest separates value after found more left read ih =>
      have suffix := suffix_of_value? found
      have spared := spares.of_suffix (List.suffix_cons separator rest)
      have found' := value?_before spared behind operates
      rw [found, Option.map_some] at found'
      have further := ih (spared.of_suffix suffix)
      rw [read] at further
      rw [List.cons_append, furtherValues, if_pos separates]
      split
      · next again =>
          rw [found'] at again
          cases again
          rw [further]
      · next missing =>
          rw [found'] at missing
          cases missing
  | case3 separator rest separates missing =>
      have missing' := value?_before (spares.of_suffix (List.suffix_cons separator rest)) behind
        operates
      rw [missing, Option.map_none] at missing'
      rw [List.cons_append, furtherValues, if_pos separates]
      split
      · next found =>
          rw [missing'] at found
          cases found
      · rfl
  | case4 separator rest other => rw [List.cons_append, furtherValues, if_neg other]

theorem values_before (andToo : Bool) :
    scope.values andToo (front ++ o :: behind) =
      ((scope.values andToo front).1, (scope.values andToo front).2 ++ o :: behind) := by
  have first := value?_before spares behind operates
  rw [values, first, values]
  cases read : scope.value? front with
  | none => rfl
  | some value =>
      have further := furtherValues_before (spares.of_suffix (suffix_of_value? read)) behind
        operates andToo
      simp only [Option.map_some, further]

theorem bounds?_before :
    scope.bounds? (front ++ o :: behind) =
      (scope.bounds? front).map fun (low, high, rest) => (low, high, rest ++ o :: behind) := by
  have first := value?_before spares behind operates
  rw [bounds?, first, bounds?]
  cases read : scope.value? front with
  | none => rfl
  | some value =>
      obtain ⟨low, rest⟩ := value
      have spared := spares.of_suffix (suffix_of_value? read)
      cases rest with
      | nil =>
          have noUnd : o.isWordIn ["und"] = false := operates.notIn (by decide)
          simp [beginsWith, noUnd]
      | cons t rest =>
          have second := value?_before (spared.of_suffix (List.suffix_cons t rest)) behind operates
          simp only [Option.map_some, List.cons_append, beginsWith, List.drop_one, List.tail_cons,
            second]
          split
          · rw [Option.map_map, Option.map_map]
            rfl
          · rfl

end Lists

/-! ## Words and phrases -/

section Words

variable {t : Token} {words : List String} {phrase : List String}

theorem beginsWith_before (other : front = [] → t.isWordIn words = false) (behind : List Token) :
    beginsWith words (front ++ t :: behind) = beginsWith words front := by
  cases front with
  | nil => exact other rfl
  | cons u front => rfl

theorem skipWord_before (other : front = [] → t.isWordIn words = false) (behind : List Token) :
    skipWord words (front ++ t :: behind) = skipWord words front ++ t :: behind := by
  rw [skipWord, beginsWith_before other, skipWord]
  cases front with
  | nil => rfl
  | cons u front => split <;> rfl

theorem suffix_skipWord (words : List String) (tokens : List Token) :
    skipWord words tokens <:+ tokens := by
  rw [skipWord]
  split
  · exact List.drop_suffix 1 tokens
  · exact List.suffix_refl tokens

/-- A phrase ends before a token that is none of its words. -/
theorem afterPhrase?_before (ends : t.isWordIn phrase = false) (front behind : List Token) :
    afterPhrase? phrase (front ++ t :: behind) =
      (afterPhrase? phrase front).map (· ++ t :: behind) := by
  induction phrase generalizing front with
  | nil => rfl
  | cons word phrase ih =>
      cases front with
      | nil =>
          refine if_neg fun own => ?_
          rw [isWordIn_iff.mpr ⟨own.1, own.2 ▸ List.mem_cons_self⟩] at ends
          cases ends
      | cons u front =>
          rw [List.cons_append, afterPhrase?, afterPhrase?,
            ih (isWordIn_of_subset ends (List.subset_cons_self word phrase))]
          split <;> rfl

/-- Behind the first word it is enough that the token is no later one. -/
theorem afterPhrase?_behind_first (later : t.isWordIn phrase.tail = false) (u : Token)
    (front behind : List Token) :
    afterPhrase? phrase (u :: front ++ t :: behind) =
      (afterPhrase? phrase (u :: front)).map (· ++ t :: behind) := by
  cases phrase with
  | nil => rfl
  | cons word phrase =>
      rw [List.tail_cons] at later
      rw [List.cons_append, afterPhrase?, afterPhrase?, afterPhrase?_before later]
      split <;> rfl

theorem afterAnyPhrase?_behind_first {phrases : List (List String)}
    (later : t.isWordIn (phrases.flatMap (·.tail)) = false) (u : Token)
    (front behind : List Token) :
    afterAnyPhrase? phrases (u :: front ++ t :: behind) =
      (afterAnyPhrase? phrases (u :: front)).map (· ++ t :: behind) := by
  induction phrases with
  | nil => rfl
  | cons phrase phrases ih =>
      rw [List.flatMap_cons, isWordIn_append, Bool.or_eq_false_iff] at later
      rw [afterAnyPhrase?, afterAnyPhrase?, List.findSome?_cons, List.findSome?_cons,
        afterPhrase?_behind_first later.1]
      cases afterPhrase? phrase (u :: front) with
      | none => exact ih later.2
      | some rest => rfl

/-- What spells an operator is found up to a token that is no later word of one. -/
theorem operatorAt_behind_first
    (later : t.isWordIn ((comparingPhrases.map (·.1)).flatMap (·.tail)) = false) (u : Token)
    (front behind : List Token) :
    operatorAt (u :: front ++ t :: behind) =
      { operatorAt (u :: front) with rest := (operatorAt (u :: front)).rest ++ t :: behind } := by
  have found (entries : List (List String × Comparison))
      (later : t.isWordIn ((entries.map (·.1)).flatMap (·.tail)) = false) :
      (entries.findSome? fun entry =>
        (afterPhrase? entry.1 (u :: front ++ t :: behind)).map (entry.2, ·)) =
      (entries.findSome? fun entry => (afterPhrase? entry.1 (u :: front)).map (entry.2, ·)).map
        fun read => (read.1, read.2 ++ t :: behind) := by
    induction entries with
    | nil => rfl
    | cons entry entries ih =>
        rw [List.map_cons, List.flatMap_cons, isWordIn_append, Bool.or_eq_false_iff] at later
        rw [List.findSome?_cons, List.findSome?_cons, afterPhrase?_behind_first later.1]
        cases afterPhrase? entry.1 (u :: front) with
        | none => exact ih later.2
        | some rest => rfl
  have found := found comparingPhrases later
  rw [List.cons_append] at found ⊢
  simp only [operatorAt]
  split
  · rfl
  · split
    · rfl
    · rw [found]
      cases comparingPhrases.findSome? fun entry =>
        (afterPhrase? entry.1 (u :: front)).map (entry.2, ·) <;> rfl

theorem suffix_operatorAt (tokens : List Token) : (operatorAt tokens).rest <:+ tokens := by
  unfold operatorAt
  split
  · exact List.suffix_refl []
  · next t rest =>
      split
      · exact List.suffix_cons t rest
      · split
        · exact List.suffix_cons t rest
        · split
          · next found =>
              obtain ⟨_, _, after⟩ := List.exists_of_findSome?_eq_some found
              obtain ⟨_, phrase, ⟨⟩⟩ := Option.map_eq_some_iff.mp after
              obtain ⟨own, -, split⟩ := afterPhrase?_eq_some_iff.mp phrase
              exact ⟨own, split.symm⟩
          · exact List.suffix_refl _

/-- Where neither `in` nor a comparison begins, there is no operator. -/
theorem operatorAt_of_none
    (unopened : t.isWordIn ("in" :: (comparingPhrases.map (·.1)).filterMap (·.head?)) = false)
    (noSign : t.kind ≠ .operator) (rest : List Token) :
    operatorAt (t :: rest) = ⟨none, false, false, t :: rest⟩ := by
  have noPhrase := afterAnyPhrase?_eq_none (comparingPhrases.map (·.1)) (by decide)
    (isWordIn_of_subset unopened (List.subset_cons_self _ _)) rest
  have noIn : t.isWordIn ["in"] = false := isWordIn_of_subset unopened (by simp)
  have none : (comparingPhrases.findSome? fun entry =>
      (afterPhrase? entry.1 (t :: rest)).map (entry.2, ·)) = none := by
    rw [afterAnyPhrase?, List.findSome?_eq_none_iff] at noPhrase
    rw [List.findSome?_eq_none_iff]
    intro entry known
    rw [noPhrase entry.1 (List.mem_map_of_mem known), Option.map_none]
  simp only [operatorAt, noIn, Bool.false_eq_true, if_false, noSign, none]

end Words

end Scope

end Request

end Inquiry
