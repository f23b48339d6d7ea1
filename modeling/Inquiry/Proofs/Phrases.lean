import Inquiry.Keyword.Index
import Mathlib.Data.List.Infix

/-!
# Phrases among tokens

An index looks for the longest of its phrases at a place. A phrase is found where
it is spelt, unless another phrase goes on with the token behind it: what follows
that token does not matter.
-/

namespace Inquiry.Keyword

theorem startsWith_iff (keys : List String) (tokens : List Token) :
    startsWith keys tokens = true ↔ keys <+: tokens.map (·.key) := by
  induction keys generalizing tokens with
  | nil => simp [startsWith]
  | cons key keys ih =>
      cases tokens with
      | nil => simp [startsWith]
      | cons t tokens =>
          rw [startsWith, Bool.and_eq_true, beq_iff_eq, ih, List.map_cons, List.cons_prefix_cons,
            eq_comm]

namespace Index

variable {index : Index}

/-- The phrases that an index looks for. -/
def phrases (index : Index) : List (List String) := index.registrations.map (·.keys)

/-- A phrase is spelt by the first tokens exactly if it begins the tokens and is
as long. -/
theorem eq_map_take_iff (keys : List String) (tokens : List Token) (n : Nat) :
    keys = (tokens.take n).map (·.key) ↔
      startsWith keys tokens = true ∧ keys.length = min n tokens.length := by
  rw [startsWith_iff, List.map_take]
  constructor
  · rintro rfl
    exact ⟨List.take_prefix n _, by simp⟩
  · rintro ⟨begins, length⟩
    rw [List.prefix_iff_eq_take.mp begins, length]
    simp [List.take_eq_take_iff]

/-- What the phrase with the given keys is when it is found. -/
def matchFor (index : Index) (keys : List String) : Match :=
  ⟨keys.length, index.entriesFor keys⟩

/-- Tokens that spell a phrase which no other phrase goes on with the token
behind them, if there is one. -/
structure Ends (index : Index) (phrase : List Token) (next : Option Token) : Prop where
  registered : phrase.map (·.key) ∈ index.phrases
  opens : ∀ t ∈ phrase.head?, t.kind ≠ .comma ∧ t.kind ≠ .operator
  longest : ∀ t ∈ next, ∀ longer ∈ index.phrases, ¬ phrase.map (·.key) ++ [t.key] <+: longer

instance (index : Index) (phrase : List Token) (next : Option Token) :
    Decidable (index.Ends phrase next) :=
  decidable_of_iff (phrase.map (·.key) ∈ index.phrases ∧
      (∀ t ∈ phrase.head?, t.kind ≠ .comma ∧ t.kind ≠ .operator) ∧
      ∀ t ∈ next, ∀ longer ∈ index.phrases, ¬ phrase.map (·.key) ++ [t.key] <+: longer)
    ⟨fun ⟨registered, opens, longest⟩ => ⟨registered, opens, longest⟩,
      fun h => ⟨h.registered, h.opens, h.longest⟩⟩

/-- The phrases of an index are those that its reports register. -/
theorem mem_phrases_iff {keys : List String} :
    keys ∈ index.phrases ↔ ∃ r ∈ index.reports, ∃ known ∈ registrationsOf r, known.keys = keys := by
  simp only [phrases, index.registrations_eq, List.mem_map, List.mem_flatMap]
  constructor
  · rintro ⟨known, ⟨r, shared, member⟩, rfl⟩
    exact ⟨r, shared, known, member, rfl⟩
  · rintro ⟨r, shared, known, member, rfl⟩
    exact ⟨known, ⟨r, shared, member⟩, rfl⟩

theorem ne_nil_of_mem_phrases {keys : List String} (known : keys ∈ index.phrases) :
    keys ≠ [] := by
  obtain ⟨r, -, registration, member, rfl⟩ := mem_phrases_iff.mp known
  simpa using (List.mem_filter.mp member).2

theorem foldl_max_le_iff (lengths : List Nat) (start n : Nat) :
    lengths.foldl max start ≤ n ↔ start ≤ n ∧ ∀ length ∈ lengths, length ≤ n := by
  induction lengths generalizing start with
  | nil => simp
  | cons length lengths ih =>
      rw [List.foldl_cons, ih, Nat.max_le, List.forall_mem_cons, and_assoc]

theorem longestAt_le_iff {tokens : List Token} {n : Nat} :
    index.longestAt tokens ≤ n ↔
      ∀ keys ∈ index.phrases, startsWith keys tokens = true → keys.length ≤ n := by
  rw [longestAt, foldl_max_le_iff, List.forall_mem_map, phrases, List.forall_mem_map]
  simp [List.mem_filter]

theorem Ends.ne_nil {phrase : List Token} {next : Option Token} (h : index.Ends phrase next) :
    phrase ≠ [] := by
  rintro rfl
  exact ne_nil_of_mem_phrases h.registered rfl

/-- The longest phrase is the one that ends here. -/
theorem Ends.longestAt_eq {phrase behind : List Token} (h : index.Ends phrase behind.head?) :
    index.longestAt (phrase ++ behind) = phrase.length := by
  apply Nat.le_antisymm
  · rw [longestAt_le_iff]
    intro keys known begins
    by_contra longer
    rw [startsWith_iff, List.map_append] at begins
    -- A longer phrase is this one with the key of the next token, and perhaps more.
    have goesOn : phrase.map (·.key) <+: keys :=
      List.prefix_of_prefix_length_le (List.prefix_append _ _) begins
        (by rw [List.length_map]; omega)
    obtain ⟨more, rfl⟩ := goesOn
    rw [List.prefix_append_right_inj] at begins
    cases more with
    | nil => simp at longer
    | cons key more =>
        cases behind with
        | nil => simp at begins
        | cons t behind =>
            rw [List.map_cons, List.cons_prefix_cons] at begins
            apply h.longest t rfl _ known
            rw [begins.1, List.append_cons _ t.key more]
            exact List.prefix_append _ _
  · have own : startsWith (phrase.map (·.key)) (phrase ++ behind) = true := by
      rw [startsWith_iff, List.map_append]
      exact List.prefix_append _ _
    simpa using longestAt_le_iff.mp (Nat.le_refl _) _ h.registered own

theorem Ends.matchAt_eq {phrase behind : List Token} (h : index.Ends phrase behind.head?) :
    index.matchAt (phrase ++ behind) = some (index.matchFor (phrase.map (·.key))) := by
  have longest := h.longestAt_eq
  cases phrase with
  | nil => exact absurd rfl h.ne_nil
  | cons t rest =>
      obtain ⟨noComma, noOperator⟩ := h.opens t rfl
      rw [List.cons_append] at longest ⊢
      rw [matchAt, if_neg (by simp [noComma, noOperator]), longest]
      simp [matchFor]

/-- What is found is spelt by the tokens it takes. -/
theorem mem_phrases_of_matchAt {tokens : List Token} {m : Match}
    (found : index.matchAt tokens = some m) :
    (tokens.take m.length).map (·.key) ∈ index.phrases ∧ m.length ≤ tokens.length := by
  obtain ⟨-, positive, own⟩ := eq_of_matchAt found
  have longest : index.longestAt tokens = m.length := by rw [own]
  obtain ⟨keys, known, begins, long⟩ : ∃ keys ∈ index.phrases,
      startsWith keys tokens = true ∧ m.length - 1 < keys.length := by
    have reached : ¬ index.longestAt tokens ≤ m.length - 1 := by omega
    rw [longestAt_le_iff] at reached
    push Not at reached
    exact reached
  have short := longestAt_le_iff.mp (Nat.le_refl _) keys known begins
  rw [startsWith_iff] at begins
  have length : keys.length = m.length := by omega
  have bound := begins.length_le
  rw [List.map_take, ← length, ← List.prefix_iff_eq_take.mp begins]
  exact ⟨known, by simpa using bound⟩

end Index

end Inquiry.Keyword
