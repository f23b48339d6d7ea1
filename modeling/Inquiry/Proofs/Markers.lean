import Inquiry.Proofs.Commands
import Mathlib.Data.List.Forall2

/-!
# Markers among tokens

A marker is a phrase of a list in which no phrase begins another one. So it is
found where its words stand, whatever follows. And tokens among which there is no
marker stay without one in front of any token that does not go on with a marker.
-/

namespace Inquiry.Request

/-- Tokens that are the words of a phrase. -/
def Spelt (phrase : List String) (tokens : List Token) : Prop :=
  List.Forall₂ (fun word t => t.kind = .word ∧ t.key = word) phrase tokens

theorem Spelt.keys_eq {phrase : List String} {tokens : List Token} (h : Spelt phrase tokens) :
    tokens.map (·.key) = phrase := by
  induction h with
  | nil => rfl
  | cons own _ ih => rw [List.map_cons, own.2, ih]

theorem Spelt.exists_head {phrase : List String} {tokens : List Token} (h : Spelt phrase tokens)
    (ne : phrase ≠ []) :
    ∃ t others, tokens = t :: others ∧ t.isWordIn phrase.head?.toList = true := by
  cases h with
  | nil => exact absurd rfl ne
  | cons own _ => exact ⟨_, _, rfl, isWordIn_iff.mpr ⟨own.1, by simp [own.2]⟩⟩

/-- What follows a phrase is what its words stand in front of. -/
theorem afterPhrase?_eq_some_iff {phrase : List String} {tokens rest : List Token} :
    afterPhrase? phrase tokens = some rest ↔
      ∃ front, Spelt phrase front ∧ tokens = front ++ rest := by
  induction phrase generalizing tokens with
  | nil => simp [afterPhrase?, Spelt]
  | cons word phrase ih =>
      constructor
      · intro found
        cases tokens with
        | nil => cases found
        | cons t tokens =>
            rw [afterPhrase?] at found
            split at found
            · next own =>
                obtain ⟨front, spelt, rfl⟩ := ih.mp found
                exact ⟨t :: front, .cons own spelt, rfl⟩
            · cases found
      · rintro ⟨_, spelt, rfl⟩
        cases spelt with
        | @cons _ t _ front own further =>
            rw [List.cons_append, afterPhrase?, if_pos own]
            exact ih.mpr ⟨front, further, rfl⟩

/-- A phrase that is found begins with the first token. -/
theorem exists_of_afterAnyPhrase? {phrases : List (List String)} (nonempty : [] ∉ phrases)
    {t : Token} {tokens rest : List Token}
    (found : afterAnyPhrase? phrases (t :: tokens) = some rest) :
    t.kind = .word ∧
      ∃ words own, t.key :: words ∈ phrases ∧ Spelt words own ∧ tokens = own ++ rest := by
  obtain ⟨phrase, known, found⟩ := List.exists_of_findSome?_eq_some found
  obtain ⟨front, spelt, split⟩ := afterPhrase?_eq_some_iff.mp found
  cases spelt with
  | nil => exact absurd known nonempty
  | cons first further =>
      obtain ⟨rfl, goesOn⟩ := List.cons.inj split
      exact ⟨first.1, _, _, first.2 ▸ known, further, goesOn⟩

/-- Phrases none of which begins another one. -/
def PrefixFree (phrases : List (List String)) : Prop :=
  ∀ phrase ∈ phrases, ∀ longer ∈ phrases, phrase <+: longer → phrase = longer

instance (phrases : List (List String)) : Decidable (PrefixFree phrases) :=
  inferInstanceAs (Decidable (∀ phrase ∈ phrases, ∀ longer ∈ phrases,
    phrase <+: longer → phrase = longer))

/-- A phrase that no other one begins, and that begins no other one, is found where
its words stand. -/
theorem afterAnyPhrase?_of_spelt {phrases : List (List String)} (prefixFree : PrefixFree phrases)
    {phrase : List String} (known : phrase ∈ phrases) {front : List Token}
    (spelt : Spelt phrase front) (rest : List Token) :
    afterAnyPhrase? phrases (front ++ rest) = some rest := by
  have own : afterPhrase? phrase (front ++ rest) = some rest :=
    afterPhrase?_eq_some_iff.mpr ⟨front, spelt, rfl⟩
  cases found : afterAnyPhrase? phrases (front ++ rest) with
  | none =>
      have none := List.findSome?_eq_none_iff.mp found phrase known
      rw [own] at none
      cases none
  | some left =>
      obtain ⟨other, member, other_eq⟩ := List.exists_of_findSome?_eq_some found
      obtain ⟨front', spelt', split⟩ := afterPhrase?_eq_some_iff.mp other_eq
      have begins : phrase <+: (front ++ rest).map (·.key) := by
        rw [List.map_append, spelt.keys_eq]
        exact List.prefix_append _ _
      have begins' : other <+: (front ++ rest).map (·.key) := by
        rw [split, List.map_append, spelt'.keys_eq]
        exact List.prefix_append _ _
      have same : phrase = other :=
        (List.prefix_or_prefix_of_prefix begins begins').elim
          (prefixFree phrase known other member)
          (fun h => (prefixFree other member phrase known h).symm)
      have length : front.length = front'.length := by
        rw [← spelt.length_eq, ← spelt'.length_eq, same]
      rw [(List.append_inj split length).2]

/-- Tokens without a marker stay without one before a token that is no later word
of a marker. -/
theorem Unmarked.before {phrases : List (List String)} {front : List Token}
    (h : Unmarked phrases front []) {t : Token}
    (later : t.isWordIn (phrases.flatMap (·.tail)) = false) (rest : List Token) :
    Unmarked phrases front (t :: rest) := by
  intro behind suffix ne
  have none := h behind suffix ne
  rw [List.append_nil, afterAnyPhrase?, List.findSome?_eq_none_iff] at none
  rw [afterAnyPhrase?, List.findSome?_eq_none_iff]
  intro phrase known
  by_contra found
  obtain ⟨left, found⟩ := Option.ne_none_iff_exists'.mp found
  obtain ⟨own, spelt, split⟩ := afterPhrase?_eq_some_iff.mp found
  have absurdly {left' : List Token} (within : behind = own ++ left') : False := by
    have found := afterPhrase?_eq_some_iff.mpr ⟨own, spelt, within⟩
    rw [none phrase known] at found
    cases found
  rcases List.append_eq_append_iff.mp split with ⟨more, rfl, goesOn⟩ | ⟨left', within, -⟩
  · cases more with
    | nil => exact @absurdly [] (by simp)
    | cons u more =>
        -- The phrase goes on with the token behind.
        obtain ⟨same, -⟩ := List.cons.inj goesOn
        have goes := List.forall₂_drop_append phrase behind (u :: more) spelt
        rw [← same] at goes
        generalize further : phrase.drop behind.length = others at goes
        cases goes with
        | @cons word _ others _ here _ =>
            have member : word ∈ phrase.tail := by
              obtain ⟨first, behind, rfl⟩ := List.exists_cons_of_ne_nil ne
              rw [List.length_cons, ← List.drop_tail] at further
              exact List.mem_of_mem_drop (further ▸ List.mem_cons_self)
            rw [← here.2] at member
            have isLater : t.isWordIn (phrases.flatMap (·.tail)) = true :=
              isWordIn_iff.mpr ⟨here.1, List.mem_flatMap.mpr ⟨phrase, known, member⟩⟩
            rw [later] at isLater
            cases isLater
  · exact absurdly within

end Inquiry.Request
