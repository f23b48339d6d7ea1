import Inquiry.Proofs.Statement
import Inquiry.Request

/-!
# Words that are no commands

Most words of a request only name fields and values. The first two passes, which
take out the sort block and the row limit, leave them where they are, and the
third is steered by none of them. So what stands at the beginning of a request
is read as mentions, whatever follows.
-/

namespace Inquiry.Request

/-- The words that steer the reading of a request: those that begin the phrases
before sort fields, row limits and lists of fields, and those before a field. -/
def commandWords : List String :=
  (sortMarkers ++ limitMarkers ++ fieldListMarkers).filterMap (·.head?) ++
    firstWords ++ nextWords ++ ["und", "oder"] ++ excludingWords ++ negatingWords ++ lackingWords

/-- Tokens without commands. -/
def Plain (tokens : List Token) : Prop := ∀ t ∈ tokens, t.isWordIn commandWords = false

instance (tokens : List Token) : Decidable (Plain tokens) :=
  inferInstanceAs (Decidable (∀ t ∈ tokens, t.isWordIn commandWords = false))

namespace Plain

variable {t : Token} {front rest : List Token}

theorem head (h : Plain (t :: rest)) : t.isWordIn commandWords = false := h t List.mem_cons_self

theorem tail (h : Plain (t :: rest)) : Plain rest :=
  fun u member => h u (List.mem_cons_of_mem t member)

theorem append (h : Plain front) (more : Plain rest) : Plain (front ++ rest) :=
  fun u member => (List.mem_append.mp member).elim (h u) (more u)

end Plain

theorem isWordIn_iff {words : List String} {t : Token} :
    t.isWordIn words = true ↔ t.kind = .word ∧ t.key ∈ words := by
  rw [Token.isWordIn, Bool.and_eq_true, beq_iff_eq, List.contains_iff_mem]

theorem isWordIn_mono {some words : List String} {t : Token} (h : t.isWordIn some = true)
    (subset : some ⊆ words) : t.isWordIn words = true := by
  rw [isWordIn_iff] at h ⊢
  exact ⟨h.1, subset h.2⟩

theorem isWordIn_of_subset {words some : List String} {t : Token}
    (h : t.isWordIn words = false) (subset : some ⊆ words) : t.isWordIn some = false := by
  rw [← Bool.not_eq_true] at h ⊢
  exact fun isWord => h (isWordIn_mono isWord subset)

theorem isWordIn_of_apart {words others : List String} {t : Token}
    (h : t.isWordIn words = true) (apart : ∀ w ∈ words, others.contains w = false) :
    t.isWordIn others = false := by
  rw [Token.isWordIn, apart t.key (isWordIn_iff.mp h).2, Bool.and_false]

theorem isWordIn_append (words others : List String) (t : Token) :
    t.isWordIn (words ++ others) = (t.isWordIn words || t.isWordIn others) := by
  rw [Token.isWordIn, List.contains_append, Bool.and_or_distrib_left]
  rfl

theorem isWordIn_of_kind {t : Token} (kind : t.kind ≠ .word) (words : List String) :
    t.isWordIn words = false :=
  Bool.eq_false_iff.mpr fun isWord => kind (isWordIn_iff.mp isWord).1

theorem isWordIn_of_quoted {t : Token} (quoted : t.kind = .quoted) (words : List String) :
    t.isWordIn words = false := isWordIn_of_kind (by simp [quoted]) words

theorem afterAnyPhrase?_eq_none (phrases : List (List String)) (nonempty : [] ∉ phrases)
    {t : Token} (plain : t.isWordIn (phrases.filterMap (·.head?)) = false) (rest : List Token) :
    afterAnyPhrase? phrases (t :: rest) = none := by
  rw [afterAnyPhrase?, List.findSome?_eq_none_iff]
  intro phrase known
  cases phrase with
  | nil => exact absurd known nonempty
  | cons word words =>
      rw [afterPhrase?, if_neg]
      rintro ⟨kind, key⟩
      have isWord : t.isWordIn (phrases.filterMap (·.head?)) = true :=
        isWordIn_iff.mpr ⟨kind, List.mem_filterMap.mpr ⟨word :: words, known, by rw [key]; rfl⟩⟩
      rw [plain] at isWord
      cases isWord

theorem Plain.of_quoted {t : Token} (quoted : t.kind = .quoted) : Plain [t] := by
  intro u member
  rw [List.mem_singleton.mp member]
  exact isWordIn_of_quoted quoted commandWords

/-- A word steers nothing that begins no list of fields and is none of the words that steer
what becomes of the next field. -/
theorem Progress.steer?_eq_none_of_unmarked {t : Token} {rest : List Token}
    (marker : afterAnyPhrase? fieldListMarkers (t :: rest) = none)
    (unsteering : t.isWordIn (firstWords ++ nextWords ++ ["und", "oder"] ++ excludingWords ++
      negatingWords ++ lackingWords) = false) (s : Progress) : s.steer? t rest = none := by
  rw [steer?]
  split
  · rfl
  · next kind =>
      have kind := Classical.not_not.mp kind
      simp only [Token.isWordIn, kind, beq_self_eq_true, Bool.true_and, List.contains_eq_mem,
        decide_eq_false_iff_not, List.mem_append, not_or] at unsteering
      obtain ⟨⟨⟨⟨⟨first, next⟩, joining⟩, excluding⟩, negating⟩, lacking⟩ := unsteering
      simp only [List.mem_cons, List.not_mem_nil, or_false, not_or] at joining
      simp [marker, first, next, joining, excluding, negating, lacking]

/-- A word that is no command steers nothing. -/
theorem Progress.steer?_eq_none {t : Token} (plain : t.isWordIn commandWords = false)
    (s : Progress) (rest : List Token) : s.steer? t rest = none :=
  steer?_eq_none_of_unmarked
    (afterAnyPhrase?_eq_none _ (by decide) (isWordIn_of_subset plain (by decide)) rest)
    (isWordIn_of_subset plain (by decide)) s

/-- Tokens at none of which a phrase begins, whatever it takes of what follows
them. -/
def Unmarked (phrases : List (List String)) (front rest : List Token) : Prop :=
  ∀ behind, behind <:+ front → behind ≠ [] → afterAnyPhrase? phrases (behind ++ rest) = none

namespace Unmarked

variable {phrases : List (List String)} {t : Token} {front rest : List Token}

theorem head (h : Unmarked phrases (t :: front) rest) :
    afterAnyPhrase? phrases (t :: (front ++ rest)) = none :=
  h (t :: front) (List.suffix_refl _) (List.cons_ne_nil t front)

theorem tail (h : Unmarked phrases (t :: front) rest) : Unmarked phrases front rest :=
  fun behind suffix => h behind (suffix.trans (List.suffix_cons t front))

theorem cons (first : afterAnyPhrase? phrases (t :: (front ++ rest)) = none)
    (h : Unmarked phrases front rest) : Unmarked phrases (t :: front) rest := by
  intro behind suffix ne
  rcases List.suffix_cons_iff.mp suffix with rfl | suffix
  · exact first
  · exact h behind suffix ne

theorem append {more : List Token} (h : Unmarked phrases front (more ++ rest))
    (h' : Unmarked phrases more rest) : Unmarked phrases (front ++ more) rest := by
  induction front with
  | nil => exact h'
  | cons t front ih =>
      have first : afterAnyPhrase? phrases (t :: (front ++ more ++ rest)) = none := by
        rw [List.append_assoc]
        exact h.head
      exact cons first (ih h.tail)

/-- Fewer phrases begin nowhere else. -/
theorem mono {others : List (List String)} (h : Unmarked phrases front rest)
    (subset : others ⊆ phrases) : Unmarked others front rest := by
  intro behind suffix ne
  have none := List.findSome?_eq_none_iff.mp (h behind suffix ne)
  exact List.findSome?_eq_none_iff.mpr fun phrase known => none phrase (subset known)

/-- No phrase begins among tokens that are no first word of one. -/
theorem of_heads (nonempty : [] ∉ phrases)
    (h : ∀ t ∈ front, t.isWordIn (phrases.filterMap (·.head?)) = false) (rest : List Token) :
    Unmarked phrases front rest := by
  intro behind suffix ne
  cases behind with
  | nil => exact absurd rfl ne
  | cons t behind =>
      exact afterAnyPhrase?_eq_none phrases nonempty (h t (suffix.subset List.mem_cons_self)) _

end Unmarked

theorem Plain.unmarked {phrases : List (List String)} {front : List Token} (plain : Plain front)
    (nonempty : [] ∉ phrases) (subset : phrases.filterMap (·.head?) ⊆ commandWords)
    (rest : List Token) : Unmarked phrases front rest :=
  .of_heads nonempty (fun t member => isWordIn_of_subset (plain t member) subset) rest

namespace Scope

variable {scope : Scope} {front : List Token}

/-- Tokens before the sort block stay where they are when it is taken out. -/
theorem sorting_unmarked {rest : List Token} (unmarked : Unmarked sortMarkers front rest) :
    scope.sorting (front ++ rest) =
      (scope.sorting rest).map fun (keys, rest) => (keys, front ++ rest) := by
  induction front with
  | nil => cases h : scope.sorting rest <;> simp [h, Except.map]
  | cons t front ih =>
      rw [List.cons_append, sorting, unmarked.head]
      simp only
      rw [ih unmarked.tail]
      cases scope.sorting rest <;> rfl

/-- Tokens before the limit are passed over when it is read. -/
theorem limitBehind_unmarked {rest : List Token} (unmarked : Unmarked limitMarkers front rest)
    (before : List Token) :
    scope.limitBehind before (front ++ rest) = scope.limitBehind (before ++ front) rest := by
  induction front generalizing before with
  | nil => rw [List.nil_append, List.append_nil]
  | cons t front ih =>
      rw [List.cons_append, limitBehind, unmarked.head]
      simp only
      rw [ih unmarked.tail, List.append_cons before t front]

/-- Words that are no commands stay where they are when the sort block is taken
out. -/
theorem sorting_append (plain : Plain front) (rest : List Token) :
    scope.sorting (front ++ rest) =
      (scope.sorting rest).map fun (keys, rest) => (keys, front ++ rest) :=
  sorting_unmarked (plain.unmarked (by decide) (by decide) rest)

/-- Words that are no commands are passed over by the reading of the limit. -/
theorem limitBehind_append (plain : Plain front) (before rest : List Token) :
    scope.limitBehind before (front ++ rest) = scope.limitBehind (before ++ front) rest :=
  limitBehind_unmarked (plain.unmarked (by decide) (by decide) rest) before

/-- What one token does to the row limit: it is passed over, or it begins a marker with
a number behind it. -/
theorem limitBehind_cases {before rest left : List Token} {t : Token} {n : Option Int}
    (h : scope.limitBehind before (t :: rest) = .ok (n, left)) :
    scope.limitBehind (before ++ [t]) rest = .ok (n, left) ∨
      ∃ u after, afterAnyPhrase? limitMarkers (t :: rest) = some (u :: after) ∧
        u.kind = .number ∧ left = before ++ after := by
  simp only [limitBehind] at h
  split at h
  · exact .inl h
  · next behind found =>
      split at h
      · exact .inl h
      · split at h
        · next u after =>
            split at h
            · next number =>
                obtain ⟨_, -, heq⟩ := ok_of_map h
                cases heq
                exact .inr ⟨u, after, found, number, rfl⟩
            · split at h
              · cases h
              · exact .inl h
        · split at h
          · cases h
          · exact .inl h

/-- What has been passed over stays at the beginning. -/
theorem prefix_of_limitBehind {before tokens left : List Token} {n : Option Int}
    (h : scope.limitBehind before tokens = .ok (n, left)) : before <+: left := by
  induction tokens generalizing before with
  | nil =>
      cases h
      exact List.prefix_refl _
  | cons t rest ih =>
      rcases limitBehind_cases h with passed | ⟨_, _, -, -, rfl⟩
      · exact (List.prefix_append before [t]).trans (ih passed)
      · exact List.prefix_append _ _

/-- A request is what its three passes read. -/
theorem readTokens_eq {tokens unsorted left : List Token} {keys : List SortKey}
    {limit : Option Int} (sorted : scope.sorting tokens = .ok (keys, unsorted))
    (limited : scope.rowLimit unsorted = .ok (limit, left)) :
    scope.readTokens tokens = (scope.mentions {} left).map fun s =>
      { domain := scope.domain
        main := gathered s.conditions
        projections := s.projections
        sortKeys := keys
        limit
        report := some scope.report.name } := by
  simp only [readTokens, sorted, limited, bind, Except.bind]
  cases scope.mentions {} left <;> rfl

/-- Where a request can be read, all its passes succeed. -/
theorem passes_of_readTokens {tokens : List Token} {query : Query}
    (h : scope.readTokens tokens = .ok query) :
    ∃ unsorted left s, scope.sorting tokens = .ok (query.sortKeys, unsorted) ∧
      scope.rowLimit unsorted = .ok (query.limit, left) ∧ scope.mentions {} left = .ok s ∧
      query.main = gathered s.conditions ∧ query.projections = s.projections := by
  rw [readTokens] at h
  obtain ⟨⟨keys, unsorted⟩, sorted, h⟩ := ok_of_bind h
  obtain ⟨⟨limit, left⟩, limited, h⟩ := ok_of_bind h
  obtain ⟨s, mentioned, ⟨⟩⟩ := ok_of_bind h
  exact ⟨unsorted, left, s, sorted, limited, mentioned, rfl, rfl⟩

/-- Nothing is taken out of a request without sort block. -/
theorem sorting_of_unmarked {tokens : List Token} (sorts : Unmarked sortMarkers tokens []) :
    scope.sorting tokens = .ok ([], tokens) := by
  have := scope.sorting_unmarked sorts
  simpa [sorting, Except.map] using this

/-- Nothing is taken out of a request without row limit. -/
theorem rowLimit_of_unmarked {tokens : List Token} (limits : Unmarked limitMarkers tokens []) :
    scope.rowLimit tokens = .ok (none, tokens) := by
  have := scope.limitBehind_unmarked limits []
  simpa [rowLimit, limitBehind] using this

/-- A request without sort block and limit is read as its mentions. -/
theorem readTokens_unmarked {tokens : List Token} (sorts : Unmarked sortMarkers tokens [])
    (limits : Unmarked limitMarkers tokens []) :
    scope.readTokens tokens = (scope.mentions {} tokens).map fun s =>
      { domain := scope.domain
        main := gathered s.conditions
        projections := s.projections
        report := some scope.report.name } :=
  readTokens_eq (sorting_of_unmarked sorts) (rowLimit_of_unmarked limits)

/-- A request without commands is read as its mentions. -/
theorem readTokens_plain {tokens : List Token} (plain : Plain tokens) :
    scope.readTokens tokens = (scope.mentions {} tokens).map fun s =>
      { domain := scope.domain
        main := gathered s.conditions
        projections := s.projections
        report := some scope.report.name } :=
  readTokens_unmarked (plain.unmarked (by decide) (by decide) [])
    (plain.unmarked (by decide) (by decide) [])

/-- Words that are no commands reach the reading of mentions, whatever follows. -/
theorem mentions_of_readTokens {rest : List Token} {query : Query} (plain : Plain front)
    (h : scope.readTokens (front ++ rest) = .ok query) :
    ∃ left s, scope.mentions {} (front ++ left) = .ok s ∧ query.main = gathered s.conditions := by
  obtain ⟨_, left, s, sorted, limited, mentioned, main, -⟩ := passes_of_readTokens h
  rw [scope.sorting_append plain] at sorted
  obtain ⟨⟨keys, unsorted⟩, -, ⟨⟩⟩ := ok_of_map sorted
  rw [rowLimit, scope.limitBehind_append plain] at limited
  obtain ⟨left, rfl⟩ := prefix_of_limitBehind limited
  exact ⟨left, s, mentioned, main⟩

/-- What requests for the small report are read against, for examples. -/
def towns : Scope := { report := .towns, index := .of [.towns] }

end Scope

end Inquiry.Request
