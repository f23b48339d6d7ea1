import Inquiry.Proofs.Comparisons
import Inquiry.Proofs.Truth

/-!
# Chains of conditions

A request may be a main keyword and a chain of clauses, each of them a column, a
comparison sign and a quoted text, with `und` or `oder` before all but the first.
Each clause is read as one condition, and a list of values never goes on across
a link, because a keyword is no value. So the chain holds exactly if each of its
runs of alternatives has a clause that does: `oder` binds tighter than `und`.

The keywords of the report have to be told apart from each other and from the
words around them (`HasClearKeywords`).
-/

namespace Inquiry

namespace Request

/-- Words and signs that stand between or right behind keywords. -/
def reservedKeys : List String := commandWords ++ ["zwar"] ++ comparingSigns.map (·.1)

end Request

open Keyword Request in
/-- The keywords of a report are neither steering words nor signs, each stands for
one column or none, and no phrase goes on from a main keyword to a column. -/
structure Report.HasClearKeywords (r : Report) : Prop where
  unreserved : ∀ known ∈ registrationsOf r, ∀ key ∈ known.keys, key ∉ reservedKeys
  sameField : ∀ known ∈ registrationsOf r, ∀ other ∈ registrationsOf r,
    known.keys = other.keys → known.entry.field = other.entry.field
  apart : ∀ main ∈ registrationsOf r, main.entry.field = none →
    ∀ column ∈ registrationsOf r, column.entry.field ≠ none →
      ∀ longer ∈ registrationsOf r, ¬ main.keys ++ column.keys.take 1 <+: longer.keys

open Keyword in
/-- Words that spell a keyword of a column, or of the report itself if there is no
field. -/
structure Report.Spells (r : Report) (phrase : List Token) (field : Option String) : Prop where
  registered : ∃ known ∈ registrationsOf r, known.keys = phrase.map (·.key) ∧
    known.entry.field = field
  word : ∀ t ∈ phrase.head?, t.kind = .word

namespace Request

/-- A column, a sign and a quoted text, with the predicate that they state. -/
structure Clause where
  phrase : List Token
  sign : Token
  literal : Token
  predicate : Predicate

/-- The tokens of a clause. -/
def Clause.tokens (c : Clause) : List Token := c.phrase ++ [c.sign, c.literal]

/-- A clause whose phrase is a keyword of the column that its predicate is about,
and whose predicate compares that column by the sign with the text. -/
structure Clause.States (c : Clause) (r : Report) : Prop where
  keyword : r.Spells c.phrase (some c.predicate.field)
  sign : c.sign.kind = .operator ∧ c.sign.key = c.sign.raw
  quoted : c.literal.kind = .quoted
  test : ∃ comparison column value, comparingSigns.lookup c.sign.raw = some comparison ∧
    r.column? c.predicate.field = some column ∧
    bound column c.predicate.field false c.literal = .ok value ∧
    c.predicate.test = .compare comparison value

/-- A word that links a clause to the one before. -/
def Links (t : Token) : Prop := t.kind = .word ∧ (t.key = "und" ∨ t.key = "oder")

/-- The tokens of further clauses, each behind its link. -/
def chained (more : List (Token × Clause)) : List Token :=
  more.flatMap fun (link, c) => link :: c.tokens

@[simp] theorem chained_nil : chained [] = [] := rfl

@[simp] theorem chained_cons (link : Token) (c : Clause) (more : List (Token × Clause)) :
    chained ((link, c) :: more) = link :: (c.tokens ++ chained more) := by
  simp [chained]

/-- Conditions that are single predicates are gathered in runs. -/
theorem gathered_predicates (entries : List (Predicate × Bool)) :
    (gathered (entries.map fun (p, alternative) => (.predicate p, alternative))).allPredicates.Perm
        (entries.map (·.1)) ∧
      ∀ truth, (gathered (entries.map fun (p, alternative) => (.predicate p, alternative))).value
          truth = (entries.splitBy fun _ c => c.2).all (·.any (truth ·.1)) := by
  constructor
  · have perm := perm_gathered (entries.map fun (p, alternative) => (.predicate p, alternative))
    have own : entries.flatMap (fun entry => [entry.1]) = entries.map (·.1) :=
      List.map_eq_flatMap.symm
    rw [List.flatMap_map] at perm
    exact own ▸ perm
  · intro truth
    rw [value_gathered truth, splitBy_map]
    · simp [List.all_map, Function.comp_def]
    · intro c member
      obtain ⟨entry, -, rfl⟩ := List.mem_map.mp member
      exact Node.counts_predicate entry.1

namespace Scope

variable {scope : Scope}

/-! ## The keywords -/

section Keywords

variable {main phrase : List Token} {field : String}

/-- A phrase stands for the columns of a report for which the report registers it, in
every index that knows the report. -/
theorem mem_fieldsOf_matchFor (holds : scope.index.Holds scope.report) (keys : List String) :
    field ∈ (scope.index.matchFor keys).fieldsOf scope.report ↔
      ∃ known ∈ Keyword.registrationsOf scope.report, known.keys = keys ∧
        known.entry.field = some field := by
  simp only [Keyword.Index.matchFor, Keyword.Match.fieldsOf, Keyword.Index.entriesFor,
    scope.index.registrations_eq, List.mem_filterMap, List.mem_eraseDups, List.mem_map,
    List.mem_filter, List.mem_flatMap, decide_eq_true_eq]
  constructor
  · rintro ⟨entry, ⟨known, ⟨⟨other, member, registered⟩, rfl⟩, rfl⟩, heq⟩
    split at heq
    · next number =>
        obtain ⟨same, -⟩ := Keyword.mem_columns_of_registrationsOf registered heq
        rw [holds.number other member (same.symm.trans number)] at registered
        exact ⟨known, registered, rfl, heq⟩
    · cases heq
  · rintro ⟨known, member, rfl, heq⟩
    refine ⟨known.entry, ⟨known, ⟨⟨scope.report, holds.mem, member⟩, rfl⟩, rfl⟩, ?_⟩
    rw [if_pos (Keyword.mem_columns_of_registrationsOf member heq).1, heq]

theorem holds_of_own (own : scope.index = .of [scope.report]) :
    scope.index.Holds scope.report := by
  rw [own]
  exact ⟨List.mem_singleton_self _, fun other member _ => List.mem_singleton.mp member⟩

theorem mem_phrases (own : scope.index = .of [scope.report]) {keys : List String} :
    keys ∈ scope.index.phrases ↔
      ∃ known ∈ Keyword.registrationsOf scope.report, known.keys = keys := by
  simp [Keyword.Index.phrases, own, Keyword.Index.of]

theorem plain_of_spells (clear : scope.report.HasClearKeywords) {field : Option String}
    (spells : scope.report.Spells phrase field) : Plain phrase := by
  obtain ⟨known, member, keys, -⟩ := spells.registered
  intro t ht
  have key : t.key ∈ known.keys := keys ▸ List.mem_map_of_mem ht
  have free := clear.unreserved known member t.key key
  refine Bool.eq_false_iff.mpr fun reserved => free ?_
  simp only [reservedKeys, List.mem_append]
  exact .inl (.inl (isWordIn_iff.mp reserved).2)

/-- A keyword of a column stands for that column. -/
theorem head?_fieldsOf_of_spells (clear : scope.report.HasClearKeywords)
    (holds : scope.index.Holds scope.report) (spells : scope.report.Spells phrase (some field)) :
    ((scope.index.matchFor (phrase.map (·.key))).fieldsOf scope.report).head? = some field := by
  obtain ⟨known, member, keys, heq⟩ := spells.registered
  have some : field ∈ (scope.index.matchFor (phrase.map (·.key))).fieldsOf scope.report :=
    (mem_fieldsOf_matchFor holds _).mpr ⟨known, member, keys, heq⟩
  have same : ∀ f ∈ (scope.index.matchFor (phrase.map (·.key))).fieldsOf scope.report,
      f = field := by
    intro f hf
    obtain ⟨other, member', keys', heq'⟩ := (mem_fieldsOf_matchFor holds _).mp hf
    have fields := clear.sameField other member' known member (keys'.trans keys.symm)
    exact Option.some.inj (heq'.symm.trans (fields.trans heq))
  obtain ⟨first, others, split⟩ := List.exists_cons_of_ne_nil (List.ne_nil_of_mem some)
  rw [split, List.head?_cons, same first (split ▸ List.mem_cons_self)]

theorem isMain_of_spells (indexed : scope.report ∈ scope.index.reports)
    (spells : scope.report.Spells main none) :
    (scope.index.matchFor (main.map (·.key))).isMain = true := by
  obtain ⟨known, member, keys, heq⟩ := spells.registered
  simp only [Keyword.Match.isMain, Keyword.Index.matchFor, Keyword.Index.entriesFor,
    List.any_eq_true, List.mem_eraseDups, List.mem_map, List.mem_filter, decide_eq_true_eq]
  have registered : known ∈ scope.index.registrations := by
    rw [scope.index.registrations_eq]
    exact List.mem_flatMap.mpr ⟨scope.report, indexed, member⟩
  refine ⟨known.entry, ⟨known, ⟨registered, keys⟩, rfl⟩, ?_⟩
  rw [Keyword.Entry.isMain, heq]
  rfl

theorem fieldsOf_of_spells (clear : scope.report.HasClearKeywords)
    (holds : scope.index.Holds scope.report) (spells : scope.report.Spells main none) :
    (scope.index.matchFor (main.map (·.key))).fieldsOf scope.report = [] := by
  obtain ⟨known, member, keys, heq⟩ := spells.registered
  rw [List.eq_nil_iff_forall_not_mem]
  intro f hf
  obtain ⟨other, member', keys', heq'⟩ := (mem_fieldsOf_matchFor holds _).mp hf
  have fields := clear.sameField other member' known member (keys'.trans keys.symm)
  rw [heq, heq'] at fields
  cases fields

theorem registered_of_spells (indexed : scope.report ∈ scope.index.reports)
    {field : Option String} (spells : scope.report.Spells phrase field) :
    phrase.map (·.key) ∈ scope.index.phrases := by
  obtain ⟨known, member, keys, -⟩ := spells.registered
  exact Keyword.Index.mem_phrases_iff.mpr ⟨scope.report, indexed, known, member, keys⟩

/-- In every index that knows the report, a main keyword is found as one in front of
whatever no phrase goes on with. -/
theorem asks_of_holds (clear : scope.report.HasClearKeywords)
    (holds : scope.index.Holds scope.report) (spells : scope.report.Spells main none)
    {next : Option Token} (longest : ∀ t ∈ next, ∀ longer ∈ scope.index.phrases,
      ¬ main.map (·.key) ++ [t.key] <+: longer) : scope.Asks main next where
  ends := ⟨registered_of_spells holds.mem spells, fun t ht => by simp [spells.word t ht], longest⟩
  isMain := isMain_of_spells holds.mem spells
  noField := fieldsOf_of_spells clear holds spells
  plain := plain_of_spells clear spells

/-- In every index that knows the report, a keyword of a column names it in front of
whatever no phrase goes on with. -/
theorem names_of_holds (clear : scope.report.HasClearKeywords)
    (holds : scope.index.Holds scope.report) (spells : scope.report.Spells phrase (some field))
    {next : Option Token} (longest : ∀ t ∈ next, ∀ longer ∈ scope.index.phrases,
      ¬ phrase.map (·.key) ++ [t.key] <+: longer) : scope.Names phrase field next where
  ends := ⟨registered_of_spells holds.mem spells, fun t ht => by simp [spells.word t ht], longest⟩
  field := head?_fieldsOf_of_spells clear holds spells
  plain := plain_of_spells clear spells

/-- No keyword goes on with a sign. -/
theorem names_of_spells (clear : scope.report.HasClearKeywords)
    (own : scope.index = .of [scope.report]) (spells : scope.report.Spells phrase (some field))
    {sign : Token} (reserved : sign.key ∈ comparingSigns.map (·.1)) :
    scope.Names phrase field (some sign) := by
  refine names_of_holds clear (holds_of_own own) spells ?_
  rintro t ⟨⟩ longer known goesOn
  obtain ⟨other, member, rfl⟩ := (mem_phrases own).mp known
  have key : sign.key ∈ other.keys := goesOn.subset (by simp)
  refine clear.unreserved other member sign.key key ?_
  simp only [reservedKeys, List.mem_append]
  exact .inr reserved

/-- A keyword is no value. -/
theorem value?_of_ends {behind : List Token} (ends : scope.index.Ends phrase behind.head?)
    (word : ∀ t ∈ phrase.head?, t.kind = .word) : scope.value? (phrase ++ behind) = none := by
  have found := ends.matchAt_eq
  cases phrase with
  | nil => exact absurd rfl ends.ne_nil
  | cons t others =>
      rw [List.cons_append] at found ⊢
      have notPlain : scope.startsPlainWord (t :: (others ++ behind)) = false := by
        simp [startsPlainWord, found]
      simp [value?, word t rfl, plainValue?, plainWords, notPlain]

/-- A list of values does not go on behind a separator if no value follows it. -/
theorem furtherValues_of_value? {rest : List Token} (noValue : scope.value? rest = none)
    (andToo : Bool) (separator : Token) :
    scope.furtherValues andToo (separator :: rest) = ([], separator :: rest) := by
  rw [furtherValues]
  split
  · split
    · next found =>
        rw [noValue] at found
        cases found
    · rfl
  · rfl

/-- A main keyword is found as one in front of whatever no phrase goes on with. -/
theorem asks_of_longest (clear : scope.report.HasClearKeywords)
    (own : scope.index = .of [scope.report]) (spells : scope.report.Spells main none)
    {next : Option Token} (longest : ∀ t ∈ next, ∀ longer ∈ scope.index.phrases,
      ¬ main.map (·.key) ++ [t.key] <+: longer) : scope.Asks main next :=
  asks_of_holds clear (holds_of_own own) spells longest

/-- In every index that knows the report, a main keyword is found as one in front of a
column if no phrase goes on from one to the other. -/
theorem asks_of_apart (clear : scope.report.HasClearKeywords)
    (holds : scope.index.Holds scope.report)
    (apart : ∀ known ∈ Keyword.registrationsOf scope.report, known.entry.field = none →
      ∀ column ∈ Keyword.registrationsOf scope.report, column.entry.field ≠ none →
        ∀ longer ∈ scope.index.phrases, ¬ known.keys ++ column.keys.take 1 <+: longer)
    (spells : scope.report.Spells main none) (column : scope.report.Spells phrase (some field)) :
    scope.Asks main phrase.head? := by
  refine asks_of_holds clear holds spells ?_
  intro t ht longer registered goesOn
  obtain ⟨known, member, keys, heq⟩ := spells.registered
  obtain ⟨named, hnamed, keys', heq'⟩ := column.registered
  refine apart known member heq named hnamed ?_ longer registered ?_
  · rw [heq']
    exact Option.some_ne_none field
  · cases phrase with
    | nil => cases ht
    | cons first rest =>
        cases ht
        rw [keys, keys']
        exact goesOn

/-- No main keyword goes on with a column. -/
theorem asks_of_spells (clear : scope.report.HasClearKeywords)
    (own : scope.index = .of [scope.report]) (spells : scope.report.Spells main none)
    (column : scope.report.Spells phrase (some field)) : scope.Asks main phrase.head? := by
  refine asks_of_apart clear (holds_of_own own) ?_ spells column
  intro known member noField named hnamed isColumn longer registered
  obtain ⟨other, member', rfl⟩ := (mem_phrases own).mp registered
  exact clear.apart known member noField named hnamed isColumn other member'

/-- No keyword goes on with a steering word. -/
theorem asks_of_reserved (clear : scope.report.HasClearKeywords)
    (own : scope.index = .of [scope.report]) (spells : scope.report.Spells main none)
    {next : Option Token} (reserved : ∀ t ∈ next, t.key ∈ reservedKeys) :
    scope.Asks main next := by
  refine asks_of_longest clear own spells ?_
  intro t ht longer known goesOn
  obtain ⟨other, member, rfl⟩ := (mem_phrases own).mp known
  exact clear.unreserved other member t.key (goesOn.subset (by simp)) (reserved t ht)

end Keywords

/-! ## The chain -/

section Chain

variable (clear : scope.report.HasClearKeywords) (own : scope.index = .of [scope.report])

include clear own

theorem names_of_states {c : Clause} (states : c.States scope.report) :
    scope.Names c.phrase c.predicate.field (some c.sign) := by
  obtain ⟨comparison, -, -, known, -⟩ := states.test
  exact names_of_spells clear own states.keyword
    (states.sign.2.symm ▸ (compares_of_lookup known).2)

theorem value?_of_states {c : Clause} (states : c.States scope.report) (rest : List Token) :
    scope.value? (c.tokens ++ rest) = none := by
  have names : scope.Names c.phrase c.predicate.field (c.sign :: c.literal :: rest).head? :=
    names_of_states clear own states
  have tokens : c.tokens ++ rest = c.phrase ++ c.sign :: c.literal :: rest := by
    simp [Clause.tokens]
  rw [tokens, value?_of_ends names.ends states.keyword.word]

/-- A list of values ends before a link. -/
theorem furtherValues_chained {more : List (Token × Clause)}
    (linked : ∀ entry ∈ more, Links entry.1 ∧ entry.2.States scope.report) :
    scope.furtherValues false (chained more) = ([], chained more) := by
  cases more with
  | nil => rw [chained_nil, furtherValues]
  | cons entry more =>
      obtain ⟨link, c⟩ := entry
      obtain ⟨-, states⟩ := linked (link, c) List.mem_cons_self
      rw [chained_cons]
      exact furtherValues_of_value? (value?_of_states clear own states _) false link

/-- A clause becomes one condition. -/
theorem mentions_clause (unruled : scope.rules = {}) {c : Clause} (states : c.States scope.report)
    {rest : List Token} (stops : scope.furtherValues false rest = ([], rest))
    (conditions : List (Node × Bool)) (alternative : Bool) :
    scope.mentions { conditions, alternative } (c.tokens ++ rest) =
      scope.mentions
        { conditions := conditions ++
            [(.predicate c.predicate, alternative && !conditions.isEmpty)] } rest := by
  obtain ⟨comparison, column, value, known, found, bound, test⟩ := states.test
  have names : scope.Names c.phrase c.predicate.field (c.sign :: c.literal :: rest).head? :=
    names_of_states clear own states
  have isValue : scope.IsValue c.literal rest := .of_quoted states.quoted rest
  have redirected : scope.rules.redirect c.predicate.field c.literal scope.report =
      c.predicate.field := by rw [unruled]
  have concluded := conclude_compared (compares_of_lookup known).1 isValue.noPattern redirected
    found c.predicate.field_ne bound
  have read := condition?_compared (.sign states.sign.1 known) isValue c.predicate.field false
  rw [List.singleton_append, stops, concluded, unruled, ← test] at read
  have tokens : c.tokens ++ rest = c.phrase ++ c.sign :: c.literal :: rest := by
    simp [Clause.tokens]
  rw [tokens, names.mentions_eq]
  simp only [mention, Bool.false_eq_true, if_false, read]
  rfl

/-- `und` says nothing before a keyword, and `oder` makes what follows an
alternative. -/
theorem mentions_link {link : Token} (links : Links link) {c : Clause}
    (states : c.States scope.report) (s : Progress) (rest : List Token) :
    scope.mentions s (link :: (c.tokens ++ rest)) =
      scope.mentions { s with alternative := s.alternative || link.key == "oder" }
        (c.tokens ++ rest) := by
  obtain ⟨kind, key⟩ := links
  have noMarker : afterAnyPhrase? fieldListMarkers (link :: (c.tokens ++ rest)) = none := by
    obtain ⟨t, others, hphrase⟩ :=
      List.exists_cons_of_ne_nil (names_of_states clear own states).ends.ne_nil
    have notZwar : t.key ≠ "zwar" := by
      obtain ⟨known, member, keys, -⟩ := states.keyword.registered
      have key : t.key ∈ known.keys := keys ▸ hphrase ▸ List.mem_cons_self
      exact fun zwar => clear.unreserved known member t.key key (zwar ▸ by decide)
    rcases key with und | oder
    · simp [afterAnyPhrase?, fieldListMarkers, afterPhrase?, Clause.tokens, hphrase, notZwar, und]
    · simp [afterAnyPhrase?, fieldListMarkers, afterPhrase?, oder]
  apply mentions_of_step
  rw [step, if_neg (by simp [kind])]
  rcases key with und | oder
  · simp [Progress.steer?, kind, noMarker, und, firstWords, nextWords]
  · simp [Progress.steer?, kind, noMarker, oder, firstWords, nextWords]

/-- Every clause of a chain becomes one condition, an alternative behind `oder`. -/
theorem mentions_chained (unruled : scope.rules = {}) {more : List (Token × Clause)}
    (linked : ∀ entry ∈ more, Links entry.1 ∧ entry.2.States scope.report)
    {conditions : List (Node × Bool)} (nonempty : conditions ≠ []) :
    scope.mentions { conditions } (chained more) = .ok
      { conditions := conditions ++ more.map fun (link, c) =>
          (.predicate c.predicate, link.key == "oder") } := by
  induction more generalizing conditions with
  | nil => rw [chained_nil, mentions, List.map_nil, List.append_nil]
  | cons entry more ih =>
      obtain ⟨link, c⟩ := entry
      obtain ⟨links, states⟩ := linked (link, c) List.mem_cons_self
      have tail := fun entry member => linked entry (List.mem_cons_of_mem (link, c) member)
      have stops := furtherValues_chained clear own tail
      rw [chained_cons, mentions_link clear own links states, Bool.false_or,
        mentions_clause clear own unruled states stops, ih tail (by simp)]
      simp [nonempty]

end Chain

theorem unmarked_chain {phrases : List (List String)} (nonempty : [] ∉ phrases)
    (heads : ∀ word ∈ phrases.filterMap (·.head?),
      word ∈ commandWords ∧ word ≠ "und" ∧ word ≠ "oder")
    {main : List Token} (plain : Plain main) {first : Clause} {more : List (Token × Clause)}
    (clear : scope.report.HasClearKeywords) (states : first.States scope.report)
    (linked : ∀ entry ∈ more, Links entry.1 ∧ entry.2.States scope.report) :
    Unmarked phrases (main ++ first.tokens ++ chained more) [] := by
  have subset : phrases.filterMap (·.head?) ⊆ commandWords := fun word member =>
    (heads word member).1
  have clause (c : Clause) (states : c.States scope.report) (t : Token) (member : t ∈ c.tokens) :
      t.isWordIn (phrases.filterMap (·.head?)) = false := by
    simp only [Clause.tokens, List.mem_append, List.mem_cons, List.not_mem_nil, or_false] at member
    rcases member with member | rfl | rfl
    · exact isWordIn_of_subset (plain_of_spells clear states.keyword t member) subset
    · exact isWordIn_of_kind (by simp [states.sign.1]) _
    · exact isWordIn_of_quoted states.quoted _
  refine Unmarked.of_heads nonempty (fun t member => ?_) []
  rcases List.mem_append.mp member with member | member
  · rcases List.mem_append.mp member with member | member
    · exact isWordIn_of_subset (plain t member) subset
    · exact clause first states t member
  · obtain ⟨⟨link, c⟩, hentry, member⟩ := List.mem_flatMap.mp member
    obtain ⟨⟨-, key⟩, states⟩ := linked (link, c) hentry
    rcases List.mem_cons.mp member with rfl | member
    · refine Bool.eq_false_iff.mpr fun known => ?_
      obtain ⟨-, noUnd, noOder⟩ := heads _ (isWordIn_iff.mp known).2
      exact key.elim noUnd noOder
    · exact clause c states t member

/-- A main keyword and a chain of clauses is read as one condition for each of
them and nothing else, and it holds if each run of alternatives has a clause that
does. -/
theorem readTokens_chain (clear : scope.report.HasClearKeywords)
    (own : scope.index = .of [scope.report]) (unruled : scope.rules = {}) {main : List Token}
    (spells : scope.report.Spells main none) {first : Clause} {more : List (Token × Clause)}
    (states : first.States scope.report)
    (linked : ∀ entry ∈ more, Links entry.1 ∧ entry.2.States scope.report) :
    ∃ query, scope.readTokens (main ++ first.tokens ++ chained more) = .ok query ∧
      query.projections = [] ∧ query.sortKeys = [] ∧ query.limit = none ∧ query.further = [] ∧
      query.main.allPredicates.Perm
        (first.predicate :: more.map fun (_, c) => c.predicate) ∧
      ∀ truth, query.main.value truth =
        (((first.predicate, false) :: more.map fun (link, c) =>
            (c.predicate, link.key == "oder")).splitBy fun _ c => c.2).all
          (·.any (truth ·.1)) := by
  have asks := asks_of_spells clear own spells states.keyword
  have plain := asks.plain
  have read : scope.mentions {} (main ++ first.tokens ++ chained more) = .ok
      { conditions := ((first.predicate, false) :: more.map fun (link, c) =>
          (c.predicate, link.key == "oder")).map fun (p, alternative) =>
            (Node.predicate p, alternative) } := by
    have stops := furtherValues_chained clear own linked
    have head : (first.tokens ++ chained more).head? = first.phrase.head? := by
      rw [Clause.tokens, List.append_assoc]
      exact List.head?_append_of_ne_nil _ (names_of_states clear own states).ends.ne_nil
    have asks : scope.Asks main (first.tokens ++ chained more).head? := head ▸ asks
    rw [List.append_assoc, asks.mentions_eq]
    have clause := mentions_clause clear own unruled states stops [] false
    rw [clause, mentions_chained clear own unruled linked (by simp)]
    simp
  have sorts : Unmarked sortMarkers (main ++ first.tokens ++ chained more) [] :=
    unmarked_chain (by decide) (by decide) plain clear states linked
  have limits : Unmarked limitMarkers (main ++ first.tokens ++ chained more) [] :=
    unmarked_chain (by decide) (by decide) plain clear states linked
  rw [readTokens_unmarked sorts limits, read]
  obtain ⟨perm, value⟩ := gathered_predicates
    ((first.predicate, false) :: more.map fun (link, c) => (c.predicate, link.key == "oder"))
  refine ⟨_, rfl, rfl, rfl, rfl, rfl, ?_, value⟩
  simpa [Function.comp_def] using perm

end Scope

end Request

end Inquiry
