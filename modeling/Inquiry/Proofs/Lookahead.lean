import Inquiry.Proofs.Comparisons
import Inquiry.Proofs.Negation

/-!
# What follows a field

A sort key ends where a condition begins, and the sort block looks ahead for one
without reading it. So the same grammar is there twice: as a look at the first
tokens, and as the reader of conditions. What the reader takes for a condition
begins one for the look ahead as well. But `ist`, `nicht` and `in` say nothing
alone: before tokens that say nothing either, the look ahead finds a condition and
the reader finds none. That is the only difference (`startsCondition_eq_iff`).
-/

namespace Inquiry.Request

/-- Words that open a condition, but say nothing alone. -/
def openingWords : List String := beingWords ++ negatingWords ++ ["in"]

/-- Words that say something, whatever follows: about the presence of a value, or
that a range has to follow. -/
def tellingWords : List String := emptyWords ++ presentWords ++ ["zwischen"]

theorem beginsWith_append (words others : List String) (tokens : List Token) :
    beginsWith (words ++ others) tokens =
      (beginsWith words tokens || beginsWith others tokens) := by
  cases tokens with
  | nil => rfl
  | cons t rest => exact isWordIn_append words others t

namespace Scope

/-- What says something about a field, behind `ist` and a negation. A comparison does
so even without a value, because the value is then missed. Articles are skipped
before a value if there is an operator, which `ist` alone is too. -/
inductive Content (scope : Scope) (being : Bool) : List Token → Prop where
  | word {t : Token} {rest : List Token} (telling : t.isWordIn tellingWords = true) :
      Content scope being (t :: rest)
  | sign {t : Token} {rest : List Token} (kind : t.kind = .operator) :
      Content scope being (t :: rest)
  | phrase {words : List String} {comparison : Comparison} {front rest : List Token}
      (known : (words, comparison) ∈ comparingPhrases) (spelt : Spelt words front) :
      Content scope being (front ++ rest)
  | value {tokens : List Token} (begins : (scope.value? tokens).isSome = true) :
      Content scope being tokens
  | member {t : Token} {skipped rest : List Token} (word : t.isWordIn ["in"] = true)
      (skips : ∀ u ∈ skipped, u.isWordIn articles = true)
      (begins : (scope.value? rest).isSome = true) : Content scope being (t :: (skipped ++ rest))
  | equal {skipped rest : List Token} (explicit : being = true)
      (skips : ∀ u ∈ skipped, u.isWordIn articles = true)
      (begins : (scope.value? rest).isSome = true) : Content scope being (skipped ++ rest)

/-- Whether the tokens behind a field say something about it. -/
def Tells (scope : Scope) (tokens : List Token) : Prop :=
  scope.Content (beginsWith beingWords tokens) (affirmed tokens)

variable {scope : Scope} {tokens rest : List Token} {t : Token}

/-! ## Values -/

theorem plainValue?_isSome (scope : Scope) (tokens : List Token) :
    (scope.plainValue? tokens).isSome = scope.startsPlainWord tokens := by
  cases tokens with
  | nil => rfl
  | cons t rest =>
      rw [plainValue?, plainWords]
      cases scope.startsPlainWord (t :: rest) <;> rfl

/-- A value is a number, a date or a quoted text, or begins with a plain word. -/
theorem value?_isSome (scope : Scope) (t : Token) (rest : List Token) :
    (scope.value? (t :: rest)).isSome = (t.isValue || scope.startsPlainWord (t :: rest)) := by
  rw [value?]
  cases kind : t.kind <;> simp [Token.isValue, kind, plainValue?_isSome]

/-- No value begins with a word that steers a condition. -/
theorem notIn_of_value (begins : (scope.value? (t :: rest)).isSome = true) {words : List String}
    (subset : words ⊆ steadyWords) : t.isWordIn words = false := by
  rw [value?_isSome, Bool.or_eq_true] at begins
  rcases begins with value | plain
  · apply isWordIn_of_kind
    intro word
    simp [Token.isValue, word] at value
  · exact isWordIn_of_subset (notIn_of_startsPlainWord plain) subset

/-- No article is skipped before a value that begins here. -/
theorem dropWhile_of_value (begins : (scope.value? tokens).isSome = true) :
    tokens.dropWhile (·.isWordIn articles) = tokens := by
  cases tokens with
  | nil => rfl
  | cons t rest =>
      have noArticle : t.isWordIn articles = false := notIn_of_value begins (by decide)
      exact List.dropWhile_cons_of_neg (by simp [noArticle])

theorem values_eq_nil_iff {andToo : Bool} :
    (scope.values andToo tokens).1 = [] ↔ (scope.value? tokens).isSome = false := by
  rw [values]
  split
  · next none => simp [none]
  · next read => simp [read]

/-! ## Operators -/

/-- What the beginning of a condition can be: `in`, a comparison, or no operator. -/
inductive OperatorAt : List Token → Opening → Prop where
  | member {t : Token} {rest : List Token} (word : t.isWordIn ["in"] = true) :
      OperatorAt (t :: rest) ⟨some .oneOf, false, true, rest⟩
  | comparison {tokens : List Token} {o : Opening} (strict : o.strict = true)
      (content : ∀ scope being, Content scope being tokens) : OperatorAt tokens o
  | none {tokens : List Token} (noIn : beginsWith ["in"] tokens = false)
      (noSign : ∀ t ∈ tokens.head?, t.kind ≠ .operator)
      (noPhrase : ∀ p ∈ comparingPhrases, afterPhrase? p.1 tokens = .none) :
      OperatorAt tokens ⟨.none, false, false, tokens⟩

theorem operatorAt_cases (tokens : List Token) : OperatorAt tokens (operatorAt tokens) := by
  cases tokens with
  | nil => exact .none rfl (by simp) (by decide)
  | cons t rest =>
      simp only [operatorAt]
      split
      · next word => exact .member word
      · next noIn =>
          split
          · next kind => exact .comparison rfl fun _ _ => .sign kind
          · next noSign =>
              split
              · next comparison after found =>
                  obtain ⟨⟨words, _⟩, known, phrase⟩ := List.exists_of_findSome?_eq_some found
                  obtain ⟨_, spelt, ⟨⟩⟩ := Option.map_eq_some_iff.mp phrase
                  obtain ⟨front, spelt, split⟩ := afterPhrase?_eq_some_iff.mp spelt
                  refine .comparison rfl fun _ _ => ?_
                  rw [split]
                  exact .phrase known spelt
              · next noPhrase =>
                  rw [List.findSome?_eq_none_iff] at noPhrase
                  refine .none ((Bool.not_eq_true _).mp noIn) (by simpa using noSign) ?_
                  exact fun p known => Option.map_eq_none_iff.mp (noPhrase p known)

/-- Without an operator nothing but a value says something, behind articles if the
condition began with `ist`. -/
theorem content_iff_of_none {being : Bool} (silent : beginsWith tellingWords tokens = false)
    (noIn : beginsWith ["in"] tokens = false) (noSign : ∀ t ∈ tokens.head?, t.kind ≠ .operator)
    (noPhrase : ∀ p ∈ comparingPhrases, afterPhrase? p.1 tokens = none) :
    scope.Content being tokens ↔
      (scope.value? (if being then tokens.dropWhile (·.isWordIn articles) else tokens)).isSome := by
  constructor
  · intro content
    cases content with
    | @word t rest telling =>
        rw [beginsWith, telling] at silent
        cases silent
    | sign kind => exact absurd kind (noSign _ rfl)
    | @phrase words comparison front rest known spelt =>
        have found : afterPhrase? words (front ++ rest) = some rest :=
          afterPhrase?_eq_some_iff.mpr ⟨front, spelt, rfl⟩
        rw [noPhrase _ known] at found
        cases found
    | value begins =>
        cases being with
        | false => exact begins
        | true => rwa [if_pos rfl, dropWhile_of_value begins]
    | @member t skipped rest word =>
        rw [beginsWith, word] at noIn
        cases noIn
    | equal explicit skips begins =>
        rwa [if_pos explicit, List.dropWhile_append_of_pos skips, dropWhile_of_value begins]
  · intro begins
    cases being with
    | false => exact .value begins
    | true =>
        rw [if_pos rfl] at begins
        have articles := List.takeWhile_append_dropWhile (p := (·.isWordIn articles)) (l := tokens)
        exact articles ▸ .equal rfl (fun _ => List.mem_takeWhile_imp) begins

/-- Behind `in` nothing but a value says something. -/
theorem content_iff_of_in {being : Bool} (word : t.isWordIn ["in"] = true) :
    scope.Content being (t :: rest) ↔
      (scope.value? (rest.dropWhile (·.isWordIn articles))).isSome := by
  have noValue : (scope.value? (t :: rest)).isSome = false := by
    by_contra begins
    rw [Bool.not_eq_false] at begins
    rw [notIn_of_value begins (by decide)] at word
    cases word
  constructor
  · intro content
    generalize eq : t :: rest = tokens at content
    cases content with
    | word telling =>
        cases eq
        rw [isWordIn_of_apart word (by decide)] at telling
        cases telling
    | sign kind =>
        cases eq
        simp [(isWordIn_iff.mp word).1] at kind
    | @phrase words comparison front rest' known spelt =>
        obtain ⟨u, others, rfl, first⟩ := spelt.exists_head (comparingPhrases_sound known).1
        cases eq
        have apart : ∀ p ∈ comparingPhrases, ∀ w ∈ ["in"], p.1.head?.toList.contains w = false := by
          decide
        rw [isWordIn_of_apart word (apart _ known)] at first
        cases first
    | value begins =>
        rw [← eq, noValue] at begins
        cases begins
    | member _ skips begins =>
        cases eq
        rwa [List.dropWhile_append_of_pos skips, dropWhile_of_value begins]
    | @equal skipped rest' _ skips begins =>
        cases skipped with
        | nil =>
            rw [List.nil_append] at eq
            rw [← eq, noValue] at begins
            cases begins
        | cons u skipped =>
            cases eq
            have article := skips t List.mem_cons_self
            rw [isWordIn_of_apart word (by decide)] at article
            cases article
  · intro begins
    have articles := List.takeWhile_append_dropWhile (p := (·.isWordIn articles)) (l := rest)
    exact articles ▸ .member word (fun _ => List.mem_takeWhile_imp) begins

/-- What opens a condition says something by itself, or a value behind it does. -/
theorem content_iff {being : Bool} (silent : beginsWith tellingWords tokens = false) :
    scope.Content being tokens ↔ (opening being tokens).strict = true ∨
      (scope.value? (opening being tokens).rest).isSome = true := by
  have cases := operatorAt_cases tokens
  simp only [opening]
  generalize operatorAt tokens = o at cases ⊢
  cases cases with
  | member word =>
      rw [content_iff_of_in word]
      simp
  | comparison strict content =>
      refine iff_of_true (content scope being) (.inl ?_)
      split <;> exact strict
  | none noIn noSign noPhrase =>
      rw [content_iff_of_none silent noIn noSign noPhrase]
      cases being <;> simp

/-! ## The reader and the look ahead -/

theorem reading_ne_none (node : Except Failure Node) (rest : List Token) :
    reading node rest ≠ .ok none := by
  cases node <;> simp [reading, Except.map]

/-- The reader finds no condition exactly where nothing is said. -/
theorem condition?_eq_none_iff (scope : Scope) (field : String) (negate : Bool)
    (tokens : List Token) :
    scope.condition? field negate tokens = .ok none ↔ ¬ scope.Tells tokens := by
  simp only [condition?, Tells, affirmed]
  generalize beginsWith beingWords tokens = being
  generalize (negate != beginsWith negatingWords (skipWord beingWords tokens)) = negate
  generalize skipWord negatingWords (skipWord beingWords tokens) = core
  have telling {words : List String} (subset : words ⊆ tellingWords)
      (begins : beginsWith words core = true) : scope.Content being core := by
    cases core with
    | nil => cases begins
    | cons t rest => exact .word (isWordIn_mono begins subset)
  split
  · next empty =>
      exact iff_of_false (reading_ne_none _ _) (not_not.mpr (telling (by decide) empty))
  split
  · next present =>
      exact iff_of_false (reading_ne_none _ _) (not_not.mpr (telling (by decide) present))
  split
  · next range =>
      refine iff_of_false ?_ (not_not.mpr (telling (by decide) range))
      split
      · simp
      · exact reading_ne_none _ _
  · next empty present range =>
      have silent : beginsWith tellingWords core = false := by
        rw [tellingWords, beginsWith_append, beginsWith_append]
        simp [*]
      rw [content_iff silent, not_or, Bool.not_eq_true, Bool.not_eq_true, ← values_eq_nil_iff]
      split
      · next read =>
          rw [read]
          split <;> simp [*]
      · next read =>
          rw [read]
          simp [reading_ne_none]

/-- What spells a comparing phrase is found among them. -/
theorem comparing_iff :
    (afterAnyPhrase? (comparingPhrases.map (·.1)) tokens).isSome = true ↔
      ∃ p ∈ comparingPhrases, ∃ front behind, Spelt p.1 front ∧ tokens = front ++ behind := by
  rw [afterAnyPhrase?, List.findSome?_isSome_iff]
  constructor
  · rintro ⟨phrase, member, found⟩
    obtain ⟨p, known, rfl⟩ := List.mem_map.mp member
    obtain ⟨behind, found⟩ := Option.isSome_iff_exists.mp found
    obtain ⟨front, spelt, split⟩ := afterPhrase?_eq_some_iff.mp found
    exact ⟨p, known, front, behind, spelt, split⟩
  · rintro ⟨p, known, front, behind, spelt, split⟩
    refine ⟨p.1, List.mem_map_of_mem known, ?_⟩
    rw [afterPhrase?_eq_some_iff.mpr ⟨front, spelt, split⟩]
    rfl

/-- The look ahead sees a word, a sign or a phrase of a condition, or a value. -/
theorem startsCondition_cons (scope : Scope) (t : Token) (rest : List Token) :
    scope.startsCondition (t :: rest) = (t.isWordIn openingWords || t.isWordIn tellingWords ||
      t.kind == .operator || (afterAnyPhrase? (comparingPhrases.map (·.1)) (t :: rest)).isSome ||
        (scope.value? (t :: rest)).isSome) := by
  have words : t.isWordIn ["ist", "sind", "in", "zwischen"] =
      (t.isWordIn beingWords || t.isWordIn ["in"] || t.isWordIn ["zwischen"]) := by
    rw [← isWordIn_append, ← isWordIn_append]
    rfl
  simp only [startsCondition, words, openingWords, tellingWords, isWordIn_append, value?_isSome]
  ac_rfl

/-- Behind no word that opens a condition, the first tokens decide whether something
is said. -/
theorem tells_iff_of_unopened (unopened : t.isWordIn openingWords = false) :
    scope.Tells (t :: rest) ↔ t.isWordIn tellingWords = true ∨ t.kind = .operator ∨
      (afterAnyPhrase? (comparingPhrases.map (·.1)) (t :: rest)).isSome = true ∨
        (scope.value? (t :: rest)).isSome = true := by
  have begins {words : List String} (subset : words ⊆ openingWords) :
      beginsWith words (t :: rest) = false := isWordIn_of_subset unopened subset
  rw [Tells, affirmed, begins (by decide), skipWord_of_not_begins (begins (by decide)),
    skipWord_of_not_begins (begins (by decide)), comparing_iff]
  constructor
  · intro content
    generalize eq : t :: rest = tokens at content
    cases content with
    | word telling =>
        cases eq
        exact .inl telling
    | sign kind =>
        cases eq
        exact .inr (.inl kind)
    | phrase known spelt => exact .inr (.inr (.inl ⟨_, known, _, _, spelt, rfl⟩))
    | value begins => exact .inr (.inr (.inr begins))
    | member word =>
        cases eq
        rw [isWordIn_of_subset unopened (by decide)] at word
        cases word
    | equal explicit => cases explicit
  · rintro (telling | kind | ⟨p, known, front, behind, spelt, split⟩ | value)
    · exact .word telling
    · exact .sign kind
    · rw [split]
      exact .phrase known spelt
    · exact .value value

theorem not_tells_nil : ¬ scope.Tells [] := by
  rw [← condition?_eq_none_iff scope "" false]
  rfl

/-- The look ahead finds a condition where something is said, and at every word that
may open one. -/
theorem startsCondition_iff (scope : Scope) (tokens : List Token) :
    scope.startsCondition tokens = true ↔
      scope.Tells tokens ∨ beginsWith openingWords tokens = true := by
  cases tokens with
  | nil => simp [startsCondition, beginsWith, not_tells_nil]
  | cons t rest =>
      rw [startsCondition_cons]
      by_cases opens : t.isWordIn openingWords = true
      · simp [opens, beginsWith]
      · rw [Bool.not_eq_true] at opens
        simp [tells_iff_of_unopened, opens, beginsWith, or_assoc]

/-- The look ahead and the reader agree about what follows a field exactly if `ist`,
`nicht` or `in` at its beginning has something to open. Where the reader finds a
condition, the look ahead always finds one. -/
theorem startsCondition_eq_iff (scope : Scope) (field : String) (negate : Bool)
    (tokens : List Token) :
    (scope.condition? field negate tokens ≠ .ok none → scope.startsCondition tokens = true) ∧
    ((scope.startsCondition tokens = true ↔ scope.condition? field negate tokens ≠ .ok none) ↔
      (beginsWith openingWords tokens = true → scope.Tells tokens)) := by
  rw [ne_eq, condition?_eq_none_iff, not_not, startsCondition_iff]
  constructor
  · exact .inl
  · tauto

/-- A negation with nothing to negate ends the sort block in front of its field, as if a
filter began there. But it is none, and so the field is no sort key and only left
out. -/
theorem negation_opens_nothing :
    towns.startsCondition [⟨"nicht", "nicht", .word⟩, ⟨"Ort", "ort", .word⟩] = true ∧
    (towns.condition? "einwohner" false
        [⟨"nicht", "nicht", .word⟩, ⟨"Ort", "ort", .word⟩]).map (·.isSome) = .ok false ∧
    (towns.read "Orte sortiert nach Ort, Einwohner nicht Ort").map
        (fun q => (q.sortKeys, q.main.isEmpty, q.projections)) =
      .ok ([⟨"ort", .ascending⟩], true, [⟨"einwohner", false, none⟩, ⟨"ort", true, none⟩]) := by
  decide +kernel

end Scope

end Inquiry.Request
