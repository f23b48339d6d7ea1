import Inquiry.Proofs.Markers
import Inquiry.Proofs.QuotedValue

/-!
# Comparisons with one value

A field can be compared by a sign, by a phrase like `mindestens` or `groesser als`,
and, for equality, by `ist` alone. Whichever it is, the condition that is read is
the comparison of the field with what the value is bound as.

The value may be any token that is read as a value where it stands and that is no
word of the vocabulary, so that it ends the phrase before it and begins nothing.
-/

namespace Inquiry.Request

/-- Tokens that compare, without those that search. -/
inductive Compares : List Token → Comparison → Prop where
  | sign {t : Token} {comparison : Comparison} (kind : t.kind = .operator)
      (known : comparingSigns.lookup t.raw = some comparison) : Compares [t] comparison
  | phrase {words : List String} {front : List Token} {comparison : Comparison}
      (known : (words, comparison) ∈ comparingPhrases) (searchesNot : comparison ≠ .contains)
      (spelt : Spelt words front) : Compares front comparison
  | being {t : Token} (word : t.isWordIn beingWords = true) : Compares [t] .equals

/-- Words of which no value is made. -/
def steadyWords : List String := stopWords ++ operatorWords ++ emptyWords ++ presentWords

/-- Every word that means something before, behind or instead of a value. -/
def vocabulary : List String :=
  stopWords ++ operatorWords ++ emptyWords ++ presentWords ++ commandWords

/-- A token that is one value by itself in front of the given rest. -/
structure Scope.IsValue (scope : Scope) (v : Token) (rest : List Token) : Prop where
  value : scope.value? (v :: rest) = some (v, rest)
  unknown : v.isWordIn vocabulary = false
  noPattern : (v.kind == .word && Literal.hasWildcard v.raw) = false
  noOperator : v.kind ≠ .operator

theorem compares_of_lookup {sign : String} {comparison : Comparison}
    (known : comparingSigns.lookup sign = some comparison) :
    comparison ≠ .contains ∧ sign ∈ comparingSigns.map (·.1) := by
  obtain ⟨front, back, heq, -⟩ := List.lookup_eq_some_iff.mp known
  have member : (sign, comparison) ∈ comparingSigns := by
    rw [heq]
    exact List.mem_append_right front List.mem_cons_self
  have searchesNot : ∀ entry ∈ comparingSigns, entry.2 ≠ .contains := by decide
  exact ⟨searchesNot _ member, List.mem_map_of_mem (f := Prod.fst) member⟩

theorem Compares.sound {op : List Token} {comparison : Comparison}
    (compares : Compares op comparison) : comparison ≠ .contains ∧ op ≠ [] := by
  cases compares with
  | sign _ known => exact ⟨(compares_of_lookup known).1, List.cons_ne_nil _ _⟩
  | being _ => exact ⟨by decide, List.cons_ne_nil _ _⟩
  | phrase known searchesNot spelt =>
      have nonempty : ∀ p ∈ comparingPhrases, p.1 ≠ [] := by decide
      obtain ⟨t, others, rfl, -⟩ := spelt.exists_head (nonempty _ known)
      exact ⟨searchesNot, List.cons_ne_nil t others⟩

namespace Scope

variable {scope : Scope} {field target : String} {column : Column} {op rest : List Token}
  {comparison : Comparison} {v : Token}

theorem IsValue.of_date (date : v.kind = .date) (rest : List Token) : scope.IsValue v rest :=
  ⟨by simp only [value?, date], isWordIn_of_kind (by simp [date]) _, by simp [date],
    by simp [date]⟩

theorem IsValue.of_quoted (quoted : v.kind = .quoted) (rest : List Token) :
    scope.IsValue v rest :=
  ⟨by simp only [value?, quoted], isWordIn_of_quoted quoted _, by simp [quoted], by simp [quoted]⟩

theorem notIn_of_startsPlainWord {t : Token}
    (plain : scope.startsPlainWord (t :: rest) = true) :
    t.isWordIn steadyWords = false := by
  simp only [startsPlainWord, Bool.and_eq_true, Bool.not_eq_true', Bool.or_eq_false_iff] at plain
  obtain ⟨⟨-, ⟨⟨⟨⟨⟨stop, operator⟩, empty⟩, present⟩, -⟩, -⟩, -⟩, -⟩ := plain
  rw [Token.isWordIn, steadyWords]
  simp only [List.contains_append, stop, operator, empty, present, Bool.or_false, Bool.and_false]

/-- A word that nobody knows is a value at the end of a request. -/
theorem IsValue.of_word (word : v.kind = .word) (plain : scope.startsPlainWord [v] = true)
    (noCommand : v.isWordIn commandWords = false) (noWildcard : Literal.hasWildcard v.raw = false) :
    scope.IsValue v [] := by
  refine ⟨?_, ?_, by rw [noWildcard, Bool.and_false], by simp [word]⟩
  · simp [value?, word, plainValue?, plainWords, plain]
  · change v.isWordIn (steadyWords ++ commandWords) = false
    rw [isWordIn_append, notIn_of_startsPlainWord plain, noCommand]
    rfl

theorem IsValue.notIn (isValue : scope.IsValue v rest) {words : List String}
    (subset : words ⊆ vocabulary) : v.isWordIn words = false :=
  isWordIn_of_subset isValue.unknown subset

/-! ## Operators -/

theorem isWordIn_of_spelt {phrase : List String} {tokens : List Token} (spelt : Spelt phrase tokens)
    {t : Token} (member : t ∈ tokens) : t.isWordIn phrase = true := by
  obtain ⟨n, bound, rfl⟩ := List.getElem_of_mem member
  have own := List.Forall₂.get spelt (by rw [spelt.length_eq]; exact bound) bound
  exact isWordIn_iff.mpr ⟨own.1, own.2 ▸ List.getElem_mem _⟩

/-- A phrase does not reach over a token that is no word of it. -/
theorem prefix_of_afterPhrase? {phrase : List String} {front left : List Token}
    (ends : v.isWordIn phrase = false)
    (found : afterPhrase? phrase (front ++ v :: rest) = some left) :
    phrase <+: front.map (·.key) := by
  obtain ⟨own, spelt, split⟩ := afterPhrase?_eq_some_iff.mp found
  rw [← spelt.keys_eq]
  rcases List.append_eq_append_iff.mp split with ⟨more, rfl, goesOn⟩ | ⟨more, rfl, -⟩
  · cases more with
    | nil => rw [List.append_nil]
    | cons u more =>
        obtain ⟨rfl, -⟩ := List.cons.inj goesOn
        rw [isWordIn_of_spelt spelt (List.mem_append_right _ List.mem_cons_self)] at ends
        cases ends
  · rw [List.map_append]
    exact List.prefix_append _ _

theorem comparingPhrases_sound {phrase : List String}
    (known : (phrase, comparison) ∈ comparingPhrases) :
    phrase ≠ [] ∧ phrase ⊆ operatorWords := by
  have sound : ∀ p ∈ comparingPhrases, p.1 ≠ [] ∧ p.1 ⊆ operatorWords := by decide
  exact sound _ known

/-- What the list of comparing phrases finds is what is spelt, because no earlier
phrase of the list begins a later one. -/
theorem findSome?_comparingPhrases {words : List String} {front : List Token}
    (known : (words, comparison) ∈ comparingPhrases) (spelt : Spelt words front)
    (ends : v.isWordIn operatorWords = false) (rest : List Token) :
    comparingPhrases.findSome? (fun (phrase, comparison) =>
      (afterPhrase? phrase (front ++ v :: rest)).map (comparison, ·)) =
        some (comparison, v :: rest) := by
  have inOrder : comparingPhrases.Pairwise fun p q => ¬ p.1 <+: q.1 := by decide
  obtain ⟨before, behind, split⟩ := List.append_of_mem known
  rw [List.findSome?_eq_some_iff]
  refine ⟨before, (words, comparison), behind, split, ?_, ?_⟩
  · have own : afterPhrase? words (front ++ v :: rest) = some (v :: rest) :=
      afterPhrase?_eq_some_iff.mpr ⟨front, spelt, rfl⟩
    simp only [own, Option.map_some]
  · intro earlier member
    have listed : earlier ∈ comparingPhrases := split ▸ List.mem_append_left _ member
    rw [Option.map_eq_none_iff, Option.eq_none_iff_forall_ne_some]
    intro left found
    have begins := prefix_of_afterPhrase?
      (isWordIn_of_subset ends (comparingPhrases_sound listed).2) found
    rw [spelt.keys_eq] at begins
    rw [split] at inOrder
    exact (List.pairwise_append.mp inOrder).2.2 earlier member _ List.mem_cons_self begins

theorem operatorAt_phrase {words : List String} {front : List Token}
    (known : (words, comparison) ∈ comparingPhrases) (spelt : Spelt words front)
    (ends : v.isWordIn operatorWords = false) (rest : List Token) :
    operatorAt (front ++ v :: rest) = ⟨some (.compare comparison), true, false, v :: rest⟩ := by
  have found := findSome?_comparingPhrases known spelt ends rest
  obtain ⟨t, others, rfl, first⟩ := spelt.exists_head (comparingPhrases_sound known).1
  have noIn : t.isWordIn ["in"] = false := by
    have free : ∀ p ∈ comparingPhrases, ∀ w ∈ p.1.head?.toList, ["in"].contains w = false := by
      decide
    exact isWordIn_of_apart first (free _ known)
  have word : t.kind ≠ .operator := by
    rw [(isWordIn_iff.mp first).1]
    decide
  rw [List.cons_append] at found ⊢
  simp only [operatorAt, noIn, Bool.false_eq_true, if_false, word, found]

theorem operatorAt_value (isValue : scope.IsValue v rest) :
    operatorAt (v :: rest) = ⟨none, false, false, v :: rest⟩ := by
  have none : comparingPhrases.findSome? (fun (phrase, comparison) =>
      (afterPhrase? phrase (v :: rest)).map (comparison, ·)) = none := by
    rw [List.findSome?_eq_none_iff]
    intro p known
    rw [Option.map_eq_none_iff, Option.eq_none_iff_forall_ne_some]
    intro left found
    have ends : v.isWordIn p.1 = false :=
      isValue.notIn (List.Subset.trans (comparingPhrases_sound known).2 (by decide))
    have begins : p.1 <+: [] := prefix_of_afterPhrase? ends
      (show afterPhrase? p.1 ([] ++ v :: rest) = some left from found)
    exact (comparingPhrases_sound known).1 (List.prefix_nil.mp begins)
  simp only [operatorAt, isValue.notIn (show ["in"] ⊆ vocabulary by decide), Bool.false_eq_true,
    if_false, isValue.noOperator, none]

/-! ## Conditions -/

theorem opening_of_operatorAt {explicit : Bool} {tokens : List Token} {relation : Option Relation}
    {strict andToo : Bool} (noArticle : v.isWordIn articles = false)
    (found : operatorAt tokens = ⟨relation, strict, andToo, v :: rest⟩) {meant : Relation}
    (settles : relation.or (if explicit then some (.compare .equals) else none) = some meant) :
    opening explicit tokens = ⟨some meant, strict, andToo, v :: rest⟩ := by
  simp only [opening, found, settles]
  rw [List.dropWhile_cons_of_neg (by simp [noArticle])]

/-- A condition is concluded from the values behind what opens it. -/
theorem condition?_of_opening {tokens behind others left : List Token} {relation : Relation}
    {strict andToo : Bool} (skipped : skipWord beingWords tokens = behind)
    (free : ∀ words ∈ [negatingWords, emptyWords, presentWords, ["zwischen"]],
      beginsWith words behind = false)
    (opened : opening (beginsWith beingWords tokens) behind =
      ⟨some relation, strict, andToo, v :: rest⟩)
    (read : scope.values andToo (v :: rest) = (v :: others, left)) (field : String)
    (negate : Bool) :
    scope.condition? field negate tokens =
      reading (scope.conclude field (some relation) negate v others) left := by
  have noNegation := free negatingWords (by simp)
  have noEmpty := free emptyWords (by simp)
  have noPresent := free presentWords (by simp)
  have noRange := free ["zwischen"] (by simp)
  simp [condition?, skipped, skipWord_of_not_begins noNegation, noNegation, noEmpty, noPresent,
    noRange, opened, read]

theorem IsValue.values_eq (isValue : scope.IsValue v rest) :
    scope.values false (v :: rest) =
      (v :: (scope.furtherValues false rest).1, (scope.furtherValues false rest).2) := by
  simp only [values, isValue.value]

/-- Whatever compares a field with a value, the condition is that comparison. -/
theorem condition?_compared (compares : Compares op comparison) (isValue : scope.IsValue v rest)
    (field : String) (negate : Bool) :
    scope.condition? field negate (op ++ v :: rest) =
      reading (scope.conclude field (some (.compare comparison)) negate v
        (scope.furtherValues false rest).1) (scope.furtherValues false rest).2 := by
  have noArticle : v.isWordIn articles = false := isValue.notIn (by decide)
  cases compares with
  | @sign t _ kind known =>
      have noWord (words : List String) : t.isWordIn words = false :=
        isWordIn_of_kind (by simp [kind]) words
      have begins (words : List String) : beginsWith words (t :: v :: rest) = false := noWord words
      have found : operatorAt (t :: v :: rest) =
          ⟨some (.compare comparison), true, false, v :: rest⟩ := by
        simp [operatorAt, noWord, kind, known]
      exact condition?_of_opening (skipWord_of_not_begins (begins _)) (fun words _ => begins words)
        (opening_of_operatorAt noArticle found rfl) isValue.values_eq field negate
  | phrase known _ spelt =>
      have first : ∀ p ∈ comparingPhrases, ∀ w ∈ p.1.head?.toList,
          ∀ others ∈ [beingWords, negatingWords, emptyWords, presentWords, ["zwischen"]],
            others.contains w = false := by decide
      have begins : ∀ others ∈ [beingWords, negatingWords, emptyWords, presentWords, ["zwischen"]],
          beginsWith others (op ++ v :: rest) = false := by
        intro others member
        obtain ⟨t, more, rfl, own⟩ := spelt.exists_head (comparingPhrases_sound known).1
        exact isWordIn_of_apart own fun w head => first _ known w head others member
      have found := operatorAt_phrase known spelt (isValue.notIn (by decide)) rest
      exact condition?_of_opening (skipWord_of_not_begins (begins _ List.mem_cons_self))
        (fun others member => begins others (List.mem_cons_of_mem _ member))
        (opening_of_operatorAt noArticle found rfl) isValue.values_eq field negate
  | @being t word =>
      have begins : beginsWith beingWords (t :: v :: rest) = true := word
      have free : ∀ words ∈ [negatingWords, emptyWords, presentWords, ["zwischen"]],
          beginsWith words (v :: rest) = false := by
        have known : ∀ words ∈ [negatingWords, emptyWords, presentWords, ["zwischen"]],
            words ⊆ vocabulary := by decide
        intro words member
        exact isValue.notIn (known words member)
      have found := operatorAt_value isValue
      have opened : opening (beginsWith beingWords (t :: v :: rest)) (v :: rest) =
          ⟨some (.compare .equals), false, false, v :: rest⟩ := by
        rw [begins]
        exact opening_of_operatorAt noArticle found rfl
      exact condition?_of_opening (skipWord_of_begins word) free opened isValue.values_eq field
        negate

/-- A comparison with one value is what the operator says, on the field that the
rules redirect to. -/
theorem conclude_compared (searchesNot : comparison ≠ .contains)
    (noPattern : (v.kind == .word && Literal.hasWildcard v.raw) = false)
    (redirected : scope.rules.redirect field v scope.report = target)
    (found : scope.report.column? target = some column) (named : target ≠ "") {value : Scalar}
    (binds : bound column target false v = .ok value) :
    scope.conclude field (some (.compare comparison)) false v [] =
      .ok (scope.rules.expand ⟨target, .compare comparison value, named⟩ scope.report) := by
  -- Inequality is settled as negated equality and turned back when it is finished.
  have meant : settled column (some (.compare comparison)) false v [] =
      (if comparison = .notEquals then (.compare .equals, true)
        else (.compare comparison, false)) := by
    cases comparison <;> simp [settled, noPattern]
  simp only [conclude, redirected, column_eq found, bind, Except.bind, meant]
  by_cases unequal : comparison = .notEquals
  · subst unequal
    simp [binds, Predicate.of, named, finish, opposite?, pure, Except.pure]
  · simp [unequal, searchesNot, binds, Predicate.of, named, finish, pure, Except.pure]

/-! ## Before the field -/

/-- The phrases that begin a sort block, a row limit or a list of fields. -/
def markers : List (List String) := sortMarkers ++ limitMarkers ++ fieldListMarkers

/-- The words that steer what becomes of the next field. -/
def steeringWords : List String :=
  firstWords ++ nextWords ++ ["und", "oder"] ++ excludingWords ++ negatingWords ++ lackingWords

/-- A stop word that begins neither a marker, with the token behind it, nor a
keyword, and does not steer. -/
structure Idle (scope : Scope) (t : Token) (next : Option Token) : Prop where
  stops : t.isWordIn stopWords = true
  unsteering : t.isWordIn steeringWords = false
  unmarking : ∀ marker ∈ markers, marker ≠ [t.key] ∧ ∀ u ∈ next, ¬ [t.key, u.key] <+: marker
  unregistered : ∀ keys ∈ scope.index.phrases, keys.head? ≠ some t.key

/-- Main keywords and stop words that say nothing about a field behind them. -/
inductive Introduces (scope : Scope) (next : Option Token) : List Token → Prop where
  | nothing : Introduces scope next []
  | asks {main rest : List Token} (asks : scope.Asks main (rest.head?.or next))
      (more : Introduces scope next rest) : Introduces scope next (main ++ rest)
  | idle {t : Token} {rest : List Token} (idle : scope.Idle t (rest.head?.or next))
      (more : Introduces scope next rest) : Introduces scope next (t :: rest)

theorem Idle.afterAnyPhrase?_eq_none {t : Token} {tokens : List Token}
    (idle : scope.Idle t tokens.head?) {phrases : List (List String)} (subset : phrases ⊆ markers) :
    afterAnyPhrase? phrases (t :: tokens) = none := by
  have nonempty : [] ∉ markers := by decide
  rw [Option.eq_none_iff_forall_ne_some]
  intro left found
  obtain ⟨-, words, own, known, spelt, rfl⟩ :=
    exists_of_afterAnyPhrase? (fun known => nonempty (subset known)) found
  obtain ⟨noWord, noPhrase⟩ := idle.unmarking _ (subset known)
  cases spelt with
  | nil => exact noWord rfl
  | cons second further =>
      refine noPhrase _ rfl ?_
      rw [second.2]
      exact ⟨_, rfl⟩

theorem matchAt_unregistered {t : Token} {tokens : List Token}
    (unregistered : ∀ keys ∈ scope.index.phrases, keys.head? ≠ some t.key) :
    scope.index.matchAt (t :: tokens) = none := by
  have longest : scope.index.longestAt (t :: tokens) = 0 := by
    rw [← Nat.le_zero, Keyword.Index.longestAt_le_iff]
    intro keys known begins
    rw [Keyword.startsWith_iff] at begins
    obtain ⟨key, more, rfl⟩ :=
      List.exists_cons_of_ne_nil (Keyword.Index.ne_nil_of_mem_phrases known)
    rw [List.map_cons, List.cons_prefix_cons] at begins
    exact absurd (congrArg some begins.1) (unregistered _ known)
  rw [Keyword.Index.matchAt, longest]
  split <;> rfl

/-- A word that says nothing is one step, and nothing comes of it. -/
theorem Idle.mentions_eq {t : Token} {tokens : List Token} (idle : scope.Idle t tokens.head?)
    (s : Progress) : scope.mentions s (t :: tokens) = scope.mentions s tokens := by
  have kind : t.kind = .word := (isWordIn_iff.mp idle.stops).1
  have steers : s.steer? t tokens = none :=
    Progress.steer?_eq_none_of_unmarked (idle.afterAnyPhrase?_eq_none (by decide))
      idle.unsteering s
  apply mentions_of_step
  rw [step, if_neg (by simp [kind]), steers]
  simp only [matchAt_unregistered idle.unregistered, idle.stops, if_true]

section Introduction

variable {main behind : List Token}

theorem head?_or_eq (rest behind : List Token) :
    rest.head?.or behind.head? = (rest ++ behind).head? := by
  cases rest <;> rfl

/-- What introduces a field leaves no trace. -/
theorem Introduces.mentions_eq (introduces : scope.Introduces behind.head? main) (s : Progress) :
    scope.mentions s (main ++ behind) = scope.mentions s behind := by
  induction introduces with
  | nothing => rfl
  | asks asks _ ih =>
      rw [head?_or_eq] at asks
      rw [List.append_assoc, asks.mentions_eq, ih]
  | idle idle _ ih =>
      rw [head?_or_eq] at idle
      rw [List.cons_append, idle.mentions_eq, ih]

theorem Introduces.unmarked (introduces : scope.Introduces behind.head? main)
    {phrases : List (List String)} (subset : phrases ⊆ markers)
    (heads : phrases.filterMap (·.head?) ⊆ commandWords) : Unmarked phrases main behind := by
  have nonempty : [] ∉ phrases := fun member => absurd (subset member) (by decide)
  induction introduces with
  | nothing => exact .of_heads nonempty (by simp) behind
  | @asks front rest asks _ ih =>
      have first := asks.plain.unmarked nonempty heads (rest ++ behind)
      exact Unmarked.append first ih
  | @idle t rest idle _ ih =>
      rw [head?_or_eq] at idle
      exact .cons (idle.afterAnyPhrase?_eq_none subset) ih

end Introduction

/-! ## Whole requests -/

/-- The tokens that compare are no commands, except for `maximal`, which can limit. -/
theorem plain_or_maximal (compares : Compares op comparison) :
    Plain op ∨ ∃ t, op = [t] ∧ t.isWordIn ["maximal"] = true := by
  cases compares with
  | sign kind _ =>
      refine .inl fun t member => ?_
      rw [List.mem_singleton.mp member]
      exact isWordIn_of_kind (by simp [kind]) _
  | being word =>
      refine .inl fun t member => ?_
      rw [List.mem_singleton.mp member]
      exact isWordIn_of_apart word (by decide)
  | @phrase words _ _ known _ spelt =>
      have free : ∀ p ∈ comparingPhrases,
          p.1 = ["maximal"] ∨ ∀ w ∈ p.1, commandWords.contains w = false := by decide
      rcases free _ known with rfl | free
      · obtain ⟨t, others, rfl, first⟩ := spelt.exists_head (List.cons_ne_nil _ _)
        obtain rfl : others = [] := by simpa using spelt.length_eq.symm
        exact .inr ⟨t, rfl, first⟩
      · exact .inl fun t member => isWordIn_of_apart (isWordIn_of_spelt spelt member) free

/-- A comparison is no row limit, even if it is `maximal`. -/
theorem limitBehind_compared (compares : Compares op comparison) (isValue : scope.IsValue v [])
    (noNumber : v.kind ≠ .number) (before : List Token) :
    scope.limitBehind before (op ++ [v]) = .ok (none, before ++ (op ++ [v])) := by
  have ends (before : List Token) : scope.limitBehind before [v] = .ok (none, before ++ [v]) := by
    have none : afterAnyPhrase? limitMarkers [v] = none :=
      afterAnyPhrase?_eq_none _ (by decide) (isValue.notIn (by decide)) []
    simp only [limitBehind, none]
  rcases plain_or_maximal compares with plain | ⟨t, rfl, maximal⟩
  · rw [limitBehind_append plain, ends, List.append_assoc]
  · obtain ⟨kind, key⟩ := isWordIn_iff.mp maximal
    have key : t.key = "maximal" := by simpa using key
    have found : afterAnyPhrase? limitMarkers [t, v] = some [v] := by
      simp [afterAnyPhrase?, limitMarkers, afterPhrase?, kind, key]
    have passed := ends (before ++ [t])
    rw [List.singleton_append, limitBehind, found]
    simp only [noNumber, if_false, key, passed]
    simp

theorem sorting_compared {front : List Token} (unsorted : Unmarked sortMarkers front (op ++ [v]))
    (compares : Compares op comparison) (isValue : scope.IsValue v []) :
    scope.sorting (front ++ (op ++ [v])) = .ok ([], front ++ (op ++ [v])) := by
  have begins : ∀ t ∈ op ++ [v], t.isWordIn (sortMarkers.filterMap (·.head?)) = false := by
    intro t member
    rcases List.mem_append.mp member with member | member
    · rcases plain_or_maximal compares with plain | ⟨_, rfl, maximal⟩
      · exact isWordIn_of_subset (plain t member) (by decide)
      · rw [List.mem_singleton.mp member]
        exact isWordIn_of_apart maximal (by decide)
    · rw [List.mem_singleton.mp member]
      exact isValue.notIn (by decide)
  have ends : Unmarked sortMarkers (op ++ [v]) [] := .of_heads (by decide) begins []
  have behind := scope.sorting_unmarked ends
  rw [List.append_nil] at behind
  rw [scope.sorting_unmarked unsorted, behind]
  simp [sorting, Except.map]

/-- The query with one condition, the one that is meant by a predicate. -/
def comparing (scope : Scope) (p : Predicate) : Query where
  domain := scope.domain
  main := gathered [(scope.rules.expand p scope.report, false)]
  report := some scope.report.name

/-- A request for one comparison is read as that comparison and nothing else. -/
theorem readTokens_compared {main phrase : List Token}
    (introduces : scope.Introduces phrase.head? main) (names : scope.Names phrase field op.head?)
    (compares : Compares op comparison) (isValue : scope.IsValue v []) (noNumber : v.kind ≠ .number)
    (redirected : scope.rules.redirect field v scope.report = target)
    (found : scope.report.column? target = some column) (named : target ≠ "") {value : Scalar}
    (binds : bound column target false v = .ok value) :
    scope.readTokens (main ++ phrase ++ op ++ [v]) =
      .ok (scope.comparing ⟨target, .compare comparison value, named⟩) := by
  obtain ⟨searchesNot, ne⟩ := compares.sound
  have first : (op ++ [v]).head? = op.head? := List.head?_append_of_ne_nil op ne
  have introduces : scope.Introduces (phrase ++ (op ++ [v])).head? main := by
    rw [List.head?_append_of_ne_nil phrase names.ends.ne_nil]
    exact introduces
  have names : scope.Names phrase field (op ++ [v]).head? := by
    rw [first]
    exact names
  have unmarked {phrases : List (List String)} (subset : phrases ⊆ markers)
      (nonempty : [] ∉ phrases) (heads : phrases.filterMap (·.head?) ⊆ commandWords) :
      Unmarked phrases (main ++ phrase) (op ++ [v]) :=
    (introduces.unmarked subset heads).append (names.plain.unmarked nonempty heads _)
  have sorted := sorting_compared (unmarked (by decide) (by decide) (by decide)) compares isValue
  have limited : scope.rowLimit (main ++ phrase ++ (op ++ [v])) =
      .ok (none, main ++ phrase ++ (op ++ [v])) := by
    rw [rowLimit, limitBehind_unmarked (unmarked (by decide) (by decide) (by decide)),
      limitBehind_compared compares isValue noNumber, List.nil_append]
  have read : scope.condition? field false (op ++ [v]) = .ok (some
      (scope.rules.expand ⟨target, .compare comparison value, named⟩ scope.report, [])) := by
    have alone : scope.furtherValues false [] = ([], []) := by rw [furtherValues]
    rw [condition?_compared compares isValue, alone,
      conclude_compared searchesNot isValue.noPattern redirected found named binds]
    rfl
  have mentioned : scope.mentions {} (main ++ phrase ++ (op ++ [v])) = .ok
      (({} : Progress).constrain (scope.rules.expand ⟨target, .compare comparison value, named⟩
        scope.report)) := by
    rw [List.append_assoc, introduces.mentions_eq, names.mentions_eq]
    simp only [mention, Bool.false_eq_true, if_false, read]
    simp only [Except.bind, mentions]
    rfl
  rw [List.append_assoc (main ++ phrase), readTokens_eq sorted limited, mentioned]
  rfl

end Scope

end Inquiry.Request
