import Inquiry.Proofs.Commands
import Inquiry.Proofs.Phrases
import Inquiry.Proofs.Requests

/-!
# Sort blocks

A sort block is a chain of terms with separators between them. Each term is a
field of the report, and may have a word for its direction. What follows the block
decides whether it is read as it stands. If no condition can begin there, all its
keys are read. Otherwise the last term may be taken for a filter, or what follows
for a value.
-/

namespace Inquiry

namespace Keyword

/-- A phrase that stands for a column of one report stands for a column. -/
theorem Match.isField_of_mem_fieldsOf {m : Match} {r : Report} {field : String}
    (h : field ∈ m.fieldsOf r) : m.isField = true := by
  obtain ⟨entry, member, heq⟩ := List.mem_filterMap.mp h
  rw [isField, List.any_eq_true]
  refine ⟨entry, member, ?_⟩
  split at heq
  · simp [Entry.isMain, heq]
  · cases heq

end Keyword

namespace Request

/-- The direction that a word behind a sort field stands for, or no word. -/
inductive Turns : Option Token → Direction → Prop where
  | unsaid : Turns none .ascending
  | ascending {t : Token} (word : t.isWordIn ascendingWords = true) : Turns (some t) .ascending
  | descending {t : Token} (word : t.isWordIn descendingWords = true) : Turns (some t) .descending

/-- A term of a sort block: a phrase, the word for the direction if there is one,
and the sort key that they ask for. -/
structure SortTerm where
  phrase : List Token
  turn : Option Token
  key : SortKey

/-- The tokens of a term. -/
def SortTerm.tokens (term : SortTerm) : List Token := term.phrase ++ term.turn.toList

/-- Words for a direction. -/
def directionWords : List String := descendingWords ++ ascendingWords

/-- A word for the direction belongs to the field before it. -/
theorem Turns.direction_eq {turn : Option Token} {d : Direction} (h : Turns turn d)
    {behind : List Token} (unturned : beginsWith directionWords behind = false) :
    direction (turn.toList ++ behind) = (d, behind) := by
  cases h with
  | unsaid =>
      have noWord {words : List String} (subset : words ⊆ directionWords) :
          beginsWith words behind = false := by
        cases behind with
        | nil => rfl
        | cons t rest => exact isWordIn_of_subset unturned subset
      rw [Option.toList_none, List.nil_append, direction, noWord (by decide), noWord (by decide)]
      simp
  | @ascending t word =>
      have other : t.isWordIn descendingWords = false := isWordIn_of_apart word (by decide)
      simp [direction, beginsWith, word, other]
  | descending word => simp [direction, beginsWith, word]

/-- Words at which no condition begins, whatever follows: they separate, say a
direction, or begin a phrase before a number of rows. -/
def unconditionalWords : List String := directionWords ++ ["und", "dann", "die", "limit", "top"]

namespace Scope

variable {scope : Scope}

/-- A phrase that stands for a field of the report is found as a field. -/
theorem fieldAt_of_matchAt {tokens : List Token} {m : Keyword.Match} {field : String}
    (found : scope.index.matchAt tokens = some m)
    (first : (m.fieldsOf scope.report).head? = some field) : scope.fieldAt tokens = some m := by
  have known := List.mem_of_mem_head? (Option.mem_def.mpr first)
  rw [fieldAt, found, Option.filter_some, Keyword.Match.isField_of_mem_fieldsOf known]
  rfl

theorem startsCondition_of_unconditional {t : Token}
    (h : t.kind = .comma ∨ t.isWordIn unconditionalWords = true) (rest : List Token) :
    scope.startsCondition (t :: rest) = false := by
  have noWord {words : List String} (apart : ∀ w ∈ unconditionalWords, words.contains w = false) :
      t.isWordIn words = false := by
    rcases h with comma | word
    · exact isWordIn_of_kind (by simp [comma]) words
    · exact isWordIn_of_apart word apart
  have noPhrase : afterAnyPhrase? (comparingPhrases.map (·.1)) (t :: rest) = none :=
    afterAnyPhrase?_eq_none _ (by decide) (noWord (by decide)) rest
  have noPlain : scope.startsPlainWord (t :: rest) = false := by
    rcases h with comma | word
    · simp [startsPlainWord, comma]
    · have known := (by decide : ∀ w ∈ unconditionalWords,
        stopWords.contains w = true ∨ descendingWords.contains w = true ∨
          ascendingWords.contains w = true) t.key (isWordIn_iff.mp word).2
      rcases known with known | known | known <;> simp only [startsPlainWord, known] <;> simp
  have kind : t.isValue = false ∧ (t.kind == .operator) = false := by
    rcases h with comma | word
    · simp [Token.isValue, comma]
    · simp [Token.isValue, (isWordIn_iff.mp word).1]
  rw [startsCondition, noPhrase, noPlain, kind.1, kind.2, noWord (by decide), noWord (by decide),
    noWord (by decide), noWord (by decide)]
  rfl

/-- No condition begins with a word for a direction. -/
theorem startsCondition_of_turns {t : Token} {d : Direction} (h : Turns (some t) d)
    (rest : List Token) : scope.startsCondition (t :: rest) = false := by
  apply startsCondition_of_unconditional
  cases h with
  | ascending word => exact .inr (isWordIn_mono word (by decide))
  | descending word => exact .inr (isWordIn_mono word (by decide))

/-! ## Terms -/

/-- A term that asks for its sort key in front of the next token: its phrase ends
there and stands for the field, and begins with no word that is skipped before it. -/
structure Orders (scope : Scope) (term : SortTerm) (next : Option Token) : Prop where
  ends : scope.index.Ends term.phrase (term.turn.or next)
  field : ((scope.index.matchFor (term.phrase.map (·.key))).fieldsOf scope.report).head? =
    some term.key.field
  opens : ∀ t ∈ term.phrase.head?, t.isWordIn (articles ++ ["und", "dann"]) = false
  turns : Turns term.turn term.key.direction

namespace Orders

variable {term : SortTerm} {behind : List Token}

/-- Nothing is skipped before a term. -/
theorem dropWhile_eq (orders : scope.Orders term behind.head?) :
    (term.tokens ++ behind).dropWhile (·.isWordIn articles) = term.tokens ++ behind ∧
      (term.tokens ++ behind).dropWhile separatesSortKeys = term.tokens ++ behind := by
  obtain ⟨t, others, split⟩ := List.exists_cons_of_ne_nil orders.ends.ne_nil
  have noWord := orders.opens t (by rw [split]; rfl)
  have noComma := (orders.ends.opens t (by rw [split]; rfl)).1
  have noArticle : t.isWordIn articles = false := isWordIn_of_subset noWord (by decide)
  have noSeparator : separatesSortKeys t = false := by
    rw [separatesSortKeys, isWordIn_of_subset noWord (by decide), Bool.or_false]
    simpa using noComma
  rw [SortTerm.tokens, split]
  constructor
  · exact List.dropWhile_cons_of_neg (by simp [noArticle])
  · exact List.dropWhile_cons_of_neg (by simp [noSeparator])

theorem matchAt_eq (orders : scope.Orders term behind.head?) :
    scope.index.matchAt (term.tokens ++ behind) =
      some (scope.index.matchFor (term.phrase.map (·.key))) := by
  have ends : scope.index.Ends term.phrase (term.turn.toList ++ behind).head? := by
    have := orders.ends
    cases turn : term.turn <;> simpa [turn] using this
  rw [SortTerm.tokens, List.append_assoc, ends.matchAt_eq]

theorem fieldAt_eq (orders : scope.Orders term behind.head?) :
    scope.fieldAt (term.tokens ++ behind) =
      some (scope.index.matchFor (term.phrase.map (·.key))) :=
  fieldAt_of_matchAt orders.matchAt_eq orders.field

/-- What follows the phrase. -/
theorem drop_eq (term : SortTerm) (behind : List Token) (index : Keyword.Index) :
    (term.tokens ++ behind).drop (index.matchFor (term.phrase.map (·.key))).length =
      term.turn.toList ++ behind := by
  rw [SortTerm.tokens, List.append_assoc, Keyword.Index.matchFor, List.length_map,
    List.drop_left]

/-- A term is read as its sort key, unless what follows it would be its value. -/
theorem sortKey_eq (orders : scope.Orders term behind.head?)
    (unturned : beginsWith directionWords behind = false) :
    scope.sortKey (term.tokens ++ behind) (scope.index.matchFor (term.phrase.map (·.key))) =
      if !beginsWith comparingLimitWords behind && scope.startsCondition behind then
        .error (.valueAfterSortField term.key.field ((behind.head?.map (·.raw)).getD ""))
      else .ok (term.key, behind) := by
  obtain ⟨fields, split⟩ := List.head?_eq_some_iff.mp orders.field
  rw [sortKey, resolve, split]
  simp only [drop_eq, orders.turns.direction_eq unturned]

end Orders

/-- Where no field is named there are no sort keys. -/
theorem sortKeys_of_no_field {tokens : List Token}
    (none : scope.fieldAt (tokens.dropWhile (·.isWordIn articles)) = none) :
    scope.sortKeys tokens = match tokens.dropWhile (·.isWordIn articles) with
      | t :: rest =>
        if scope.startsUnknownWord (t :: rest) then .error (scope.unknownField t)
        else .ok ([], t :: rest)
      | [] => .ok ([], []) := by
  rw [sortKeys]
  generalize tokens.dropWhile (·.isWordIn articles) = here at none ⊢
  split
  · cases here <;> rfl
  · next found =>
      rw [none] at found
      cases found

/-- Behind articles, sort keys are read one by one. -/
theorem sortKeys_of_fieldAt {tokens : List Token} {m : Keyword.Match}
    (found : scope.fieldAt (tokens.dropWhile (·.isWordIn articles)) = some m) :
    scope.sortKeys tokens =
      (scope.sortKey (tokens.dropWhile (·.isWordIn articles)) m).bind fun (key, rest) =>
        (scope.nextSortKey rest).bind fun
          | none => .ok ([key], rest)
          | some next => (scope.sortKeys next).map fun (keys, rest) => (key :: keys, rest) := by
  rw [sortKeys]
  generalize tokens.dropWhile (·.isWordIn articles) = here at found ⊢
  split
  · next none =>
      rw [found] at none
      cases none
  · next m' found' =>
      rw [found] at found'
      cases found'
      split
      · next failed =>
          rw [failed]
          rfl
      · next key rest read =>
          rw [read]
          simp only [Except.bind]
          split
          · next failed =>
              rw [failed]
          · next last =>
              rw [last]
          · next further =>
              rw [further]

/-- Where no article is skipped. -/
theorem sortKeys_eq {tokens : List Token} {m : Keyword.Match}
    (unskipped : tokens.dropWhile (·.isWordIn articles) = tokens)
    (found : scope.fieldAt tokens = some m) :
    scope.sortKeys tokens = (scope.sortKey tokens m).bind fun (key, rest) =>
      (scope.nextSortKey rest).bind fun
        | none => .ok ([key], rest)
        | some next => (scope.sortKeys next).map fun (keys, rest) => (key :: keys, rest) := by
  have behind : scope.fieldAt (tokens.dropWhile (·.isWordIn articles)) = some m := by
    rw [unskipped, found]
  rw [sortKeys_of_fieldAt behind, unskipped]

/-- A word or comma that separates sort keys begins no condition. -/
theorem startsCondition_of_separates {t : Token} (separates : separatesSortKeys t = true)
    (rest : List Token) : scope.startsCondition (t :: rest) = false := by
  apply startsCondition_of_unconditional
  rw [separatesSortKeys, Bool.or_eq_true, beq_iff_eq] at separates
  exact separates.imp_right fun word => isWordIn_mono word (by decide)

/-- At a separator a term ends with its sort key, whatever comes next. -/
theorem Orders.sortKey_separated {term : SortTerm} {separator : Token} {rest : List Token}
    (orders : scope.Orders term (some separator)) (separates : separatesSortKeys separator = true) :
    scope.sortKey (term.tokens ++ separator :: rest)
      (scope.index.matchFor (term.phrase.map (·.key))) = .ok (term.key, separator :: rest) := by
  have unturned : beginsWith directionWords (separator :: rest) = false := by
    rw [separatesSortKeys, Bool.or_eq_true, beq_iff_eq] at separates
    rcases separates with comma | word
    · exact isWordIn_of_kind (by simp [comma]) directionWords
    · exact isWordIn_of_apart word (by decide)
  have read := @Orders.sortKey_eq scope term (separator :: rest) orders unturned
  rw [startsCondition_of_separates separates, Bool.and_false] at read
  exact read

/-- A term with separators behind it is read. If a condition could begin behind the
phrase of the next term, the block ends before the separators. -/
theorem sortKeys_more {term next : SortTerm} {separators left : List Token}
    (orders : scope.Orders term separators.head?) (ne : separators ≠ [])
    (separates : ∀ t ∈ separators, separatesSortKeys t = true)
    (further : scope.Orders next left.head?) :
    scope.sortKeys (term.tokens ++ separators ++ (next.tokens ++ left)) =
      if scope.startsCondition (next.turn.toList ++ left) then
        .ok ([term.key], separators ++ (next.tokens ++ left))
      else
        (scope.sortKeys (next.tokens ++ left)).map fun (keys, rest) =>
          (term.key :: keys, rest) := by
  have here : scope.Orders term (separators ++ (next.tokens ++ left)).head? := by
    rwa [List.head?_append_of_ne_nil _ ne]
  have read : scope.sortKey (term.tokens ++ (separators ++ (next.tokens ++ left)))
      (scope.index.matchFor (term.phrase.map (·.key))) =
        .ok (term.key, separators ++ (next.tokens ++ left)) := by
    obtain ⟨separator, others, rfl⟩ := List.exists_cons_of_ne_nil ne
    exact orders.sortKey_separated (separates separator List.mem_cons_self)
  have skipped : (separators ++ (next.tokens ++ left)).dropWhile separatesSortKeys =
      next.tokens ++ left := by
    rw [List.dropWhile_append_of_pos separates, further.dropWhile_eq.2]
  have nonempty : next.tokens ++ left ≠ [] := by
    simp [SortTerm.tokens, further.ends.ne_nil]
  have shorter : (next.tokens ++ left).length ≠ (separators ++ (next.tokens ++ left)).length := by
    have := List.length_pos_iff.mpr ne
    simp only [List.length_append]
    omega
  have following : scope.nextSortKey (separators ++ (next.tokens ++ left)) =
      .ok (if scope.startsCondition (next.turn.toList ++ left) then none
        else some (next.tokens ++ left)) := by
    rw [nextSortKey, skipped, if_neg (not_or.mpr ⟨shorter, nonempty⟩), further.fieldAt_eq]
    simp only [Orders.drop_eq]
  rw [List.append_assoc, sortKeys_eq here.dropWhile_eq.1 here.fieldAt_eq, read]
  simp only [Except.bind, following]
  cases scope.startsCondition (next.turn.toList ++ left) <;> rfl

/-- A term that no separator follows is the last one. -/
theorem Orders.sortKeys_last {term : SortTerm} {behind : List Token}
    (orders : scope.Orders term behind.head?)
    (unturned : beginsWith directionWords behind = false)
    (stops : behind.dropWhile separatesSortKeys = behind) :
    scope.sortKeys (term.tokens ++ behind) =
      if !beginsWith comparingLimitWords behind && scope.startsCondition behind then
        .error (.valueAfterSortField term.key.field ((behind.head?.map (·.raw)).getD ""))
      else .ok ([term.key], behind) := by
  have last : scope.nextSortKey behind = .ok none := by
    rw [nextSortKey, stops, if_pos (.inl rfl)]
  rw [sortKeys_eq orders.dropWhile_eq.1 orders.fieldAt_eq, orders.sortKey_eq unturned]
  split
  · rfl
  · simp only [Except.bind, last]

/-! ## Blocks -/

/-- The tokens of a sort block in front of the next token: its last term, and the
keys of the terms before it, each with separators behind it. -/
inductive Block (scope : Scope) (last : SortTerm) (next : Option Token) :
    List SortKey → List Token → Prop where
  | last (orders : scope.Orders last next) : Block scope last next [] last.tokens
  | more {term : SortTerm} {keys : List SortKey} {separators tokens : List Token}
      (orders : scope.Orders term separators.head?) (ne : separators ≠ [])
      (separates : ∀ t ∈ separators, separatesSortKeys t = true)
      (further : Block scope last next keys tokens) :
      Block scope last next (term.key :: keys) (term.tokens ++ separators ++ tokens)

namespace Block

variable {last : SortTerm} {behind tokens : List Token} {keys : List SortKey}

/-- A block begins with a term. Behind its phrase no condition begins, unless it is
the last term, without a word for the direction, and one begins behind the block. -/
theorem exists_first (block : scope.Block last behind.head? keys tokens) :
    ∃ term left, tokens ++ behind = term.tokens ++ left ∧ scope.Orders term left.head? ∧
      scope.startsCondition (term.turn.toList ++ left) =
        (decide (keys = [] ∧ last.turn = none) && scope.startsCondition behind) := by
  cases block with
  | last orders =>
      refine ⟨last, behind, rfl, orders, ?_⟩
      cases turn : last.turn with
      | none => simp
      | some t => simpa using startsCondition_of_turns (turn ▸ orders.turns) behind
  | @more term keys separators tokens orders ne separates further =>
      obtain ⟨separator, others, rfl⟩ := List.exists_cons_of_ne_nil ne
      refine ⟨term, separator :: others ++ (tokens ++ behind), by simp, orders, ?_⟩
      cases turn : term.turn with
      | none =>
          simpa using startsCondition_of_separates (separates separator List.mem_cons_self) _
      | some t => simpa using startsCondition_of_turns (turn ▸ orders.turns) _

/-- A block with a further term before it. -/
theorem sortKeys_more (block : scope.Block last behind.head? keys tokens) {term : SortTerm}
    {separators : List Token} (orders : scope.Orders term separators.head?) (ne : separators ≠ [])
    (separates : ∀ t ∈ separators, separatesSortKeys t = true) :
    scope.sortKeys (term.tokens ++ separators ++ tokens ++ behind) =
      if decide (keys = [] ∧ last.turn = none) && scope.startsCondition behind then
        .ok ([term.key], separators ++ (tokens ++ behind))
      else
        (scope.sortKeys (tokens ++ behind)).map fun (keys, rest) => (term.key :: keys, rest) := by
  obtain ⟨next, left, begins, first, condition⟩ := block.exists_first
  rw [List.append_assoc, begins, ← condition]
  exact Scope.sortKeys_more orders ne separates first

/-- Before a condition the last of several terms is taken for a filter, if it has no
word for the direction. -/
theorem sortKeys_eq_init (block : scope.Block last behind.head? keys tokens)
    (begins : scope.startsCondition behind = true) (several : keys ≠ [])
    (unsaid : last.turn = none) : ∃ left, scope.sortKeys (tokens ++ behind) = .ok (keys, left) := by
  induction block with
  | last orders => exact absurd rfl several
  | @more term keys separators tokens orders ne separates further ih =>
      rw [further.sortKeys_more orders ne separates, begins, Bool.and_true]
      by_cases single : keys = []
      · rw [single]
        exact ⟨_, if_pos (decide_eq_true ⟨rfl, unsaid⟩)⟩
      · obtain ⟨left, read⟩ := ih single
        rw [read, if_neg (by simp [single])]
        exact ⟨left, rfl⟩

variable (block : scope.Block last behind.head? keys tokens)
  (unturned : beginsWith directionWords behind = false)
  (stops : behind.dropWhile separatesSortKeys = behind)

include block unturned stops

/-- All keys of a block are read if no condition begins behind it, and before a word
like `maximal` if the last term cannot be a filter. -/
theorem sortKeys_eq (closed : scope.startsCondition behind = true →
      beginsWith comparingLimitWords behind = true ∧ (keys = [] ∨ last.turn ≠ none)) :
    scope.sortKeys (tokens ++ behind) = .ok (keys ++ [last.key], behind) := by
  induction block with
  | last orders =>
      rw [orders.sortKeys_last unturned stops, if_neg]
      · rfl
      · cases begins : scope.startsCondition behind with
        | false => simp
        | true => simp [(closed begins).1]
  | @more term keys separators tokens orders ne separates further ih =>
      have whole : scope.sortKeys (tokens ++ behind) = .ok (keys ++ [last.key], behind) := by
        apply ih
        intro begins
        obtain ⟨comparing, shown⟩ := closed begins
        exact ⟨comparing, .inr (shown.resolve_left (List.cons_ne_nil _ _))⟩
      rw [further.sortKeys_more orders ne separates, if_neg, whole]
      · rfl
      · cases begins : scope.startsCondition behind with
        | false => simp
        | true =>
            have turned := (closed begins).2.resolve_left (List.cons_ne_nil _ _)
            simp [turned]

/-- In all other cases what begins a condition is refused. -/
theorem sortKeys_eq_error (begins : scope.startsCondition behind = true)
    (noLimit : beginsWith comparingLimitWords behind = false)
    (shown : keys = [] ∨ last.turn ≠ none) :
    scope.sortKeys (tokens ++ behind) =
      .error (.valueAfterSortField last.key.field ((behind.head?.map (·.raw)).getD "")) := by
  induction block with
  | last orders =>
      rw [orders.sortKeys_last unturned stops, begins, noLimit]
      rfl
  | @more term keys separators tokens orders ne separates further ih =>
      have turned := shown.resolve_left (List.cons_ne_nil _ _)
      rw [further.sortKeys_more orders ne separates, if_neg (by simp [turned]), ih (.inr turned)]
      rfl

end Block

end Scope

end Request

end Inquiry
