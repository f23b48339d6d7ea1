import Inquiry.Proofs.Markers
import Inquiry.Proofs.SortBlock

/-!
# A row limit behind the sort block

The sort block is taken out before the row limit is read, so a row limit behind it
is met twice: as what follows the last sort key, and as what follows the tokens
before the block. Most markers are read as a row limit both times. But a condition
may begin with `maximal`, and `erste` may be a value.
-/

namespace Inquiry.Request

/-- A row limit as it is written: the words of a marker, and a positive whole number. -/
structure Limits (marker : List String) (words : List Token) (number : Token) (n : Int) :
    Prop where
  known : marker ∈ limitMarkers
  spelt : Spelt marker words
  kind : number.kind = .number
  value : Literal.number number.raw = .ok (some (.whole n))
  positive : 0 < n

namespace Scope

variable {scope : Scope} {front tokens words : List Token} {number : Token} {n : Int}
  {marker : List String}

/-! ## The sort block in front of the limit -/

/-- The sort block is read where its marker stands. -/
theorem sorting_marked (unsorted : Unmarked sortMarkers front []) {sortMarker : List String}
    (known : sortMarker ∈ sortMarkers) {mark : List Token} (spelt : Spelt sortMarker mark)
    (tokens : List Token) :
    scope.sorting (front ++ (mark ++ tokens)) =
      (scope.sortKeys tokens).map fun (keys, rest) => (keys, front ++ rest) := by
  have found := afterAnyPhrase?_of_spelt (by decide) known spelt tokens
  obtain ⟨t, others, rfl, isHead⟩ :=
    spelt.exists_head (ne_of_mem_of_not_mem known (by decide : [] ∉ sortMarkers))
  have later : t.isWordIn (sortMarkers.flatMap (·.tail)) = false :=
    isWordIn_of_apart isHead ((by decide : ∀ phrase ∈ sortMarkers, ∀ word ∈ phrase.head?.toList,
      (sortMarkers.flatMap (·.tail)).contains word = false) sortMarker known)
  rw [List.cons_append] at found ⊢
  rw [sorting_unmarked (unsorted.before later _), sorting, found]

/-- A number alone is no row limit. -/
theorem limitBehind_number (kind : number.kind = .number) (before : List Token) :
    scope.limitBehind before [number] = .ok (none, before ++ [number]) := by
  have none : afterAnyPhrase? limitMarkers [number] = none :=
    afterAnyPhrase?_eq_none _ (by decide) (isWordIn_of_kind (by simp [kind]) _) []
  simp only [limitBehind, none]

/-- The only marker that may compare is `maximal`. -/
theorem contains_comparing {t : Token} (known : marker ∈ limitMarkers)
    (isHead : t.isWordIn marker.head?.toList = true) :
    comparingLimitWords.contains t.key = decide (marker = ["maximal"]) := by
  by_cases maximal : marker = ["maximal"]
  · subst maximal
    simpa [comparingLimitWords] using (isWordIn_iff.mp isHead).2
  · have other : t.isWordIn comparingLimitWords = false :=
      isWordIn_of_apart isHead ((by decide : ∀ phrase ∈ limitMarkers, phrase ≠ ["maximal"] →
        ∀ word ∈ phrase.head?.toList, comparingLimitWords.contains word = false)
          marker known maximal)
    rw [Token.isWordIn, (isWordIn_iff.mp isHead).1, beq_self_eq_true, Bool.true_and] at other
    rw [other, decide_eq_false maximal]

/-- A marker with a number behind it says the row limit of a request, unless it may compare
and follows a field. -/
theorem rowLimit_number (known : marker ∈ limitMarkers) (spelt : Spelt marker words)
    (kind : number.kind = .number) (unlimited : Unmarked limitMarkers front [])
    (whole : marker ≠ ["ersten"]) :
    scope.rowLimit (front ++ (words ++ [number])) =
      if marker = ["maximal"] ∧ scope.followsField front (words ++ [number]) = true then
        .ok (none, front ++ (words ++ [number]))
      else (limit number.raw).map fun n => (some n, front) := by
  have found := afterAnyPhrase?_of_spelt (by decide) known spelt [number]
  obtain ⟨t, others, rfl, isHead⟩ :=
    spelt.exists_head (ne_of_mem_of_not_mem known (by decide : [] ∉ limitMarkers))
  have later : t.isWordIn (limitMarkers.flatMap (·.tail)) = false :=
    isWordIn_of_apart isHead ((by decide : ∀ phrase ∈ limitMarkers, phrase ≠ ["ersten"] →
      ∀ word ∈ phrase.head?.toList, (limitMarkers.flatMap (·.tail)).contains word = false)
        marker known whole)
  have compares := contains_comparing known isHead
  rw [rowLimit, List.cons_append, limitBehind_unmarked (unlimited.before later _),
    limitBehind, ← List.cons_append, found]
  simp only [compares, List.nil_append, kind, if_true, Bool.and_eq_true, decide_eq_true_eq,
    List.append_nil]
  split
  · next maximal =>
      have alone : others = [] := by
        have length := spelt.length_eq
        rw [maximal.1] at length
        simpa using length.symm
      rw [alone, List.nil_append, limitBehind_number kind]
      simp
  · rfl

end Scope

namespace Limits

variable {scope : Scope} {front words : List Token} {number : Token} {n : Int}
  {marker : List String}

theorem exists_head (limits : Limits marker words number n) :
    ∃ t others, words = t :: others ∧ t.isWordIn marker.head?.toList = true :=
  limits.spelt.exists_head (ne_of_mem_of_not_mem limits.known (by decide : [] ∉ limitMarkers))

/-- The first word of a marker neither turns a sort key around nor separates it. -/
theorem ends_block (limits : Limits marker words number n) :
    beginsWith directionWords (words ++ [number]) = false ∧
      (words ++ [number]).dropWhile separatesSortKeys = words ++ [number] := by
  obtain ⟨t, others, rfl, isHead⟩ := limits.exists_head
  have apart (other : List String) (h : ∀ phrase ∈ limitMarkers, ∀ word ∈ phrase.head?.toList,
      other.contains word = false) : t.isWordIn other = false :=
    isWordIn_of_apart isHead (h marker limits.known)
  have noComma : (t.kind == .comma) = false := by simp [(isWordIn_iff.mp isHead).1]
  refine ⟨apart directionWords (by decide), List.dropWhile_cons_of_neg ?_⟩
  rw [separatesSortKeys, noComma, apart ["und", "dann"] (by decide)]
  exact Bool.false_ne_true

/-- No condition begins with `die ersten`, `limit` or `top`. -/
theorem startsCondition_eq_false (limits : Limits marker words number n)
    (usual : marker ∉ [["maximal"], ["erste"], ["ersten"]]) :
    scope.startsCondition (words ++ [number]) = false := by
  obtain ⟨t, others, rfl, isHead⟩ := limits.exists_head
  have subset := (by decide : ∀ phrase ∈ limitMarkers,
    phrase ∉ [["maximal"], ["erste"], ["ersten"]] → phrase.head?.toList ⊆ unconditionalWords)
  exact Scope.startsCondition_of_unconditional
    (.inr (isWordIn_mono isHead (subset marker limits.known usual))) _

theorem begins_comparing (limits : Limits ["maximal"] words number n) :
    beginsWith comparingLimitWords (words ++ [number]) = true := by
  obtain ⟨t, others, rfl, isHead⟩ := limits.exists_head
  exact isHead

/-- A condition may begin with `maximal`. -/
theorem startsCondition_maximal (limits : Limits ["maximal"] words number n) :
    scope.startsCondition (words ++ [number]) = true := by
  have compares : (afterAnyPhrase? (comparingPhrases.map (·.1)) (words ++ [number])).isSome := by
    have phrase : afterPhrase? ["maximal"] (words ++ [number]) = some [number] :=
      afterPhrase?_eq_some_iff.mpr ⟨words, limits.spelt, rfl⟩
    rw [afterAnyPhrase?, List.findSome?_isSome_iff]
    exact ⟨["maximal"], by decide, by rw [phrase]; rfl⟩
  obtain ⟨t, others, rfl, -⟩ := limits.exists_head
  rw [List.cons_append] at compares ⊢
  simp only [Scope.startsCondition, compares, Bool.or_true, Bool.true_or]

/-- A value may begin with `erste` and `ersten`, if no phrase does. -/
theorem startsCondition_erste (limits : Limits marker words number n)
    (unusual : marker ∈ [["erste"], ["ersten"]])
    (unknown : scope.index.matchAt (words ++ [number]) = none) :
    beginsWith comparingLimitWords (words ++ [number]) = false ∧
      scope.startsCondition (words ++ [number]) = true := by
  obtain ⟨t, others, rfl, isHead⟩ := limits.exists_head
  have erste : t.isWordIn ["erste", "ersten"] = true := isWordIn_mono isHead
    ((by decide : ∀ phrase ∈ [["erste"], ["ersten"]], phrase.head?.toList ⊆ ["erste", "ersten"])
      marker unusual)
  refine ⟨isWordIn_of_apart erste (by decide), ?_⟩
  obtain ⟨word, listed⟩ := isWordIn_iff.mp erste
  have unlisted := (by decide : ∀ word ∈ ["erste", "ersten"],
    (stopWords.contains word || operatorWords.contains word || emptyWords.contains word ||
      presentWords.contains word || descendingWords.contains word ||
      ascendingWords.contains word) = false) t.key listed
  have noCurrency := (by decide +kernel : ∀ word ∈ ["erste", "ersten"], isCurrency word = false)
    t.key listed
  have plain : scope.startsPlainWord (t :: (others ++ [number])) = true := by
    rw [List.cons_append] at unknown
    rw [Scope.startsPlainWord, word, unlisted, noCurrency, unknown]
    rfl
  rw [List.cons_append, Scope.startsCondition, plain, Bool.or_true]

/-! ## The row limit without the sort block -/

/-- The row limit is read where its marker stands, unless the marker may compare and
follows a field. -/
theorem rowLimit_eq (limits : Limits marker words number n)
    (unlimited : Unmarked limitMarkers front []) (whole : marker ≠ ["ersten"]) :
    scope.rowLimit (front ++ (words ++ [number])) =
      if marker = ["maximal"] ∧ scope.followsField front (words ++ [number]) = true then
        .ok (none, front ++ (words ++ [number]))
      else .ok (some n, front) := by
  have read : limit number.raw = .ok n := by
    rw [limit, limits.value]
    exact if_neg (Int.not_le.mpr limits.positive)
  rw [Scope.rowLimit_number limits.known limits.spelt limits.kind unlimited whole, read]
  rfl

end Limits

namespace Scope

variable {scope : Scope} {front mark tokens words : List Token} {number : Token} {n : Int}
  {marker sortMarker : List String} {last : SortTerm} {keys : List SortKey} {query : Query}

section Order

variable (unsorted : Unmarked sortMarkers front []) (sorts : sortMarker ∈ sortMarkers)
  (spelt : Spelt sortMarker mark) (block : scope.Block last (words ++ [number]).head? keys tokens)

include unsorted sorts spelt block

/-- A row limit that lets the block be read, and does not compare a field before the
block, is the row limit. -/
theorem readTokens_of_closed (limits : Limits marker words number n)
    (unlimited : Unmarked limitMarkers front []) (read : scope.readTokens front = .ok query)
    (whole : marker ≠ ["ersten"])
    (closed : scope.startsCondition (words ++ [number]) = true →
      beginsWith comparingLimitWords (words ++ [number]) = true ∧ (keys = [] ∨ last.turn ≠ none))
    (free : ¬ (marker = ["maximal"] ∧ scope.followsField front (words ++ [number]) = true)) :
    scope.readTokens (front ++ (mark ++ (tokens ++ (words ++ [number])))) =
      .ok { query with sortKeys := keys ++ [last.key], limit := some n } := by
  obtain ⟨unturned, stops⟩ := limits.ends_block
  have sorted := scope.sorting_marked unsorted sorts spelt (tokens ++ (words ++ [number]))
  rw [block.sortKeys_eq unturned stops closed] at sorted
  have limited : scope.rowLimit (front ++ (words ++ [number])) = .ok (some n, front) := by
    rw [limits.rowLimit_eq unlimited whole, if_neg free]
  rw [readTokens_unmarked unsorted unlimited] at read
  obtain ⟨s, mentioned, rfl⟩ := ok_of_map read
  rw [readTokens_eq sorted limited, mentioned]
  rfl

/-- Before a condition the last of several keys is lost, unless a word for its
direction is there. -/
theorem sortKeys_of_readTokens (begins : scope.startsCondition (words ++ [number]) = true)
    (several : keys ≠ []) (unsaid : last.turn = none) {other : Query}
    (result : scope.readTokens (front ++ (mark ++ (tokens ++ (words ++ [number])))) = .ok other) :
    other.sortKeys = keys := by
  obtain ⟨left, lost⟩ := block.sortKeys_eq_init begins several unsaid
  obtain ⟨_, _, _, sorted, -⟩ := passes_of_readTokens result
  rw [scope.sorting_marked unsorted sorts spelt, lost] at sorted
  cases sorted
  rfl

/-- Behind keys that are all read, `maximal` limits the rows unless the tokens before
the block end with a field. -/
theorem limit_of_readTokens (limits : Limits ["maximal"] words number n)
    (unlimited : Unmarked limitMarkers front []) (shown : keys = [] ∨ last.turn ≠ none)
    {other : Query}
    (result : scope.readTokens (front ++ (mark ++ (tokens ++ (words ++ [number])))) = .ok other) :
    other.limit =
      if scope.followsField front (words ++ [number]) = true then none else some n := by
  obtain ⟨unturned, stops⟩ := limits.ends_block
  obtain ⟨_, _, _, sorted, limited, -⟩ := passes_of_readTokens result
  rw [scope.sorting_marked unsorted sorts spelt,
    block.sortKeys_eq unturned stops fun _ => ⟨limits.begins_comparing, shown⟩] at sorted
  obtain rfl := congrArg Prod.snd (Except.ok.inj sorted)
  rw [limits.rowLimit_eq unlimited (by decide)] at limited
  cases follows : scope.followsField front (words ++ [number]) with
  | false =>
      rw [follows, if_neg (by decide)] at limited
      exact (congrArg Prod.fst (Except.ok.inj limited)).symm
  | true =>
      rw [follows, if_pos (by decide)] at limited
      exact (congrArg Prod.fst (Except.ok.inj limited)).symm

/-- With `maximal` the request is read with all its keys and with its limit exactly if
the last key cannot be a filter, and no field stands before the block. -/
theorem readTokens_maximal_iff (limits : Limits ["maximal"] words number n)
    (unlimited : Unmarked limitMarkers front []) (read : scope.readTokens front = .ok query) :
    scope.readTokens (front ++ (mark ++ (tokens ++ (words ++ [number])))) =
        .ok { query with sortKeys := keys ++ [last.key], limit := some n } ↔
      (keys = [] ∨ last.turn ≠ none) ∧ scope.followsField front (words ++ [number]) = false := by
  constructor
  · intro result
    have shown : keys = [] ∨ last.turn ≠ none := by
      by_contra lost
      obtain ⟨several, unsaid⟩ := not_or.mp lost
      have same := sortKeys_of_readTokens unsorted sorts spelt block limits.startsCondition_maximal
        several (not_not.mp unsaid) result
      simp at same
    refine ⟨shown, ?_⟩
    have limited := limit_of_readTokens unsorted sorts spelt block limits unlimited shown result
    by_contra follows
    rw [if_pos ((Bool.not_eq_false _).mp follows)] at limited
    cases limited
  · rintro ⟨shown, free⟩
    exact readTokens_of_closed unsorted sorts spelt block limits unlimited read (by decide)
      (fun _ => ⟨limits.begins_comparing, shown⟩) (by simp [free])

end Order

/-- A row limit behind a sort block, before which there is no sort marker and no row
limit. The request is read like what stands before the block, with the sort keys
and the limit, if the marker is `die ersten`, `limit` or `top`. If it is `maximal`,
this is so exactly if the last key is the only one or has a word for its direction,
and no field ends right before the block. With `erste` or `ersten` it never is: a
last key that is the only one, or has a word for its direction, is refused, because
the marker is taken for its value, and any other last key is lost. -/
theorem readTokens_limit_behind_order (read : scope.readTokens front = .ok query)
    (unsorted : Unmarked sortMarkers front []) (unlimited : Unmarked limitMarkers front [])
    (sorts : sortMarker ∈ sortMarkers) (spelt : Spelt sortMarker mark)
    (block : scope.Block last words.head? keys tokens) (limits : Limits marker words number n) :
    (marker ∉ [["erste"], ["ersten"]] →
      (scope.readTokens (front ++ mark ++ tokens ++ words ++ [number]) =
          .ok { query with sortKeys := keys ++ [last.key], limit := some n } ↔
        (marker = ["maximal"] → (keys = [] ∨ last.turn ≠ none) ∧
          scope.followsField front (words ++ [number]) = false))) ∧
    (marker ∈ [["erste"], ["ersten"]] → scope.index.matchAt (words ++ [number]) = none →
      (keys = [] ∨ last.turn ≠ none →
        scope.readTokens (front ++ mark ++ tokens ++ words ++ [number]) =
          .error (.valueAfterSortField last.key.field ((words.head?.map (·.raw)).getD ""))) ∧
      (keys ≠ [] → last.turn = none →
        ∀ other, scope.readTokens (front ++ mark ++ tokens ++ words ++ [number]) = .ok other →
          other.sortKeys = keys)) := by
  have head : words.head? = (words ++ [number]).head? := by
    obtain ⟨t, others, rfl, -⟩ := limits.exists_head
    rfl
  rw [head] at block ⊢
  simp only [List.append_assoc]
  constructor
  · intro usual
    by_cases maximal : marker = ["maximal"]
    · subst maximal
      rw [readTokens_maximal_iff unsorted sorts spelt block limits unlimited read]
      exact ⟨fun closed _ => closed, fun closed => closed rfl⟩
    · have silent : scope.startsCondition (words ++ [number]) = false := by
        apply limits.startsCondition_eq_false
        rw [List.mem_cons, not_or]
        exact ⟨maximal, usual⟩
      have accepted := readTokens_of_closed unsorted sorts spelt block limits unlimited read
        (by rintro rfl; exact usual (by decide)) (by simp [silent]) (by simp [maximal])
      exact ⟨fun _ is => absurd is maximal, fun _ => accepted⟩
  · intro unusual unknown
    obtain ⟨noLimit, begins⟩ := limits.startsCondition_erste unusual unknown
    constructor
    · intro shown
      obtain ⟨unturned, stops⟩ := limits.ends_block
      rw [readTokens, scope.sorting_marked unsorted sorts spelt,
        block.sortKeys_eq_error unturned stops begins noLimit shown]
      rfl
    · intro several unsaid other result
      exact sortKeys_of_readTokens unsorted sorts spelt block begins several unsaid result

/-- Behind several keys `maximal` is a row limit if the last one has its direction. -/
theorem readTokens_limit_behind_order_towns :
    ∃ query, towns.readTokens [⟨"Orte", "orte", .word⟩] = .ok query ∧
      towns.readTokens [⟨"Orte", "orte", .word⟩, ⟨"sortiert", "sortiert", .word⟩,
          ⟨"nach", "nach", .word⟩, ⟨"Einwohner", "einwohner", .word⟩, ⟨",", ",", .comma⟩,
          ⟨"Ort", "ort", .word⟩, ⟨"absteigend", "absteigend", .word⟩,
          ⟨"maximal", "maximal", .word⟩, ⟨"10", "10", .number⟩] =
        .ok { query with
          sortKeys := [⟨"einwohner", .ascending⟩, ⟨"ort", .descending⟩], limit := some 10 } := by
  have plain : Plain [⟨"Orte", "orte", .word⟩] := by decide
  have einwohner : towns.Orders ⟨[⟨"Einwohner", "einwohner", .word⟩], none,
      ⟨"einwohner", .ascending⟩⟩ (some ⟨",", ",", .comma⟩) :=
    ⟨by decide +kernel, by decide +kernel, by decide, .unsaid⟩
  have ort : towns.Orders ⟨[⟨"Ort", "ort", .word⟩], some ⟨"absteigend", "absteigend", .word⟩,
      ⟨"ort", .descending⟩⟩ (some ⟨"maximal", "maximal", .word⟩) :=
    ⟨by decide +kernel, by decide +kernel, by decide, .descending (by decide)⟩
  have block := Block.more einwohner (List.cons_ne_nil _ []) (by decide) (.last ort)
  have limits : Limits ["maximal"] [⟨"maximal", "maximal", .word⟩] ⟨"10", "10", .number⟩ 10 :=
    ⟨by decide, .cons ⟨rfl, rfl⟩ .nil, rfl, by decide +kernel, by decide⟩
  match read : towns.readTokens [⟨"Orte", "orte", .word⟩] with
  | .error failure =>
      have readable : (towns.readTokens [⟨"Orte", "orte", .word⟩]).isOk = true := by decide +kernel
      rw [read] at readable
      cases readable
  | .ok query =>
      refine ⟨query, rfl, ?_⟩
      have usual := (readTokens_limit_behind_order read
        (plain.unmarked (by decide) (by decide) []) (plain.unmarked (by decide) (by decide) [])
        (by decide : ["sortiert", "nach"] ∈ sortMarkers)
        (.cons ⟨rfl, rfl⟩ (.cons ⟨rfl, rfl⟩ .nil) : Spelt ["sortiert", "nach"]
          [⟨"sortiert", "sortiert", .word⟩, ⟨"nach", "nach", .word⟩]) block limits).1 (by decide)
      exact usual.mpr fun _ => ⟨.inr (Option.some_ne_none _), by decide +kernel⟩

/-- Row limits behind a sort block that are none: `ersten` is refused, `maximal` takes
away the last of several sort keys, and it compares the field before the block. -/
theorem limit_behind_order_lost :
    (towns.read "Orte sortiert nach Ort ersten 10").map (·.limit) =
      .error (.valueAfterSortField "ort" "ersten") ∧
    (towns.read "Orte sortiert nach Einwohner, Ort maximal 10").map
        (fun q => (q.sortKeys, q.limit)) = .ok ([⟨"einwohner", .ascending⟩], none) ∧
    (towns.read "Orte mit Feldern Einwohner sortiert nach Ort maximal 10").map
        (fun q => (q.sortKeys, q.limit, q.projections)) =
      .ok ([⟨"ort", .ascending⟩], none, []) := by
  decide +kernel

end Scope

end Inquiry.Request
