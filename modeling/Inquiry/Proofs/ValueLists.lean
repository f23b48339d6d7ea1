import Inquiry.Proofs.AmountCap
import Inquiry.Proofs.Binding
import Inquiry.Proofs.FieldLists
import Inquiry.Proofs.OperatorBounds

/-!
# Lists of values

Behind `in`, commas, `oder` and `und` separate values, and a comma or `und` separates
conditions as well. The list goes on as long as a value stands behind the separator, and
no keyword is a value. So a list of quoted texts is read whole, and the condition behind
it is read as if it stood alone (`Catalogue.readTokens_value_list`).

What stands behind the list has to be a condition alone as well: a quoted text that
completes a longer keyword is none (`Catalogue.listed_keyword_swallows_value`), and
behind `nicht` the row limit takes the number of a cap away
(`Scope.negated_cap_limits`).
-/

namespace Inquiry

namespace Request

open Keyword

/-- A comma, or a word that stands between values like a comma. -/
def SeparatesMembers (t : Token) : Prop := t.kind = .comma ∨ t.isWordIn ["oder", "und"] = true

/-- The tokens of further values, each behind its separator. -/
def further (more : List (Token × Token)) : List Token :=
  more.flatMap fun (separator, v) => [separator, v]

@[simp] theorem further_nil : further [] = [] := rfl

@[simp] theorem further_cons (separator v : Token) (more : List (Token × Token)) :
    further ((separator, v) :: more) = separator :: v :: further more := rfl

/-- A list of values: the first one, and further ones behind their separators. -/
structure ValueList where
  first : Token
  more : List (Token × Token)

/-- The values of a list in order. -/
def ValueList.values (l : ValueList) : List Token := l.first :: l.more.map (·.2)

/-- The tokens of a list. -/
def ValueList.tokens (l : ValueList) : List Token := l.first :: further l.more

/-- Quoted texts with separators between them. -/
structure ValueList.IsQuoted (l : ValueList) : Prop where
  first : l.first.kind = .quoted
  more : ∀ entry ∈ l.more, SeparatesMembers entry.1 ∧ entry.2.kind = .quoted

theorem SeparatesMembers.separatesValues_eq {t : Token} (separates : SeparatesMembers t) :
    Scope.separatesValues t true = true := by
  rcases separates with comma | word
  · simp [Scope.separatesValues, comma]
  · rcases List.mem_pair.mp (isWordIn_iff.mp word).2 with own | own <;>
      simp [Scope.separatesValues, own]

theorem ValueList.IsQuoted.kind {l : ValueList} (quoted : l.IsQuoted) {v : Token}
    (member : v ∈ l.values) : v.kind = .quoted := by
  rcases List.mem_cons.mp member with rfl | member
  · exact quoted.first
  · obtain ⟨entry, own, rfl⟩ := List.mem_map.mp member
    exact (quoted.more entry own).2

namespace Scope

variable {scope : Scope} {l : ValueList} {behind : List Token} {field : String} {column : Column}
  {value : Scalar} {values : List Scalar} {word : Token}

/-! ## The condition -/

/-- Further quoted texts are read whole, up to where no value follows. -/
theorem furtherValues_quoted {more : List (Token × Token)}
    (quoted : ∀ entry ∈ more, SeparatesMembers entry.1 ∧ entry.2.kind = .quoted)
    (stops : scope.furtherValues true behind = ([], behind)) :
    scope.furtherValues true (further more ++ behind) = (more.map (·.2), behind) := by
  induction more with
  | nil => exact stops
  | cons entry more ih =>
      obtain ⟨separator, v⟩ := entry
      obtain ⟨separates, kind⟩ := quoted (separator, v) List.mem_cons_self
      have tail := ih fun entry member => quoted entry (List.mem_cons_of_mem _ member)
      have isValue : scope.IsValue v (further more ++ behind) := .of_quoted kind _
      rw [further_cons, List.cons_append, List.cons_append, furtherValues,
        if_pos separates.separatesValues_eq]
      split
      · next found =>
          rw [isValue.value] at found
          cases found
          simp only [tail, List.map_cons]
      · next found =>
          rw [isValue.value] at found
          cases found

/-- A list of quoted texts behind `in` says that the field has one of its values. -/
theorem condition?_in (isIn : word.isWordIn ["in"] = true) (quoted : l.IsQuoted)
    (stops : scope.furtherValues true behind = ([], behind)) (field : String) (negate : Bool) :
    scope.condition? field negate (word :: (l.tokens ++ behind)) =
      reading (scope.conclude field (some .oneOf) negate l.first (l.more.map (·.2))) behind := by
  have noWord (words : List String) : l.first.isWordIn words = false :=
    isWordIn_of_quoted quoted.first words
  have begins {words : List String} (apart : ∀ w ∈ ["in"], words.contains w = false) :
      beginsWith words (word :: (l.tokens ++ behind)) = false := isWordIn_of_apart isIn apart
  have found : operatorAt (word :: (l.tokens ++ behind)) =
      ⟨some .oneOf, false, true, l.first :: (further l.more ++ behind)⟩ := by
    simp only [operatorAt, isIn, if_true]
    rfl
  have isValue : scope.IsValue l.first (further l.more ++ behind) := .of_quoted quoted.first _
  have read : scope.values true (l.first :: (further l.more ++ behind)) =
      (l.first :: l.more.map (·.2), behind) := by
    simp only [Scope.values, isValue.value, furtherValues_quoted quoted.more stops]
  have free : ∀ words ∈ [negatingWords, emptyWords, presentWords, ["zwischen"]],
      ∀ w ∈ ["in"], words.contains w = false := by decide
  exact condition?_of_opening (skipWord_of_not_begins (begins (by decide)))
    (fun words member => begins (free words member))
    (opening_of_operatorAt (noWord articles) found rfl) read field negate

/-- The values of the condition are those of the list, in order. -/
theorem conclude_in (unruled : scope.rules = {})
    (found : scope.report.column? field = some column) (named : field ≠ "")
    (quoted : l.IsQuoted) (binds : List.Forall₂ (fun v value =>
      bound column field false v = .ok value) l.values (value :: values)) :
    scope.conclude field (some .oneOf) false l.first (l.more.map (·.2)) =
      .ok (.predicate ⟨field, .oneOf value values, named⟩) := by
  obtain ⟨first, more⟩ := List.forall₂_cons.mp binds
  have noPattern : (l.values.any fun v => v.kind == .word && Literal.hasWildcard v.raw) = false :=
    List.any_eq_false.mpr fun v member => by simp [quoted.kind member]
  have meant : settled column (some .oneOf) false l.first (l.more.map (·.2)) = (.oneOf, false) := by
    rw [ValueList.values] at noPattern
    simp [settled, noPattern]
  simp only [conclude, unruled, column_eq found, bind, Except.bind, meant]
  simp [first, mapM_eq_ok_iff.mpr more, Predicate.of, named, finish, unruled, pure, Except.pure]

/-! ## Behind the list -/

/-- A field is not looked for beyond a token that no phrase reaches over. -/
theorem followsField_behind {front before : List Token} {bar : Token}
    (spares : scope.index.Spares front bar)
    (closed : before ≠ [] ∨ bar.isWordIn beingWords = false) (tokens : List Token) :
    scope.followsField (front ++ bar :: before) tokens = scope.followsField before tokens := by
  have ends (before tokens : List Token) :
      scope.EndsField (front ++ bar :: before) tokens ↔ scope.EndsField before tokens := by
    have without {own : List Token} (suffix : own <:+ front) (found : (scope.fieldAt
        (own ++ bar :: before ++ tokens)).map (·.length) = some (own ++ bar :: before).length) :
        False := by
      exact spares own suffix _ (registered_of_fieldAt found) ⟨before.map (·.key), by simp⟩
    constructor
    · rintro ⟨phrase, ne, suffix, found⟩
      refine ⟨phrase, ne, ?_, found⟩
      rcases List.suffix_or_suffix_of_suffix suffix (List.suffix_append front (bar :: before)) with
        inside | ⟨own, rfl⟩
      · rcases List.suffix_cons_iff.mp inside with rfl | inside
        · exact (without List.nil_suffix found).elim
        · exact inside
      · exact (without ((List.suffix_append_inj_of_length_eq rfl).mp suffix).1 found).elim
    · rintro ⟨phrase, ne, suffix, found⟩
      have reaches := (suffix.trans (List.suffix_cons bar before)).trans
        (List.suffix_append front (bar :: before))
      exact ⟨phrase, ne, reaches, found⟩
  rw [Bool.eq_iff_iff, followsField_iff, followsField_iff]
  rcases List.eq_nil_or_concat' before with rfl | ⟨init, last, rfl⟩
  · have noBeing := closed.resolve_left (not_not.mpr rfl)
    simp only [List.getLast?_concat, Option.any_some, noBeing, Bool.false_eq_true, if_false,
      List.getLast?_nil, Option.any_none, ends]
  · have same : front ++ bar :: (init ++ [last]) = front ++ bar :: init ++ [last] := by simp
    rw [same]
    simp only [List.getLast?_concat, List.dropLast_concat, ends]
    rw [List.append_assoc, List.cons_append, ends]

/-- Behind such a token the row limit is read as if the tokens stood alone. -/
theorem limitBehind_behind {front before : List Token} {bar : Token}
    (spares : scope.index.Spares front bar)
    (closed : before ≠ [] ∨ bar.isWordIn beingWords = false) (tokens : List Token) :
    scope.limitBehind (front ++ bar :: before) tokens =
      (scope.limitBehind before tokens).map fun (n, left) => (n, front ++ bar :: left) := by
  induction tokens generalizing before with
  | nil => rfl
  | cons t rest ih =>
      have passed := @ih (before ++ [t]) (.inl (by simp))
      have same : front ++ bar :: before ++ [t] = front ++ bar :: (before ++ [t]) := by simp
      simp only [limitBehind, followsField_behind spares closed, same, passed]
      cases afterAnyPhrase? limitMarkers (t :: rest) with
      | none => rfl
      | some behind =>
          dsimp only
          split
          · rfl
          · cases behind with
            | nil => dsimp only; split <;> rfl
            | cons u after =>
                dsimp only
                split
                · cases limit u.raw <;> simp [Except.map]
                · split <;> rfl

/-- A keyword of a column with a condition behind it, of which neither a longer keyword
nor the sort block nor the row limit takes anything. -/
structure Filters (scope : Scope) (phrase own : List Token) (field : String) (node : Node) :
    Prop where
  keyword : scope.report.Spells phrase (some field)
  longest : ∀ t ∈ own.head?, ∀ keys ∈ scope.index.phrases, ¬ phrase.map (·.key) ++ [t.key] <+: keys
  condition : scope.condition? field false own = .ok (some (node, []))
  unsorted : scope.sorting (phrase ++ own) = .ok ([], phrase ++ own)
  unlimited : scope.rowLimit (phrase ++ own) = .ok (none, phrase ++ own)

variable {phrase own : List Token} {node : Node}

theorem Filters.names (filters : scope.Filters phrase own field node)
    (lists : scope.HasFieldLists) : scope.Names phrase field own.head? :=
  names_of_holds lists.clear lists.holds filters.keyword filters.longest

/-- It becomes one more condition. -/
theorem Filters.mentions_eq (filters : scope.Filters phrase own field node)
    (lists : scope.HasFieldLists) (conditions : List (Node × Bool)) :
    scope.mentions { conditions } (phrase ++ own) =
      .ok { conditions := conditions ++ [(node, false)] } := by
  have mentioned : scope.mention { conditions } field own =
      .ok ({ conditions := conditions ++ [(node, false)] }, []) := by
    simp only [mention, filters.condition, Bool.false_eq_true, if_false]
    rfl
  rw [(filters.names lists).mentions_eq, mentioned, Except.bind, mentions]

/-- Alone it is read as this condition. -/
theorem Filters.readTokens_eq (filters : scope.Filters phrase own field node)
    (lists : scope.HasFieldLists) :
    scope.readTokens (phrase ++ own) = .ok
      { domain := scope.domain
        main := Group.empty.addNode node
        report := some scope.report.name } := by
  have read := filters.mentions_eq lists []
  rw [Scope.readTokens_eq filters.unsorted filters.unlimited, read]
  rfl

/-- A clause is a keyword with its own condition. -/
theorem filters_of_states (lists : scope.HasFieldLists) (unruled : scope.rules = {}) {c : Clause}
    (states : c.States scope.report) :
    scope.Filters c.phrase [c.sign, c.literal] c.predicate.field (.predicate c.predicate) := by
  obtain ⟨comparison, column, value, known, found, binds, test⟩ := states.test
  obtain ⟨searchesNot, isSign⟩ := compares_of_lookup known
  have isValue : scope.IsValue c.literal [] := .of_quoted states.quoted []
  have free : ∀ t ∈ c.phrase ++ [c.sign, c.literal], t.isWordIn blockHeads = false := by
    intro t member
    rcases List.mem_append.mp member with own | behind
    · exact free_of_plain (plain_of_spells lists.clear states.keyword) t own
    · rcases List.mem_pair.mp behind with rfl | rfl
      · exact isWordIn_of_kind (by simp [states.sign.1]) _
      · exact isWordIn_of_quoted states.quoted _
  refine ⟨states.keyword, ?_, ?_, sorting_of_unmarked (unmarked_of_free free (by decide)
    (by decide) []), rowLimit_of_unmarked (unmarked_of_free free (by decide) (by decide) [])⟩
  · rintro t ⟨⟩ keys registered goesOn
    refine lists.unreserved keys registered c.sign.key (goesOn.subset (by simp)) ?_
    simp only [reservedKeys, List.mem_append]
    exact .inr (states.sign.2.symm ▸ isSign)
  · have redirected : scope.rules.redirect c.predicate.field c.literal scope.report =
        c.predicate.field := by rw [unruled]
    have concluded := conclude_compared searchesNot isValue.noPattern redirected found
      c.predicate.field_ne binds
    have alone : scope.furtherValues false [] = ([], []) := by rw [furtherValues]
    have read := condition?_compared (.sign states.sign.1 known) isValue c.predicate.field false
    rw [List.singleton_append, alone, concluded, unruled, ← test] at read
    exact read

/-! ## Whole requests -/

/-- Keywords that can stand in front of a list of values: `in` belongs to none of them, and
no phrase goes on from a main keyword to a column. -/
structure HasValueLists (scope : Scope) : Prop extends scope.HasFieldLists where
  spared : ∀ keys ∈ scope.index.phrases, ∀ key ∈ keys, key ∉ ["in"]
  apart : ∀ main ∈ registrationsOf scope.report, main.entry.field = none →
    ∀ column ∈ registrationsOf scope.report, column.entry.field ≠ none →
      ∀ keys ∈ scope.index.phrases, ¬ main.keys ++ column.keys.take 1 <+: keys

section Requests

variable {main : List Token} {bar : Token}
variable (lists : scope.HasValueLists) (spells : scope.report.Spells main none)
  (keyword : scope.report.Spells phrase (some field)) (isIn : word.isWordIn ["in"] = true)
  (quoted : l.IsQuoted)

include lists spells keyword isIn quoted

/-- No sort block and no row limit begins in a list of values. -/
theorem free_of_value_list :
    ∀ t ∈ main ++ phrase ++ word :: l.tokens, t.isWordIn blockHeads = false := by
  intro t member
  rcases List.mem_append.mp member with member | member
  · rcases List.mem_append.mp member with member | member
    · exact free_of_plain (plain_of_spells lists.clear spells) t member
    · exact free_of_plain (plain_of_spells lists.clear keyword) t member
  · rcases List.mem_cons.mp member with rfl | member
    · exact isWordIn_of_apart isIn (by decide)
    · rcases List.mem_cons.mp member with rfl | member
      · exact isWordIn_of_quoted quoted.first _
      · obtain ⟨⟨separator, v⟩, own, member⟩ := List.mem_flatMap.mp member
        obtain ⟨separates, kind⟩ : SeparatesMembers separator ∧ v.kind = .quoted :=
          quoted.more _ own
        rcases List.mem_pair.mp member with rfl | rfl
        · rcases separates with comma | word
          · exact isWordIn_of_kind (by simp [comma]) _
          · exact isWordIn_of_apart word (by decide)
        · exact isWordIn_of_quoted kind _

variable (unruled : scope.rules = {}) (found : scope.report.column? field = some column)
  (named : field ≠ "") (binds : List.Forall₂ (fun v value => bound column field false v = .ok value)
    l.values (value :: values))

include unruled found named binds

/-- A list of values becomes the first condition of a request. -/
theorem mentions_value_list (stops : scope.furtherValues true behind = ([], behind)) :
    scope.mentions {} (main ++ phrase ++ word :: (l.tokens ++ behind)) =
      scope.mentions { conditions := [(.predicate ⟨field, .oneOf value values, named⟩, false)] }
        behind := by
  have names : scope.Names phrase field (word :: (l.tokens ++ behind)).head? := by
    refine names_of_holds lists.clear lists.holds keyword ?_
    rintro _ ⟨⟩ keys registered goesOn
    exact lists.spared keys registered word.key (goesOn.subset (by simp)) (isWordIn_iff.mp isIn).2
  have first : (phrase ++ word :: (l.tokens ++ behind)).head? = phrase.head? :=
    List.head?_append_of_ne_nil phrase names.ends.ne_nil
  have asks : scope.Asks main (phrase ++ word :: (l.tokens ++ behind)).head? :=
    first ▸ asks_of_apart lists.clear lists.holds lists.apart spells keyword
  have read := condition?_in isIn quoted stops field false
  rw [conclude_in unruled found named quoted binds] at read
  rw [List.append_assoc, asks.mentions_eq, names.mentions_eq]
  simp only [mention, Bool.false_eq_true, if_false, read]
  rfl

/-- A list of values at the end of a request is read as its condition, and nothing else. -/
theorem readTokens_listed_values :
    scope.readTokens (main ++ phrase ++ word :: l.tokens) = .ok
      { domain := scope.domain
        main := ⟨[⟨field, .oneOf value values, named⟩], [], .and, false⟩
        report := some scope.report.name } := by
  have free := free_of_value_list lists spells keyword isIn quoted
  have stops : scope.furtherValues true [] = ([], []) := by rw [furtherValues]
  have read := mentions_value_list lists spells keyword isIn quoted unruled found named binds stops
  rw [List.append_nil] at read
  rw [readTokens_unmarked (unmarked_of_free free (by decide) (by decide) [])
    (unmarked_of_free free (by decide) (by decide) []), read, mentions]
  rfl

/-- Behind the list and a separator, a keyword and what it takes nothing of is read on. -/
theorem readTokens_behind_list (separates : Separates bar)
    (noValue : scope.value? behind = none)
    (next : ∀ t ∈ behind.head?, t.key ≠ "zwar") (unsorted : scope.sorting behind = .ok ([], behind))
    (unlimited : scope.rowLimit behind = .ok (none, behind)) :
    scope.readTokens (main ++ phrase ++ word :: (l.tokens ++ bar :: behind)) =
      (scope.mentions
        { conditions := [(.predicate ⟨field, .oneOf value values, named⟩, false)] } behind).map
          fun s =>
            { domain := scope.domain
              main := gathered s.conditions
              projections := s.projections
              report := some scope.report.name } := by
  have free : ∀ t ∈ main ++ phrase ++ word :: l.tokens ++ [bar], t.isWordIn blockHeads = false := by
    intro t member
    rcases List.mem_append.mp member with member | last
    · exact free_of_value_list lists spells keyword isIn quoted t member
    · rw [List.mem_singleton.mp last]
      exact separates.isWordIn_eq_false (by decide)
  have split : main ++ phrase ++ word :: (l.tokens ++ bar :: behind) =
      main ++ phrase ++ word :: l.tokens ++ [bar] ++ behind := by simp
  have bars : ∀ keys ∈ scope.index.phrases, bar.key ∉ keys := fun keys registered member =>
    lists.spare keys registered bar.key member separates.mem_listKeys
  have noBeing : bar.isWordIn beingWords = false := separates.isWordIn_eq_false (by decide)
  have sorted : scope.sorting (main ++ phrase ++ word :: l.tokens ++ [bar] ++ behind) =
      .ok ([], main ++ phrase ++ word :: l.tokens ++ [bar] ++ behind) := by
    rw [sorting_unmarked (unmarked_of_free free (by decide) (by decide) behind), unsorted]
    rfl
  have limited : scope.rowLimit (main ++ phrase ++ word :: l.tokens ++ [bar] ++ behind) =
      .ok (none, main ++ phrase ++ word :: l.tokens ++ [bar] ++ behind) := by
    rw [rowLimit, limitBehind_unmarked (unmarked_of_free free (by decide) (by decide) behind),
      List.nil_append,
      limitBehind_behind (Index.spares_of_unregistered bars _) (.inr noBeing) behind]
    rw [rowLimit] at unlimited
    rw [unlimited]
    simp [Except.map]
  have stops := furtherValues_of_value? noValue true bar
  have separated (s : Progress) : scope.mentions s ([bar] ++ behind) = scope.mentions s behind :=
    mentions_separators (by simpa using separates) next s
  rw [List.singleton_append] at separated
  rw [split, readTokens_eq sorted limited, ← split,
    mentions_value_list lists spells keyword isIn quoted unruled found named binds stops, separated]

end Requests

end Scope

end Request


namespace Predicate

variable {r : Report} {p : Predicate} {column : Column} {value : Scalar} {values : List Scalar}

/-- A list of values is rendered with a place for each of them, which is bound to it. -/
theorem render_oneOf (spares : r.SparesPlaces) (found : r.column? p.field = some column)
    (test : p.test = .oneOf value values) (takes : ∀ v ∈ value :: values, column.takes v = true) :
    p.sqlText r = p.test.operand column ++ " IN (" ++
        ", ".intercalate (p.test.values.map fun _ => "?") ++ ")" ∧
      (p.sqlText r).toList.count '?' = p.test.values.length ∧
      Rendering.Binds (p.render r) (p.sqlText r) (p.test.values.map (column.bind true)) := by
  have bound : p.boundValues r = p.test.values.map (column.bind true) := by
    rw [boundValues, found, test]
    rfl
  refine ⟨?_, ?_, ?_⟩
  · have opened : " IN (?" = " IN (" ++ "?" := rfl
    simp only [sqlText, found, test, Test.text_eq, Test.values, Test.intercalate_places, opened,
      String.append_assoc]
  · have places := (p.fills spares Scalar.asText).places
    rwa [bound, List.length_map, List.length_map] at places
  · rw [← bound]
    refine render_binds (Report.hasField_of_column? found) fun other lookup => ?_
    rw [found] at lookup
    cases lookup
    rwa [test]

end Predicate

namespace Catalogue

open Request Keyword

/-- What opens conditions and belongs to no keyword of the catalogue: all words of operators
but `bis`, all signs and the negations. -/
def freeOperators : List String :=
  (operatorWords ++ negatingWords).filter (· ≠ "bis") ++ comparingSigns.map (·.1)

/-- In the catalogue these words belong to no keyword. -/
theorem unregistered_of_operators {index : Index} (shared : ∀ r ∈ index.reports, r ∈ allReports)
    {key : String} (free : key ∈ freeOperators) : ∀ keys ∈ index.phrases, key ∉ keys := by
  have codes {r : Report} (known : r ∈ allReports) : r.codedKeywords.all (fun k =>
      k.keys.all fun key => !(freeOperators.map keyCode).any (Nat.beq key)) = true := by
    simp only [Report.codedKeywords, phraseCodes, ← bytewise_eq]
    rcases (List.mem_pair.mp known : r = Cover.report ∨ r = Schaden.report) with rfl | rfl
    · decide +kernel
    · decide +kernel
  intro keys registered member
  obtain ⟨r, known, entry, entered, rfl⟩ := Index.mem_phrases_iff.mp registered
  exact Report.spares_of_codes (codes (shared r known)) entry entered _ member free

/-- No keyword of the catalogue goes on from a main keyword of a report to a column of it. -/
theorem apart {r other : Report} (member : r ∈ allReports) (member' : other ∈ allReports) :
    ∀ main ∈ registrationsOf r, main.entry.field = none →
      ∀ column ∈ registrationsOf r, column.entry.field ≠ none →
        ∀ longer ∈ registrationsOf other, ¬ main.keys ++ column.keys.take 1 <+: longer.keys := by
  by_cases own : other = r
  · exact own ▸ (hasClearKeywords r member).apart
  · refine Report.apart_of_codes ?_
    simp only [Report.codedKeywords, phraseCodes, ← bytewise_eq]
    rcases (List.mem_pair.mp member : r = Cover.report ∨ r = Schaden.report) with rfl | rfl
    · obtain rfl := (List.mem_pair.mp member').resolve_left own
      decide +kernel
    · obtain rfl := (List.mem_pair.mp member').resolve_right own
      decide +kernel

/-- A request for a report of the catalogue, with the keywords of more of them, can have a
list of values. -/
theorem hasValueLists {scope : Scope} (known : scope.report ∈ allReports)
    (indexed : scope.report ∈ scope.index.reports)
    (shared : ∀ r ∈ scope.index.reports, r ∈ allReports) : scope.HasValueLists where
  toHasFieldLists := hasFieldLists known indexed shared
  spared := by
    intro keys registered key member listed
    obtain rfl := List.mem_singleton.mp listed
    exact unregistered_of_operators shared (by decide) keys registered member
  apart := by
    intro main member noField column member' field keys registered
    obtain ⟨r, own, entry, member'', rfl⟩ := Index.mem_phrases_iff.mp registered
    exact apart known (shared r own) main member noField column member' field entry member''

/-- In a request for a report of the catalogue, a list of quoted texts behind a keyword of a
column and `in` is read whole, as one predicate with the values that the column takes them
for. What is a keyword of a column with its own condition alone, is the same behind the
list and a comma or `und`. The predicate is rendered with one place for each value. -/
theorem readTokens_value_list {scope : Scope} (known : scope.report ∈ allReports)
    (indexed : scope.report ∈ scope.index.reports)
    (shared : ∀ r ∈ scope.index.reports, r ∈ allReports) (unruled : scope.rules = {})
    {main phrase : List Token} {field : String} {column : Column}
    (spells : scope.report.Spells main none) (keyword : scope.report.Spells phrase (some field))
    (found : scope.report.column? field = some column) {word : Token}
    (isIn : word.isWordIn ["in"] = true) {l : ValueList} (quoted : l.IsQuoted)
    (convertible : ∀ v ∈ l.values, ∃ value, bound column field false v = .ok value) :
    ∃ p : Predicate, p.field = field ∧ p.test.operator = .oneOf ∧
      List.Forall₂ (fun v value => bound column field false v = .ok value) l.values
        p.test.values ∧
      scope.readTokens (main ++ phrase ++ word :: l.tokens) = .ok
        { domain := scope.domain
          main := ⟨[p], [], .and, false⟩
          report := some scope.report.name } ∧
      (∀ separator, Separates separator → ∀ phrase' own field' node,
        scope.Filters phrase' own field' node →
          scope.readTokens (phrase' ++ own) = .ok
            { domain := scope.domain
              main := Group.empty.addNode node
              report := some scope.report.name } ∧
          scope.readTokens (main ++ phrase ++ word :: (l.tokens ++ separator :: (phrase' ++ own))) =
            .ok
              { domain := scope.domain
                main := Group.addNode ⟨[p], [], .and, false⟩ node
                report := some scope.report.name }) ∧
      p.sqlText scope.report = p.test.operand column ++ " IN (" ++
        ", ".intercalate (l.values.map fun _ => "?") ++ ")" ∧
      (p.sqlText scope.report).toList.count '?' = l.values.length ∧
      Rendering.Binds (p.render scope.report) (p.sqlText scope.report)
        (p.test.values.map (column.bind true)) := by
  have lists := hasValueLists known indexed shared
  have named : field ≠ "" := by
    have all : ∀ r ∈ allReports, r.IsNamed := by decide +kernel
    exact (all _ known).ne_empty (Report.hasField_of_column? found)
  obtain ⟨converted, -, binds⟩ := mapM_forall₂ (R := fun v value =>
    bound column field false v = .ok value) fun v member =>
      (convertible v member).imp fun value binds => ⟨binds, binds⟩
  cases converted with
  | nil => cases binds
  | cons value values =>
      have takes : ∀ v ∈ value :: values, column.takes v = true := by
        intro v member
        obtain ⟨t, -, own⟩ := mem_of_mapM (mapM_eq_ok_iff.mpr binds) v member
        exact takes_of_bound own
      have rendered := Predicate.render_oneOf (sparesPlaces _ known).1
        (p := ⟨field, .oneOf value values, named⟩) found rfl takes
      have places : (l.values.map fun _ => "?") = (value :: values).map fun _ => "?" := by
        rw [List.map_const', List.map_const', binds.length_eq]
      refine ⟨⟨field, .oneOf value values, named⟩, rfl, rfl, binds, ?_, ?_, ?_, ?_, rendered.2.2⟩
      · exact Scope.readTokens_listed_values lists spells keyword isIn quoted unruled found named
          binds
      · intro separator separates phrase' own field' node filters
        have names := filters.names lists.toHasFieldLists
        refine ⟨filters.readTokens_eq lists.toHasFieldLists, ?_⟩
        rw [Scope.readTokens_behind_list lists spells keyword isIn quoted unruled found named binds
          separates (Scope.value?_of_ends names.ends filters.keyword.word)
          (Scope.head?_ne_zwar_of_spells lists.toHasFieldLists filters.keyword own)
          filters.unsorted filters.unlimited, filters.mentions_eq lists.toHasFieldLists]
        rfl
      · rw [places]
        exact rendered.1
      · rw [binds.length_eq]
        exact rendered.2.1

/-- Contracts with one of two numbers, and of one company. -/
theorem readTokens_value_list_contracts :
    ∃ query p, ({ report := Cover.report, index := .of [Cover.report] } : Scope).readTokens
        [⟨"Verträge", "vertraege", .word⟩, ⟨"VSN", "vsn", .word⟩, ⟨"in", "in", .word⟩,
          ⟨"A", "a", .quoted⟩, ⟨"oder", "oder", .word⟩, ⟨"B", "b", .quoted⟩,
          ⟨"und", "und", .word⟩, ⟨"Firma", "firma", .word⟩, ⟨"=", "=", .operator⟩,
          ⟨"C", "c", .quoted⟩] = .ok query ∧
      query.main =
        ⟨[p, ⟨"firma", .compare .equals (.text "C"), by decide⟩], [], .and, false⟩ ∧
      p.field = "vsn" ∧ p.test.values = [.text "A", .text "B"] ∧
      (p.sqlText Cover.report).toList.count '?' = 2 := by
  let scope : Scope := { report := Cover.report, index := .of [Cover.report] }
  have known : scope.report ∈ allReports := List.mem_cons_self
  have indexed : scope.report ∈ scope.index.reports := List.mem_cons_self
  have shared : ∀ r ∈ scope.index.reports, r ∈ allReports := of_mem_single known
  let l : ValueList :=
    ⟨⟨"A", "a", .quoted⟩, [(⟨"oder", "oder", .word⟩, ⟨"B", "b", .quoted⟩)]⟩
  have quoted : l.IsQuoted := by
    refine ⟨rfl, fun entry member => ?_⟩
    rw [List.mem_singleton.mp member]
    exact ⟨.inr (by decide), rfl⟩
  let column := (Cover.report.column? "vsn").get (by decide +kernel)
  have found : Cover.report.column? "vsn" = some column := (Option.some_get _).symm
  have first : bound column "vsn" false ⟨"A", "a", .quoted⟩ = .ok (.text "A") := by decide +kernel
  have second : bound column "vsn" false ⟨"B", "b", .quoted⟩ = .ok (.text "B") := by
    decide +kernel
  have convertible : ∀ v ∈ l.values, ∃ value, bound column "vsn" false v = .ok value := by
    intro v member
    rcases List.mem_pair.mp member with rfl | rfl
    · exact ⟨_, first⟩
    · exact ⟨_, second⟩
  have company : Clause.States ⟨[⟨"Firma", "firma", .word⟩], ⟨"=", "=", .operator⟩,
      ⟨"C", "c", .quoted⟩, ⟨"firma", .compare .equals (.text "C"), by decide⟩⟩ Cover.report :=
    ⟨Cover.spells_firma, ⟨rfl, rfl⟩, rfl, .equals, _, _, by decide, rfl, by decide +kernel, rfl⟩
  have filters := Scope.filters_of_states (hasFieldLists known indexed shared) rfl company
  obtain ⟨p, field, -, binds, -, behind, -, places, -⟩ := readTokens_value_list known indexed
    shared rfl Cover.spells_vertraege Cover.spells_vsn found
    (by decide : (⟨"in", "in", .word⟩ : Token).isWordIn ["in"] = true) quoted convertible
  obtain ⟨-, read⟩ := behind ⟨"und", "und", .word⟩ (.inr (by decide)) _ _ _ _ filters
  refine ⟨_, p, read, rfl, field, ?_, places⟩
  have values := mapM_eq_ok_iff.mpr binds
  have own : l.values.mapM (bound column "vsn" false) = .ok [.text "A", .text "B"] :=
    mapM_eq_ok_iff.mpr (.cons first (.cons second .nil))
  exact Except.ok.inj (values.symm.trans own)

/-- A quoted text that completes a longer keyword is no condition, behind a list no more
than alone: all names are shown, although one is asked for. -/
theorem listed_keyword_swallows_value :
    let scope : Scope := { report := Cover.report, index := .of [Cover.report] }
    Token.ofText "Verträge VSN in \"A\" und Makler \"Name\"" =
      [⟨"Verträge", "vertraege", .word⟩, ⟨"VSN", "vsn", .word⟩, ⟨"in", "in", .word⟩,
        ⟨"A", "a", .quoted⟩, ⟨"und", "und", .word⟩, ⟨"Makler", "makler", .word⟩,
        ⟨"Name", "name", .quoted⟩] ∧
    scope.report ∈ allReports ∧
    scope.report.Spells [⟨"Verträge", "vertraege", .word⟩] none ∧
    scope.report.Spells [⟨"VSN", "vsn", .word⟩] (some "vsn") ∧
    scope.report.Spells [⟨"Makler", "makler", .word⟩] (some "makler_name") ∧
    scope.condition? "makler_name" false [⟨"Name", "name", .quoted⟩] = .ok (some
      (.predicate ⟨"makler_name", .compare .equals (.text "Name"), by decide⟩, [])) ∧
    scope.read "Verträge VSN in \"A\" und Makler \"Name\"" = .ok
      { domain := scope.domain
        main := ⟨[⟨"vsn", .oneOf (.text "A") [], by decide⟩], [], .and, false⟩
        projections := [⟨"makler_name", false, none⟩]
        report := some scope.report.name } := by
  intro scope
  have known : scope.report ∈ allReports := List.mem_cons_self
  have lists : scope.HasValueLists := hasValueLists known List.mem_cons_self (of_mem_single known)
  have tokens : Token.ofText "Verträge VSN in \"A\" und Makler \"Name\"" =
      [⟨"Verträge", "vertraege", .word⟩, ⟨"VSN", "vsn", .word⟩, ⟨"in", "in", .word⟩,
        ⟨"A", "a", .quoted⟩, ⟨"und", "und", .word⟩, ⟨"Makler", "makler", .word⟩,
        ⟨"Name", "name", .quoted⟩] := by decide +kernel
  have broker : scope.report.Spells [⟨"Makler", "makler", .word⟩] (some "makler_name") :=
    Report.spells_of_mem_keywords
      (by decide +kernel : ("makler", some "makler_name") ∈ Cover.report.keywords)
      (by decide +kernel) (by decide) (by decide)
  have name : scope.report.Spells [⟨"Makler", "makler", .word⟩, ⟨"Name", "name", .quoted⟩]
      (some "makler_name") :=
    Report.spells_of_mem_keywords
      (by decide +kernel : ("makler name", some "makler_name") ∈ Cover.report.keywords)
      (by decide +kernel) (by decide) (by decide)
  let column := (Cover.report.column? "makler_name").get (by decide +kernel)
  have found : Cover.report.column? "makler_name" = some column := (Option.some_get _).symm
  have value : bound column "makler_name" false ⟨"Name", "name", .quoted⟩ =
      .ok (.text "Name") := by decide +kernel
  refine ⟨tokens, known, Cover.spells_vertraege, Cover.spells_vsn, broker, ?_, ?_⟩
  · have alone : scope.furtherValues false [] = ([], []) := by rw [Scope.furtherValues]
    rw [Scope.condition?_quoted scope rfl, alone,
      Scope.conclude_quoted rfl found (by decide) rfl, value]
    rfl
  · let l : ValueList := ⟨⟨"A", "a", .quoted⟩, []⟩
    have quoted : l.IsQuoted := ⟨rfl, fun _ member => absurd member List.not_mem_nil⟩
    let number := (Cover.report.column? "vsn").get (by decide +kernel)
    have isColumn : Cover.report.column? "vsn" = some number := (Option.some_get _).symm
    have binds : List.Forall₂ (fun v value => bound number "vsn" false v = .ok value) l.values
        [.text "A"] := .cons (by decide +kernel) .nil
    have names : scope.Names [⟨"Makler", "makler", .word⟩, ⟨"Name", "name", .quoted⟩]
        "makler_name" ([] : List Token).head? :=
      Scope.names_of_holds lists.clear lists.holds name (by simp)
    have free := Scope.free_of_plain names.plain
    have behind := Scope.readTokens_behind_list lists Cover.spells_vertraege Cover.spells_vsn
      (by decide : (⟨"in", "in", .word⟩ : Token).isWordIn ["in"] = true) quoted rfl isColumn
      (by decide) binds (.inr (by decide) : Separates ⟨"und", "und", .word⟩)
      (Scope.value?_of_ends names.ends name.word) (by simp)
      (Scope.sorting_of_unmarked (Scope.unmarked_of_free free (by decide) (by decide) []))
      (Scope.rowLimit_of_unmarked (Scope.unmarked_of_free free (by decide) (by decide) []))
    have shown (conditions : List (Node × Bool)) :
        scope.mention { conditions } "makler_name" [] =
          .ok ({ conditions, projections := [⟨"makler_name", false, none⟩] }, []) := rfl
    rw [Scope.read, tokens]
    refine behind.trans ?_
    rw [names.mentions_eq, shown, Except.bind, Scope.mentions]
    rfl

end Catalogue

end Inquiry
