import Inquiry.Proofs.CatalogueKeywords
import Inquiry.Proofs.LimitBehindOrder
import Inquiry.Proofs.Renderable

/-!
# Sort lists

A sort list at the end of a request is a sort marker and columns, each with a word for
its direction or without, separated by commas, `und` or `dann`. No keyword of the
catalogue goes on with any of these words. So the list is read as it is written, and
the rest of the request is read as if the list were not there
(`Catalogue.readTokens_sort_list`).

The statement orders by every column of the list once, as it was mentioned first.
-/

namespace Inquiry

namespace Query

/-! ## The order of a statement -/

/-- Keys whose fields have not been seen, each field once. -/
theorem map_firstKeys (seen : List String) (keys : List SortKey) :
    (firstKeys seen keys).map (·.field) =
      ((keys.map (·.field)).filter fun field => !seen.contains field).eraseDups := by
  induction keys generalizing seen with
  | nil => rfl
  | cons key rest ih =>
      rw [firstKeys, List.map_cons]
      split
      · next known =>
          rw [List.filter_cons_of_neg (by simpa using known), ih]
      · next new =>
          rw [List.filter_cons_of_pos (by simpa using new), List.eraseDups_cons, List.map_cons, ih,
            List.filter_filter]
          congr 3
          funext field
          rw [List.contains_cons, Bool.not_or]

/-- Each key is the first one for its field. -/
theorem find?_of_mem_firstKeys {seen : List String} {keys : List SortKey} {key : SortKey}
    (member : key ∈ firstKeys seen keys) :
    seen.contains key.field = false ∧ keys.find? (·.field == key.field) = some key := by
  induction keys generalizing seen with
  | nil => cases member
  | cons first rest ih =>
      rw [firstKeys] at member
      split at member
      · next known =>
          obtain ⟨new, found⟩ := ih member
          have other : (first.field == key.field) = false := by
            rw [beq_eq_false_iff_ne]
            intro same
            rw [same, new] at known
            cases known
          exact ⟨new, by rw [List.find?_cons_of_neg (by simp [other]), found]⟩
      · next new =>
          rcases List.mem_cons.mp member with rfl | member
          · exact ⟨(Bool.not_eq_true _).mp new, List.find?_cons_of_pos (by simp)⟩
          · obtain ⟨unseen, found⟩ := ih member
            rw [List.contains_cons, Bool.or_eq_false_iff] at unseen
            have other : (first.field == key.field) = false := by
              rw [beq_eq_false_iff_ne]
              exact fun same => absurd same.symm (beq_eq_false_iff_ne.mp unseen.1)
            exact ⟨unseen.2, by rw [List.find?_cons_of_neg (by simp [other]), found]⟩

/-- Entries behind ORDER BY: the expressions of the columns, each with its direction. -/
def Lists (r : Report) (keys : List SortKey) (entries : List String) : Prop :=
  List.Forall₂ (fun (key : SortKey) entry => ∃ column, r.column? key.field = some column ∧
    entry = column.expression ++ " " ++ key.direction.word) keys entries

/-- What is asked for is listed behind ORDER BY, each field where it is mentioned
first. -/
theorem renderOrder_of_sortKeys {q : Query} {r : Report} (asked : q.sortKeys ≠ [])
    (known : ∀ key ∈ q.sortKeys, r.hasField key.field = true) :
    ∃ entries, q.renderOrder r = .ok (", ".intercalate entries) ∧
      Lists r (firstKeys [] q.sortKeys) entries := by
  have chosen : (if q.sortKeys.isEmpty then r.defaultOrder.map (SortKey.mk · .ascending)
      else firstKeys [] q.sortKeys) = firstKeys [] q.sortKeys := by simp [asked]
  have each : ∀ key ∈ firstKeys [] q.sortKeys, ∃ entry,
      (do return (← r.columnOf key.field).expression ++ " " ++ key.direction.word :
        Except Failure String) = .ok entry ∧ ∃ column, r.column? key.field = some column ∧
          entry = column.expression ++ " " ++ key.direction.word := by
    intro key member
    have own := known key ((firstKeys_sublist [] q.sortKeys).subset member)
    obtain ⟨column, found⟩ := Report.columnOf_of_hasField own
    exact ⟨_, by rw [found]; rfl, column, Report.columnOf_ok_iff.mp found, rfl⟩
  obtain ⟨entries, run, lists⟩ := mapM_forall₂ each
  refine ⟨entries, ?_, lists⟩
  simp only [renderOrder, chosen]
  rw [run]
  rfl

end Query

namespace Request

open Keyword

/-! ## Lists of terms -/

/-- The keys of the words and commas that stand behind a phrase in a sort list. -/
def listKeys : List String := directionWords ++ ["und", "dann", ","]

/-- A comma, or a word that separates like a comma. -/
def Separates (t : Token) : Prop := t = ⟨",", ",", .comma⟩ ∨ t.isWordIn ["und", "dann"] = true

/-- A term of a sort list: a keyword of the column that is ordered by, with a word for
its direction or without one. -/
structure SortTerm.Asks (term : SortTerm) (r : Report) : Prop where
  keyword : r.Spells term.phrase (some term.key.field)
  turns : Turns term.turn term.key.direction

theorem SortTerm.Asks.hasField {term : SortTerm} {r : Report} (asks : term.Asks r) :
    r.hasField term.key.field = true := by
  obtain ⟨known, member, -, field⟩ := asks.keyword.registered
  obtain ⟨-, column, entry⟩ := mem_columns_of_registrationsOf member field
  exact Report.hasField_of_mem entry

/-- The tokens of a sort list: a term, and further ones behind separators. -/
def sortList (first : SortTerm) (more : List (List Token × SortTerm)) : List Token :=
  first.tokens ++ more.flatMap fun (separators, term) => separators ++ term.tokens

/-- Further terms that ask for columns of a report, each behind separators. -/
def Continues (more : List (List Token × SortTerm)) (r : Report) : Prop :=
  ∀ entry ∈ more, entry.1 ≠ [] ∧ (∀ t ∈ entry.1, Separates t) ∧ entry.2.Asks r

theorem Turns.mem_listKeys {t : Token} {d : Direction} (turns : Turns (some t) d) :
    t.key ∈ listKeys := by
  have ascends : ascendingWords ⊆ listKeys := by decide
  have descends : descendingWords ⊆ listKeys := by decide
  cases turns with
  | ascending word => exact ascends (isWordIn_iff.mp word).2
  | descending word => exact descends (isWordIn_iff.mp word).2

theorem Separates.mem_listKeys {t : Token} (separates : Separates t) : t.key ∈ listKeys := by
  have words : ["und", "dann"] ⊆ listKeys := by decide
  rcases separates with rfl | word
  · decide
  · exact words (isWordIn_iff.mp word).2

theorem Separates.separatesSortKeys_eq {t : Token} (separates : Separates t) :
    separatesSortKeys t = true := by
  rcases separates with rfl | word
  · rfl
  · rw [separatesSortKeys, word, Bool.or_true]

namespace Scope

variable {scope : Scope} {first : SortTerm} {more : List (List Token × SortTerm)}

/-- Keywords that are clear and with which no sort list gets mixed up: no phrase has a
word that stands behind one in a list, and no phrase for a column begins with an
article. -/
structure HasListKeywords (scope : Scope) : Prop where
  holds : scope.index.Holds scope.report
  clear : scope.report.HasClearKeywords
  spare : ∀ keys ∈ scope.index.phrases, ∀ key ∈ keys, key ∉ listKeys
  opens : ∀ known ∈ registrationsOf scope.report, ∀ key ∈ known.keys.head?, key ∉ articles

/-- A term of a list is read as its sort key in front of what stands behind terms. -/
theorem orders_of_asks (listable : scope.HasListKeywords) (asks : first.Asks scope.report)
    {next : Option Token} (ends : ∀ t ∈ next, t.key ∈ listKeys) : scope.Orders first next := by
  obtain ⟨known, member, keys, -⟩ := asks.keyword.registered
  have registered := registered_of_spells listable.holds.mem asks.keyword
  refine ⟨⟨registered, fun t head => by simp [asks.keyword.word t head], ?_⟩,
    head?_fieldsOf_of_spells listable.clear listable.holds asks.keyword, ?_, asks.turns⟩
  · intro t behind longer known goesOn
    have listed : t.key ∈ listKeys := by
      cases turn : first.turn with
      | none => exact ends t (by simpa [turn] using behind)
      | some u =>
          obtain rfl : u = t := by simpa [turn] using behind
          exact (turn ▸ asks.turns).mem_listKeys
    exact listable.spare longer known t.key (goesOn.subset (by simp)) listed
  · intro t head
    have own : t.key ∈ known.keys.head? := by
      rw [keys, List.head?_map, Option.mem_def.mp head]
      rfl
    rw [Bool.eq_false_iff]
    intro isWord
    rcases List.mem_append.mp (isWordIn_iff.mp isWord).2 with article | separator
    · exact listable.opens known member t.key own article
    · have words : ["und", "dann"] ⊆ listKeys := by decide
      refine listable.spare _ registered t.key ?_ (words separator)
      exact List.mem_map_of_mem (List.mem_of_mem_head? head)

/-- A sort list is a sort block with nothing behind it. -/
theorem block_of_asks (listable : scope.HasListKeywords) (asks : first.Asks scope.report)
    (continues : Continues more scope.report) :
    ∃ last init, scope.Block last none init (sortList first more) ∧
      init ++ [last.key] = first.key :: more.map (·.2.key) := by
  induction more generalizing first with
  | nil =>
      refine ⟨first, [], ?_, rfl⟩
      rw [sortList, List.flatMap_nil, List.append_nil]
      exact .last (orders_of_asks listable asks (by simp))
  | cons entry more ih =>
      obtain ⟨separators, term⟩ := entry
      obtain ⟨ne, separate, asked⟩ := continues _ List.mem_cons_self
      obtain ⟨last, init, block, keys⟩ := ih asked
        fun entry member => continues entry (List.mem_cons_of_mem _ member)
      have orders : scope.Orders first separators.head? := orders_of_asks listable asks
        fun t head => (separate t (List.mem_of_mem_head? head)).mem_listKeys
      refine ⟨last, first.key :: init, ?_, by rw [List.cons_append, keys]; rfl⟩
      have tokens : sortList first ((separators, term) :: more) =
          first.tokens ++ separators ++ sortList term more := by simp [sortList]
      rw [tokens]
      exact .more orders ne (fun t member => (separate t member).separatesSortKeys_eq) block

/-- A sort list at the end of a request is read as it is written, and the rest of the
request as if the list were not there. -/
theorem readTokens_sortList (listable : scope.HasListKeywords) {front mark : List Token}
    (unsorted : Unmarked sortMarkers front []) {marker : List String}
    (sorts : marker ∈ sortMarkers) (spelt : Spelt marker mark) (asks : first.Asks scope.report)
    (continues : Continues more scope.report) :
    scope.readTokens (front ++ mark ++ sortList first more) =
      (scope.readTokens front).map fun query =>
        { query with sortKeys := first.key :: more.map (·.2.key) } := by
  obtain ⟨last, init, block, keys⟩ := block_of_asks listable asks continues
  have read : scope.sortKeys (sortList first more) = .ok (init ++ [last.key], []) := by
    have read := @Block.sortKeys_eq scope last [] _ _ block rfl rfl (by simp [startsCondition])
    rwa [List.append_nil] at read
  have sorted := scope.sorting_marked unsorted sorts spelt (sortList first more)
  rw [read, keys, ← List.append_assoc] at sorted
  simp only [Except.map, List.append_nil] at sorted
  have alone := scope.sorting_of_unmarked unsorted
  simp only [readTokens, sorted, alone, bind, Except.bind]
  cases scope.rowLimit front with
  | error failure => rfl
  | ok limited =>
      dsimp only
      cases scope.mentions {} limited.2 <;> rfl

end Scope

end Request

namespace Catalogue

open Request

/-! ## The catalogue -/

/-- Whether keywords have none of the words that stand in lists, and the ones for columns
no article in front, by their numbers. -/
def areListable (known : List CodedKeyword) (listed heads : List Nat) : Bool :=
  known.all fun k =>
    k.keys.all (fun key => !listed.any (Nat.beq key)) &&
      k.keys.head?.all fun key => !heads.any (Nat.beq key)

/-- The keywords of all reports of the catalogue can stand in a sort list. -/
theorem listable {r : Report} (member : r ∈ allReports) :
    ∀ known ∈ Keyword.registrationsOf r,
      (∀ key ∈ known.keys, key ∉ listKeys) ∧ ∀ key ∈ known.keys.head?, key ∉ articles := by
  have codes : areListable r.codedKeywords (listKeys.map keyCode) (articles.map keyCode) =
      true := by
    simp only [Report.codedKeywords, phraseCodes, ← bytewise_eq]
    rcases (List.mem_pair.mp member : r = Cover.report ∨ r = Schaden.report) with rfl | rfl
    · decide +kernel
    · decide +kernel
  simp only [areListable, List.all_eq_true, Option.all_eq_true, Bool.and_eq_true,
    Bool.not_eq_true'] at codes
  intro known registered
  obtain ⟨spare, opens⟩ := codes _ (mem_codedKeywords registered)
  refine ⟨fun key own => not_mem_of_codes (spare _ (List.mem_map_of_mem own)),
    fun key own => not_mem_of_codes (opens _ ?_)⟩
  rw [CodedKeyword.of, List.head?_map, Option.mem_def.mp own]
  rfl

/-- Reports of the catalogue are told apart by their numbers. -/
theorem eq_of_number_eq {r other : Report} (member : r ∈ allReports) (member' : other ∈ allReports)
    (same : other.number = r.number) : other = r := by
  have apart : Schaden.report.number ≠ Cover.report.number := by decide
  rcases List.mem_pair.mp member with rfl | rfl
  · exact (List.mem_pair.mp member').resolve_right fun claims => apart (claims ▸ same)
  · exact (List.mem_pair.mp member').resolve_left fun covers => apart.symm (covers ▸ same)

/-- A request for a report of the catalogue, with the keywords of more of them, can end
with a sort list. -/
theorem hasListKeywords {scope : Scope} (known : scope.report ∈ allReports)
    (indexed : scope.report ∈ scope.index.reports)
    (shared : ∀ r ∈ scope.index.reports, r ∈ allReports) : scope.HasListKeywords where
  holds := ⟨indexed, fun _ member => eq_of_number_eq known (shared _ member)⟩
  clear := hasClearKeywords _ known
  spare := by
    intro keys registered
    obtain ⟨r, own, entry, member, rfl⟩ := Keyword.Index.mem_phrases_iff.mp registered
    exact (listable (shared r own) entry member).1
  opens := fun entry member => (listable known entry member).2

/-- A request for a report of the catalogue that ends with a sort list is read like the
request in front of the list, and the list as it is written. The statement orders by each
column of the list once, in the direction in which it is mentioned first. -/
theorem readTokens_sort_list {scope : Scope} (known : scope.report ∈ allReports)
    (indexed : scope.report ∈ scope.index.reports)
    (shared : ∀ r ∈ scope.index.reports, r ∈ allReports)
    {front mark : List Token} (unsorted : Unmarked sortMarkers front [])
    {marker : List String} (sorts : marker ∈ sortMarkers) (spelt : Spelt marker mark)
    {first : SortTerm} {more : List (List Token × SortTerm)} (asks : first.Asks scope.report)
    (continues : Continues more scope.report) :
    scope.readTokens (front ++ mark ++ sortList first more) =
        (scope.readTokens front).map (fun query =>
          { query with sortKeys := first.key :: more.map (·.2.key) }) ∧
      ∀ query, scope.readTokens (front ++ mark ++ sortList first more) = .ok query →
        ∃ listed entries, query.renderOrder scope.report = .ok (", ".intercalate entries) ∧
          Query.Lists scope.report listed entries ∧
          listed.map (·.field) =
            ((first.key :: more.map (·.2.key)).map (·.field)).eraseDups ∧
          ∀ key ∈ listed,
            (first.key :: more.map (·.2.key)).find? (·.field == key.field) = some key := by
  have read := Scope.readTokens_sortList (hasListKeywords known indexed shared) unsorted sorts
    spelt asks continues
  refine ⟨read, fun query result => ?_⟩
  have keys : query.sortKeys = first.key :: more.map (·.2.key) := by
    obtain ⟨alone, -, rfl⟩ := ok_of_map (read.symm.trans result)
    rfl
  have ne : query.sortKeys ≠ [] := keys ▸ List.cons_ne_nil _ _
  have fields : ∀ key ∈ query.sortKeys, scope.report.hasField key.field = true := by
    rw [keys]
    refine List.forall_mem_cons.mpr ⟨asks.hasField, fun key member => ?_⟩
    obtain ⟨entry, own, rfl⟩ := List.mem_map.mp member
    exact (continues entry own).2.2.hasField
  obtain ⟨entries, order, lists⟩ := Query.renderOrder_of_sortKeys ne fields
  refine ⟨_, entries, order, lists, ?_, fun key member => ?_⟩
  · rw [Query.map_firstKeys, keys]
    simp
  · rw [← keys]
    exact (Query.find?_of_mem_firstKeys member).2

/-- Contracts by their number, the last first, and then by name: the number comes up once
more, and the statement does not order by it again. -/
theorem readTokens_sort_list_contracts :
    ∃ query, ({ report := Cover.report, index := .of [Cover.report] } : Scope).readTokens
        [⟨"Verträge", "vertraege", .word⟩,
          ⟨"sortiert", "sortiert", .word⟩, ⟨"nach", "nach", .word⟩,
          ⟨"VSN", "vsn", .word⟩, ⟨"absteigend", "absteigend", .word⟩, ⟨",", ",", .comma⟩,
          ⟨"Firma", "firma", .word⟩, ⟨"und", "und", .word⟩, ⟨"VSN", "vsn", .word⟩] = .ok query ∧
      query.sortKeys =
        [⟨"vsn", .descending⟩, ⟨"firma", .ascending⟩, ⟨"vsn", .ascending⟩] ∧
      ∃ listed entries, query.renderOrder Cover.report = .ok (", ".intercalate entries) ∧
        Query.Lists Cover.report listed entries ∧ listed.map (·.field) = ["vsn", "firma"] := by
  let scope : Scope := { report := Cover.report, index := .of [Cover.report] }
  have known : scope.report ∈ allReports := List.mem_cons_self
  have indexed : scope.report ∈ scope.index.reports := List.mem_cons_self
  have shared : ∀ r ∈ scope.index.reports, r ∈ allReports := of_mem_single known
  have continues : Continues
      [([⟨",", ",", .comma⟩], ⟨[⟨"Firma", "firma", .word⟩], none, ⟨"firma", .ascending⟩⟩),
        ([⟨"und", "und", .word⟩], ⟨[⟨"VSN", "vsn", .word⟩], none, ⟨"vsn", .ascending⟩⟩)]
      Cover.report := by
    intro entry member
    rcases List.mem_pair.mp member with rfl | rfl
    · exact ⟨List.cons_ne_nil _ _, by simp [Separates], Cover.spells_firma, .unsaid⟩
    · exact ⟨List.cons_ne_nil _ _, by simp [Separates, Token.isWordIn], Cover.spells_vsn, .unsaid⟩
  have plain : Plain [⟨"Verträge", "vertraege", .word⟩] := by decide
  have read : scope.mentions {} ([⟨"Verträge", "vertraege", .word⟩] ++ []) = _ :=
    (Scope.asks_of_longest (hasClearKeywords _ known) rfl Cover.spells_vertraege
      (by simp)).mentions_eq {}
  have alone := @Scope.readTokens_plain scope _ plain
  rw [List.append_nil, Scope.mentions] at read
  rw [read] at alone
  obtain ⟨same, order⟩ := readTokens_sort_list known indexed shared
    (plain.unmarked (by decide) (by decide) [])
    (by decide : ["sortiert", "nach"] ∈ sortMarkers)
    (.cons ⟨rfl, rfl⟩ (.cons ⟨rfl, rfl⟩ .nil) : Spelt ["sortiert", "nach"]
      [⟨"sortiert", "sortiert", .word⟩, ⟨"nach", "nach", .word⟩])
    (⟨Cover.spells_vsn, .descending (by decide)⟩ : SortTerm.Asks ⟨[⟨"VSN", "vsn", .word⟩],
      some ⟨"absteigend", "absteigend", .word⟩, ⟨"vsn", .descending⟩⟩ Cover.report)
    continues
  rw [alone] at same
  obtain ⟨listed, entries, rendered, lists, fields, -⟩ := order _ same
  exact ⟨_, same, rfl, listed, entries, rendered, lists, fields.trans (by decide)⟩

end Catalogue

end Inquiry
