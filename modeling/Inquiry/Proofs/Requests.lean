import Inquiry.Proofs.Mentions
import Inquiry.Proofs.Renderable
import Inquiry.Sql.StandIn

/-!
# Requests become well-formed queries

The three passes over a request add their parts to the query: the sort block
and the row limit first, then the mentions with their conditions. Each part is
sound by itself, so a query that is read is well-formed for its report.

A well-formed query can be rendered unless no column is left, or its row limit
needs a SELECT and a blank that the skeleton does not open with.
-/

namespace Inquiry

namespace Request

variable {scope : Scope} {most : Nat}

/-! ## The sort block -/

/-- Fields of the report with tokens behind them that still say something. -/
def Scope.Sorts (scope : Scope) (most : Nat) (read : List SortKey × List Token) : Prop :=
  (∀ key ∈ read.1, scope.report.hasField key.field = true) ∧ Telling most read.2

theorem direction_sublist (tokens : List Token) : (direction tokens).2.Sublist tokens := by
  rw [direction]
  split
  · exact List.drop_sublist 1 tokens
  · split
    · exact List.drop_sublist 1 tokens
    · exact List.Sublist.refl tokens

namespace Scope

theorem matchAt_of_fieldAt {tokens : List Token} {m : Keyword.Match}
    (h : scope.fieldAt tokens = some m) : scope.index.matchAt tokens = some m :=
  (Option.filter_eq_some_iff.mp h).1

theorem IsSound.yields_sortKey (sound : scope.IsSound) {tokens : List Token} {m : Keyword.Match}
    (found : scope.fieldAt tokens = some m) (telling : Telling most tokens) :
    Yields most (fun read => scope.report.hasField read.1.field = true ∧ Telling most read.2)
      (scope.sortKey tokens m) := by
  have field : Yields most _ _ := sound.yields_resolve (matchAt_of_fieldAt found)
  rw [sortKey]
  split
  · next failure heq => exact field.of_error heq
  · next name heq =>
      have behind := (telling.drop m.length).of_sublist (direction_sublist _)
      simp only
      split
      · exact .malformed rfl
      · exact ⟨field.of_ok heq, behind⟩

theorem yields_nextSortKey (scope : Scope) {rest : List Token} (telling : Telling most rest) :
    Yields most (fun next => ∀ tokens, next = some tokens → Telling most tokens)
      (scope.nextSortKey rest) := by
  simp only [nextSortKey]
  split
  · rintro tokens ⟨⟩
  · split
    · split
      · rintro tokens ⟨⟩
      · rintro tokens ⟨rfl⟩
        exact telling.dropWhile _
    · split
      · exact .unresolved rfl
      · rintro tokens ⟨⟩
    · rintro tokens ⟨⟩

theorem IsSound.yields_sortKeys (sound : scope.IsSound) {tokens : List Token}
    (telling : Telling most tokens) : Yields most (scope.Sorts most) (scope.sortKeys tokens) := by
  -- Every further key begins where fewer tokens are left.
  induction hn : tokens.length using Nat.strong_induction_on generalizing tokens with
  | _ n ih =>
      have here : Telling most (tokens.dropWhile (·.isWordIn articles)) := telling.dropWhile _
      have none (left : List Token) (h : Telling most left) : (scope.Sorts most) ([], left) :=
        ⟨fun key member => (List.not_mem_nil member).elim, h⟩
      rw [sortKeys]
      split
      · split
        · split
          · exact .unresolved rfl
          · exact none _ here
        · exact none [] Telling.nil
      · next m found =>
          have first := sound.yields_sortKey found here
          split
          · next failure heq => exact first.of_error heq
          · next key rest heq =>
              obtain ⟨hkey, hrest⟩ := first.of_ok heq
              have next := scope.yields_nextSortKey hrest
              split
              · next failure heq' => exact next.of_error heq'
              · refine ⟨?_, hrest⟩
                intro k member
                rw [List.mem_singleton.mp member]
                exact hkey
              · next more heq' =>
                  have shorter : more.length < n := by
                    have h1 := length_lt_of_sortKey found heq
                    have h2 := length_le_of_nextSortKey heq'
                    have h3 : (tokens.dropWhile (·.isWordIn articles)).length ≤ tokens.length :=
                      (List.dropWhile_sublist _).length_le
                    omega
                  refine (ih more.length shorter (next.of_ok heq' more rfl) rfl).map ?_
                  rintro ⟨keys, left⟩ ⟨hkeys, hleft⟩
                  refine ⟨?_, hleft⟩
                  intro k member
                  rcases List.mem_cons.mp member with rfl | member
                  · exact hkey
                  · exact hkeys k member

theorem IsSound.yields_sorting (sound : scope.IsSound) {tokens : List Token}
    (telling : Telling most tokens) : Yields most (scope.Sorts most) (scope.sorting tokens) := by
  induction tokens with
  | nil => exact ⟨fun key member => (List.not_mem_nil member).elim, telling⟩
  | cons t rest ih =>
      rw [sorting]
      split
      · next behind found =>
          exact sound.yields_sortKeys (telling.of_sublist (afterAnyPhrase?_sublist found))
      · exact (ih telling.tail).map fun read hread => ⟨hread.1, hread.2.cons telling.head⟩

/-! ## The row limit -/

/-- A limit is positive, and it does not have too many digits. -/
theorem yields_limit {t : Token} (telling : t.Tells most) :
    Yields most (fun n => 1 ≤ n ∧ isWritable n = true) (limit t.raw) := by
  rw [limit]
  refine (yields_number telling).bind fun n? writable => ?_
  split
  · next n =>
      split
      · exact .malformed rfl
      · exact ⟨by omega, writable (.whole n) rfl⟩
  · exact .malformed rfl

/-- What is left of the request without its limit still says something. -/
theorem yields_limitBehind (scope : Scope) {before tokens : List Token}
    (told : Telling most before) (telling : Telling most tokens) :
    Yields most
      (fun read => (∀ n, read.1 = some n → 1 ≤ n ∧ isWritable n = true) ∧ Telling most read.2)
      (scope.limitBehind before tokens) := by
  induction tokens generalizing before with
  | nil => exact ⟨fun n h => (Option.some_ne_none n h.symm).elim, told⟩
  | cons t rest ih =>
      have passOver := ih (told.append (Telling.nil.cons telling.head)) telling.tail
      simp only [limitBehind]
      split
      · exact passOver
      · next behind found =>
          have left := telling.of_sublist (afterAnyPhrase?_sublist found)
          split
          · exact passOver
          · split
            · next u after =>
                split
                · refine (yields_limit left.head).map fun n fits => ⟨?_, told.append left.tail⟩
                  rintro _ ⟨rfl⟩
                  exact fits
                · split
                  · exact .malformed rfl
                  · exact passOver
            · split
              · exact .malformed rfl
              · exact passOver

end Scope

/-! ## The conditions -/

/-- Runs are not empty, and they are made of the conditions. -/
theorem mem_runs (conditions : List (Node × Bool)) :
    ∀ run ∈ runs conditions, run ≠ [] ∧ ∀ node ∈ run, ∃ c ∈ conditions, c.1 = node := by
  induction conditions with
  | nil => simp [runs]
  | cons c rest ih =>
      obtain ⟨node, alternative⟩ := c
      have own : ∃ c ∈ (node, alternative) :: rest, c.1 = node := ⟨_, List.mem_cons_self, rfl⟩
      have single : [node] ≠ [] ∧ ∀ n ∈ [node], ∃ c ∈ (node, alternative) :: rest, c.1 = n := by
        refine ⟨List.cons_ne_nil node [], ?_⟩
        intro n hn
        rw [List.mem_singleton.mp hn]
        exact own
      have more (n : Node) (h : ∃ c ∈ rest, c.1 = n) :
          ∃ c ∈ (node, alternative) :: rest, c.1 = n := by
        obtain ⟨c, member, hc⟩ := h
        exact ⟨c, List.mem_cons_of_mem _ member, hc⟩
      intro run member
      rw [runs] at member
      split at member
      · split at member
        · next first others heq =>
            rcases List.mem_cons.mp member with rfl | member
            · refine ⟨List.cons_ne_nil node first, ?_⟩
              intro n hn
              rcases List.mem_cons.mp hn with rfl | hn
              · exact own
              · exact more n ((ih first (heq ▸ List.mem_cons_self)).2 n hn)
            · obtain ⟨nonempty, nodes⟩ := ih run (heq ▸ List.mem_cons_of_mem first member)
              exact ⟨nonempty, fun n hn => more n (nodes n hn)⟩
        · rw [List.mem_singleton.mp member]
          exact single
      · rcases List.mem_cons.mp member with rfl | member
        · exact single
        · obtain ⟨nonempty, nodes⟩ := ih run member
          exact ⟨nonempty, fun n hn => more n (nodes n hn)⟩

/-- The conditions of a request in one group, without empty groups below it. -/
theorem fits_gathered {r : Report} {conditions : List (Node × Bool)}
    (fits : ∀ c ∈ conditions, c.1.Fits r) : (gathered conditions).Fits r := by
  have members : ∀ run ∈ runs conditions, run ≠ [] ∧ ∀ node ∈ run, node.Fits r := by
    intro run member
    obtain ⟨nonempty, nodes⟩ := mem_runs conditions run member
    refine ⟨nonempty, fun node hn => ?_⟩
    obtain ⟨c, hc, rfl⟩ := nodes node hn
    exact fits c hc
  have start : Group.empty.Fits r := Group.fits_empty .and false
  rw [gathered]
  generalize Group.empty = group at start
  generalize runs conditions = all at members
  induction all generalizing group with
  | nil => exact start
  | cons run more ih =>
      obtain ⟨nonempty, nodes⟩ := members run List.mem_cons_self
      rw [List.foldl_cons]
      refine ih _ ?_ fun other member => members other (List.mem_cons_of_mem run member)
      split
      · next node => exact (start.addNode (nodes node List.mem_cons_self)).1
      · exact (start.addNode (Group.fits_of_nodes nodes nonempty .or false)).1

namespace Scope

/-- A request that is read becomes a query that is well-formed. -/
theorem IsSound.yields_readTokens (sound : scope.IsSound) {tokens : List Token}
    (telling : Telling most tokens) :
    Yields most (fun q => q.IsWellFormed scope.report ∧ q.report = some scope.report.name)
      (scope.readTokens tokens) := by
  unfold readTokens rowLimit
  refine (sound.yields_sorting telling).bind ?_
  rintro ⟨sortKeys, tokens⟩ ⟨hkeys, telling⟩
  refine (scope.yields_limitBehind Telling.nil telling).bind ?_
  rintro ⟨limit, tokens⟩ ⟨hlimit, telling⟩
  have start : ({} : Progress).Fits scope.report := by
    constructor <;> exact fun _ member => (List.not_mem_nil member).elim
  refine (sound.yields_mentions start telling).bind fun progress fits => ?_
  have main := fits_gathered fits.conditions
  refine ⟨⟨?_, main.groups, rfl, fits.projections, hkeys, fun n h => (hlimit n h).1,
    fun n h => (hlimit n h).2⟩, rfl⟩
  intro p member
  apply main.predicates p
  simpa [Query.allPredicates, Query.filters, Group.allPredicatesOf] using member

/-- The rules of every domain respect a report whose countries agree. -/
theorem isSound_of_rules (named : scope.report.IsNamed) (holds : scope.index.Holds scope.report)
    (rules : scope.rules = {} ∨ scope.rules = .cover ∧ scope.report.CountriesAgree) :
    scope.IsSound := by
  refine ⟨named, ?_, holds⟩
  rcases rules with none | ⟨cover, agree⟩
  · rw [none]
    exact Rules.respect_none scope.report
  · rw [cover]
    exact Rules.respect_cover agree

/-- Every query that is read is well-formed for the report that it was read for.
So its statement can only fail because no column is left to show, or because a
row limit has to stand behind a SELECT that the skeleton does not open with. -/
theorem isWellFormed_of_read (place : .conditions ∈ scope.report.skeleton)
    (defaults : ∀ field ∈ scope.report.defaultOrder, scope.report.hasField field = true)
    (named : scope.report.IsNamed) (holds : scope.index.Holds scope.report)
    (rules : scope.rules = {} ∨ scope.rules = .cover ∧ scope.report.CountriesAgree)
    {text : String} {q : Query} (h : scope.read text = .ok q) :
    q.IsWellFormed scope.report ∧
      ∀ settings failure, q.toStatement scope.report settings = .error failure →
        (failure = .noColumnLeft scope.report.name q.excludedFields ∧
          q.shownFields scope.report = []) ∨
        (failure = .rowLimitWithoutSelect ∧ settings.dialect = .mssql ∧ q.limit ≠ none ∧
          ¬ scope.report.skeleton.OpensWithSelect) := by
  have sound := isSound_of_rules named holds rules
  have wellFormed := ((sound.yields_readTokens (Telling.ofText text)).of_ok h).1
  refine ⟨wellFormed, ?_⟩
  intro settings failure failed
  exact wellFormed.toStatement_error place defaults failed

/-- A request with a value and a limit can be rendered with all settings. -/
theorem isWellFormed_of_read_towns :
    ∃ q : Query, ({ report := .towns, index := .of [.towns], rules := .cover } : Scope).read
        "Einwohner 9 limit 5" = .ok q ∧ q.limit = some 5 ∧ q.IsWellFormed .towns ∧
      ∀ settings failure, q.toStatement .towns settings ≠ .error failure := by
  have place : .conditions ∈ Report.towns.skeleton := by decide
  have named : Report.towns.IsNamed := by decide
  have holds : (Keyword.Index.of [Report.towns]).Holds Report.towns :=
    ⟨by decide, fun other member _ => List.mem_singleton.mp member⟩
  have agree : Report.towns.CountriesAgree := by
    intro land code hland
    cases hland
  have reading : (({ report := .towns, index := .of [.towns], rules := .cover } : Scope).read
      "Einwohner 9 limit 5").map (fun q => (q.limit, q.shownFields .towns)) =
        .ok (some 5, ["ort", "einwohner"]) := by
    decide +kernel
  obtain ⟨q, run, parts⟩ := ok_of_map reading
  obtain ⟨limit, shown⟩ := Prod.mk.inj parts
  obtain ⟨wellFormed, failures⟩ :=
    isWellFormed_of_read place (by decide) named holds (.inr ⟨rfl, agree⟩) run
  refine ⟨q, run, limit, wellFormed, ?_⟩
  intro settings failure failed
  rcases failures settings failure failed with ⟨-, empty⟩ | ⟨-, -, -, closed⟩
  · rw [shown] at empty
    cases empty
  · exact closed ⟨"SELECT ", _, rfl, by decide⟩

end Scope

/-- The report of towns with a comment right behind its SELECT. -/
def joinedTowns : Report :=
  { Report.towns with
    skeleton := [.text "SELECT/**/", .columns, .text " FROM ORTE T WHERE ", .conditions] }

/-- A skeleton may begin with SELECT and have no place for a row limit: a blank has to
follow. The report is accepted, and a request with a limit can be read for it. -/
theorem limit_behind_joined_select :
    joinedTowns.flaw? .standIn = none ∧ joinedTowns.skeleton.head? = some (.text "SELECT/**/") ∧
      ∃ q, ({ report := joinedTowns, index := .of [joinedTowns] } : Scope).read
          "Einwohner 9 limit 5" = .ok q ∧ q.shownFields joinedTowns ≠ [] ∧
        q.toStatement joinedTowns {} = .error .rowLimitWithoutSelect := by
  have accepted : joinedTowns.flaw? .standIn = none := by decide +kernel
  have reading : (({ report := joinedTowns, index := .of [joinedTowns] } : Scope).read
      "Einwohner 9 limit 5").map (fun q => (q.shownFields joinedTowns,
        q.toStatement joinedTowns {})) =
          .ok (["ort", "einwohner"], .error .rowLimitWithoutSelect) := by
    decide +kernel
  obtain ⟨q, run, parts⟩ := ok_of_map reading
  obtain ⟨shown, failed⟩ := Prod.mk.inj parts
  exact ⟨accepted, rfl, q, run, shown ▸ List.cons_ne_nil _ _, failed⟩

end Request

end Inquiry
