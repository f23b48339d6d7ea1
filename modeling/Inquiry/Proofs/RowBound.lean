import Inquiry.Proofs.CatalogueKeywords
import Inquiry.Proofs.Dispatch
import Inquiry.Proofs.LimitBehindOrder
import Inquiry.Proofs.PlaceGuards
import Inquiry.Proofs.Selection

/-!
# Bounds of row limits

A row limit is positive when it is read, and it gives way to the greatest number
of rows that the settings allow. What is bound is the smaller one of the two, at
the place of the limit, and the statement says if it is not the one that was asked
for (`Query.bindsRows_of_toStatement`). Without a row limit there is neither a
place nor a value for one (`Query.unlimited_of_toStatement`).

The bounds that the environment sets may be any text, and one that is no number or
a negative one has its default, so the number of rows is never bounded by less
than zero.
-/

namespace Inquiry

namespace Settings

variable (settings : Settings) (n : Int)

theorem clamped_eq_self_iff :
    settings.clamped n = n ↔ ¬ (0 < settings.maxRows ∧ settings.maxRows < n) := by
  rw [clamped]
  split <;> omega

theorem clamped_pos {n : Int} (positive : 1 ≤ n) : 1 ≤ settings.clamped n := by
  rw [clamped]
  split <;> omega

theorem clamped_le (bounded : 0 < settings.maxRows) : settings.clamped n ≤ settings.maxRows := by
  rw [clamped, if_pos bounded]
  exact Int.min_le_right n settings.maxRows

/-- A setting is never smaller than it may be. -/
theorem le_integerOr {default least : Int} (allowed : least ≤ default) (value : Option String) :
    least ≤ integerOr default least value := by
  rw [integerOr]
  split
  · split
    · assumption
    · exact allowed
  · exact allowed

theorem maxRows_nonneg (value? : String → Option String) : 0 ≤ (ofEnvironment value?).maxRows :=
  le_integerOr (by decide) (value? "MAX_ROWS")

theorem sql_noted (text : String) (s : Statement) : (settings.noted text s).sql = s.sql := by
  rw [noted]
  split <;> rfl

theorem values_noted (text : String) (s : Statement) :
    (settings.noted text s).values = s.values := by
  rw [noted]
  split <;> rfl

theorem limitClamped_mem_noted (text : String) (s : Statement) :
    .limitClamped ∈ (settings.noted text s).warnings ↔ .limitClamped ∈ s.warnings := by
  rw [noted]
  split <;> simp

end Settings

/-- A number of rows is bound besides other values, at the place where the dialect limits the
rows: before all others in one dialect, behind them in the other. -/
def Statement.BindsRows (s : Statement) (bound : Int) (others : List Scalar) :
    Sql.Dialect → Prop
  | .mssql => s.values = .number (.whole bound) :: others ∧
      ∃ opening ∈ Sql.limitOpenings, opening.toList <+: s.sql.toList
  | .ansi => s.values = others ++ [.number (.whole bound)] ∧
      "\nLIMIT ?".toList <:+ s.sql.toList

namespace Query

variable {q : Query} {r : Report} {settings : Settings} {s : Statement}

/-- The values of the conditions of a query on a report, in the order of their places. -/
def conditionValues (q : Query) (r : Report) : List Scalar :=
  q.allPredicates.flatMap (·.boundValues r)

/-- The limit of a query is bound at its place as far as it is allowed, besides the values of
the conditions. -/
theorem bindsRows_of_toStatement (h : q.toStatement r settings = .ok s) {n : Int}
    (limits : q.limit = some n) :
    s.BindsRows (settings.clamped n) (q.conditionValues r) settings.dialect ∧
      s.warnings = if settings.clamped n = n then [] else [.limitClamped] := by
  obtain ⟨columns, order, -, -, -, -, limited⟩ := toStatement_ok h
  obtain ⟨-, placed, values, warnings⟩ := limited_ok limits limited
  simp only [boundWith, allowedLimit_eq_clamped] at values warnings
  refine ⟨?_, warnings⟩
  cases dialect : settings.dialect with
  | mssql =>
      rw [dialect] at placed values
      obtain ⟨opening, known, -, rest, -, -, split⟩ :=
        Sql.withRowLimit_mssql (show '?' ∈ Sql.marks by decide) placed
      exact ⟨values, opening, known, rest, split.symm⟩
  | ansi =>
      rw [dialect] at placed values
      exact ⟨values, _, (Sql.withRowLimit_ansi placed).symm⟩

/-- Without a limit, a statement has the places and the values of its conditions only. -/
theorem unlimited_of_toStatement (spares : r.SparesPlaces)
    (once : r.skeleton.count .conditions = 1) (h : q.toStatement r settings = .ok s)
    (unlimited : q.limit = none) :
    ¬ Sql.LimitsRows s.sql.toList ∧ s.values = q.conditionValues r ∧ s.warnings = [] := by
  obtain ⟨columns, order, hcolumns, -, horder, -, limited⟩ := toStatement_ok h
  simp only [Query.limited, unlimited, Except.ok.injEq, Prod.mk.injEq] at limited
  obtain ⟨sql, values, warnings⟩ := limited
  rw [← sql]
  exact ⟨(body_guarded spares once hcolumns horder).not_limitsRows, values.symm, warnings.symm⟩

end Query

namespace Specialist

variable {s : Specialist} {text : String} {st : Statement}

/-- A statement is that of a query which was read for a report and limits rows to a positive
number, if at all. -/
theorem IsSound.statement_ok (sound : s.IsSound) (h : s.statement text = .ok st) :
    ∃ q r, s.query text = .ok q ∧ r ∈ s.reports ∧ q.toStatement r s.settings = .ok st ∧
      ∀ n, q.limit = some n → 1 ≤ n := by
  obtain ⟨q, read, found⟩ := ok_of_bind h
  obtain ⟨r, found, rendered⟩ := ok_of_bind found
  refine ⟨q, r, read, ?_, rendered, ?_⟩
  · rw [Specialist.reportNamed] at found
    split at found
    · next report first =>
        cases found
        exact List.mem_of_find?_eq_some first
    · cases found
  · rw [query] at read
    split at read
    · obtain ⟨chosen, choice, read⟩ := ok_of_bind read
      rcases Report.choose_cases s.reports (s.index.mainHits (Token.ofText text))
        s.settings.minHits with ⟨other, member, same⟩ | none
      · rw [chooseReport, same] at choice
        cases choice
        have reading := (sound.scope member).yields_readTokens (Request.Telling.ofText text)
        exact (reading.of_ok read).1.limit
      · rw [chooseReport, none] at choice
        cases choice
    · cases read

end Specialist

/-! ## A main keyword with a row limit -/

namespace Request.Scope

variable {scope : Scope} {main behind words : List Token} {number : Token} {n : Int}
  {marker : List String}

/-- A request that begins with a main keyword is accepted. -/
theorem findsMain_of_asks (asks : scope.Asks main behind.head?) {text : String}
    (tokens : Token.ofText text = main ++ behind) : scope.index.FindsMain text := by
  have found := asks.ends.matchAt_eq
  refine ⟨(0, scope.index.matchFor (main.map (·.key))), ?_, asks.isMain⟩
  rw [tokens, Keyword.Index.scan]
  cases main with
  | nil => exact absurd rfl asks.ends.ne_nil
  | cons t rest =>
      rw [List.cons_append] at found ⊢
      rw [Keyword.Index.scanFrom, found]
      exact List.mem_cons_self

/-- A main keyword with a row limit behind it asks for the limit and nothing else. -/
theorem readTokens_limited (asks : scope.Asks main none)
    (limits : Limits marker words number n) (usual : marker ∉ [["maximal"], ["ersten"]])
    (unsorted : scope.sorting (words ++ [number]) = .ok ([], words ++ [number])) :
    scope.readTokens (main ++ (words ++ [number])) = .ok
      { domain := scope.domain, limit := some n, report := some scope.report.name } := by
  have sorted : scope.sorting (main ++ (words ++ [number])) =
      .ok ([], main ++ (words ++ [number])) := by
    rw [sorting_append asks.plain, unsorted]
    rfl
  have limited : scope.rowLimit (main ++ (words ++ [number])) = .ok (some n, main) := by
    rw [List.mem_pair, not_or] at usual
    rw [limits.rowLimit_eq (asks.plain.unmarked (by decide) (by decide) []) usual.2, if_neg]
    exact fun maximal => usual.1 maximal.1
  have read : scope.mentions {} main = .ok {} := by
    have asks : scope.Asks main ([] : List Token).head? := asks
    have asked := asks.mentions_eq {}
    rwa [List.append_nil, mentions] at asked
  rw [readTokens_eq sorted limited, read]
  rfl

end Request.Scope

/-- Without a wish there is something to show. -/
theorem Query.shownFields_ne_nil {q : Query} {r : Report} (unwished : q.projections = [])
    (columns : r.columns ≠ []) : q.shownFields r ≠ [] := by
  have all : q.shownFields r = r.fields.eraseDups := by
    simp [shownFields, wishedFields, excluded, included, unwished]
  obtain ⟨⟨field, column⟩, others, columns⟩ := List.exists_cons_of_ne_nil columns
  have shown : field ∈ q.shownFields r := by
    rw [all, List.mem_eraseDups, Report.fields, columns]
    exact List.mem_cons_self
  exact List.ne_nil_of_mem shown

namespace Specialist

variable {s : Specialist} {text : String} {r : Report}

/-- A specialist for one report chooses it for every request that it accepts. -/
theorem chooseReport_of_single (single : s.reports = [r]) (enough : s.settings.minHits ≤ 1)
    (accepted : s.accepts text = true) : s.chooseReport (Token.ofText text) = .ok r := by
  rw [accepts_iff, Keyword.Index.FindsMain, ← Keyword.Index.mainHits_any_iff] at accepted
  obtain ⟨n, hits⟩ : ∃ n, s.index.mainHits (Token.ofText text) = [(r.name, n)] := by
    rw [Keyword.Index.mainHits, show s.index.reports = [r] from single]
    exact ⟨_, rfl⟩
  have positive : 0 < n := by simpa [hits] using accepted
  have count : Report.hitsOf [(r.name, n)] r = n := by simp [Report.hitsOf]
  rw [chooseReport, hits, Report.choose_eq_ok_iff, single]
  refine ⟨⟨[], [], rfl, by simp, by simp⟩, ?_, ?_⟩
  · rwa [count]
  · rw [count]
    exact Int.le_trans enough positive

/-- A request that shows all columns of its report has a statement once it is read. -/
theorem IsSound.statement_of_read (sound : s.IsSound) (member : r ∈ s.reports)
    (accepted : s.accepts text = true)
    (chosen : s.chooseReport (Token.ofText text) = .ok r) {q : Query}
    (read : (s.scope r).read text = .ok q) (unwished : q.projections = [])
    (columns : r.columns ≠ []) :
    s.query text = .ok q ∧ ∃ st, s.statement text = .ok st := by
  refine ⟨(query_of_chooseReport accepted chosen).trans read, ?_⟩
  have reading := (sound.scope member).yields_readTokens (Request.Telling.ofText text)
  have wellFormed : q.IsWellFormed r := (reading.of_ok read).1
  rw [statement_of_chooseReport accepted chosen, read]
  change ∃ st, q.toStatement r s.settings = .ok st
  cases run : q.toStatement r s.settings with
  | ok st => exact ⟨st, rfl⟩
  | error failure =>
      rcases wellFormed.toStatement_error (sound.conditions r member) (sound.order r member)
        run with ⟨-, empty⟩ | ⟨-, -, -, closed⟩
      · exact absurd empty (Query.shownFields_ne_nil unwished columns)
      · exact absurd (sound.opens r member) closed

open Request in
/-- A main keyword of the contract report with a row limit behind it is compiled. -/
theorem cover_limited {settings : Settings} (enough : settings.minHits ≤ 1)
    {main words : List Token} {number : Token} {n : Int} {marker : List String}
    (tokens : Token.ofText text = main ++ (words ++ [number]))
    (spells : Catalogue.Cover.report.Spells main none) (limits : Limits marker words number n)
    (usual : marker ∉ [["maximal"], ["ersten"]])
    (unsorted : ((cover settings).scope Catalogue.Cover.report).sorting (words ++ [number]) =
      .ok ([], words ++ [number])) :
    (cover settings).accepts text = true ∧ (∃ s, (cover settings).statement text = .ok s) ∧
      ∃ q, (cover settings).query text = .ok q ∧ q.limit = some n := by
  have clear := Catalogue.hasClearKeywords_cover
  have asks : ((cover settings).scope Catalogue.Cover.report).Asks main
      (words ++ [number]).head? := by
    refine Scope.asks_of_reserved clear rfl spells ?_
    obtain ⟨t, others, rfl, isHead⟩ := limits.exists_head
    rintro _ ⟨⟩
    have heads : ∀ phrase ∈ limitMarkers, ∀ word ∈ phrase.head?.toList, word ∈ reservedKeys := by
      decide
    exact heads marker limits.known t.key (isWordIn_iff.mp isHead).2
  have accepted : (cover settings).accepts text = true :=
    ((cover settings).accepts_iff text).mpr (Scope.findsMain_of_asks asks tokens)
  have chosen := chooseReport_of_single (s := cover settings) rfl enough accepted
  have alone : ((cover settings).scope Catalogue.Cover.report).Asks main none :=
    Scope.asks_of_reserved clear rfl spells (by simp)
  have read := Scope.readTokens_limited alone limits usual unsorted
  rw [← tokens, ← Scope.read] at read
  have columns : Catalogue.Cover.report.columns ≠ [] := by decide +kernel
  obtain ⟨queried, rendered⟩ := (cover_isSound settings).statement_of_read List.mem_cons_self
    accepted chosen read rfl columns
  exact ⟨accepted, rendered, _, queried, rfl⟩

end Specialist

/-- An environment that allows three rows. -/
def threeRows (name : String) : Option String := if name = "MAX_ROWS" then some " +3 " else none

theorem Settings.ofEnvironment_threeRows : Settings.ofEnvironment threeRows = { maxRows := 3 } := by
  decide +kernel

namespace Compiler

variable {settings : Settings} {text : String} {s : Statement}

/-- A statement of the standard compiler is that of a query on a report of the catalogue. -/
theorem standard_statement_ok (h : (standard settings).statement text = .ok s) :
    ∃ q r unnoted, (standard settings).query text = .ok q ∧ r ∈ Catalogue.allReports ∧
      q.toStatement r settings = .ok unnoted ∧ s = settings.noted text unnoted ∧
        ∀ n, q.limit = some n → 1 ≤ n := by
  rcases (standard settings).rejects_or_answers ((standard settings).settings.cut text) with
    rejects | ⟨before, e, answers⟩
  · rw [statement_of_rejects rejects] at h
    cases h
  · rw [statement_of_answers answers] at h
    rw [query_of_answers answers]
    obtain ⟨unnoted, own, rfl⟩ := ok_of_map h
    obtain ⟨⟨after, experts⟩, -, -⟩ := answers
    have member : e ∈ Expert.standard settings := by
      rw [show Expert.standard settings = before ++ e :: after from experts]
      exact List.mem_append_right before List.mem_cons_self
    simp only [Expert.standard, List.mem_cons, List.not_mem_nil, or_false] at member
    rcases member with rfl | rfl
    · obtain ⟨q, r, read, known, rendered, positive⟩ :=
        (Specialist.cover_isSound settings).statement_ok own
      exact ⟨q, r, unnoted, read, List.mem_append_left _ known, rendered, rfl, positive⟩
    · obtain ⟨q, r, read, known, rendered, positive⟩ :=
        (Specialist.schaden_isSound settings).statement_ok own
      exact ⟨q, r, unnoted, read, List.mem_append_right _ known, rendered, rfl, positive⟩

/-- A row limit that the standard compiler binds is positive and within the bounds that the
environment sets: it is the one that was asked for, or the greatest one that is allowed, and
then a warning says so. Where none was asked for, the statement has neither a place nor a
value for one. -/
theorem rows_of_statement (value? : String → Option String)
    (h : (standard (.ofEnvironment value?)).statement text = .ok s) :
    0 ≤ (Settings.ofEnvironment value?).maxRows ∧
      ∃ q r, (standard (.ofEnvironment value?)).query text = .ok q ∧
        r ∈ Catalogue.allReports ∧
        (∀ n, q.limit = some n → 1 ≤ n ∧
          s.BindsRows ((Settings.ofEnvironment value?).clamped n) (q.conditionValues r)
            (Settings.ofEnvironment value?).dialect ∧
          1 ≤ (Settings.ofEnvironment value?).clamped n ∧
          (0 < (Settings.ofEnvironment value?).maxRows →
            (Settings.ofEnvironment value?).clamped n ≤ (Settings.ofEnvironment value?).maxRows) ∧
          (.limitClamped ∈ s.warnings ↔ 0 < (Settings.ofEnvironment value?).maxRows ∧
            (Settings.ofEnvironment value?).maxRows < n)) ∧
        (q.limit = none → ¬ Sql.LimitsRows s.sql.toList ∧ s.values = q.conditionValues r ∧
          .limitClamped ∉ s.warnings) := by
  obtain ⟨q, r, unnoted, read, known, rendered, rfl, positive⟩ := standard_statement_ok h
  refine ⟨Settings.maxRows_nonneg value?, q, r, read, known, fun n limits => ?_,
    fun unlimited => ?_⟩
  · obtain ⟨binds, warnings⟩ := Query.bindsRows_of_toStatement rendered limits
    refine ⟨positive n limits, ?_, Settings.clamped_pos _ (positive n limits),
      Settings.clamped_le _ n, ?_⟩
    · rw [Statement.BindsRows.eq_def] at binds ⊢
      rwa [Settings.sql_noted, Settings.values_noted]
    · rw [Settings.limitClamped_mem_noted, warnings, ← not_iff_not,
        ← Settings.clamped_eq_self_iff]
      split <;> simp [*]
  · obtain ⟨spares, once⟩ := Catalogue.sparesPlaces r known
    obtain ⟨limitless, values, warnings⟩ :=
      Query.unlimited_of_toStatement spares once rendered unlimited
    rw [Settings.sql_noted, Settings.values_noted, Settings.limitClamped_mem_noted, warnings]
    exact ⟨limitless, values, List.not_mem_nil⟩

/-- Three of five contracts. -/
theorem rows_of_statement_threeRows :
    ∃ s others, (standard (.ofEnvironment threeRows)).statement "Verträge limit 5" = .ok s ∧
      s.values = .number (.whole 3) :: others ∧ .limitClamped ∈ s.warnings := by
  have tokens : Token.ofText "Verträge limit 5" =
      [⟨"Verträge", "vertraege", .word⟩] ++ ([⟨"limit", "limit", .word⟩] ++
        [⟨"5", "5", .number⟩]) := by decide +kernel
  have limits : Request.Limits ["limit"] [⟨"limit", "limit", .word⟩] ⟨"5", "5", .number⟩ 5 :=
    ⟨by decide, .cons ⟨rfl, rfl⟩ .nil, rfl, by decide +kernel, by decide⟩
  have settings := Settings.ofEnvironment_threeRows
  obtain ⟨accepted, ⟨own, rendered⟩, q, read, limit⟩ :=
    Specialist.cover_limited (by decide : ({ maxRows := 3 } : Settings).minHits ≤ 1) tokens
      Catalogue.Cover.spells_vertraege limits (by decide) (by decide +kernel)
  have whole : Settings.cut { maxRows := 3 } "Verträge limit 5" = "Verträge limit 5" := by
    decide +kernel
  have answers : (standard { maxRows := 3 }).Answers
      ((standard { maxRows := 3 }).settings.cut "Verträge limit 5") []
      (Specialist.cover { maxRows := 3 }).toExpert :=
    ⟨⟨_, rfl⟩, fun _ member => (List.not_mem_nil member).elim, whole.symm ▸ accepted⟩
  have run := statement_of_answers answers
  have asked := query_of_answers answers
  change _ = ((Specialist.cover { maxRows := 3 }).statement (Settings.cut _ _)).map _ at run
  change _ = (Specialist.cover { maxRows := 3 }).query (Settings.cut _ _) at asked
  have cut : (standard { maxRows := 3 }).settings = { maxRows := 3 } := rfl
  rw [cut, whole, rendered] at run
  rw [cut, whole, read] at asked
  rw [← settings] at run asked
  obtain ⟨-, q', r, asked', -, bounds, -⟩ := rows_of_statement threeRows run
  obtain rfl := Except.ok.inj (asked.symm.trans asked')
  obtain ⟨-, binds, -, -, warned⟩ := bounds 5 limit
  rw [settings] at binds warned run ⊢
  exact ⟨_, _, run, binds.1, warned.mpr (by decide)⟩

end Compiler

end Inquiry
