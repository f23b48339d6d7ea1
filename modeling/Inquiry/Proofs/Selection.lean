import Inquiry.Proofs.LimitPlace
import Inquiry.Proofs.Segmentation
import Inquiry.Proofs.Taxonomy

/-!
# The report that a request is read for

A specialist chooses a report by how often the request names it, and hits are
counted by name: reports of one name share a count. The search keeps the best
report so far and gives it up only for a better one, so the first of the
reports with the greatest count is chosen.

A query remembers nothing but the name of its report, and the report is looked
up by this name again before the query is rendered. Both searches end at the
same report (`Specialist.statement_of_accepts`): a report of the same name that
stands before the chosen one would have the same count, and would have been
chosen instead.
-/

namespace Inquiry

namespace Report

variable {count : Report → Int} {hits : List (String × Int)} {required : Int}
variable {reports seen rest : List Report} {r other : Report}

/-- The first of the reports with the greatest count. -/
def IsFirstGreatest (count : Report → Int) (reports : List Report) (r : Report) : Prop :=
  ∃ before after, reports = before ++ r :: after ∧
    (∀ other ∈ before, count other < count r) ∧ ∀ other ∈ after, count other ≤ count r

/-- The report that counts decide for: the first with the greatest count, which is
positive and as high as required. -/
structure IsChosen (count : Report → Int) (required : Int) (reports : List Report)
    (r : Report) : Prop where
  first : IsFirstGreatest count reports r
  named : 0 < count r
  enough : required ≤ count r

namespace IsFirstGreatest

theorem mem (h : IsFirstGreatest count reports r) : r ∈ reports := by
  obtain ⟨before, after, rfl, -, -⟩ := h
  exact List.mem_append_right before List.mem_cons_self

theorem le (h : IsFirstGreatest count reports r) (member : other ∈ reports) :
    count other ≤ count r := by
  obtain ⟨before, after, rfl, less, most⟩ := h
  rcases List.mem_append.mp member with member | member
  · exact Int.le_of_lt (less other member)
  · rcases List.mem_cons.mp member with rfl | member
    · exact Int.le_refl _
    · exact most other member

/-- Whoever looks for a report that counts as much finds this one first. -/
theorem find?_eq (h : IsFirstGreatest count reports r) :
    reports.find? (fun other => decide (count r ≤ count other)) = some r := by
  obtain ⟨before, after, rfl, less, -⟩ := h
  refine List.find?_eq_some_iff_append.mpr ⟨by simp, before, after, rfl, ?_⟩
  intro other member
  simpa using less other member

theorem unique (h : IsFirstGreatest count reports r)
    (h' : IsFirstGreatest count reports other) : r = other := by
  have same : count r = count other := Int.le_antisymm (h'.le h.mem) (h.le h'.mem)
  have found := h.find?_eq
  rw [same, h'.find?_eq] at found
  exact (Option.some.inj found).symm

theorem congr {count' : Report → Int} (same : ∀ other ∈ reports, count other = count' other)
    (h : IsFirstGreatest count reports r) : IsFirstGreatest count' reports r := by
  have own := same r h.mem
  obtain ⟨before, after, rfl, less, most⟩ := h
  refine ⟨before, after, rfl, ?_, ?_⟩
  · intro other member
    rw [← same other (List.mem_append_left _ member), ← own]
    exact less other member
  · intro other member
    rw [← same other (List.mem_append_right _ (List.mem_cons_of_mem r member)), ← own]
    exact most other member

theorem snoc_of_le (h : IsFirstGreatest count seen r) (le : count other ≤ count r) :
    IsFirstGreatest count (seen ++ [other]) r := by
  obtain ⟨before, after, rfl, less, most⟩ := h
  refine ⟨before, after ++ [other], by simp, less, ?_⟩
  intro next member
  rcases List.mem_append.mp member with member | member
  · exact most next member
  · rw [List.mem_singleton.mp member]
    exact le

theorem snoc_of_lt (lt : ∀ other ∈ seen, count other < count r) :
    IsFirstGreatest count (seen ++ [r]) r :=
  ⟨seen, [], rfl, lt, fun _ member => (List.not_mem_nil member).elim⟩

end IsFirstGreatest

/-! ## The search for the best report -/

/-- What the best report so far is among the reports that have been seen: the first with
the greatest count, or none while no report counts. -/
def Leads (count : Report → Int) (seen : List Report) : Option Report → Prop
  | none => ∀ other ∈ seen, count other ≤ 0
  | some best => IsFirstGreatest count seen best ∧ 0 < count best

/-- One more report is seen. -/
theorem leads_better {best : Option Report} (h : Leads (hitsOf hits) seen best) (r : Report) :
    Leads (hitsOf hits) (seen ++ [r]) (better hits best r) := by
  rw [better]
  cases best with
  | none =>
      split
      · next higher =>
          refine ⟨.snoc_of_lt fun other member => ?_, higher⟩
          exact Int.lt_of_le_of_lt (h other member) higher
      · next lower =>
          intro other member
          rcases List.mem_append.mp member with member | member
          · exact h other member
          · rw [List.mem_singleton.mp member]
            exact Int.not_lt.mp lower
  | some best =>
      obtain ⟨first, named⟩ := h
      split
      · next higher =>
          refine ⟨.snoc_of_lt fun other member => ?_, Int.lt_trans named higher⟩
          exact Int.lt_of_le_of_lt (first.le member) higher
      · next lower => exact ⟨first.snoc_of_le (Int.not_lt.mp lower), named⟩

/-- All reports are seen. -/
theorem leads_foldl {best : Option Report} (h : Leads (hitsOf hits) seen best)
    (rest : List Report) :
    Leads (hitsOf hits) (seen ++ rest) (rest.foldl (better hits) best) := by
  induction rest generalizing seen best with
  | nil => simpa using h
  | cons r rest ih => simpa using ih (leads_better h r)

theorem leads_all (reports : List Report) (hits : List (String × Int)) :
    Leads (hitsOf hits) reports (reports.foldl (better hits) none) := by
  have start : Leads (hitsOf hits) [] none := fun _ member => (List.not_mem_nil member).elim
  exact leads_foldl start reports

/-- The choice is a report exactly if the counts decide for it. -/
theorem choose_eq_ok_iff :
    choose reports hits required = .ok r ↔ IsChosen (hitsOf hits) required reports r := by
  have led := leads_all reports hits
  rw [choose]
  constructor
  · intro chosen
    split at chosen
    · next best found =>
        rw [found] at led
        split at chosen
        · cases chosen
        · next enough =>
            cases chosen
            exact ⟨led.1, led.2, Int.not_lt.mp enough⟩
    · cases chosen
  · rintro ⟨first, named, enough⟩
    split
    · next best found =>
        rw [found] at led
        rw [led.1.unique first, if_neg (Int.not_lt.mpr enough)]
    · next none =>
        rw [none] at led
        exact absurd named (Int.not_lt.mpr (led r first.mem))

/-- There is no choice exactly if no report counts and reaches what is required. -/
theorem choose_eq_error_iff {failure : Failure} :
    choose reports hits required = .error failure ↔
      (¬ ∃ r ∈ reports, 0 < hitsOf hits r ∧ required ≤ hitsOf hits r) ∧
        failure = .noMatchingReport hits required := by
  have led := leads_all reports hits
  rw [choose]
  split
  · next best found =>
      rw [found] at led
      split
      · next few =>
          have none : ¬ ∃ r ∈ reports, 0 < hitsOf hits r ∧ required ≤ hitsOf hits r := by
            rintro ⟨r, member, -, enough⟩
            have most := led.1.le member
            omega
          simp [none, eq_comm]
      · next enough =>
          have some : ∃ r ∈ reports, 0 < hitsOf hits r ∧ required ≤ hitsOf hits r :=
            ⟨best, led.1.mem, led.2, Int.not_lt.mp enough⟩
          simp [some]
  · next nothing =>
      rw [nothing] at led
      have none : ¬ ∃ r ∈ reports, 0 < hitsOf hits r ∧ required ≤ hitsOf hits r := by
        rintro ⟨r, member, named, -⟩
        exact Int.not_lt.mpr (led r member) named
      simp [none, eq_comm]

/-- Only the counts of the reports in the list decide. -/
theorem IsChosen.congr {count' : Report → Int}
    (same : ∀ other ∈ reports, count other = count' other)
    (h : IsChosen count required reports r) : IsChosen count' required reports r := by
  have own := same r h.first.mem
  exact ⟨h.first.congr same, own ▸ h.named, own ▸ h.enough⟩

/-- Reports of one name share a count. -/
theorem hitsOf_congr (same : other.name = r.name) : hitsOf hits other = hitsOf hits r := by
  rw [hitsOf, hitsOf, same]

/-- The report that is chosen is the first one of its name. -/
theorem IsChosen.find?_name (h : IsChosen (hitsOf hits) required reports r) :
    reports.find? (fun other => some other.name = some r.name) = some r := by
  obtain ⟨⟨before, after, rfl, less, -⟩, -, -⟩ := h
  refine List.find?_eq_some_iff_append.mpr ⟨by simp, before, after, rfl, ?_⟩
  intro other member
  have differs : other.name ≠ r.name := fun same =>
    Int.lt_irrefl _ (hitsOf_congr same ▸ less other member)
  simpa using differs

end Report

namespace Keyword.Index

/-- How often a request names the reports with a name by a main keyword. -/
def timesNamed (index : Index) (tokens : List Token) (r : Report) : Int :=
  (((index.scan tokens).flatMap fun (_, m) => m.entries.filter (·.isMain)).countP
    (·.reportName == r.name) : Nat)

theorem hitsOf_mainHits (index : Index) (tokens : List Token) {r : Report}
    (known : r ∈ index.reports) :
    Report.hitsOf (index.mainHits tokens) r = index.timesNamed tokens r := by
  rw [Report.hitsOf, lookup_mainHits (List.mem_map_of_mem known), Option.getD_some, timesNamed]

end Keyword.Index

namespace Specialist

variable {s : Specialist} {text : String} {r : Report}

/-- A report that is chosen is found again by its name. -/
theorem reportNamed_of_chooseReport {tokens : List Token}
    (chosen : s.chooseReport tokens = .ok r) : s.reportNamed (some r.name) = .ok r := by
  rw [reportNamed, (Report.choose_eq_ok_iff.mp chosen).find?_name]

/-- A query has the name of the report that it has been read for. -/
theorem report_of_read {scope : Request.Scope} {q : Query} (read : scope.read text = .ok q) :
    q.report = some scope.report.name := by
  obtain ⟨_, -, h⟩ := ok_of_bind read
  obtain ⟨_, -, h⟩ := ok_of_bind h
  obtain ⟨_, -, ⟨⟩⟩ := ok_of_bind h
  rfl

theorem query_of_chooseReport (accepted : s.accepts text = true)
    (chosen : s.chooseReport (Token.ofText text) = .ok r) :
    s.query text = (s.scope r).read text := by
  rw [query, if_pos accepted, queryOf, chosen]
  rfl

/-- A query is rendered for the report that it has been read for. -/
theorem statement_of_chooseReport (accepted : s.accepts text = true)
    (chosen : s.chooseReport (Token.ofText text) = .ok r) :
    s.statement text = (s.scope r).read text >>= fun q => q.toStatement r s.settings := by
  rw [statement, query_of_chooseReport accepted chosen]
  cases read : (s.scope r).read text with
  | error failure => rfl
  | ok q =>
      have found : s.reportNamed q.report = .ok r := by
        rw [report_of_read read]
        exact reportNamed_of_chooseReport chosen
      simp only [bind, Except.bind, found]

/-- A contract is not broken by looking the report up or by rendering the query. -/
theorem breach_of_statement (accepted : s.accepts text = true) {failure : Failure}
    (failed : s.statement text = .error failure)
    (breach : failure.code? = some .contractViolation) :
    ∃ r, s.chooseReport (Token.ofText text) = .ok r ∧
      (s.scope r).read text = .error failure := by
  cases chosen : s.chooseReport (Token.ofText text) with
  | error unclear =>
      rw [statement, query, if_pos accepted, queryOf, chosen] at failed
      cases failed
      rw [(Report.choose_eq_error_iff.mp chosen).2] at breach
      cases breach
  | ok r =>
      rw [statement_of_chooseReport accepted chosen] at failed
      rcases error_of_bind failed with read | ⟨q, -, failed⟩
      · exact ⟨r, rfl, read⟩
      · rcases Query.class_of_toStatement failed with field | rfl | ⟨rfl, -⟩
        · rw [field] at breach
          cases breach
        · cases breach
        · cases breach

/-- A request that is accepted is read and rendered for one report: the first of those that
it names most often, if it names it often enough. The report is found again by its
name, so no query is rendered for the columns of another report, and where requests
can be read without breaking a contract, their statements break none. -/
theorem statement_of_accepts (accepted : s.accepts text = true) :
    (∀ r, s.chooseReport (Token.ofText text) = .ok r ↔
      Report.IsChosen (s.index.timesNamed (Token.ofText text)) s.settings.minHits s.reports r) ∧
    (∀ failure, s.chooseReport (Token.ofText text) = .error failure ↔
      (¬ ∃ r ∈ s.reports, 0 < s.index.timesNamed (Token.ofText text) r ∧
        s.settings.minHits ≤ s.index.timesNamed (Token.ofText text) r) ∧
      failure = .noMatchingReport (s.index.mainHits (Token.ofText text)) s.settings.minHits) ∧
    (∀ r, s.chooseReport (Token.ofText text) = .ok r →
      (∀ q, s.query text = .ok q → s.reportNamed q.report = .ok r) ∧
      s.statement text = s.query text >>= fun q => q.toStatement r s.settings) ∧
    (∀ failure, s.statement text = .error failure →
      failure.code? = some .contractViolation →
        ∃ r, s.chooseReport (Token.ofText text) = .ok r ∧
          (s.scope r).read text = .error failure) ∧
    ((∀ r ∈ s.reports, (s.scope r).IsSound) → ∀ failure,
      s.statement text = .error failure → failure.code? ≠ some .contractViolation) := by
  have counted : ∀ r ∈ s.reports,
      Report.hitsOf (s.index.mainHits (Token.ofText text)) r =
        s.index.timesNamed (Token.ofText text) r :=
    fun r known => s.index.hitsOf_mainHits (Token.ofText text) known
  refine ⟨fun r => ?_, fun failure => ?_, fun r chosen => ⟨fun q read => ?_, ?_⟩,
    fun failure => breach_of_statement accepted, fun sound failure failed breach => ?_⟩
  · rw [chooseReport, Report.choose_eq_ok_iff]
    exact ⟨.congr counted, .congr fun other known => (counted other known).symm⟩
  · rw [chooseReport, Report.choose_eq_error_iff]
    refine and_congr_left fun _ => not_congr (exists_congr fun r => and_congr_right fun known => ?_)
    rw [counted r known]
  · rw [query_of_chooseReport accepted chosen] at read
    rw [report_of_read read]
    exact reportNamed_of_chooseReport chosen
  · rw [statement_of_chooseReport accepted chosen, query_of_chooseReport accepted chosen]
  · obtain ⟨r, chosen, read⟩ := breach_of_statement accepted failed breach
    have known := (Report.choose_eq_ok_iff.mp chosen).first.mem
    have reading := (sound r known).yields_readTokens (Request.Telling.ofText text)
    cases reading.of_error read with
    | unresolved field =>
        rw [field] at breach
        cases breach
    | malformed value =>
        rw [value] at breach
        cases breach
    | digits => cases breach

/-- A second report of towns with the same name, which requests ask for by another word. -/
def namesakes : Specialist :=
  { name := "Orte", domain := .unknown, settings := {},
    index := .of [.towns, { Report.towns with number := 1, mainKeywords := ["dörfer"] }] }

/-- The word for the second report counts for both, and the first one is chosen, found again and
rendered. -/
theorem statement_of_accepts_namesakes :
    namesakes.accepts "Dörfer" = true ∧
      namesakes.chooseReport (Token.ofText "Dörfer") = .ok .towns ∧
      namesakes.statement "Dörfer" =
        namesakes.query "Dörfer" >>= fun q => q.toStatement .towns {} := by
  have accepted : namesakes.accepts "Dörfer" = true := by decide +kernel
  obtain ⟨exactly, -, rendered, -, -⟩ := statement_of_accepts accepted
  have first : Report.IsFirstGreatest (namesakes.index.timesNamed (Token.ofText "Dörfer"))
      namesakes.reports .towns := ⟨[], _, rfl, by simp, by decide +kernel⟩
  have chosen := (exactly .towns).mpr ⟨first, by decide +kernel, by decide +kernel⟩
  exact ⟨accepted, chosen, (rendered .towns chosen).2⟩

end Specialist

end Inquiry
