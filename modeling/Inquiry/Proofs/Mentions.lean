import Inquiry.Proofs.Conditions
import Inquiry.Proofs.Recognition

/-!
# Reading field mentions

An index may hold the keywords of many reports, but it stands for a column of a
report only where that report has registered one. So every field that is
resolved is one of the report, and what has been read of a request always
consists of columns of the report and of conditions that fit it.
-/

namespace Inquiry

namespace Keyword

/-- An index that knows a report, which can be told apart by its number. -/
structure Index.Holds (index : Index) (r : Report) : Prop where
  mem : r ∈ index.reports
  number : ∀ other ∈ index.reports, other.number = r.number → other = r

theorem mem_columns_of_registrationsOf {r : Report} {registration : Registration}
    (h : registration ∈ registrationsOf r) {field : String}
    (hfield : registration.entry.field = some field) :
    registration.entry.report = r.number ∧ ∃ column, (field, column) ∈ r.columns := by
  simp only [registrationsOf, List.mem_filter, List.mem_map, List.mem_append, List.mem_flatMap,
    Prod.exists] at h
  obtain ⟨⟨phrase, f, origin, rfl⟩, -⟩ := h
  refine ⟨rfl, ?_⟩
  rcases origin with ⟨keyword, -, heq⟩ | ⟨name, column, member, keyword, -, heq⟩
  · cases heq
    cases hfield
  · cases heq
    cases hfield
    exact ⟨column, member⟩

/-- A phrase stands for columns of a report only if the report has them. -/
theorem Index.Holds.hasField {index : Index} {r : Report} (h : index.Holds r)
    {tokens : List Token} {m : Match} (found : index.matchAt tokens = some m) :
    ∀ field ∈ m.fieldsOf r, r.hasField field = true := by
  intro field member
  obtain ⟨entry, hentry, heq⟩ := List.mem_filterMap.mp member
  obtain ⟨registration, known, rfl⟩ := Index.registered_of_matchAt found hentry
  rw [index.registrations_eq] at known
  obtain ⟨other, hother, known⟩ := List.mem_flatMap.mp known
  split at heq
  · next number =>
      obtain ⟨same, column, hcolumn⟩ := mem_columns_of_registrationsOf known heq
      rw [h.number other hother (same.symm.trans number)] at hcolumn
      exact Report.hasField_of_mem hcolumn
  · cases heq

end Keyword

namespace Request

/-- What has been read of a request fits the report. -/
structure Progress.Fits (s : Progress) (r : Report) : Prop where
  conditions : ∀ c ∈ s.conditions, c.1.Fits r
  projections : ∀ p ∈ s.projections, r.hasField p.field = true

namespace Progress.Fits

variable {s : Progress} {r : Report}

/-- Only conditions and projections matter. -/
theorem congr (h : s.Fits r) {s' : Progress} (conditions : s'.conditions = s.conditions)
    (projections : s'.projections = s.projections) : s'.Fits r :=
  ⟨conditions ▸ h.conditions, projections ▸ h.projections⟩

theorem emit (h : s.Fits r) {node : Node} (fits : node.Fits r) : (s.emit node).Fits r := by
  refine ⟨?_, h.projections⟩
  intro c member
  rcases List.mem_append.mp member with member | member
  · exact h.conditions c member
  · rw [List.mem_singleton.mp member]
    exact fits

end Progress.Fits

namespace Progress

/-- A field joins the fields of the request, left out or with its place. Of the rest
only the lists change, and only a comma goes on with an exclusion. -/
theorem project_eq (s : Progress) (field : String) (exclude : Bool) (behind : List Token) :
    ∃ excludeRun listing place, s.project field exclude behind =
        { s with
          projections := s.projections ++
            [if exclude then ⟨field, true, none⟩ else ⟨field, false, s.place⟩]
          alternative := false, excludeRun, listing, place } ∧
      (excludeRun = true → (s.excludeRun = true ∨ exclude = true) ∧
        behind.head?.any (·.kind == .comma) = true) := by
  rw [project]
  cases exclude <;> simp only [Bool.false_eq_true, if_false, if_true]
  all_goals
    split
    · next comma => exact ⟨_, _, _, rfl, fun runs => ⟨by simp [runs], comma⟩⟩
    · split <;> exact ⟨_, _, _, rfl, fun runs => absurd runs Bool.false_ne_true⟩

theorem projections_project (s : Progress) (field : String) (exclude : Bool)
    (behind : List Token) :
    (s.project field exclude behind).projections =
      s.projections ++ [if exclude then ⟨field, true, none⟩ else ⟨field, false, s.place⟩] := by
  obtain ⟨_, _, _, heq, -⟩ := s.project_eq field exclude behind
  rw [heq]

theorem conditions_project (s : Progress) (field : String) (exclude : Bool)
    (behind : List Token) : (s.project field exclude behind).conditions = s.conditions := by
  obtain ⟨_, _, _, heq, -⟩ := s.project_eq field exclude behind
  rw [heq]

theorem Fits.project {s : Progress} {r : Report} (h : s.Fits r) {field : String}
    (known : r.hasField field = true) (exclude : Bool) (behind : List Token) :
    (s.project field exclude behind).Fits r := by
  refine ⟨s.conditions_project field exclude behind ▸ h.conditions, ?_⟩
  intro p member
  rw [projections_project] at member
  rcases List.mem_append.mp member with member | member
  · exact h.projections p member
  · rw [List.mem_singleton.mp member]
    cases exclude <;> exact known

/-- A steering word changes neither conditions nor fields. -/
theorem steer?_eq {s s' : Progress} {t : Token} {rest behind : List Token}
    (h : s.steer? t rest = some (s', behind)) :
    s'.conditions = s.conditions ∧ s'.projections = s.projections ∧
      behind.Sublist (t :: rest) := by
  rw [steer?] at h
  split at h
  · cases h
  · split at h
    · next phrase =>
        cases h
        exact ⟨rfl, rfl, afterAnyPhrase?_sublist phrase⟩
    · repeat' split at h
      all_goals cases h
      all_goals exact ⟨rfl, rfl, List.sublist_cons_self t _⟩

end Progress

namespace Scope

variable {scope : Scope} {most : Nat}

/-- What is known about the parts that reading a request goes through. -/
structure IsSound (scope : Scope) : Prop where
  named : scope.report.IsNamed
  respect : scope.rules.Respect scope.report
  holds : scope.index.Holds scope.report

theorem IsSound.yields_resolve (sound : scope.IsSound) {tokens : List Token} {m : Keyword.Match}
    (found : scope.index.matchAt tokens = some m) :
    Yields most (fun field => scope.report.hasField field = true) (scope.resolve tokens m) := by
  have fields := sound.holds.hasField found
  rw [resolve]
  split
  · next field others heq =>
      apply fields field
      rw [heq]
      exact List.mem_cons_self
  · exact .unresolved rfl

/-- What is left of a request after some of it has been read. -/
def Goes (scope : Scope) (most : Nat) (next : Progress × List Token) : Prop :=
  next.1.Fits scope.report ∧ Telling most next.2

theorem IsSound.yields_mention (sound : scope.IsSound) {s : Progress} (fits : s.Fits scope.report)
    {field : String} (known : scope.report.hasField field = true) {behind : List Token}
    (telling : Telling most behind) :
    Yields most (scope.Goes most) (scope.mention s field behind) := by
  have plain : ({ s with excludes := false, lacks := false } : Progress).Fits scope.report :=
    fits.congr rfl rfl
  obtain ⟨column, found⟩ := (scope.report.hasField_iff field).mp known
  simp only [mention]
  split
  · have suits : Test.isNull.Suits column :=
      ⟨fun v member => (List.not_mem_nil member).elim, fun _ => by decide⟩
    refine (yields_predicate sound.named found suits).map fun p hp => ?_
    exact ⟨(plain.emit (sound.respect p hp)).congr rfl rfl, telling⟩
  · have condition := yields_condition? sound.named sound.respect known s.excludes telling
    split
    · next failure heq =>
        exact condition.of_error heq
    · next node rest heq =>
        obtain ⟨hnode, hrest⟩ := condition.of_ok heq node rest rfl
        exact ⟨(plain.emit hnode).congr rfl rfl, hrest⟩
    · exact ⟨plain.project known _ behind, telling⟩

/-- One step keeps what has been read fitting the report. -/
theorem IsSound.yields_step (sound : scope.IsSound) {s : Progress} (fits : s.Fits scope.report)
    {t : Token} {rest : List Token} (telling : Telling most (t :: rest)) :
    Yields most (scope.Goes most) (scope.step s t rest) := by
  rw [step]
  split
  · exact ⟨fits, telling.tail⟩
  · split
    · next next heq =>
        obtain ⟨conditions, projections, sub⟩ := Progress.steer?_eq heq
        exact ⟨fits.congr conditions projections, telling.of_sublist sub⟩
    · split
      · next m found =>
          have behind : Telling most (rest.drop (m.length - 1)) := telling.tail.drop _
          have field : Yields most _ _ := sound.yields_resolve found
          simp only
          split
          · split
            · next failure heq => exact field.of_error heq
            · next name heq => exact sound.yields_mention fits (field.of_ok heq) behind
          · exact ⟨fits, behind⟩
      · split
        · exact ⟨fits, telling.tail⟩
        · split
          · exact .unresolved rfl
          · exact ⟨fits.congr rfl rfl, telling.tail⟩

/-- All mentions together fit the report: every step does. -/
theorem IsSound.yields_mentions (sound : scope.IsSound) {s : Progress}
    (fits : s.Fits scope.report) {tokens : List Token} (telling : Telling most tokens) :
    Yields most (·.Fits scope.report) (scope.mentions s tokens) := by
  fun_induction mentions scope s tokens with
  | case1 s => exact fits
  | case2 s t rest failure heq => exact (sound.yields_step fits telling).of_error heq
  | case3 s t rest s' behind heq ih =>
      obtain ⟨hs, hbehind⟩ := (sound.yields_step fits telling).of_ok heq
      exact ih hs hbehind

end Scope

end Request

end Inquiry
