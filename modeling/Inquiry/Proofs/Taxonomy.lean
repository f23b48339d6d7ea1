import Inquiry.Proofs.Recognition
import Inquiry.Proofs.Requests
import Inquiry.Service

/-!
# What can go wrong with a request

A request is not recognized, or no report has enough hits, or a field or a
value of it is wrong. Everything else would be a mistake of a catalogue: a
report that cannot be told apart from another one, a rule that breaks
conditions, or a skeleton in which a statement cannot be completed.
`Specialist.IsSound` rules these mistakes out, and both specialists of the
standard compiler are sound. So whatever goes wrong is a matter of the request
(`Compiler.standard_statement_error`), if only that an integer of it has more
digits than can be read.
-/

namespace Inquiry

/-- A specialist whose reports can be read and rendered. -/
structure Specialist.IsSound (s : Specialist) : Prop where
  number : ∀ r ∈ s.reports, ∀ other ∈ s.reports, other.number = r.number → other = r
  name : ∀ r ∈ s.reports, ∀ other ∈ s.reports, other.name = r.name → other = r
  named : ∀ r ∈ s.reports, r.IsNamed
  respect : ∀ r ∈ s.reports, s.rules.Respect r
  conditions : ∀ r ∈ s.reports, .conditions ∈ r.skeleton
  order : ∀ r ∈ s.reports, ∀ field ∈ r.defaultOrder, r.hasField field = true
  opens : ∀ r ∈ s.reports, r.skeleton.OpensWithSelect

namespace Specialist

variable {s : Specialist}

theorem IsSound.scope (sound : s.IsSound) {r : Report} (member : r ∈ s.reports) :
    (s.scope r).IsSound :=
  ⟨sound.named r member, sound.respect r member, member, sound.number r member⟩

/-- A report is found by its name. -/
theorem IsSound.reportNamed (sound : s.IsSound) {r : Report} (member : r ∈ s.reports) :
    s.reportNamed (some r.name) = .ok r := by
  rw [Specialist.reportNamed]
  split
  · next other found =>
      have same : some other.name = some r.name := by simpa using List.find?_some found
      rw [sound.name r member other (List.mem_of_find?_eq_some found) (Option.some.inj same)]
  · next none =>
      have differs := List.find?_eq_none.mp none r member
      simp at differs

/-- A request that is accepted fails only by a fault of its own. -/
theorem IsSound.statement_error (sound : s.IsSound) {text : String}
    (accepted : s.accepts text = true) {failure : Failure}
    (h : s.statement text = .error failure) :
    failure.code? = some .noMatchingTemplate ∨
      failure.IsOfRequest (Literal.digitCount text) := by
  rw [statement, query] at h
  rw [if_pos accepted] at h
  rw [queryOf, chooseReport] at h
  rcases Report.choose_cases s.reports (s.index.mainHits (Token.ofText text))
    s.settings.minHits with ⟨r, member, chosen⟩ | unclear
  · rw [chosen] at h
    have reading := (sound.scope member).yields_readTokens (Request.Telling.ofText text)
    rcases error_of_bind h with failed | ⟨q, read, h⟩
    · exact .inr (reading.of_error failed)
    · obtain ⟨wellFormed, report⟩ := reading.of_ok read
      change q.report = some r.name at report
      rw [report, sound.reportNamed member] at h
      rcases wellFormed.toStatement_error (sound.conditions r member) (sound.order r member) h with
        ⟨rfl, -⟩ | ⟨-, -, -, closed⟩
      · exact .inr (.unresolved rfl)
      · exact absurd (sound.opens r member) closed
  · rw [unclear] at h
    cases h
    exact .inl rfl

/-- A catalogue of one report tells its reports apart. -/
theorem isSound_of_single {r : Report} (single : s.reports = [r]) (named : r.IsNamed)
    (respect : s.rules.Respect r) (conditions : .conditions ∈ r.skeleton)
    (order : ∀ field ∈ r.defaultOrder, r.hasField field = true)
    (opens : r.skeleton.OpensWithSelect) : s.IsSound := by
  have all {P : Report → Prop} (h : P r) : ∀ other ∈ s.reports, P other := by
    intro other member
    rw [single] at member
    rw [List.mem_singleton.mp member]
    exact h
  exact ⟨all (all fun _ => rfl), all (all fun _ => rfl), all named, all respect, all conditions,
    all order, all opens⟩

theorem cover_isSound (settings : Settings) : (Specialist.cover settings).IsSound := by
  refine isSound_of_single (r := Catalogue.Cover.report) rfl (by decide +kernel)
    (Request.Rules.respect_cover ?_) (by decide +kernel) (by decide +kernel)
    ⟨_, _, rfl, by decide +kernel⟩
  intro land code hland hcode
  have same : (Catalogue.Cover.report.column? "land").map (·.numeric) =
      (Catalogue.Cover.report.column? "land_code").map (·.numeric) := by decide +kernel
  rw [hland, hcode] at same
  exact Option.some.inj same

theorem schaden_isSound (settings : Settings) : (Specialist.schaden settings).IsSound :=
  isSound_of_single (r := Catalogue.Schaden.report) rfl (by decide +kernel)
    (Request.Rules.respect_none _) (by decide +kernel) (by decide +kernel)
    ⟨_, _, rfl, by decide +kernel⟩

end Specialist

/-- The part of a request that is read. -/
def Settings.cut (settings : Settings) (text : String) : String :=
  if 0 < settings.maxLength then firstCharacters settings.maxLength.toNat text else text

namespace Compiler

variable {c : Compiler} {text : String} {failure : Failure}

theorem bounded_eq_cut (c : Compiler) (text : String) : c.bounded text = c.settings.cut text := by
  rw [bounded, Settings.cut, isTooLong]
  by_cases positive : 0 < c.settings.maxLength
  · rw [if_pos positive]
    split
    · rfl
    · next short =>
        have fits : text.length ≤ c.settings.maxLength.toNat := by
          simp only [positive, decide_true, Bool.true_and, decide_eq_true_eq] at short
          omega
        rw [firstCharacters, List.take_of_length_le fits, String.ofList_toList]
  · rw [if_neg positive, if_neg]
    simp [positive]

/-- A statement fails at the expert that accepts the request, if there is one. -/
theorem statement_error (h : c.statement text = .error failure) :
    (∃ expert ∈ c.experts, expert.accepts (c.bounded text) = true ∧
      expert.statement (c.bounded text) = .error failure) ∨
    ((∀ expert ∈ c.experts, expert.accepts (c.bounded text) = false) ∧
      failure.code? = some .unrecognizedRequest) := by
  rw [statement, resolve] at h
  split at h
  · next expert found =>
      have accepted : expert.accepts (c.bounded text) = true := by
        simpa using List.find?_some found
      refine .inl ⟨expert, List.mem_of_find?_eq_some found, accepted, ?_⟩
      rcases error_of_bind h with resolved | ⟨_, resolved, h⟩
      · cases resolved
      · cases resolved
        rcases error_of_bind h with failed | ⟨s, -, h⟩
        · exact failed
        · split at h <;> cases h
  · next none =>
      cases h
      refine .inr ⟨fun expert member => ?_, rfl⟩
      simpa using List.find?_eq_none.mp none expert member

/-- A request that no expert accepts is not recognized. -/
theorem statement_of_unrecognized
    (h : ∀ expert ∈ c.experts, expert.accepts (c.bounded text) = false) :
    ∃ failure, c.statement text = .error failure ∧
      failure.code? = some .unrecognizedRequest := by
  have none : c.experts.find? (·.accepts (c.bounded text)) = none :=
    List.find?_eq_none.mpr fun expert member => by simp [h expert member]
  rw [statement, resolve, none]
  exact ⟨_, rfl, rfl⟩

/-- The failures of an expert of the standard compiler that accepts a request. -/
theorem error_of_standard {settings : Settings} {expert : Expert}
    (member : expert ∈ Expert.standard settings) (accepted : expert.accepts text = true)
    (h : expert.statement text = .error failure) :
    failure.code? = some .noMatchingTemplate ∨
      failure.IsOfRequest (Literal.digitCount text) := by
  simp only [Expert.standard, List.mem_cons, List.not_mem_nil, or_false] at member
  rcases member with rfl | rfl
  · exact (Specialist.cover_isSound settings).statement_error accepted h
  · exact (Specialist.schaden_isSound settings).statement_error accepted h

theorem standard_rejects_iff (settings : Settings) (text : String) :
    (∀ expert ∈ Expert.standard settings, expert.accepts text = false) ↔
      ¬ Specialist.coverIndex.FindsMain text ∧ ¬ Specialist.schadenIndex.FindsMain text := by
  simp only [Expert.standard, List.mem_cons, List.not_mem_nil, or_false, forall_eq_or_imp,
    forall_eq, Specialist.toExpert, ← Bool.not_eq_true, Specialist.accepts_iff]
  rfl

/-- Behind the cut, every failure belongs to the request; the one that it is not
recognized is for requests without a main keyword. -/
theorem standard_statement_error {settings : Settings}
    (h : (standard settings).statement text = .error failure) :
    (failure.code? = some .noMatchingTemplate ∨
        failure.IsOfRequest (Literal.digitCount (settings.cut text))) ∨
      (failure.code? = some .unrecognizedRequest ∧
        ¬ Specialist.coverIndex.FindsMain (settings.cut text) ∧
        ¬ Specialist.schadenIndex.FindsMain (settings.cut text)) := by
  rcases statement_error h with ⟨expert, member, accepted, failed⟩ | ⟨rejected, code⟩
  · rw [bounded_eq_cut] at accepted failed
    exact .inl (error_of_standard member accepted failed)
  · rw [bounded_eq_cut] at rejected
    exact .inr ⟨code, (standard_rejects_iff settings _).mp rejected⟩

end Compiler

end Inquiry
