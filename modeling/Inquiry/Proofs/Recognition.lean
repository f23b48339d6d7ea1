import Inquiry.Expert
import Inquiry.Proofs.TokenText

/-!
# Which requests are accepted

A specialist accepts a request if one of the phrases found in it is a main
keyword of some report. The hits are counted by the names of the reports, so
the two agree because every phrase stands for reports that the index knows.
The report that is chosen for the request is then one of them.
-/

namespace Inquiry

namespace Keyword.Index

variable {index : Index}

/-- A phrase stands for nothing but what has been registered. -/
theorem registered_of_matchAt {tokens : List Token} {m : Match}
    (found : index.matchAt tokens = some m) {entry : Entry} (member : entry ∈ m.entries) :
    ∃ registration ∈ index.registrations, registration.entry = entry := by
  obtain ⟨-, -, rfl⟩ := eq_of_matchAt found
  simp only [entriesFor, List.mem_eraseDups, List.mem_map, List.mem_filter] at member
  obtain ⟨registration, ⟨known, -⟩, hentry⟩ := member
  exact ⟨registration, known, hentry⟩

theorem matchAt_of_mem_scanFrom {start : Nat} {tokens : List Token} {hit : Nat × Match}
    (h : hit ∈ index.scanFrom start tokens) : ∃ rest, index.matchAt rest = some hit.2 := by
  fun_induction scanFrom index start tokens with
  | case1 => cases h
  | case2 start t rest missed ih => exact ih h
  | case3 start t rest m found ih =>
      rcases List.mem_cons.mp h with rfl | h
      · exact ⟨t :: rest, found⟩
      · exact ih h

theorem report_of_registered {registration : Registration}
    (h : registration ∈ index.registrations) :
    ∃ r ∈ index.reports, registration.entry.reportName = r.name := by
  rw [index.registrations_eq] at h
  obtain ⟨r, known, h⟩ := List.mem_flatMap.mp h
  simp only [registrationsOf, List.mem_filter, List.mem_map, Prod.exists] at h
  obtain ⟨⟨phrase, field, -, rfl⟩, -⟩ := h
  exact ⟨r, known, rfl⟩

/-- Whether a phrase that is found in a text is a main keyword. -/
def FindsMain (index : Index) (text : String) : Prop :=
  ∃ hit ∈ index.scan (Token.ofText text), hit.2.isMain = true

/-- Some report is hit if and only if some phrase is a main keyword. -/
theorem mainHits_any_iff (index : Index) (tokens : List Token) :
    ((index.mainHits tokens).any fun (_, hits) => 0 < hits) = true ↔
      ∃ hit ∈ index.scan tokens, hit.2.isMain = true := by
  simp only [mainHits, List.any_map, List.any_eq_true, List.mem_eraseDups, Function.comp_apply,
    decide_eq_true_eq, Int.natCast_pos, List.count_pos_iff, List.mem_flatMap, List.mem_map,
    List.mem_filter]
  constructor
  · rintro ⟨name, -, hit, scanned, entry, ⟨member, isMain⟩, -⟩
    exact ⟨hit, scanned, List.any_eq_true.mpr ⟨entry, member, isMain⟩⟩
  · rintro ⟨hit, scanned, isMain⟩
    obtain ⟨entry, member, isMain⟩ := List.any_eq_true.mp isMain
    obtain ⟨rest, found⟩ := matchAt_of_mem_scanFrom scanned
    obtain ⟨registration, known, rfl⟩ := registered_of_matchAt found member
    obtain ⟨r, hr, name⟩ := report_of_registered known
    exact ⟨r.name, ⟨r, hr, rfl⟩, hit, scanned, registration.entry, ⟨member, isMain⟩, name⟩

end Keyword.Index

namespace Report

variable {reports : List Report} {hits : List (String × Int)} {required : Int}

theorem mem_of_foldl_better {best : Option Report} {r : Report}
    (h : reports.foldl (better hits) best = some r) : r ∈ reports ∨ best = some r := by
  induction reports generalizing best with
  | nil => exact .inr h
  | cons first rest ih =>
      rcases ih h with later | here
      · exact .inl (List.mem_cons_of_mem first later)
      · rw [better] at here
        split at here
        · cases here
          exact .inl List.mem_cons_self
        · exact .inr here

/-- The choice is one of the reports, or there are not enough hits. -/
theorem choose_cases (reports : List Report) (hits : List (String × Int)) (required : Int) :
    (∃ r ∈ reports, choose reports hits required = .ok r) ∨
      choose reports hits required = .error (.noMatchingReport hits required) := by
  rw [choose]
  split
  · next best found =>
      split
      · exact .inr rfl
      · obtain member | absent := mem_of_foldl_better found
        · exact .inl ⟨best, member, rfl⟩
        · cases absent
  · exact .inr rfl

end Report

/-- A specialist accepts exactly the requests in which it finds a main keyword. -/
theorem Specialist.accepts_iff (s : Specialist) (text : String) :
    s.accepts text = true ↔ s.index.FindsMain text := by
  rw [accepts, Keyword.Index.FindsMain]
  rw [Bool.and_eq_true, Keyword.Index.mainHits_any_iff]
  constructor
  · exact And.right
  · intro found
    refine ⟨?_, found⟩
    obtain ⟨hit, scanned, -⟩ := found
    by_contra blank
    rw [Token.ofText_of_isBlankText (by simpa using blank), Keyword.Index.scan,
      Keyword.Index.scanFrom] at scanned
    cases scanned

end Inquiry
