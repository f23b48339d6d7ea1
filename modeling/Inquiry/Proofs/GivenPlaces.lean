import Inquiry.Proofs.Exclusion
import Inquiry.Proofs.SelectList

/-!
# Places are given in turn

A word like `zuerst` starts to give places to the fields behind it, and what follows a
field decides whether the next one gets a place as well. The place to be given is
always the number of places that have been given (`Progress.Counts`). Every step of the
reading keeps that: a field that is shown takes the place and moves it on, a field that
is left out takes none, and a second `zuerst` goes on behind the last place.

So the places of a query are 0, 1, 2 and so on in the order of its fields, and the
columns of its statement begin with the fields that have one, as they were mentioned
(`Scope.read_places`).
-/

namespace Inquiry

namespace Query

variable {q : Query}

/-- Fields whose places ascend are listed as they were mentioned. -/
theorem wishedFields_of_ascending (ascending : q.placed.Pairwise fun a b => a.1 ≤ b.1)
    (r : Report) : q.wishedFields r = q.listing r q.placed := by
  have sorted : (q.placed.mergeSort fun a b => a.1 ≤ b.1) = q.placed :=
    List.mergeSort_of_pairwise (ascending.imp decide_eq_true)
  rw [wishedFields, listing]
  simp only [List.isEmpty_iff]
  exact congrArg (fun byPlace => if q.included = [] then r.fields
    else byPlace.map (·.2) ++ q.unplaced) sorted

/-- If no field that is left out has a place, all places are those of fields that are
shown. -/
theorem map_placed (unplaced : ∀ p ∈ q.projections, p.exclude = true → p.order = none) :
    q.placed.map (·.1) = q.projections.filterMap (·.order) := by
  rw [placed, included, List.map_filterMap, List.filterMap_filter]
  refine List.filterMap_congr fun p member => ?_
  cases excluded : p.exclude with
  | false => cases p.order <;> rfl
  | true =>
      rw [unplaced p member excluded]
      rfl

end Query

namespace Request

namespace Progress

/-- All places that have been given are 0, 1, 2 and so on in the order of the fields, none
of them to a field that is left out, and if there is a place to be given it is the next
one. -/
structure Counts (s : Progress) (n : Nat) : Prop where
  places : s.projections.filterMap (·.order) = (List.range n).map fun i : Nat => (i : Int)
  next : ∀ place ∈ s.place, place = n
  unplaced : ∀ p ∈ s.projections, p.exclude = true → p.order = none

theorem foldl_max_range (n : Nat) :
    ((List.range n).map fun i => ((i + 1 : Nat) : Int)).foldl max 0 = n := by
  induction n with
  | zero => rfl
  | succ n ih =>
      rw [List.range_succ, List.map_append, List.foldl_append, ih]
      exact Int.max_eq_right (Int.ofNat_le.mpr (Nat.le_succ n))

namespace Counts

variable {s s' : Progress} {n : Nat}

theorem nextPlace_eq (counts : s.Counts n) : s.nextPlace = n := by
  rw [nextPlace, counts.places]
  cases n with
  | zero => rfl
  | succ n =>
      rw [List.range_succ_eq_map, List.map_cons, List.map_map]
      exact congrArg (· + 1) (foldl_max_range n)

/-- What changes neither fields nor the place to be given, or has no place to give, or
gives the next place, counts on. -/
theorem congr (counts : s.Counts n) (projections : s'.projections = s.projections)
    (place : s'.place = s.place ∨ s'.place = none ∨ s'.place = some s.nextPlace) :
    s'.Counts n := by
  refine ⟨projections ▸ counts.places, fun given member => ?_, projections ▸ counts.unplaced⟩
  rcases place with same | none | next
  · exact counts.next given (same ▸ member)
  · rw [none] at member
    cases member
  · rw [next] at member
    exact (Option.some.inj member).symm.trans counts.nextPlace_eq

/-- A steering word keeps the place to be given or gives the next one. -/
theorem steer (counts : s.Counts n) {t : Token} {rest behind : List Token}
    (h : s.steer? t rest = some (s', behind)) : s'.Counts n := by
  refine counts.congr (steer?_eq h).2.1 ?_
  rw [steer?] at h
  split at h
  · cases h
  · split at h
    · cases h
      exact .inl rfl
    · repeat' split at h
      all_goals cases h
      · exact .inr (.inr rfl)
      all_goals exact .inl rfl

/-- Behind a field there is no place to be given, or it is the one that the field has
left. -/
theorem place_project (s : Progress) (field : String) (exclude : Bool) (behind : List Token) :
    (s.project field exclude behind).place = none ∨
      (s.project field exclude behind).place =
        if exclude then s.place else s.place.map (· + 1) := by
  rw [project]
  cases exclude <;> simp only [Bool.false_eq_true, if_false, if_true]
  all_goals
    split
    · exact .inr rfl
    · split
      · exact .inr rfl
      · exact .inl rfl

/-- A field that is shown takes the place to be given. -/
theorem project (counts : s.Counts n) (field : String) (exclude : Bool) (behind : List Token) :
    ∃ m, (s.project field exclude behind).Counts m := by
  have projections := s.projections_project field exclude behind
  have place := place_project s field exclude behind
  -- The number of places grows exactly if the field is shown at a place.
  cases taken : (if exclude then none else s.place) with
  | none =>
      have added : (if exclude then (⟨field, true, none⟩ : Projection)
          else ⟨field, false, s.place⟩).order = none := by
        cases exclude <;> simp_all
      refine ⟨n, ?_, fun given member => ?_, fun p member excluded => ?_⟩
      · rw [projections, List.filterMap_append, counts.places, List.filterMap_cons_none added]
        simp
      · rcases place with none | same
        · rw [none] at member
          cases member
        · rw [same] at member
          cases exclude with
          | true => exact counts.next given member
          | false =>
              simp only [Bool.false_eq_true, if_false] at taken member
              rw [taken] at member
              cases member
      · rw [projections, List.mem_append, List.mem_singleton] at member
        rcases member with known | rfl
        · exact counts.unplaced p known excluded
        · exact added
  | some own =>
      obtain ⟨rfl, given⟩ : exclude = false ∧ s.place = some own := by
        cases exclude <;> simp_all
      obtain rfl := counts.next own given
      simp only [Bool.false_eq_true, if_false, given] at projections place
      refine ⟨n + 1, ?_, fun given member => ?_, fun p member excluded => ?_⟩
      · rw [projections, List.filterMap_append, counts.places, List.range_succ, List.map_append]
        rfl
      · rcases place with none | next
        · rw [none] at member
          cases member
        · rw [next] at member
          exact (Option.some.inj member).symm
      · rw [projections, List.mem_append, List.mem_singleton] at member
        rcases member with known | rfl
        · exact counts.unplaced p known excluded
        · cases excluded

end Counts

end Progress

namespace Scope

variable {scope : Scope} {s s' : Progress} {n : Nat}

theorem counts_of_mention (counts : s.Counts n) {field : String} {behind rest : List Token}
    (h : scope.mention s field behind = .ok (s', rest)) : ∃ m, s'.Counts m := by
  simp only [mention] at h
  split at h
  · obtain ⟨p, -, heq⟩ := ok_of_map h
    cases heq
    exact ⟨n, counts.congr rfl (.inr (.inl rfl))⟩
  · split at h
    · cases h
    · cases h
      exact ⟨n, counts.congr rfl (.inr (.inl rfl))⟩
    · cases h
      have plain : Progress.Counts { s with excludes := false, lacks := false } n :=
        counts.congr rfl (.inl rfl)
      exact plain.project field (s.excludes || s.excludeRun) behind

theorem counts_of_step (counts : s.Counts n) {t : Token} {rest behind : List Token}
    (h : scope.step s t rest = .ok (s', behind)) : ∃ m, s'.Counts m := by
  by_cases mentioned : ∃ field left, scope.MentionsAt t rest field left
  · obtain ⟨field, left, here⟩ := mentioned
    exact counts_of_mention counts ((here.step_eq s).symm.trans h)
  · have silent : ∀ field left, ¬ scope.MentionsAt t rest field left :=
      fun field left here => mentioned ⟨field, left, here⟩
    rcases step_cases h silent with rfl | steered | ⟨-, -, rfl⟩
    · exact ⟨n, counts⟩
    · exact ⟨n, counts.steer steered⟩
    · exact ⟨n, counts.congr rfl (.inr (.inl rfl))⟩

/-- However a reading goes on, it counts. -/
theorem counts_of_mentions (counts : s.Counts n) {tokens : List Token}
    (h : scope.mentions s tokens = .ok s') : ∃ m, s'.Counts m := by
  fun_induction mentions scope s tokens generalizing n with
  | case1 s =>
      cases h
      exact ⟨n, counts⟩
  | case2 => cases h
  | case3 s t rest s₁ behind heq ih =>
      obtain ⟨m, counts⟩ := counts_of_step counts heq
      exact ih counts h

/-- The places of the fields of a request are 0, 1, 2 and so on in the order of the fields,
and a field that is left out has none. So the columns begin with the fields that have a
place, as they were mentioned, and go on with the others, as they were mentioned; each
column is shown once, and none that is left out. -/
theorem read_places {text : String} {query : Query} (read : scope.read text = .ok query) :
    (∃ n, query.projections.filterMap (·.order) = (List.range n).map fun i : Nat => (i : Int)) ∧
      (∀ p ∈ query.projections, p.exclude = true → p.order = none) ∧
      ∀ columns, query.resolveColumns scope.report = .ok columns → ∃ fields,
        FirstMentions (if query.included = [] then scope.report.fields
          else query.placed.map (·.2) ++ query.unplaced) query.leftOut fields ∧
        List.Forall₂ (fun field column => scope.report.column? field = some column)
          fields columns := by
  obtain ⟨_, _, s, -, -, mentioned, -, projections⟩ := passes_of_readTokens read
  have begun : Progress.Counts {} 0 := ⟨rfl, by simp, by simp⟩
  obtain ⟨n, counts⟩ := counts_of_mentions begun mentioned
  have unplaced : ∀ p ∈ query.projections, p.exclude = true → p.order = none :=
    projections ▸ counts.unplaced
  have places : query.projections.filterMap (·.order) =
      (List.range n).map fun i : Nat => (i : Int) :=
    projections ▸ counts.places
  refine ⟨⟨n, places⟩, unplaced, fun columns resolved => ?_⟩
  have ascending : query.placed.Pairwise fun a b => a.1 ≤ b.1 := by
    have own : (query.placed.map (·.1)).Pairwise (· ≤ ·) := by
      rw [Query.map_placed unplaced, places, List.pairwise_map]
      exact List.pairwise_lt_range.imp fun less => Int.ofNat_le.mpr (Nat.le_of_lt less)
    exact List.pairwise_map.mp own
  have shown := query.firstMentions_shownFields scope.report
  rw [Query.wishedFields_of_ascending ascending, Query.listing] at shown
  exact ⟨_, shown, (Query.resolveColumns_ok_iff.mp resolved).2.2⟩

/-- A second `zuerst` goes on behind the last place, and the field that is mentioned again
stays where it was mentioned first. -/
theorem read_places_towns :
    ∃ query, towns.read "Orte zuerst Einwohner, Ort und zuerst Einwohner" = .ok query ∧
      query.projections = [⟨"einwohner", false, some 0⟩, ⟨"ort", false, some 1⟩,
        ⟨"einwohner", false, some 2⟩] ∧
      (∃ n, query.projections.filterMap (·.order) = (List.range n).map fun i : Nat => (i : Int)) ∧
      ∀ columns, query.resolveColumns towns.report = .ok columns → ∃ fields,
        FirstMentions ["einwohner", "ort", "einwohner"] [] fields ∧
        List.Forall₂ (fun field column => towns.report.column? field = some column)
          fields columns := by
  have projections : (towns.read "Orte zuerst Einwohner, Ort und zuerst Einwohner").map
      (·.projections) = .ok [⟨"einwohner", false, some 0⟩, ⟨"ort", false, some 1⟩,
        ⟨"einwohner", false, some 2⟩] := by
    decide +kernel
  obtain ⟨query, read, same⟩ := ok_of_map projections
  obtain ⟨places, -, shown⟩ := read_places read
  refine ⟨query, read, same, places, fun columns resolved => ?_⟩
  obtain ⟨fields, mentions, found⟩ := shown columns resolved
  refine ⟨fields, ?_, found⟩
  simpa [Query.placed, Query.unplaced, Query.leftOut, Query.included, Query.excluded, same]
    using mentions

end Scope

end Request

end Inquiry
