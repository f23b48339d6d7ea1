import Inquiry.Proofs.Renderable

/-!
# What a query fails for

Whatever a query is made of, it can fail to render for four reasons only: it names
a field that the report does not have, it leaves no column, it has a number that cannot
be written where it has to be, or its row limit finds no place. The first two belong to
the request. `Query.toStatement_error` tells them from the last, for which everything
else has been found.
-/

namespace Inquiry

/-- Steps over a list fail in one of them. -/
theorem error_of_mapM {α β : Type} {f : α → Except Failure β} {xs : List α} {failure : Failure}
    (h : xs.mapM f = .error failure) : ∃ x ∈ xs, f x = .error failure := by
  induction xs with
  | nil => cases h
  | cons x xs ih =>
      rw [List.mapM_cons] at h
      rcases error_of_bind h with first | ⟨y, -, h⟩
      · exact ⟨x, List.mem_cons_self, first⟩
      rcases error_of_bind h with rest | ⟨ys, -, h⟩
      · obtain ⟨x', member, found⟩ := ih rest
        exact ⟨x', List.mem_cons_of_mem x member, found⟩
      · cases h

namespace Rendering

variable {α β : Type} {P : Failure → Prop}

/-- A rendering that fails only with failures of one sort. -/
def FailsOnly (P : Failure → Prop) (rendering : Rendering α) : Prop :=
  ∀ bound failure out, rendering.render bound = (.error failure, out) → P failure

namespace FailsOnly

theorem pure (a : α) : FailsOnly P (Pure.pure a) := by
  intro bound failure out h
  cases h

theorem mono {rendering : Rendering α} {Q : Failure → Prop} (h : FailsOnly P rendering)
    (imp : ∀ failure, P failure → Q failure) : FailsOnly Q rendering :=
  fun bound failure out failed => imp failure (h bound failure out failed)

theorem lift {result : Except Failure α} (h : ∀ failure, result = .error failure → P failure) :
    FailsOnly P (liftM result : Rendering α) := by
  intro bound failure out failed
  rw [render_lift] at failed
  exact h failure (Prod.mk.inj failed).1

theorem bind {rendering : Rendering α} {next : α → Rendering β} (first : FailsOnly P rendering)
    (then_ : ∀ a, FailsOnly P (next a)) : FailsOnly P (rendering >>= next) := by
  intro bound failure out failed
  rw [render_bind] at failed
  split at failed
  · exact then_ _ _ _ _ failed
  · next own out' run =>
      have same : own = failure := Except.error.inj (Prod.mk.inj failed).1
      exact same ▸ first bound own out' run

theorem mapM {f : α → Rendering β} {xs : List α} (h : ∀ x ∈ xs, FailsOnly P (f x)) :
    FailsOnly P (xs.mapM f) := by
  induction xs with
  | nil => exact pure []
  | cons x xs ih =>
      rw [List.mapM_cons]
      have rest := ih fun y member => h y (List.mem_cons_of_mem x member)
      exact (h x List.mem_cons_self).bind fun y => rest.bind fun ys => pure _

end FailsOnly

/-- What keeps a rendering over known columns from ending well. -/
theorem Runs.error {rendering : Rendering α} {writable : Prop} {a : α}
    {values bound out : List Scalar} {failure : Failure} (h : Runs rendering writable a values)
    (failed : rendering.render bound = (.error failure, out)) :
    failure = .integerNotWritten ∧ ¬ writable := by
  by_cases all : writable
  · rw [h.binds all bound] at failed
    cases failed
  · obtain ⟨front, -, stopped⟩ := h.stops all bound
    rw [stopped] at failed
    cases failed
    exact ⟨rfl, all⟩

end Rendering

open Rendering (FailsOnly)

/-- A failure for a field that the report does not have. -/
def Report.Lacks (r : Report) (failure : Failure) : Prop :=
  ∃ field, r.hasField field = false ∧ failure = .fieldNotInReport field r.name

variable {r : Report} {failure : Failure}

theorem Report.columnOf_error {field : String} (h : r.columnOf field = .error failure) :
    r.Lacks failure := by
  rw [columnOf] at h
  split at h
  · cases h
  · next none =>
      refine ⟨field, ?_, (Except.error.inj h).symm⟩
      rw [hasField, none]
      rfl

/-- A failure for a field that the report does not have, or for a value of the predicates
that cannot be written. -/
def Report.Refuses (r : Report) (predicates : List Predicate) (failure : Failure) : Prop :=
  r.Lacks failure ∨ failure = .integerNotWritten ∧ ∃ p ∈ predicates, ¬ p.IsWritable r

theorem Report.Refuses.of_subset {predicates more : List Predicate}
    (h : r.Refuses predicates failure) (sub : predicates ⊆ more) : r.Refuses more failure :=
  h.imp_right fun ⟨cause, p, member, refused⟩ => ⟨cause, p, sub member, refused⟩

theorem Predicate.render_failsOnly (p : Predicate) : FailsOnly (r.Refuses [p]) (p.render r) := by
  cases known : r.hasField p.field with
  | false =>
      rw [render_of_lacking known]
      refine FailsOnly.lift fun failure same => .inl ⟨p.field, known, ?_⟩
      exact (Except.error.inj same).symm
  | true =>
      intro bound failure out failed
      obtain ⟨cause, some⟩ := (render_runs known).error failed
      exact .inr ⟨cause, p, List.mem_cons_self, some⟩

namespace Group

theorem renderAll_failsOnly {groups : List Group}
    (ih : ∀ g ∈ groups, FailsOnly (r.Refuses g.allPredicates) (g.render r)) :
    FailsOnly (r.Refuses (allPredicatesOf groups)) (renderAll r groups) := by
  induction groups with
  | nil => exact FailsOnly.pure []
  | cons group rest ihList =>
      rw [renderAll_cons, allPredicatesOf]
      have first := (ih group List.mem_cons_self).mono fun failure h =>
        h.of_subset (List.subset_append_left _ (allPredicatesOf rest))
      have others := (ihList fun g member => ih g (List.mem_cons_of_mem group member)).mono
        fun failure h => h.of_subset (List.subset_append_right group.allPredicates _)
      exact first.bind fun _ => others.bind fun _ => FailsOnly.pure _

theorem render_failsOnly (g : Group) : FailsOnly (r.Refuses g.allPredicates) (g.render r) := by
  induction g using Group.induction with
  | mk predicates groups connective negated ih =>
      rw [render_mk, allPredicates_mk]
      have own : FailsOnly (r.Refuses (predicates ++ allPredicatesOf groups))
          (predicates.mapM (·.render r)) := FailsOnly.mapM fun p member =>
        p.render_failsOnly.mono fun failure h => h.of_subset <| List.cons_subset.mpr
          ⟨List.mem_append_left _ member, List.nil_subset _⟩
      have nested := (renderAll_failsOnly ih).mono fun failure h =>
        h.of_subset (List.subset_append_right predicates _)
      exact own.bind fun _ => nested.bind fun _ => FailsOnly.pure _

theorem renderConditions_failsOnly (groups : List Group) :
    FailsOnly (r.Refuses (allPredicatesOf groups)) (renderConditions r groups) :=
  (renderAll_failsOnly fun g _ => render_failsOnly g).bind fun _ => FailsOnly.pure _

end Group

namespace Query

variable {q : Query} {settings : Settings}

theorem resolveColumns_error (h : q.resolveColumns r = .error failure) :
    r.Lacks failure ∨ failure = .noColumnLeft r.name q.excludedFields := by
  rcases error_of_bind h with looked | ⟨_, -, h⟩
  · refine .inl ?_
    generalize q.projections = projections at looked
    induction projections with
    | nil => cases looked
    | cons p more ih =>
        rw [List.forIn_cons] at looked
        cases found : r.columnOf p.field with
        | error own =>
            rw [found] at looked
            have same : own = failure := Except.error.inj looked
            exact same ▸ Report.columnOf_error found
        | ok column =>
            rw [found] at looked
            exact ih looked
  · by_cases left : (q.shownFields r).isEmpty = true
    · simp only [left, if_true] at h
      exact .inr (Except.error.inj h).symm
    · simp only [left] at h
      obtain ⟨field, -, failed⟩ := error_of_mapM h
      exact .inl (Report.columnOf_error failed)

theorem renderOrder_error (h : q.renderOrder r = .error failure) : r.Lacks failure := by
  rcases error_of_bind h with failed | ⟨entries, -, h⟩
  · obtain ⟨key, -, failed⟩ := error_of_mapM failed
    rcases error_of_bind failed with failed | ⟨column, -, h⟩
    · exact Report.columnOf_error failed
    · cases h
  · cases h

/-- A query fails for a fault of its own, or because a number of it cannot be written, or
only its row limit does. -/
theorem toStatement_error (h : q.toStatement r settings = .error failure) :
    r.Lacks failure ∨ failure = .noColumnLeft r.name q.excludedFields ∨
      (failure = .integerNotWritten ∧ ¬ q.IsWritable r settings) ∨
      ∃ columns order, q.resolveColumns r = .ok columns ∧
        (∀ p ∈ q.allPredicates, r.hasField p.field = true) ∧ q.renderOrder r = .ok order ∧
        q.IsWritable r settings ∧
        Sql.withRowLimit settings.dialect (q.body (·.sqlText r) r columns order) =
          .error failure ∧ q.limit ≠ none := by
  have given := h
  rcases error_of_bind h with failed | ⟨columns, hcolumns, h⟩
  · exact (resolveColumns_error failed).imp_right .inl
  rcases error_of_bind h with failed | ⟨conditions, hconditions, h⟩
  · have refused := Group.renderConditions_failsOnly q.filters [] _ _ (Prod.ext failed rfl)
    refine refused.imp_right fun ⟨cause, p, member, kept⟩ => .inr (.inl ⟨cause, ?_⟩)
    exact fun writable => kept (writable.values p member)
  rcases error_of_bind h with failed | ⟨order, horder, -⟩
  · exact .inl (renderOrder_error failed)
  have run : (Group.renderConditions r q.filters).render [] = (.ok conditions, _) :=
    Prod.ext hconditions rfl
  have known : ∀ p ∈ q.allPredicates, r.hasField p.field = true :=
    Group.columns_of_renderConditions run
  by_cases writable : q.IsWritable r settings
  · rw [toStatement_eq hcolumns known writable.values horder] at given
    obtain ⟨limit, hlimit, ⟨reports, -⟩ | ⟨-, failed⟩⟩ := limited_error (error_of_map given)
    · rw [writable.limit limit hlimit] at reports
      cases reports
    · exact .inr <| .inr <| .inr ⟨columns, order, hcolumns, known, horder, writable, failed,
        hlimit ▸ Option.some_ne_none limit⟩
  · rw [toStatement_of_not_isWritable hcolumns known horder writable] at given
    exact .inr (.inr (.inl ⟨(Except.error.inj given).symm, writable⟩))

end Query

end Inquiry
