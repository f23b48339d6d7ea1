import Inquiry.Proofs.Group
import Inquiry.Statement.Conditions

/-!
# Running a rendering

Text and bound values are produced side by side. `Binds` states both for a
rendering at once: it yields its text from every start and puts its values
behind the ones that are bound already. `Stops` is the other way in which a
rendering over known columns ends: at an integer that cannot be written, with
the values before it bound. `Runs` says which of the two it is. Its rules follow
the structure of renderings, and from them every group of writable predicates
renders to the text that `textBy` joins from the texts of its predicates,
binding the values of its predicates in order.

The converse is `Group.columns_of_render` and `Runs.writable_of_ok`: a rendering
that succeeds has found the column of every predicate and could write every value.
-/

namespace Inquiry

namespace Rendering

variable {α β : Type}

@[simp] theorem render_pure (a : α) (bound : List Scalar) :
    (pure a : Rendering α).render bound = (.ok a, bound) := rfl

@[simp] theorem render_bindValues (values bound : List Scalar) :
    (bindValues values).render bound = (.ok (), bound ++ values) := rfl

/-- What is bound before a failure stays bound. -/
theorem render_bind (rendering : Rendering α) (next : α → Rendering β) (bound : List Scalar) :
    (rendering >>= next).render bound =
      match rendering.render bound with
      | (.ok a, bound) => (next a).render bound
      | (.error failure, bound) => (.error failure, bound) := by
  change StateT.run (ExceptT.run rendering >>= ExceptT.bindCont next) bound = _
  rw [StateT.run_bind]
  change (ExceptT.bindCont next (rendering.render bound).1).run (rendering.render bound).2 = _
  match rendering.render bound with
  | (.ok a, bound) => rfl
  | (.error failure, bound) => rfl

theorem render_lift (result : Except Failure α) (bound : List Scalar) :
    (liftM result : Rendering α).render bound = (result, bound) := by
  cases result <;> rfl

/-- A sequence succeeds only if both of its parts do. -/
theorem render_bind_ok {rendering : Rendering α} {next : α → Rendering β}
    {bound out : List Scalar} {b : β} (h : (rendering >>= next).render bound = (.ok b, out)) :
    ∃ a middle, rendering.render bound = (.ok a, middle) ∧
      (next a).render middle = (.ok b, out) := by
  rw [render_bind] at h
  match hr : rendering.render bound with
  | (.ok a, middle) =>
      rw [hr] at h
      exact ⟨a, middle, rfl, h⟩
  | (.error failure, middle) =>
      rw [hr] at h
      cases h

/-- Every element of a list that renders renders by itself. -/
theorem render_mapM_ok {f : α → Rendering β} {xs : List α} {ys : List β}
    {bound out : List Scalar} (h : (xs.mapM f).render bound = (.ok ys, out)) :
    ∀ x ∈ xs, ∃ y start finish, (f x).render start = (.ok y, finish) := by
  induction xs generalizing ys bound out with
  | nil => simp
  | cons x xs ih =>
      rw [List.mapM_cons] at h
      obtain ⟨y, middle, first, h⟩ := render_bind_ok h
      obtain ⟨more, _, rest, _⟩ := render_bind_ok h
      intro z member
      rcases List.mem_cons.mp member with rfl | member
      · exact ⟨y, bound, middle, first⟩
      · exact ih rest z member

/-- A rendering yields `a` and binds `values` behind those bound already. -/
def Binds (rendering : Rendering α) (a : α) (values : List Scalar) : Prop :=
  ∀ bound, rendering.render bound = (.ok a, bound ++ values)

theorem Binds.pure (a : α) : Binds (Pure.pure a) a [] := by
  intro bound
  rw [render_pure, List.append_nil]

theorem Binds.bindValues (values : List Scalar) : Binds (bindValues values) () values :=
  fun bound => render_bindValues values bound

theorem Binds.bind {rendering : Rendering α} {next : α → Rendering β} {a : α} {b : β}
    {first second : List Scalar} (h₁ : Binds rendering a first) (h₂ : Binds (next a) b second) :
    Binds (rendering >>= next) b (first ++ second) := by
  intro bound
  rw [render_bind, h₁ bound]
  change (next a).render (bound ++ first) = _
  rw [h₂ (bound ++ first), List.append_assoc]

/-- What is made of the text in the end binds nothing more. -/
theorem Binds.andReturn {rendering : Rendering α} {a : α} {values : List Scalar} (f : α → β)
    (h : Binds rendering a values) :
    Binds (do let a ← rendering; return f a) (f a) values := by
  have both : Binds (rendering >>= fun a => Pure.pure (f a)) (f a) (values ++ []) :=
    h.bind (Binds.pure (f a))
  rwa [List.append_nil] at both

/-- A rendering that stops at an integer which cannot be written, with the first
few of the values bound behind those bound already. -/
def Stops (rendering : Rendering α) (values : List Scalar) : Prop :=
  ∀ bound, ∃ front, front <+: values ∧
    rendering.render bound = (.error .integerNotWritten, bound ++ front)

theorem Stops.bind {rendering : Rendering α} {values : List Scalar} (h : Stops rendering values)
    (next : α → Rendering β) (more : List Scalar) :
    Stops (rendering >>= next) (values ++ more) := by
  intro bound
  obtain ⟨front, first, stopped⟩ := h bound
  refine ⟨front, first.trans (List.prefix_append values more), ?_⟩
  rw [render_bind, stopped]

theorem Binds.bind_stops {rendering : Rendering α} {next : α → Rendering β} {a : α}
    {first second : List Scalar} (h₁ : Binds rendering a first) (h₂ : Stops (next a) second) :
    Stops (rendering >>= next) (first ++ second) := by
  intro bound
  obtain ⟨front, front_le, stopped⟩ := h₂ (bound ++ first)
  refine ⟨first ++ front, (List.prefix_append_right_inj first).mpr front_le, ?_⟩
  rw [render_bind, h₁ bound]
  change (next a).render (bound ++ first) = _
  rw [stopped, List.append_assoc]

/-- How a rendering ends: it yields `a` and binds `values` if all of them can be
written, and stops otherwise. -/
structure Runs (rendering : Rendering α) (writable : Prop) (a : α) (values : List Scalar) :
    Prop where
  binds : writable → Binds rendering a values
  stops : ¬ writable → Stops rendering values

theorem Binds.runs {rendering : Rendering α} {a : α} {values : List Scalar}
    (h : Binds rendering a values) : Runs rendering True a values :=
  ⟨fun _ => h, fun none => absurd trivial none⟩

namespace Runs

theorem iff {rendering : Rendering α} {writable other : Prop} {a : α} {values : List Scalar}
    (h : Runs rendering writable a values) (same : other ↔ writable) :
    Runs rendering other a values :=
  ⟨fun all => h.binds (same.mp all), fun some => h.stops fun all => some (same.mpr all)⟩

theorem bind {rendering : Rendering α} {next : α → Rendering β} {a : α} {b : β}
    {writable others : Prop} {first second : List Scalar}
    (h₁ : Runs rendering writable a first) (h₂ : Runs (next a) others b second) :
    Runs (rendering >>= next) (writable ∧ others) b (first ++ second) := by
  refine ⟨fun all => (h₁.binds all.1).bind (h₂.binds all.2), fun some => ?_⟩
  by_cases all : writable
  · exact (h₁.binds all).bind_stops (h₂.stops fun others => some ⟨all, others⟩)
  · exact (h₁.stops all).bind next second

/-- What is made of the text in the end binds nothing more. -/
theorem andReturn {rendering : Rendering α} {a : α} {writable : Prop} {values : List Scalar}
    (f : α → β) (h : Runs rendering writable a values) :
    Runs (do let a ← rendering; return f a) writable (f a) values := by
  have both : Runs (rendering >>= fun a => Pure.pure (f a)) (writable ∧ True) (f a)
      (values ++ []) := h.bind (Binds.pure (f a)).runs
  rw [List.append_nil] at both
  exact both.iff (and_iff_left trivial).symm

theorem mapM {f : α → Rendering β} {writable : α → Prop} {text : α → β}
    {values : α → List Scalar} {xs : List α}
    (h : ∀ x ∈ xs, Runs (f x) (writable x) (text x) (values x)) :
    Runs (xs.mapM f) (∀ x ∈ xs, writable x) (xs.map text) (xs.flatMap values) := by
  induction xs with
  | nil => exact (Binds.pure []).runs.iff (by simp)
  | cons x xs ih =>
      rw [List.mapM_cons, List.map_cons, List.flatMap_cons]
      have rest := ih fun y member => h y (List.mem_cons_of_mem x member)
      exact ((h x List.mem_cons_self).bind (rest.andReturn (text x :: ·))).iff
        List.forall_mem_cons

/-- A rendering that succeeds could write all of its values. -/
theorem writable_of_ok {rendering : Rendering α} {writable : Prop} {a b : α}
    {values bound out : List Scalar} (h : Runs rendering writable a values)
    (run : rendering.render bound = (.ok b, out)) : writable := by
  by_contra some
  obtain ⟨_, -, stopped⟩ := h.stops some bound
  rw [stopped] at run
  cases run

end Runs

end Rendering

open Rendering (Binds Runs)

namespace Report

/-- The column of a field is found exactly when the report has the field. -/
theorem hasField_iff (r : Report) (field : String) :
    r.hasField field = true ↔ ∃ column, r.column? field = some column := by
  rw [hasField, Option.isSome_iff_exists]

theorem columnOf_of_some {r : Report} {field : String} {column : Column}
    (h : r.column? field = some column) : r.columnOf field = .ok column := by
  rw [columnOf, h]

theorem columnOf_ok_iff {r : Report} {field : String} {column : Column} :
    r.columnOf field = .ok column ↔ r.column? field = some column := by
  rw [columnOf]
  cases r.column? field <;> simp

theorem hasField_of_columnOf {r : Report} {field : String} {column : Column}
    (h : r.columnOf field = .ok column) : r.hasField field = true :=
  (r.hasField_iff field).mpr ⟨column, columnOf_ok_iff.mp h⟩

end Report

/-- The column of a test, in the form in which it is compared. -/
def Test.operand (test : Test) (c : Column) : String :=
  let folded :=
    if c.numeric then c.expression else "UPPER(RTRIM(LTRIM(" ++ c.expression ++ ")))"
  if test.foldsText then folded else c.expression

theorem Test.text_eq (test : Test) (c : Column) :
    test.text c = match test with
      | .compare comparison _ => test.operand c ++ " " ++ comparison.sign ++ " ?"
      | .oneOf _ others =>
        test.operand c ++ " IN (?" ++ String.join (others.map fun _ => ", ?") ++ ")"
      | .between .. => test.operand c ++ " BETWEEN ? AND ?"
      | .isNull => test.operand c ++ " IS NULL"
      | .isNotNull => test.operand c ++ " IS NOT NULL" := by
  unfold Test.text
  rfl

/-- Values are converted for a column all together, or none of them is. -/
theorem Column.mapM_bound (c : Column) (folds : Bool) (values : List Scalar) :
    values.mapM (c.bound folds) =
      if values.all c.takes then .ok (values.map (c.bind folds))
      else .error .integerNotWritten := by
  induction values with
  | nil => rfl
  | cons v values ih =>
      rw [List.mapM_cons, ih, bound, List.all_cons]
      cases c.takes v <;> cases values.all c.takes <;> rfl

theorem Column.bindAll_runs (c : Column) (folds : Bool) (values : List Scalar) :
    Runs (c.bindAll folds values) (∀ v ∈ values, c.takes v = true) ()
      (values.map (c.bind folds)) := by
  rw [← List.all_eq_true]
  have lifted (bound : List Scalar) : (c.bindAll folds values).render bound =
      if values.all c.takes then (.ok (), bound ++ values.map (c.bind folds))
      else (.error .integerNotWritten, bound) := by
    rw [bindAll, Rendering.render_bind, Rendering.render_lift, mapM_bound]
    cases values.all c.takes <;> rfl
  constructor
  · intro all bound
    rw [lifted, if_pos all]
  · intro some bound
    refine ⟨[], List.nil_prefix, ?_⟩
    rw [lifted, if_neg some, List.append_nil]

/-- The values of a test are bound in order, up to one that cannot be written. -/
theorem Test.bindTo_runs (test : Test) (c : Column) :
    Runs (test.bindTo c) (∀ v ∈ test.values, c.takes v = true) ()
      (test.values.map (c.bind test.foldsText)) := by
  cases test with
  | between low high =>
      have first := c.bindAll_runs (Test.between low high).foldsText [low]
      have second := c.bindAll_runs (Test.between low high).foldsText [high]
      exact (first.bind second).iff (by simp [values])
  | compare comparison v => exact c.bindAll_runs _ _
  | oneOf first others => exact c.bindAll_runs _ _
  | isNull => exact c.bindAll_runs _ _
  | isNotNull => exact c.bindAll_runs _ _

namespace Predicate

/-- The text of a predicate on a column of the report. -/
def sqlText (r : Report) (p : Predicate) : String :=
  match r.column? p.field with
  | some column => p.test.text column
  | none => ""

/-- The values that a predicate on a column of the report binds. -/
def boundValues (r : Report) (p : Predicate) : List Scalar :=
  match r.column? p.field with
  | some column => p.test.values.map (column.bind p.test.foldsText)
  | none => []

/-- The values of a predicate can be bound to its column. -/
def IsWritable (r : Report) (p : Predicate) : Prop :=
  ∀ column, r.column? p.field = some column → ∀ v ∈ p.test.values, column.takes v = true

/-- A predicate on a field that the report does not have is not rendered. -/
theorem render_of_lacking {r : Report} {p : Predicate} (lacking : r.hasField p.field = false) :
    p.render r =
      liftM (Except.error (.fieldNotInReport p.field r.name) : Except Failure String) := by
  have missing : r.columnOf p.field = .error (.fieldNotInReport p.field r.name) := by
    rw [Report.hasField, Option.isSome_eq_false_iff, Option.isNone_iff_eq_none] at lacking
    rw [Report.columnOf, lacking]
  unfold render
  rw [missing]
  rfl

theorem render_runs {r : Report} {p : Predicate} (known : r.hasField p.field = true) :
    Runs (p.render r) (p.IsWritable r) (p.sqlText r) (p.boundValues r) := by
  obtain ⟨column, hcolumn⟩ := (r.hasField_iff p.field).mp known
  have text : p.sqlText r = p.test.text column := by rw [sqlText, hcolumn]
  have values : p.boundValues r = p.test.values.map (column.bind p.test.foldsText) := by
    rw [boundValues, hcolumn]
  have lookup : Binds (liftM (r.columnOf p.field)) column [] := by
    intro bound
    rw [Rendering.render_lift, Report.columnOf_of_some hcolumn, List.append_nil]
  rw [text, values]
  refine (lookup.runs.bind ((p.test.bindTo_runs column).andReturn fun _ => _)).iff ?_
  simp [IsWritable, hcolumn]

theorem render_binds {r : Report} {p : Predicate} (known : r.hasField p.field = true)
    (writable : p.IsWritable r) : Binds (p.render r) (p.sqlText r) (p.boundValues r) :=
  (render_runs known).binds writable

theorem hasField_of_render {r : Report} {p : Predicate} {text : String} {bound out : List Scalar}
    (h : (p.render r).render bound = (.ok text, out)) : r.hasField p.field = true := by
  obtain ⟨column, _, lookup, _⟩ := Rendering.render_bind_ok h
  rw [Rendering.render_lift] at lookup
  exact Report.hasField_of_columnOf (Prod.mk.inj lookup).1

end Predicate

namespace Group

mutual

/-- The text of a group whose predicates have the given texts. -/
def textBy (text : Predicate → String) : Group → Option String
  | ⟨predicates, groups, connective, negated⟩ =>
    joined connective negated (predicates.map text ++ textsBy text groups)

/-- The texts of the groups that have one. -/
def textsBy (text : Predicate → String) : List Group → List String
  | [] => []
  | group :: rest => (group.textBy text).toList ++ textsBy text rest

end

/-- The text of all conditions of a query. -/
def conditionsBy (text : Predicate → String) (groups : List Group) : String :=
  let texts := textsBy text groups
  if texts.isEmpty then "1=1" else " AND ".intercalate texts

@[simp] theorem textBy_mk (text : Predicate → String) (predicates : List Predicate)
    (groups : List Group) (connective : Connective) (negated : Bool) :
    textBy text ⟨predicates, groups, connective, negated⟩ =
      joined connective negated (predicates.map text ++ textsBy text groups) := by
  rw [textBy]

theorem textsBy_eq (text : Predicate → String) (groups : List Group) :
    textsBy text groups = groups.flatMap fun g => (g.textBy text).toList := by
  induction groups with
  | nil => rfl
  | cons group rest ih => rw [textsBy, ih, List.flatMap_cons]

theorem render_mk (r : Report) (predicates : List Predicate) (groups : List Group)
    (connective : Connective) (negated : Bool) :
    render r ⟨predicates, groups, connective, negated⟩ = (do
      let own ← predicates.mapM (·.render r)
      let nested ← renderAll r groups
      return joined connective negated (own ++ nested)) := by
  rw [render]

theorem renderAll_cons (r : Report) (group : Group) (rest : List Group) :
    renderAll r (group :: rest) = (do
      let text? ← group.render r
      let texts ← renderAll r rest
      return text?.toList ++ texts) := by
  rw [renderAll]

/-- Groups run one after the other if each of them does. -/
theorem renderAll_runs_of {r : Report} {groups : List Group}
    (h : ∀ g ∈ groups, Runs (g.render r) (∀ p ∈ g.allPredicates, p.IsWritable r)
      (g.textBy (·.sqlText r)) (g.allPredicates.flatMap (·.boundValues r))) :
    Runs (renderAll r groups) (∀ p ∈ allPredicatesOf groups, p.IsWritable r)
      (textsBy (·.sqlText r) groups) ((allPredicatesOf groups).flatMap (·.boundValues r)) := by
  induction groups with
  | nil => exact (Binds.pure []).runs.iff (by simp [allPredicatesOf])
  | cons group rest ih =>
      have first := h group List.mem_cons_self
      have others := ih fun g member => h g (List.mem_cons_of_mem group member)
      rw [renderAll_cons, textsBy, allPredicatesOf, List.flatMap_append]
      exact (first.bind (others.andReturn _)).iff List.forall_mem_append

/-- A group over columns of the report renders to the joined texts of its
predicates and binds their values in the order of the predicates, unless it stops
at one that cannot be written. -/
theorem render_runs {r : Report} (g : Group)
    (known : ∀ p ∈ g.allPredicates, r.hasField p.field = true) :
    Runs (g.render r) (∀ p ∈ g.allPredicates, p.IsWritable r) (g.textBy (·.sqlText r))
      (g.allPredicates.flatMap (·.boundValues r)) := by
  induction g using Group.induction with
  | mk predicates groups connective negated ih =>
      rw [allPredicates_mk] at known
      have own : Runs (predicates.mapM (·.render r)) _ (predicates.map (·.sqlText r))
          (predicates.flatMap (·.boundValues r)) :=
        Runs.mapM fun p member => Predicate.render_runs (known p (List.mem_append_left _ member))
      have nested : Runs (renderAll r groups) _ _ _ := renderAll_runs_of fun g member =>
        ih g member fun p hp => known p (List.mem_append_right _ (mem_allPredicatesOf member hp))
      rw [render_mk, textBy_mk, allPredicates_mk, List.flatMap_append]
      exact (own.bind (nested.andReturn _)).iff List.forall_mem_append

theorem render_binds {r : Report} (g : Group)
    (known : ∀ p ∈ g.allPredicates, r.hasField p.field = true)
    (writable : ∀ p ∈ g.allPredicates, p.IsWritable r) :
    Binds (g.render r) (g.textBy (·.sqlText r)) (g.allPredicates.flatMap (·.boundValues r)) :=
  (g.render_runs known).binds writable

theorem columns_of_renderAll {r : Report} {groups : List Group}
    (ih : ∀ g ∈ groups, ∀ {text bound out}, (g.render r).render bound = (.ok text, out) →
      ∀ p ∈ g.allPredicates, r.hasField p.field = true)
    {texts : List String} {bound out : List Scalar}
    (h : (renderAll r groups).render bound = (.ok texts, out)) :
    ∀ p ∈ allPredicatesOf groups, r.hasField p.field = true := by
  induction groups generalizing texts bound out with
  | nil => simp [allPredicatesOf]
  | cons group rest ihList =>
      rw [renderAll_cons] at h
      obtain ⟨text?, middle, first, h⟩ := Rendering.render_bind_ok h
      obtain ⟨others, _, second, _⟩ := Rendering.render_bind_ok h
      intro p member
      rw [allPredicatesOf] at member
      rcases List.mem_append.mp member with member | member
      · exact ih group List.mem_cons_self first p member
      · exact ihList (fun g hg => ih g (List.mem_cons_of_mem group hg)) second p member

/-- Rendering succeeds only over columns of the report. -/
theorem columns_of_render {r : Report} (g : Group) :
    ∀ {text bound out}, (g.render r).render bound = (.ok text, out) →
      ∀ p ∈ g.allPredicates, r.hasField p.field = true := by
  induction g using Group.induction with
  | mk predicates groups connective negated ih =>
      intro text bound out h p member
      rw [render_mk] at h
      obtain ⟨own, middle, first, h⟩ := Rendering.render_bind_ok h
      obtain ⟨nested, _, second, _⟩ := Rendering.render_bind_ok h
      rw [allPredicates_mk] at member
      rcases List.mem_append.mp member with member | member
      · obtain ⟨_, _, _, hp⟩ := Rendering.render_mapM_ok first p member
        exact Predicate.hasField_of_render hp
      · exact columns_of_renderAll ih second p member

theorem renderConditions_runs {r : Report} {groups : List Group}
    (known : ∀ p ∈ allPredicatesOf groups, r.hasField p.field = true) :
    Runs (renderConditions r groups) (∀ p ∈ allPredicatesOf groups, p.IsWritable r)
      (conditionsBy (·.sqlText r) groups) ((allPredicatesOf groups).flatMap (·.boundValues r)) := by
  have all : Runs (renderAll r groups) _ _ _ := renderAll_runs_of fun g member =>
    render_runs g fun p hp => known p (mem_allPredicatesOf member hp)
  exact all.andReturn fun texts => if texts.isEmpty then "1=1" else " AND ".intercalate texts

theorem columns_of_renderConditions {r : Report} {groups : List Group} {text : String}
    {bound out : List Scalar} (h : (renderConditions r groups).render bound = (.ok text, out)) :
    ∀ p ∈ allPredicatesOf groups, r.hasField p.field = true := by
  obtain ⟨texts, _, first, _⟩ := Rendering.render_bind_ok h
  exact columns_of_renderAll (fun g _ => columns_of_render g) first

end Group

end Inquiry
