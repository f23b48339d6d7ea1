import Inquiry.Proofs.PlainDigits
import Inquiry.Proofs.Statement

/-!
# Values never reach the text

Two queries are alike if they differ at most in the values that they compare
with and in the number of rows that they ask for. Rendering them side by side,
each step does the same on both sides: it adds the same text or fails for the
same reason, and it binds equally many values. `Rendering.Agree` states this
for two renderings at once, and its rules follow the structure of renderings.

So whoever sees a statement without its values, or the failure in its place,
learns nothing about the values. The exception is an integer with so many digits
that it cannot be written as text: where it would have to be, there is a failure
and no statement, while a smaller one in its place goes through
(`toStatement_of_alike_digits`).
-/

namespace Inquiry

/-- Tests with the same operator and equally many values. -/
structure Test.Alike (test other : Test) : Prop where
  operator : test.operator = other.operator
  count : test.values.length = other.values.length

/-- Predicates that differ at most in the values they compare with. -/
structure Predicate.Alike (p q : Predicate) : Prop where
  field : p.field = q.field
  test : p.test.Alike q.test

/-- Groups of the same shape with predicates that differ at most in their values. -/
inductive Group.Alike : Group → Group → Prop where
  | mk {predicates others : List Predicate} {groups more : List Group}
      (connective : Connective) (negated : Bool)
      (own : List.Forall₂ Predicate.Alike predicates others)
      (nested : List.Forall₂ Group.Alike groups more) :
      Group.Alike ⟨predicates, groups, connective, negated⟩ ⟨others, more, connective, negated⟩

/-- Queries that differ at most in the values they compare with and in the
number of rows they ask for. -/
structure Query.Alike (q other : Query) : Prop where
  filters : List.Forall₂ Group.Alike q.filters other.filters
  projections : q.projections = other.projections
  sortKeys : q.sortKeys = other.sortKeys
  limit : q.limit.isSome = other.limit.isSome

namespace Rendering

variable {α β γ : Type}

/-- Two renderings that cannot be told apart while values are hidden: if equally
many values are bound already, both yield the same text or fail for the same
reason, and bind equally many values. -/
def Agree (first second : Rendering α) : Prop :=
  ∀ bound other : List Scalar, bound.length = other.length →
    (first.render bound).1 = (second.render other).1 ∧
      (first.render bound).2.length = (second.render other).2.length

theorem Agree.pure (a : α) : Agree (Pure.pure a) (Pure.pure a) :=
  fun _ _ same => ⟨rfl, same⟩

theorem Agree.lift (result : Except Failure α) : Agree (liftM result) (liftM result) := by
  intro bound other same
  rw [render_lift, render_lift]
  exact ⟨rfl, same⟩

theorem Agree.bind {first second : Rendering α} {next after : α → Rendering β}
    (h : Agree first second) (then_ : ∀ a, Agree (next a) (after a)) :
    Agree (first >>= next) (second >>= after) := by
  intro bound other same
  obtain ⟨text, count⟩ := h bound other same
  rw [render_bind, render_bind]
  match hfirst : first.render bound, hsecond : second.render other with
  | (.ok a, bound'), (.ok b, other') =>
      rw [hfirst, hsecond] at text count
      cases text
      exact then_ a bound' other' count
  | (.error failure, bound'), (.error failure', other') =>
      rw [hfirst, hsecond] at text count
      cases text
      exact ⟨rfl, count⟩
  | (.ok a, bound'), (.error failure, other') | (.error failure, bound'), (.ok a, other') =>
      rw [hfirst, hsecond] at text
      cases text

theorem Agree.of_binds {first second : Rendering α} {a : α} {values others : List Scalar}
    (h : Binds first a values) (other : Binds second a others)
    (count : values.length = others.length) : Agree first second := by
  intro bound more same
  rw [h bound, other more, List.length_append, List.length_append, same, count]
  exact ⟨rfl, rfl⟩

/-- Lists of renderings agree if their members do, one by one. -/
theorem Agree.mapM {R : α → β → Prop} {f : α → Rendering γ} {g : β → Rendering γ} {xs : List α}
    {ys : List β} (h : List.Forall₂ R xs ys)
    (each : ∀ x ∈ xs, ∀ y ∈ ys, R x y → Agree (f x) (g y)) : Agree (xs.mapM f) (ys.mapM g) := by
  induction h with
  | nil => exact Agree.pure []
  | cons related _ ih =>
      rw [List.mapM_cons, List.mapM_cons]
      have head := each _ List.mem_cons_self _ List.mem_cons_self related
      have rest := ih fun x hx y hy =>
        each x (List.mem_cons_of_mem _ hx) y (List.mem_cons_of_mem _ hy)
      exact head.bind fun c => rest.bind fun cs => Agree.pure (c :: cs)

end Rendering

open Rendering (Agree Binds)

namespace Test.Alike

variable {test other : Test}

theorem foldsText (h : test.Alike other) : test.foldsText = other.foldsText := by
  have operator := h.operator
  cases test <;> cases other <;> cases operator
  case compare.compare.refl comparison _ _ => cases comparison <;> rfl
  all_goals rfl

/-- The text of a test shows its operator and the number of its values only. -/
theorem text (h : test.Alike other) (c : Column) : test.text c = other.text c := by
  have left : test.operand c = other.operand c := by
    simp only [Test.operand, h.foldsText]
  obtain ⟨operator, count⟩ := h
  rw [Test.text_eq, Test.text_eq, left]
  cases test <;> cases other <;> cases operator
  case oneOf.oneOf.refl first others first' others' =>
    have many : others.length = others'.length := Nat.succ.inj count
    simp only [List.map_const', many]
  all_goals rfl

end Test.Alike

/-- Predicates that are alike render alike, if their values can be written. -/
theorem Predicate.Alike.render {p q : Predicate} (h : p.Alike q) {r : Report}
    (hp : p.IsWritable r) (hq : q.IsWritable r) : Agree (p.render r) (q.render r) := by
  cases lookup : r.column? p.field with
  | none =>
      have lacking : r.hasField p.field = false := by rw [Report.hasField, lookup]; rfl
      rw [render_of_lacking lacking, render_of_lacking (h.field ▸ lacking), ← h.field]
      exact Agree.lift (.error _)
  | some column =>
      have known : r.hasField p.field = true := (r.hasField_iff p.field).mpr ⟨column, lookup⟩
      have text : q.sqlText r = p.sqlText r := by
        rw [sqlText, sqlText, ← h.field, lookup]
        exact (h.test.text column).symm
      have count : (p.boundValues r).length = (q.boundValues r).length := by
        rw [boundValues, boundValues, ← h.field, lookup]
        simp only [List.length_map, h.test.count]
      have second := render_binds (h.field ▸ known) hq
      rw [text] at second
      exact Agree.of_binds (render_binds known hp) second count

namespace Group

/-- Groups one after the other render alike if each of them does. -/
theorem renderAll_agree {r : Report} {groups more : List Group}
    (each : ∀ g ∈ groups, ∀ g' ∈ more, g.Alike g' → Agree (g.render r) (g'.render r))
    (h : List.Forall₂ Alike groups more) : Agree (renderAll r groups) (renderAll r more) := by
  induction h with
  | nil => exact Agree.pure []
  | cons head _ ih =>
      rw [renderAll_cons, renderAll_cons]
      have first := each _ List.mem_cons_self _ List.mem_cons_self head
      have rest := ih fun g member g' member' =>
        each g (List.mem_cons_of_mem _ member) g' (List.mem_cons_of_mem _ member')
      exact first.bind fun text? => rest.bind fun texts => Agree.pure (text?.toList ++ texts)

/-- Groups that are alike render alike, however deep they are nested. -/
theorem Alike.render {g g' : Group} (h : g.Alike g') {r : Report}
    (hg : ∀ p ∈ g.allPredicates, p.IsWritable r) (hg' : ∀ p ∈ g'.allPredicates, p.IsWritable r) :
    Agree (g.render r) (g'.render r) := by
  induction g using Group.induction generalizing g' with
  | mk predicates groups connective negated ih =>
      obtain ⟨_, _, own, nested⟩ := h
      rw [allPredicates_mk, List.forall_mem_append] at hg hg'
      rw [render_mk, render_mk]
      have members := Agree.mapM own fun p hp q hq alike => alike.render (hg.1 p hp) (hg'.1 q hq)
      have below := renderAll_agree (fun g member g' member' alike =>
        ih g member alike (fun p hp => hg.2 p (mem_allPredicatesOf member hp))
          fun p hp => hg'.2 p (mem_allPredicatesOf member' hp)) nested
      exact members.bind fun texts => below.bind fun more => Agree.pure _

theorem renderConditions_agree {groups more : List Group}
    (h : List.Forall₂ Group.Alike groups more) {r : Report}
    (hgroups : ∀ p ∈ allPredicatesOf groups, p.IsWritable r)
    (hmore : ∀ p ∈ allPredicatesOf more, p.IsWritable r) :
    Agree (renderConditions r groups) (renderConditions r more) := by
  have all := renderAll_agree (fun g member g' member' alike =>
    alike.render (fun p hp => hgroups p (mem_allPredicatesOf member hp))
      fun p hp => hmore p (mem_allPredicatesOf member' hp)) h
  exact all.bind fun texts => Agree.pure _

theorem map_field_of_alike {predicates others : List Predicate}
    (h : List.Forall₂ Predicate.Alike predicates others) :
    predicates.map (·.field) = others.map (·.field) := by
  induction h with
  | nil => rfl
  | cons head _ ih => rw [List.map_cons, List.map_cons, head.field, ih]

theorem fieldsOf_of_alike {groups more : List Group}
    (each : ∀ g ∈ groups, ∀ g', g.Alike g' → g.fields = g'.fields)
    (h : List.Forall₂ Alike groups more) : fieldsOf groups = fieldsOf more := by
  induction h with
  | nil => rfl
  | cons head _ ih =>
      rw [fieldsOf, fieldsOf, each _ List.mem_cons_self _ head,
        ih fun g member => each g (List.mem_cons_of_mem _ member)]

/-- Groups that are alike are about the same fields. -/
theorem Alike.fields {g g' : Group} (h : g.Alike g') : g.fields = g'.fields := by
  induction g using Group.induction generalizing g' with
  | mk predicates groups connective negated ih =>
      obtain ⟨-, -, own, nested⟩ := h
      rw [Group.fields, Group.fields, map_field_of_alike own,
        fieldsOf_of_alike (fun g member g' alike => ih g member alike) nested]

end Group

/-- What is seen of a statement while its values are hidden: its text, its
headers, and how many values there are. -/
def Statement.outline (s : Statement) : String × List String × Nat :=
  (s.sql, s.headers, s.values.length)

namespace Query.Alike

variable {q other : Query}

theorem resolveColumns (h : q.Alike other) (r : Report) :
    q.resolveColumns r = other.resolveColumns r := by
  obtain ⟨-, projections, -, -⟩ := h
  cases q
  cases other
  cases projections
  rfl

theorem renderOrder (h : q.Alike other) (r : Report) : q.renderOrder r = other.renderOrder r := by
  simp only [Query.renderOrder, h.sortKeys]

theorem known (h : q.Alike other) {r : Report}
    (known : ∀ p ∈ q.allPredicates, r.hasField p.field = true) :
    ∀ p ∈ other.allPredicates, r.hasField p.field = true := by
  have fields : q.allPredicates.map (·.field) = other.allPredicates.map (·.field) := by
    rw [allPredicates, allPredicates, ← Group.fieldsOf_eq_map, ← Group.fieldsOf_eq_map,
      Group.fieldsOf_of_alike (fun g _ g' alike => alike.fields) h.filters]
  rw [← List.forall_mem_map (P := fun field => r.hasField field = true)] at known ⊢
  rwa [← fields]

/-- Where a limit stands does not depend on its number. -/
theorem limited (h : q.Alike other) {settings : Settings}
    (hq : ∀ n, q.limit = some n → failsToReport settings n = false)
    (hother : ∀ n, other.limit = some n → failsToReport settings n = false) (sql : String)
    {values others : List Scalar} (count : values.length = others.length) :
    (q.limited settings sql values).map (fun (sql, values, _) => (sql, values.length)) =
      (other.limited settings sql others).map fun (sql, values, _) => (sql, values.length) := by
  have limit := h.limit
  cases first : q.limit with
  | none =>
      rw [first, Option.isSome_none, eq_comm, Option.isSome_eq_false_iff,
        Option.isNone_iff_eq_none] at limit
      rw [Query.limited, Query.limited, first, limit]
      simp only [Except.map, count]
  | some n =>
      rw [first, Option.isSome_some, eq_comm, Option.isSome_iff_exists] at limit
      obtain ⟨m, second⟩ := limit
      rw [limited_some first, limited_some second, hq n first, hother m second]
      cases Sql.withRowLimit settings.dialect sql with
      | error failure => rfl
      | ok text =>
          simp only [Bool.false_eq_true, if_false, Except.map, boundWith]
          cases settings.dialect.limitsAtStart <;> simp [count]

/-- With their values hidden, the statements for queries that are alike are the
same, or both fail for the same reason, if their numbers can be written. -/
theorem toStatement_outline (h : q.Alike other) {r : Report} {settings : Settings}
    (hq : q.IsWritable r settings) (hother : other.IsWritable r settings) :
    (q.toStatement r settings).map Statement.outline =
      (other.toStatement r settings).map Statement.outline := by
  have seen (headers : List String) (domain : Domain)
      (result : Except Failure (String × List Scalar × List Warning)) :
      (result >>= fun (sql, values, warnings) => pure (Statement.mk sql values headers r.name
        domain warnings)).map Statement.outline =
        (result.map fun (sql, values, _) => (sql, values.length)).map
          fun (sql, count) => (sql, headers, count) := by
    cases result <;> rfl
  obtain ⟨text, count⟩ := Group.renderConditions_agree h.filters hq.values hother.values [] [] rfl
  rw [Query.toStatement, Query.toStatement, h.resolveColumns r, h.renderOrder r]
  generalize (Group.renderConditions r q.filters).render [] = first at text count ⊢
  generalize (Group.renderConditions r other.filters).render [] = second at text count ⊢
  obtain ⟨conditions, values⟩ := first
  obtain ⟨_, others⟩ := second
  cases text
  cases other.resolveColumns r with
  | error failure => rfl
  | ok columns =>
      cases conditions with
      | error failure => rfl
      | ok conditions =>
          cases other.renderOrder r with
          | error failure => rfl
          | ok order =>
              exact (seen _ _ _).trans ((congrArg _ (h.limited hq.limit hother.limit _ count)).trans
                (seen _ _ _).symm)

end Query.Alike

namespace Query

/-- The values of a query do not influence the text of its statement. Of two queries
that are alike, with numbers that can be written, either both have a statement or
both fail, and for the same reason. Statements for queries that are alike have the
same text, the same headers and equally many values. And where one of the queries
has a statement, the other can only lack one because of a number that cannot be
written. -/
theorem toStatement_of_alike {q other : Query} (h : q.Alike other) (r : Report)
    (settings : Settings) :
    (q.IsWritable r settings → other.IsWritable r settings →
      ((∃ s, q.toStatement r settings = .ok s) ↔ ∃ t, other.toStatement r settings = .ok t) ∧
        ∀ failure, q.toStatement r settings = .error failure ↔
          other.toStatement r settings = .error failure) ∧
      (∀ s t, q.toStatement r settings = .ok s → other.toStatement r settings = .ok t →
        s.sql = t.sql ∧ s.headers = t.headers ∧ s.values.length = t.values.length) ∧
      ∀ s, q.toStatement r settings = .ok s → q.IsWritable r settings ∧
        (¬ other.IsWritable r settings →
          other.toStatement r settings = .error .integerNotWritten) := by
  refine ⟨fun hq hother => ?_, fun s t first second => ?_, fun s first => ?_⟩
  · have same := h.toStatement_outline hq hother
    cases first : q.toStatement r settings with
    | error failure =>
        rw [first] at same
        have second := error_of_map same.symm
        simp [second]
    | ok s =>
        rw [first] at same
        obtain ⟨t, second, -⟩ := ok_of_map same.symm
        simp [second]
  · have same := h.toStatement_outline (isWritable_of_toStatement first)
      (isWritable_of_toStatement second)
    rw [first, second] at same
    have outline := Except.ok.inj same
    simpa only [Statement.outline, Prod.mk.injEq] using outline
  · refine ⟨isWritable_of_toStatement first, fun some => ?_⟩
    obtain ⟨columns, order, hcolumns, known, -, horder⟩ := parts_of_toStatement first
    rw [h.resolveColumns r] at hcolumns
    rw [h.renderOrder r] at horder
    exact toStatement_of_not_isWritable hcolumns (h.known known) horder some

theorem ort_ne : "ort" ≠ "" := by decide

theorem einwohner_ne : "einwohner" ≠ "" := by decide

/-- Another query for the small report, of the same shape as `Query.towns`. -/
def villages : Query where
  main := ⟨[⟨"ort", .oneOf (.text "' OR 1=1 -- ?") [.text ""], ort_ne⟩],
    [⟨[⟨"einwohner", .between (.number (.whole 20)) (.number (.whole 10)), einwohner_ne⟩],
      [], .and, true⟩], .or, false⟩
  limit := some 5

/-- Values that look like SQL, and a limit that has to give way on one side only. -/
theorem toStatement_of_alike_towns :
    towns.Alike villages ∧
      ∃ s t, towns.toStatement .towns { dialect := .ansi, maxRows := 20 } = .ok s ∧
        villages.toStatement .towns { dialect := .ansi, maxRows := 20 } = .ok t ∧
        s.sql = t.sql ∧ s.headers = t.headers ∧ s.values.length = t.values.length ∧
        s.warnings = [.limitClamped] ∧
        t.values = [.text "' OR 1=1 -- ?", .text "", .number (.whole 20), .number (.whole 10),
          .number (.whole 5)] := by
  have alike : towns.Alike villages := by
    have below : List.Forall₂ Group.Alike towns.main.groups villages.main.groups :=
      .cons (.mk .and true (.cons ⟨rfl, rfl, rfl⟩ .nil) .nil) .nil
    exact ⟨.cons (.mk .or false (.cons ⟨rfl, rfl, rfl⟩ .nil) below) .nil, rfl, rfl, rfl⟩
  have warned : (towns.toStatement .towns { dialect := .ansi, maxRows := 20 }).map (·.warnings) =
      .ok [.limitClamped] := by decide +kernel
  have bound : (villages.toStatement .towns { dialect := .ansi, maxRows := 20 }).map (·.values) =
      .ok [.text "' OR 1=1 -- ?", .text "", .number (.whole 20), .number (.whole 10),
        .number (.whole 5)] := by decide +kernel
  obtain ⟨s, first, warnings⟩ := ok_of_map warned
  obtain ⟨t, second, values⟩ := ok_of_map bound
  obtain ⟨-, seen, -⟩ := toStatement_of_alike alike .towns { dialect := .ansi, maxRows := 20 }
  obtain ⟨sql, headers, count⟩ := seen s t first second
  exact ⟨alike, s, t, first, second, sql, headers, count, warnings, values⟩

/-- The query for one town by a number. -/
def townNumbered (n : Int) : Query where
  main := ⟨[.townNumbered n], [], .and, false⟩

/-- A number that is compared with text shows in whether there is a statement. -/
theorem toStatement_of_alike_digits :
    (townNumbered 1).Alike (townNumbered (10 ^ maxDigits)) ∧
      ((townNumbered 1).toStatement .towns {}).isOk = true ∧
      (townNumbered (10 ^ maxDigits)).toStatement .towns {} = .error .integerNotWritten := by
  have large := not_isWritable_pow
  generalize (10 : Int) ^ maxDigits = n at large ⊢
  have small : ((townNumbered 1).toStatement .towns {}).isOk = true := by decide +kernel
  refine ⟨⟨.cons (.mk .and false (.cons ⟨rfl, rfl, rfl⟩ .nil) .nil) .nil, rfl, rfl, rfl⟩,
    small, ?_⟩
  have known : ∀ p ∈ (townNumbered n).allPredicates, Report.towns.hasField p.field = true := by
    intro p member
    rw [List.mem_singleton.mp member]
    rfl
  have columns : (townNumbered n).resolveColumns .towns = .ok (Report.towns.columns.map (·.2)) :=
    rfl
  have order : (townNumbered n).renderOrder .towns = .ok "" := rfl
  refine toStatement_of_not_isWritable columns known order fun writable => ?_
  exact Predicate.not_isWritable_townNumbered large (writable.values _ List.mem_cons_self)

end Query

end Inquiry
