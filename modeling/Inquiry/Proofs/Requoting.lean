import Inquiry.Proofs.QuotedContent
import Inquiry.Proofs.SortBlock

/-!
# Requests with other quoted texts

A request and one whose quoted texts have been changed are read side by side. Every
step finds the same phrases and the same steering words, so it does the same in both
readings (`alongside_step`); values are bound and fields redirected as the change
allows. The queries correspond (`alongside_readTokens`): they differ at most in the
values they compare with.
-/

namespace Inquiry.Request

open Token (Requotes)

variable {f : Token → Token} {R : Scalar → Scalar → Prop}

/-- Two things that have been read, the second from tokens that have been changed:
they are related, and so are the tokens behind them. -/
def Reads {α β : Type} (f : Token → Token) (S : α → β → Prop) (read : α × List Token)
    (other : β × List Token) : Prop :=
  S read.1 other.1 ∧ other.2 = read.2.map f

/-- A change of quoted texts that the rules of the domain do not notice, and that
changes bound values only as the relation of values allows. -/
structure Scope.Tolerates (scope : Scope) (f : Token → Token) (R : Scalar → Scalar → Prop) :
    Prop where
  requotes : Requotes f
  redirect : ∀ field t, scope.rules.redirect field (f t) scope.report =
    scope.rules.redirect field t scope.report
  expand : ∀ p q, p.Corresponds R q → (scope.rules.expand p scope.report).Corresponds R
    (scope.rules.expand q scope.report)
  binds : ∀ column field searches t,
    Alongside R (bound column field searches t) (bound column field searches (f t))

namespace Scope

theorem alongside_resolve (scope : Scope) (f : Token → Token) (tokens : List Token)
    (m : Keyword.Match) :
    Alongside (· = ·) (scope.resolve tokens m) (scope.resolve (tokens.map f) m) := by
  rw [resolve, resolve]
  split <;> rfl

/-! ## The sort block -/

section Sorting

variable (scope : Scope) (same : Requotes f)

include same

theorem direction_map (tokens : List Token) :
    direction (tokens.map f) = ((direction tokens).1, (direction tokens).2.map f) := by
  simp only [direction, beginsWith_map same, ← List.map_drop]
  split
  · rfl
  · split <;> rfl

theorem alongside_sortKey (tokens : List Token) (m : Keyword.Match) :
    Alongside (Reads f (· = ·)) (scope.sortKey tokens m) (scope.sortKey (tokens.map f) m) := by
  have resolved := alongside_resolve scope f tokens m
  rw [sortKey, sortKey]
  split
  · next failure found =>
      obtain ⟨other, found', code⟩ := resolved.of_error found
      rw [found']
      exact code
  · next field found =>
      obtain ⟨_, found', rfl⟩ := resolved.of_ok found
      rw [found', ← List.map_drop, direction_map same]
      simp only [beginsWith_map same, startsCondition_map scope same]
      split
      · rfl
      · exact ⟨rfl, rfl⟩

theorem alongside_nextSortKey (rest : List Token) :
    Alongside (fun next other => other = next.map (List.map f)) (scope.nextSortKey rest)
      (scope.nextSortKey (rest.map f)) := by
  have separates (t : Token) : separatesSortKeys (f t) = separatesSortKeys t := by
    rw [separatesSortKeys, same.kind, same.isWordIn, separatesSortKeys]
  have next := dropWhile_map separates rest
  simp only [nextSortKey, next, List.length_map, List.map_eq_nil_iff, fieldAt_map scope same]
  split
  · rfl
  · generalize rest.dropWhile separatesSortKeys = here
    have unknown := startsUnknownWord_map scope same here
    cases scope.fieldAt here with
    | some m =>
        simp only [← List.map_drop, startsCondition_map scope same]
        split <;> rfl
    | none =>
        cases here with
        | nil => rfl
        | cons t more =>
            rw [List.map_cons] at unknown
            simp only [List.map_cons, unknown, same.key]
            split <;> rfl

theorem alongside_sortKeys (tokens : List Token) :
    Alongside (Reads f (· = ·)) (scope.sortKeys tokens) (scope.sortKeys (tokens.map f)) := by
  -- Every further key begins where fewer tokens are left.
  induction hn : tokens.length using Nat.strong_induction_on generalizing tokens with
  | _ n ih =>
      have articles := dropWhile_map (p := (·.isWordIn articles)) (same.isWordIn articles) tokens
      cases found : scope.fieldAt (tokens.dropWhile (·.isWordIn Request.articles)) with
      | none =>
          have found' := found
          rw [← fieldAt_map scope same, ← articles] at found'
          rw [sortKeys_of_no_field found, sortKeys_of_no_field found', articles]
          generalize tokens.dropWhile (·.isWordIn Request.articles) = here
          have unknown := startsUnknownWord_map scope same here
          cases here with
          | nil => exact ⟨rfl, rfl⟩
          | cons t rest =>
              rw [List.map_cons] at unknown
              simp only [List.map_cons, unknown]
              split
              · rfl
              · exact ⟨rfl, rfl⟩
      | some m =>
          have found' := found
          rw [← fieldAt_map scope same, ← articles] at found'
          rw [sortKeys_of_fieldAt found, sortKeys_of_fieldAt found', articles]
          refine (alongside_sortKey scope same _ m).bind_of_ok ?_
          rintro ⟨key, rest⟩ ⟨_, _⟩ read ⟨rfl, rfl⟩
          refine (alongside_nextSortKey scope same rest).bind_of_ok ?_
          rintro next _ further rfl
          cases next with
          | none => exact ⟨rfl, rfl⟩
          | some next =>
              have shorter : next.length < n := by
                have h1 := length_lt_of_sortKey found read
                have h2 := length_le_of_nextSortKey further
                have h3 : (tokens.dropWhile (·.isWordIn Request.articles)).length ≤
                    tokens.length := (List.dropWhile_sublist _).length_le
                omega
              refine (ih next.length shorter next rfl).map ?_
              rintro ⟨keys, left⟩ ⟨_, _⟩ ⟨rfl, rfl⟩
              exact ⟨rfl, rfl⟩

theorem alongside_sorting (tokens : List Token) :
    Alongside (Reads f (· = ·)) (scope.sorting tokens) (scope.sorting (tokens.map f)) := by
  induction tokens with
  | nil => exact ⟨rfl, rfl⟩
  | cons t rest ih =>
      have marker := afterAnyPhrase?_map same sortMarkers (t :: rest)
      rw [List.map_cons] at marker ⊢
      rw [sorting, sorting, marker]
      cases afterAnyPhrase? sortMarkers (t :: rest) with
      | some behind => exact alongside_sortKeys scope same behind
      | none =>
          refine ih.map ?_
          rintro ⟨keys, left⟩ ⟨_, _⟩ ⟨rfl, rfl⟩
          exact ⟨rfl, rfl⟩

/-! ## The row limit -/

theorem followsField_map (before tokens : List Token) :
    scope.followsField (before.map f) (tokens.map f) = scope.followsField before tokens := by
  have last : (before.map f).getLast?.any (·.isWordIn beingWords) =
      before.getLast?.any (·.isWordIn beingWords) := by
    rw [List.getLast?_map]
    cases before.getLast? with
    | none => rfl
    | some t => exact same.isWordIn beingWords t
  have field (before tokens : List Token) (n : Nat) :
      scope.fieldAt ((before.map f).drop n ++ tokens.map f) =
        scope.fieldAt (before.drop n ++ tokens) := by
    rw [← List.map_drop, ← List.map_append, fieldAt_map scope same]
  have behind : (before.map f).getLast?.toList ++ tokens.map f =
      (before.getLast?.toList ++ tokens).map f := by
    rw [List.getLast?_map, List.map_append]
    cases before.getLast? <;> rfl
  simp only [followsField, last, behind, ← List.map_dropLast]
  split
  · simp only [field, List.length_map]
  · simp only [field, List.length_map]

theorem alongside_limitBehind (before tokens : List Token) :
    Alongside (Reads f (· = ·)) (scope.limitBehind before tokens)
      (scope.limitBehind (before.map f) (tokens.map f)) := by
  induction tokens generalizing before with
  | nil => exact ⟨rfl, rfl⟩
  | cons t rest ih =>
      have passOver := ih (before ++ [t])
      rw [List.map_append] at passOver
      have marker := afterAnyPhrase?_map same limitMarkers (t :: rest)
      have field := followsField_map scope same before (t :: rest)
      rw [List.map_cons] at marker field ⊢
      simp only [limitBehind, marker, same.key, field]
      cases afterAnyPhrase? limitMarkers (t :: rest) with
      | none => exact passOver
      | some behind =>
          simp only [Option.map_some]
          split
          · exact passOver
          · cases behind with
            | nil =>
                simp only [List.map_nil]
                split
                · rfl
                · exact passOver
            | cons u after =>
                simp only [List.map_cons, same.kind]
                split
                · next number =>
                    rw [same.unquoted u (by rw [number]; decide)]
                    refine (Alongside.refl (fun _ => rfl) (limit u.raw)).map ?_
                    rintro n _ rfl
                    exact ⟨rfl, List.map_append.symm⟩
                · split
                  · rfl
                  · exact passOver

end Sorting

/-! ## Conditions -/

variable {scope : Scope}

/-- Values of a list are bound one by one. -/
theorem alongside_mapM {α β : Type} {S : α → β → Prop} {g : Token → Except Failure α}
    {g' : Token → Except Failure β} (each : ∀ t, Alongside S (g t) (g' (f t)))
    (tokens : List Token) : Alongside (List.Forall₂ S) (tokens.mapM g) ((tokens.map f).mapM g') :=
  Alongside.mapM <| List.forall₂_map_right_iff.mpr <| List.forall₂_same.mpr fun t _ => each t

theorem alongside_reading {node other : Except Failure Node}
    (alike : Alongside (Node.Corresponds R) node other) (rest : List Token) :
    Alongside (Option.Rel (Reads f (Node.Corresponds R))) (reading node rest)
      (reading other (rest.map f)) :=
  alike.map fun _ _ own => .some ⟨own, rfl⟩

namespace Tolerates

variable (h : scope.Tolerates f R)

include h

theorem finish (negate : Bool) {p q : Predicate} (alike : p.Corresponds R q) :
    (scope.finish negate p).Corresponds R (scope.finish negate q) := by
  rw [Scope.finish, Scope.finish]
  split
  · have opposite := alike.test.opposite?
    generalize opposite? p.test = test at opposite ⊢
    generalize opposite? q.test = other at opposite ⊢
    cases opposite with
    | some own => exact h.expand _ _ ⟨alike.field, own⟩
    | none => exact .group ((Group.Corresponds.empty .and true).addNode (h.expand _ _ alike))
  · exact h.expand _ _ alike

/-- A test on a field becomes a node. -/
theorem alongside_finish (field : String) (negate : Bool) {test other : Test}
    (alike : test.Corresponds R other) :
    Alongside (Node.Corresponds R)
      (Predicate.of field test >>= fun p => pure (scope.finish negate p))
      (Predicate.of field other >>= fun p => pure (scope.finish negate p)) :=
  (Predicate.corresponds_of alike field).bind fun _ _ own => h.finish negate own

theorem alongside_conclude (field : String) (relation : Option Relation) (negate : Bool)
    (first : Token) (others : List Token) :
    Alongside (Node.Corresponds R) (scope.conclude field relation negate first others)
      (scope.conclude field relation negate (f first) (others.map f)) := by
  rw [conclude, conclude, h.redirect]
  generalize scope.rules.redirect field first scope.report = field
  refine (Alongside.refl (fun _ => rfl) (scope.column field)).bind ?_
  rintro column _ rfl
  simp only [settled_map h.requotes, List.map_eq_nil_iff]
  generalize settled column relation negate first others = meant
  obtain ⟨relation, negate⟩ := meant
  split
  · rfl
  · next possible =>
      simp only
      split
      · refine (h.binds column field false first).bind fun value other own => ?_
        refine (alongside_mapM (h.binds column field false) others).bind fun values more all => ?_
        exact h.alongside_finish field negate ⟨rfl, .cons own all⟩
      · next comparison =>
          split
          · refine (h.binds column field _ first).bind fun value other own => ?_
            exact h.alongside_finish field negate (.compare own comparison)
          · split
            · have search (t : Token) : Alongside (Node.Corresponds R)
                  (do
                    let value ← bound column field true t
                    let p ← Predicate.of field (.compare .contains value)
                    return scope.rules.expand p scope.report)
                  (do
                    let value ← bound column field true (f t)
                    let p ← Predicate.of field (.compare .contains value)
                    return scope.rules.expand p scope.report) := by
                refine (h.binds column field true t).bind fun value other own => ?_
                refine (Predicate.corresponds_of (.compare own .contains) field).bind ?_
                exact fun p q alike => h.expand p q alike
              refine (alongside_mapM search (first :: others)).bind fun nodes more all => ?_
              have group := (Group.Corresponds.empty (R := R) .or false).addNodes all
              cases negate with
              | false => exact .group group
              | true => exact .group ((Group.Corresponds.empty .and true).addNode (.group group))
            · rfl

theorem alongside_between (field : String) (negate : Bool) (low high : Token) :
    Alongside (Node.Corresponds R) (scope.between field negate low high)
      (scope.between field negate (f low) (f high)) := by
  rw [between, between, h.redirect]
  refine (Alongside.refl (fun _ => rfl) (scope.column _)).bind ?_
  rintro column _ rfl
  refine (h.binds column _ false low).bind fun lowest least own => ?_
  refine (h.binds column _ false high).bind fun highest most own' => ?_
  exact h.alongside_finish _ negate ⟨rfl, .cons own (.cons own' .nil)⟩

theorem alongside_condition? (field : String) (negate : Bool) (tokens : List Token) :
    Alongside (Option.Rel (Reads f (Node.Corresponds R))) (scope.condition? field negate tokens)
      (scope.condition? field negate (tokens.map f)) := by
  have same := h.requotes
  simp only [condition?, skipWord_map same, beginsWith_map same, ← List.map_drop,
    bounds?_map scope same, opening_map same, values_map scope same]
  generalize beginsWith beingWords tokens = explicit
  generalize (negate != beginsWith negatingWords (skipWord beingWords tokens)) = negate
  generalize skipWord negatingWords (skipWord beingWords tokens) = tokens
  have presence (test : Test) (absent : test.values = []) :
      Alongside (Node.Corresponds R) ((Predicate.of field test).map (scope.finish negate))
        ((Predicate.of field test).map (scope.finish negate)) := by
    have alike : test.Corresponds R test := ⟨rfl, by rw [absent]; exact .nil⟩
    exact (Predicate.corresponds_of alike field).map fun _ _ own => h.finish negate own
  split
  · exact alongside_reading (presence .isNull rfl) _
  split
  · exact alongside_reading (presence .isNotNull rfl) _
  split
  · cases scope.bounds? (tokens.drop 1) with
    | none => rfl
    | some read => exact alongside_reading (h.alongside_between field negate _ _) _
  · generalize opening explicit tokens = o
    cases scope.values o.andToo o.rest with
    | mk found rest =>
        cases found with
        | nil =>
            simp only [List.map_nil]
            split
            · rfl
            · exact .none
        | cons first others =>
            exact alongside_reading (h.alongside_conclude field _ negate first others) rest

end Tolerates

end Scope

/-! ## Mentions -/

/-- What has been read of a request on both sides: only the values of conditions may
differ. -/
inductive Progress.Corresponds (R : Scalar → Scalar → Prop) (s : Progress) : Progress → Prop where
  | mk {conditions : List (Node × Bool)} (h : ConditionsCorrespond R s.conditions conditions) :
      Corresponds R s { s with conditions }

namespace Progress

theorem Corresponds.emit {s s' : Progress} (h : s.Corresponds R s') {node other : Node}
    (alike : node.Corresponds R other) : (s.emit node).Corresponds R (s'.emit other) := by
  cases h with
  | @mk conditions h =>
      have first : conditions.isEmpty = s.conditions.isEmpty := by
        generalize s.conditions = own at h
        cases h <;> rfl
      have link : (s.alternative && !s.conditions.isEmpty) =
          (s.alternative && !conditions.isEmpty) := by rw [first]
      exact .mk (List.rel_append h (.cons ⟨alike, link⟩ .nil))

section Steering

variable (same : Requotes f) (s : Progress) (conditions : List (Node × Bool))

include same

theorem steer?_map (t : Token) (rest : List Token) :
    ({ s with conditions } : Progress).steer? (f t) (rest.map f) =
      (s.steer? t rest).map fun next => ({ next.1 with conditions }, next.2.map f) := by
  have marker := afterAnyPhrase?_map same fieldListMarkers (t :: rest)
  rw [List.map_cons] at marker
  rw [steer?, steer?, same.kind, same.key, marker]
  split
  · rfl
  · cases afterAnyPhrase? fieldListMarkers (t :: rest) with
    | some behind => rfl
    | none =>
        simp only [Option.map_none]
        repeat' split
        all_goals rfl

theorem project_map (field : String) (exclude : Bool) (behind : List Token) :
    ({ s with conditions } : Progress).project field exclude (behind.map f) =
      { s.project field exclude behind with conditions } := by
  have comma : (behind.map f).head?.any (·.kind == .comma) =
      behind.head?.any (·.kind == .comma) := by
    cases behind with
    | nil => rfl
    | cons t rest => exact congrArg (· == Token.Kind.comma) (same.kind t)
  simp only [project, comma, beginsWith_map same]
  cases exclude
  all_goals
    simp only [Bool.false_eq_true, if_false, if_true]
    repeat' split
    all_goals rfl

end Steering

theorem Corresponds.project {s s' : Progress} (h : s.Corresponds R s') (same : Requotes f)
    (field : String) (exclude : Bool) (behind : List Token) :
    (s.project field exclude behind).Corresponds R (s'.project field exclude (behind.map f)) := by
  obtain ⟨conditions⟩ := h
  rw [project_map same]
  refine .mk ?_
  rwa [conditions_project]

end Progress

namespace Scope.Tolerates

variable {scope : Scope} (h : scope.Tolerates f R)

include h

theorem alongside_mention {s s' : Progress} (alike : s.Corresponds R s') (field : String)
    (behind : List Token) :
    Alongside (Reads f (Progress.Corresponds R)) (scope.mention s field behind)
      (scope.mention s' field (behind.map f)) := by
  obtain ⟨conditions⟩ := alike
  have plain : ({ s with excludes := false, lacks := false } : Progress).Corresponds R
      { s with excludes := false, lacks := false, conditions := _ } := .mk conditions
  simp only [mention]
  split
  · have absent : Test.isNull.Corresponds R .isNull := ⟨rfl, .nil⟩
    refine (Predicate.corresponds_of absent field).map fun p q own => ?_
    obtain ⟨emitted⟩ := plain.emit (h.expand p q own)
    exact ⟨.mk emitted, rfl⟩
  · have read := h.alongside_condition? field s.excludes behind
    split
    · next failure found =>
        obtain ⟨other, found', code⟩ := read.of_error found
        rw [found']
        exact code
    · next node rest found =>
        obtain ⟨_, found', both⟩ := read.of_ok found
        rw [found']
        cases both with
        | some both =>
            obtain ⟨own, behind⟩ := both
            obtain ⟨emitted⟩ := plain.emit own
            exact ⟨.mk emitted, behind⟩
    · next found =>
        obtain ⟨_, found', both⟩ := read.of_ok found
        rw [found']
        cases both
        exact ⟨plain.project h.requotes field _ behind, rfl⟩

/-- One step does the same on both sides. -/
theorem alongside_step {s s' : Progress} (alike : s.Corresponds R s') (t : Token)
    (rest : List Token) :
    Alongside (Reads f (Progress.Corresponds R)) (scope.step s t rest)
      (scope.step s' (f t) (rest.map f)) := by
  have same := h.requotes
  have found := same.matchAt scope.index (t :: rest)
  have unread := alongside_resolve scope f (t :: rest)
  rw [List.map_cons] at found
  obtain ⟨alike⟩ := alike
  rw [step, step, same.kind, Progress.steer?_map same]
  split
  · exact ⟨.mk alike, rfl⟩
  · cases steered : s.steer? t rest with
    | some next =>
        have kept := (Progress.steer?_eq steered).1
        refine ⟨.mk ?_, rfl⟩
        rwa [kept]
    | none =>
        simp only [Option.map_none, found, same.isWordIn]
        cases scope.index.matchAt (t :: rest) with
        | some m =>
            simp only
            split
            · have resolved := unread m
              split
              · next failure failed =>
                  obtain ⟨other, failed', code⟩ := resolved.of_error failed
                  rw [List.map_cons] at failed'
                  rw [failed']
                  exact code
              · next field known =>
                  obtain ⟨_, known', rfl⟩ := resolved.of_ok known
                  rw [List.map_cons] at known'
                  rw [known', ← List.map_drop]
                  exact h.alongside_mention (.mk alike) field _
            · exact ⟨.mk alike, List.map_drop.symm⟩
        | none =>
            simp only
            split
            · exact ⟨.mk alike, rfl⟩
            · split
              · rfl
              · exact ⟨.mk alike, rfl⟩

/-- All steps together: what one step keeps holds after the whole run. -/
theorem alongside_mentions {s s' : Progress} (alike : s.Corresponds R s') (tokens : List Token) :
    Alongside (Progress.Corresponds R) (scope.mentions s tokens)
      (scope.mentions s' (tokens.map f)) := by
  fun_induction mentions scope s tokens generalizing s' with
  | case1 s =>
      rw [List.map_nil, mentions]
      exact alike
  | case2 s t rest failure failed =>
      obtain ⟨other, failed', code⟩ := (h.alongside_step alike t rest).of_error failed
      rw [List.map_cons, mentions_of_failed_step failed']
      exact code
  | case3 s t rest s₁ behind stepped ih =>
      obtain ⟨⟨s₂, _⟩, stepped', next, rfl⟩ := (h.alongside_step alike t rest).of_ok stepped
      rw [List.map_cons, mentions_of_step stepped']
      exact ih next

/-- A request with other quoted texts is read like the request itself. Either both have
a query, and the queries differ only in values, or both fail for a cause of the same
class. -/
theorem alongside_readTokens (tokens : List Token) :
    Alongside (Query.Corresponds R) (scope.readTokens tokens)
      (scope.readTokens (tokens.map f)) := by
  rw [readTokens, readTokens]
  refine (alongside_sorting scope h.requotes tokens).bind ?_
  rintro ⟨keys, unsorted⟩ ⟨_, _⟩ ⟨rfl, rfl⟩
  refine (alongside_limitBehind scope h.requotes [] unsorted).bind ?_
  rintro ⟨limit, left⟩ ⟨_, _⟩ ⟨rfl, rfl⟩
  have start : ({} : Progress).Corresponds R {} := .mk .nil
  refine (h.alongside_mentions start left).bind ?_
  rintro progress _ ⟨conditions⟩
  exact ⟨rfl, .cons (corresponds_gathered conditions) .nil, rfl, rfl, rfl, rfl⟩

end Scope.Tolerates

end Inquiry.Request
