import Inquiry.Proofs.Taxonomy

/-!
# Who answers a request

The compiler asks its experts in order whether they accept the request, and the
first one that does makes the statement. It decides this on the part of the
request that is read, and hands the same part on, so the rest of a request that
is too long changes nothing but one warning (`Compiler.dispatch`).

Which experts are asked at all does not show in the statement. So the questions
are put to experts whose answers come with effects. `Respondent.compile` asks
them in the same way; it is the compiler itself if there are no effects
(`Compiler.compile_ofExpert`), and with experts that keep a record of their
questions it tells who has been asked what (`Compiler.record_of_answers`).
-/

namespace Inquiry

/-- A statement for the part of a request that is read, with a warning if that is not all
of it. -/
def Settings.noted (settings : Settings) (text : String) (s : Statement) : Statement :=
  if 0 < settings.maxLength ∧ settings.maxLength < text.length then
    { s with warnings := .requestTruncated :: s.warnings }
  else s

namespace Settings

variable (settings : Settings) (text : String)

theorem toList_cut :
    (settings.cut text).toList =
      if 0 < settings.maxLength then text.toList.take settings.maxLength.toNat
      else text.toList := by
  rw [cut]
  split
  · exact String.toList_ofList
  · rfl

/-- What has been cut is short enough. -/
theorem length_cut (positive : 0 < settings.maxLength) :
    ((settings.cut text).length : Int) ≤ settings.maxLength := by
  rw [← String.length_toList, toList_cut, if_pos positive, List.length_take]
  omega

@[simp] theorem cut_cut : settings.cut (settings.cut text) = settings.cut text := by
  apply String.toList_injective
  rw [toList_cut settings (settings.cut text), toList_cut]
  split
  · rw [List.take_take, Nat.min_self]
  · rfl

/-- No warning about a request that has been cut already. -/
@[simp] theorem noted_cut (s : Statement) : settings.noted (settings.cut text) s = s := by
  rw [noted, if_neg]
  rintro ⟨positive, long⟩
  have short := settings.length_cut text positive
  omega

end Settings

/-! ## Experts whose answers have effects -/

/-- An expert whose answers come with effects of any kind. -/
structure Respondent (m : Type → Type) where
  name : String
  accepts : String → m Bool
  statement : String → m (Except Failure Statement)

namespace Respondent

variable {m : Type → Type} [Monad m]

/-- The first one that accepts a request. Those behind it are not asked. -/
def resolve (text : String) : List (Respondent m) → m (Option (Respondent m))
  | [] => pure none
  | r :: rest => do
    if ← r.accepts text then pure (some r) else resolve text rest

/-- The statement for a request, by way of the first one that accepts it. -/
def compile (settings : Settings) (respondents : List (Respondent m)) (text : String) :
    m (Except Failure Statement) := do
  match ← resolve (settings.cut text) respondents with
  | some r =>
    let answer ← r.statement (settings.cut text)
    pure (answer.map (settings.noted text))
  | none =>
    pure (.error (.unrecognized (firstCharacters 200 (settings.cut text))
      (respondents.map (·.name))))

/-- An expert as it is: its answers have no effects. -/
def ofExpert (e : Expert) : Respondent Id := ⟨e.name, e.accepts, e.statement⟩

theorem resolve_ofExpert (text : String) (experts : List Expert) :
    resolve text (experts.map ofExpert) = (experts.find? (·.accepts text)).map ofExpert := by
  induction experts with
  | nil => rfl
  | cons e experts ih =>
      rw [List.map_cons, resolve, List.find?_cons]
      change (if e.accepts text = true then _ else _) = _
      cases e.accepts text with
      | true => rfl
      | false => exact ih

end Respondent

namespace Compiler

variable {c : Compiler} {text : String} {before after : List Expert} {e : Expert}

theorem isTooLong_iff :
    c.isTooLong text = true ↔ 0 < c.settings.maxLength ∧ c.settings.maxLength < text.length := by
  rw [isTooLong, Bool.and_eq_true, decide_eq_true_eq, decide_eq_true_eq]

/-- The statement is that of the expert for the part that is read. -/
theorem statement_eq (c : Compiler) (text : String) :
    c.statement text = c.resolve (c.settings.cut text) >>= fun e =>
      (e.statement (c.settings.cut text)).map (c.settings.noted text) := by
  rw [statement, bounded_eq_cut]
  refine congrArg _ (funext fun e => ?_)
  have noted (s : Statement) : c.settings.noted text s =
      if c.isTooLong text = true then { s with warnings := .requestTruncated :: s.warnings }
      else s := by
    simp only [Settings.noted, isTooLong_iff]
  cases e.statement (c.settings.cut text) with
  | error failure => rfl
  | ok s =>
      rw [Except.map, noted]
      simp only [bind, Except.bind, pure, Except.pure]
      split <;> rfl

theorem query_eq (c : Compiler) (text : String) :
    c.query text = c.resolve (c.settings.cut text) >>= fun e => e.query (c.settings.cut text) := by
  rw [query, bounded_eq_cut]

/-- The compiler is what asking its experts comes to if their answers have no effects. -/
theorem compile_ofExpert (c : Compiler) (text : String) :
    Respondent.compile c.settings (c.experts.map .ofExpert) text = c.statement text := by
  rw [Respondent.compile, Respondent.resolve_ofExpert, statement_eq, resolve]
  cases c.experts.find? (·.accepts (c.settings.cut text)) with
  | some e => rfl
  | none =>
      simp only [Option.map_none, List.map_map]
      rfl

/-! ## A record of the questions -/

/-- A question to the expert at a place of the list. -/
inductive Question where
  | accepts (place : Nat) (text : String)
  | statement (place : Nat) (text : String)
  deriving DecidableEq, Repr

/-- The expert at a place of the list, which writes down what it is asked. -/
def spied (place : Nat) (e : Expert) : Respondent (StateM (List Question)) where
  name := e.name
  accepts text := do
    modify (· ++ [.accepts place text])
    return e.accepts text
  statement text := do
    modify (· ++ [.statement place text])
    return e.statement text

/-- Experts from a place of the list on. -/
def spies (start : Nat) (experts : List Expert) : List (Respondent (StateM (List Question))) :=
  (experts.zipIdx start).map fun (e, place) => spied place e

/-- The statement for a request, and what the experts have been asked for it. -/
def record (c : Compiler) (text : String) : Except Failure Statement × List Question :=
  (Respondent.compile c.settings (spies 0 c.experts) text).run []

/-- One more expert is asked. -/
theorem resolve_spies_cons (b : String) (start : Nat) (e : Expert) (experts : List Expert)
    (asked : List Question) :
    (Respondent.resolve b (spies start (e :: experts))).run asked =
      if e.accepts b = true then (some (spied start e), asked ++ [.accepts start b])
      else (Respondent.resolve b (spies (start + 1) experts)).run
        (asked ++ [.accepts start b]) := by
  rw [spies, List.zipIdx_cons, List.map_cons, Respondent.resolve]
  cases accepted : e.accepts b with
  | true => simp [spied, accepted]; rfl
  | false => simp [spied, accepted]; rfl

/-- Experts that do not accept the request are asked one after the other. -/
theorem resolve_spies_append {b : String} (rejected : ∀ other ∈ before, other.accepts b = false)
    (start : Nat) (rest : List Expert) (asked : List Question) :
    (Respondent.resolve b (spies start (before ++ rest))).run asked =
      (Respondent.resolve b (spies (start + before.length) rest)).run
        (asked ++ (List.range' start before.length).map (.accepts · b)) := by
  induction before generalizing start asked with
  | nil => simp
  | cons first before ih =>
      have here := rejected first List.mem_cons_self
      have later := ih (fun other member => rejected other (List.mem_cons_of_mem first member))
        (start + 1) (asked ++ [.accepts start b])
      rw [List.cons_append, resolve_spies_cons, if_neg (by simp [here]), later, List.length_cons,
        List.range'_succ, List.map_cons, List.append_assoc, List.singleton_append]
      congr 3
      omega

theorem name_spies (start : Nat) (experts : List Expert) :
    (spies start experts).map (·.name) = experts.map (·.name) := by
  induction experts generalizing start with
  | nil => rfl
  | cons e experts ih => exact congrArg (e.name :: ·) (ih (start + 1))

/-! ## The first expert that accepts -/

/-- The expert of a compiler that answers a request: it accepts the request, and the experts
before it do not. -/
def Answers (c : Compiler) (b : String) (before : List Expert) (e : Expert) : Prop :=
  (∃ after, c.experts = before ++ e :: after) ∧
    (∀ other ∈ before, other.accepts b = false) ∧ e.accepts b = true

/-- No expert of a compiler accepts a request. -/
def Rejects (c : Compiler) (b : String) : Prop := ∀ e ∈ c.experts, e.accepts b = false

variable {b : String}

theorem resolve_of_answers (h : c.Answers b before e) : c.resolve b = .ok e := by
  obtain ⟨⟨after, split⟩, rejected, accepted⟩ := h
  have found : c.experts.find? (·.accepts b) = some e :=
    List.find?_eq_some_iff_append.mpr ⟨accepted, before, after, split, by simpa using rejected⟩
  rw [resolve, found]

theorem resolve_of_rejects (h : c.Rejects b) :
    c.resolve b =
      .error (.unrecognized (firstCharacters 200 b) (c.experts.map (·.name))) := by
  have none : c.experts.find? (·.accepts b) = none :=
    List.find?_eq_none.mpr fun e member => by simp [h e member]
  rw [resolve, none]

theorem rejects_or_answers (c : Compiler) (b : String) :
    c.Rejects b ∨ ∃ before e, c.Answers b before e := by
  cases found : c.experts.find? (·.accepts b) with
  | none => exact .inl fun e member => by simpa using List.find?_eq_none.mp found e member
  | some e =>
      obtain ⟨accepted, before, after, split, rejected⟩ :=
        List.find?_eq_some_iff_append.mp found
      exact .inr ⟨before, e, ⟨after, split⟩, by simpa using rejected, accepted⟩

theorem resolve_error_iff :
    (∃ failure, c.resolve b = .error failure) ↔ c.Rejects b := by
  constructor
  · rintro ⟨failure, failed⟩
    rcases c.rejects_or_answers b with rejects | ⟨before, e, answers⟩
    · exact rejects
    · rw [resolve_of_answers answers] at failed
      cases failed
  · intro rejects
    exact ⟨_, resolve_of_rejects rejects⟩

theorem statement_of_answers (h : c.Answers (c.settings.cut text) before e) :
    c.statement text = (e.statement (c.settings.cut text)).map (c.settings.noted text) := by
  rw [statement_eq, resolve_of_answers h]
  rfl

theorem query_of_answers (h : c.Answers (c.settings.cut text) before e) :
    c.query text = e.query (c.settings.cut text) := by
  rw [query_eq, resolve_of_answers h]
  rfl

theorem statement_of_rejects (h : c.Rejects (c.settings.cut text)) :
    c.statement text = .error (.unrecognized (firstCharacters 200 (c.settings.cut text))
      (c.experts.map (·.name))) := by
  rw [statement_eq, resolve_of_rejects h]
  rfl

/-- A failure is that of the expert that answers, or that there is no such expert. -/
theorem statement_error_iff (failure : Failure) :
    c.statement text = .error failure ↔
      (c.Rejects (c.settings.cut text) ∧ c.resolve (c.settings.cut text) = .error failure) ∨
        ∃ before e, c.Answers (c.settings.cut text) before e ∧
          e.statement (c.settings.cut text) = .error failure := by
  constructor
  · intro failed
    rcases c.rejects_or_answers (c.settings.cut text) with rejects | ⟨before, e, answers⟩
    · rw [statement_of_rejects rejects] at failed
      rw [resolve_of_rejects rejects]
      exact .inl ⟨rejects, congrArg Except.error (Except.error.inj failed)⟩
    · rw [statement_of_answers answers] at failed
      exact .inr ⟨before, e, answers, error_of_map failed⟩
  · rintro (⟨-, failed⟩ | ⟨before, e, answers, failed⟩)
    · rw [statement_eq, failed]
      rfl
    · rw [statement_of_answers answers, failed]
      rfl

/-- The part of a request that is read decides about its statement. -/
theorem statement_cut (c : Compiler) (text : String) :
    c.statement text = (c.statement (c.settings.cut text)).map (c.settings.noted text) := by
  rw [statement_eq, statement_eq c (c.settings.cut text), Settings.cut_cut]
  cases c.resolve (c.settings.cut text) with
  | error failure => rfl
  | ok e =>
      simp only [bind, Except.bind]
      cases e.statement (c.settings.cut text) with
      | error failure => rfl
      | ok s => simp [Except.map]

theorem query_cut (c : Compiler) (text : String) :
    c.query text = c.query (c.settings.cut text) := by
  rw [query_eq, query_eq c (c.settings.cut text), Settings.cut_cut]

/-- Up to the expert that answers, each expert is asked whether it accepts; then that one
is asked for the statement. -/
theorem record_of_answers (h : c.Answers (c.settings.cut text) before e) :
    c.record text =
      ((e.statement (c.settings.cut text)).map (c.settings.noted text),
        (List.range (before.length + 1)).map (.accepts · (c.settings.cut text)) ++
          [.statement before.length (c.settings.cut text)]) := by
  obtain ⟨⟨after, split⟩, rejected, accepted⟩ := h
  have asked := resolve_spies_append rejected 0 (e :: after) []
  rw [resolve_spies_cons, if_pos accepted, ← split, Nat.zero_add, List.nil_append,
    ← List.range_eq_range'] at asked
  rw [record, Respondent.compile, StateT.run_bind, asked, List.range_succ, List.map_append]
  rfl

theorem record_of_rejects (h : c.Rejects (c.settings.cut text)) :
    c.record text =
      (.error (.unrecognized (firstCharacters 200 (c.settings.cut text))
        (c.experts.map (·.name))),
        (List.range c.experts.length).map (.accepts · (c.settings.cut text))) := by
  have asked := resolve_spies_append h 0 [] []
  rw [List.append_nil, List.nil_append, ← List.range_eq_range'] at asked
  rw [record, Respondent.compile, StateT.run_bind, asked, name_spies]
  rfl

/-- A request goes to the first expert that accepts the part of it that is read. The expert is
given this part, its answer is passed on with a warning if the request is longer, and
besides the experts before it no expert is asked anything. If no expert accepts, the
request is not recognized, and only then the compiler fails by itself. -/
theorem dispatch (c : Compiler) (text : String) :
    (∀ before e, c.Answers (c.settings.cut text) before e →
      c.statement text = (e.statement (c.settings.cut text)).map (c.settings.noted text) ∧
      c.query text = e.query (c.settings.cut text) ∧
      c.record text = (c.statement text,
        (List.range (before.length + 1)).map (.accepts · (c.settings.cut text)) ++
          [.statement before.length (c.settings.cut text)])) ∧
    (c.Rejects (c.settings.cut text) →
      c.statement text = .error (.unrecognized (firstCharacters 200 (c.settings.cut text))
        (c.experts.map (·.name))) ∧
      c.record text = (c.statement text,
        (List.range c.experts.length).map (.accepts · (c.settings.cut text)))) ∧
    ((∃ failure, c.resolve (c.settings.cut text) = .error failure) ↔
      c.Rejects (c.settings.cut text)) ∧
    (∀ failure, c.statement text = .error failure ↔
      (c.Rejects (c.settings.cut text) ∧
        c.resolve (c.settings.cut text) = .error failure) ∨
      ∃ before e, c.Answers (c.settings.cut text) before e ∧
        e.statement (c.settings.cut text) = .error failure) ∧
    c.statement text = (c.statement (c.settings.cut text)).map (c.settings.noted text) ∧
    c.query text = c.query (c.settings.cut text) := by
  refine ⟨fun before e answers => ⟨statement_of_answers answers, query_of_answers answers, ?_⟩,
    fun rejects => ⟨statement_of_rejects rejects, ?_⟩, resolve_error_iff, statement_error_iff,
    statement_cut c text, query_cut c text⟩
  · rw [statement_of_answers answers, record_of_answers answers]
  · rw [statement_of_rejects rejects, record_of_rejects rejects]

end Compiler

end Inquiry
