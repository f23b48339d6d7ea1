import Inquiry.Proofs.Commands
import Inquiry.Proofs.Gathering
import Inquiry.Proofs.LongIntegers
import Inquiry.Proofs.Phrases

/-!
# Quoted values

A quoted text right behind a field is the value of a condition on that field, as
long as no phrase goes on with it. Where a phrase does, the text is read as part
of a keyword: nothing is left of the condition, and the request shows another
column instead (`quoted_text_swallowed`).

A phrase is one step of the reading where it ends. The quoted text behind it
opens the values of a condition, and the condition is kept to the end.
-/

namespace Inquiry

/-- Whether a predicate compares the column of a field with what a token is bound
as there. -/
def Predicate.Compares (p : Predicate) (field : String) (column : Column) (value : Token) : Prop :=
  p.field = field ∧
    ∃ searches v, Request.bound column field searches value = .ok v ∧ v ∈ p.test.values

theorem Predicate.compares_of {field : String} {test : Test} {p : Predicate} {column : Column}
    {value : Token} {searches : Bool} {v : Scalar} (made : Predicate.of field test = .ok p)
    (read : Request.bound column field searches value = .ok v) (member : v ∈ test.values) :
    p.Compares field column value := by
  rw [Predicate.of] at made
  split at made <;> cases made
  exact ⟨rfl, searches, v, read, member⟩

namespace Request

/-- What has been read, with one more condition, which ends all lists. -/
def Progress.constrain (s : Progress) (node : Node) : Progress :=
  { ({ s with excludes := false, lacks := false } : Progress).emit node with
    listing := false
    excludeRun := false
    place := none }

namespace Scope

variable {scope : Scope} {field : String} {column : Column} {q : Token}

/-! ## The condition behind a field -/

/-- A quoted text behind a field begins the values of a condition, whatever
follows it. -/
theorem condition?_quoted (scope : Scope) {q : Token} (quoted : q.kind = .quoted) (field : String)
    (negate : Bool) (rest : List Token) :
    scope.condition? field negate (q :: rest) =
      reading (scope.conclude field none negate q (scope.furtherValues false rest).1)
        (scope.furtherValues false rest).2 := by
  have begins (words : List String) : beginsWith words (q :: rest) = false :=
    isWordIn_of_quoted quoted words
  have operator : operatorAt (q :: rest) = ⟨none, false, false, q :: rest⟩ := by
    simp only [operatorAt, isWordIn_of_quoted quoted, quoted, Bool.false_eq_true, reduceCtorEq,
      if_false]
    split
    · next found =>
        -- No phrase that compares begins with a quoted text, because all have a word.
        obtain ⟨⟨phrase, _⟩, known, found⟩ := List.exists_of_findSome?_eq_some found
        obtain ⟨after, found, -⟩ := Option.map_eq_some_iff.mp found
        cases phrase with
        | nil =>
            have nonempty : [] ∉ comparingPhrases.map Prod.fst := by decide
            exact absurd (List.mem_map_of_mem (f := Prod.fst) known) nonempty
        | cons word words => simp [afterPhrase?, quoted] at found
    · rfl
  have opened : opening false (q :: rest) = ⟨none, false, false, q :: rest⟩ := by
    simp only [opening, operator]
    rfl
  have read : scope.values false (q :: rest) =
      (q :: (scope.furtherValues false rest).1, (scope.furtherValues false rest).2) := by
    simp only [values, value?, quoted]
  simp [condition?, skipWord, begins, opened, read]

theorem values_of_opposite? {test other : Test} (h : opposite? test = some other) :
    other.values = test.values := by
  unfold opposite? at h
  split at h <;> cases h <;> rfl

/-- Without rules, a finished predicate keeps its field and its values, negated
or not. -/
theorem mem_finish (unruled : scope.rules = {}) (negate : Bool) (p : Predicate) :
    ∃ own ∈ (scope.finish negate p).predicates,
      own.field = p.field ∧ own.test.values = p.test.values := by
  simp only [finish, unruled]
  split
  · split
    · next test opposite =>
        exact ⟨{ p with test }, List.mem_singleton_self _, rfl, values_of_opposite? opposite⟩
    · exact ⟨p, (Group.mem_allPredicates_addNode _ _ p).mpr (.inr (List.mem_singleton_self p)),
        rfl, rfl⟩
  · exact ⟨p, List.mem_singleton_self p, rfl, rfl⟩

theorem column_eq (found : scope.report.column? field = some column) :
    scope.column field = .ok column := by
  rw [Scope.column, found]

/-- Several values that are searched for are alternatives, the first one among
them. -/
theorem compares_of_searches {others : List Token} {nodes : List Node}
    (h : (q :: others).mapM (fun v => do
      let value ← bound column field true v
      let p ← Predicate.of field (.compare .contains value)
      return Node.predicate p) = .ok nodes) :
    ∃ p ∈ (nodes.foldl Group.addNode ⟨[], [], .or, false⟩).allPredicates,
      p.Compares field column q := by
  rw [List.mapM_cons] at h
  obtain ⟨first, searched, h⟩ := ok_of_bind h
  obtain ⟨more, -, ⟨⟩⟩ := ok_of_bind h
  obtain ⟨value, read, searched⟩ := ok_of_bind searched
  obtain ⟨p, made, ⟨⟩⟩ := ok_of_bind searched
  refine ⟨p, ?_, Predicate.compares_of made read List.mem_cons_self⟩
  rw [Group.mem_allPredicates_addNodes]
  exact .inr ⟨_, List.mem_cons_self, List.mem_singleton_self p⟩

/-- Whatever further values there are, the condition compares the field with the
first one. -/
theorem compares_of_conclude (unruled : scope.rules = {})
    (found : scope.report.column? field = some column) {relation : Option Relation} {negate : Bool}
    {others : List Token} {node : Node}
    (h : scope.conclude field relation negate q others = .ok node) :
    ∃ p ∈ node.predicates, p.Compares field column q := by
  have finished {test : Test} {p : Predicate} {searches : Bool} {v : Scalar} (negate : Bool)
      (made : Predicate.of field test = .ok p) (value : bound column field searches q = .ok v)
      (member : v ∈ test.values) :
      ∃ own ∈ (scope.finish negate p).predicates, own.Compares field column q := by
    obtain ⟨own, known, hfield, hvalues⟩ := mem_finish unruled negate p
    obtain ⟨ofField, searches, v, value, member⟩ := Predicate.compares_of made value member
    exact ⟨own, known, hfield.trans ofField, searches, v, value, hvalues ▸ member⟩
  simp only [conclude, unruled, column_eq found] at h
  obtain ⟨_, ⟨⟩, h⟩ := ok_of_bind h
  generalize settled column relation negate q others = settled at h
  obtain ⟨relation, negate⟩ := settled
  simp only at h
  split at h
  · cases h
  · split at h
    · obtain ⟨value, read, h⟩ := ok_of_bind h
      obtain ⟨values, -, h⟩ := ok_of_bind h
      obtain ⟨p, made, ⟨⟩⟩ := ok_of_bind h
      exact finished negate made read List.mem_cons_self
    · next comparison =>
        split at h
        · obtain ⟨value, read, h⟩ := ok_of_bind h
          obtain ⟨p, made, ⟨⟩⟩ := ok_of_bind h
          exact finished negate made read List.mem_cons_self
        · split at h
          · obtain ⟨nodes, searched, ⟨⟩⟩ := ok_of_bind h
            obtain ⟨p, member, compares⟩ := compares_of_searches searched
            refine ⟨p, ?_, compares⟩
            split
            · simpa [Node.predicates, Group.allPredicatesOf] using member
            · exact member
          · cases h

/-- A quoted text alone is compared for equality. -/
theorem conclude_quoted (unruled : scope.rules = {})
    (found : scope.report.column? field = some column) (named : field ≠ "")
    (quoted : q.kind = .quoted) (negate : Bool) :
    scope.conclude field none negate q [] = (bound column field false q).map fun v =>
      .predicate ⟨field, .compare (if negate then .notEquals else .equals) v, named⟩ := by
  have relation : settled column none negate q [] = (.compare .equals, negate) := by
    simp [settled, defaultRelation, quoted, Token.isValue]
  have finished (v : Scalar) :
      scope.finish negate ⟨field, .compare .equals v, named⟩ =
        .predicate ⟨field, .compare (if negate then .notEquals else .equals) v, named⟩ := by
    cases negate <;> simp [finish, unruled, opposite?]
  simp only [conclude, unruled, column_eq found, bind, Except.bind, relation]
  cases read : bound column field false q <;>
    simp [read, Predicate.of, named, finished, pure, Except.pure, Except.map]

/-! ## Mentions -/

theorem mention_quoted (quoted : q.kind = .quoted) {s : Progress} (valued : s.lacks = false)
    (field : String) (rest : List Token) :
    scope.mention s field (q :: rest) =
      (scope.conclude field none s.excludes q (scope.furtherValues false rest).1).map fun node =>
        (s.constrain node, (scope.furtherValues false rest).2) := by
  simp only [mention, valued, Bool.false_eq_true, if_false, condition?_quoted scope quoted, reading]
  cases scope.conclude field none s.excludes q (scope.furtherValues false rest).1 <;> rfl

/-- A phrase is one step: either it is only a main keyword, or its field is
mentioned. -/
theorem step_phrase {s : Progress} {p : Token} {ps behind : List Token}
    (plain : p.isWordIn commandWords = false) (ends : scope.index.Ends (p :: ps) behind.head?) :
    scope.step s p (ps ++ behind) =
      let m := scope.index.matchFor ((p :: ps).map (·.key))
      match m.fieldsOf scope.report with
      | field :: _ => scope.mention s field behind
      | [] =>
        if m.isMain then .ok (s, behind)
        else .error (.fieldNotInReport (" ".intercalate ((p :: ps).map (·.raw)))
          scope.report.name) := by
  have found := ends.matchAt_eq
  rw [List.cons_append] at found
  have left : (ps ++ behind).drop
      ((scope.index.matchFor ((p :: ps).map (·.key))).length - 1) = behind := by
    simp [Keyword.Index.matchFor]
  have own : (p :: (ps ++ behind)).take
      (scope.index.matchFor ((p :: ps).map (·.key))).length = p :: ps := by
    simp [Keyword.Index.matchFor]
  rw [step, if_neg (ends.opens p rfl).1, Progress.steer?_eq_none plain s (ps ++ behind)]
  simp only [found, left, resolve, own]
  generalize scope.index.matchFor ((p :: ps).map (·.key)) = m
  cases m.fieldsOf scope.report with
  | nil => cases m.isMain <;> simp
  | cons field others => simp

/-- Tokens that are found as a main keyword, which is no column of the report. -/
structure Asks (scope : Scope) (main : List Token) (next : Option Token) : Prop where
  ends : scope.index.Ends main next
  isMain : (scope.index.matchFor (main.map (·.key))).isMain = true
  noField : (scope.index.matchFor (main.map (·.key))).fieldsOf scope.report = []
  plain : Plain main

/-- Tokens that are found as a phrase for a field of the report. -/
structure Names (scope : Scope) (phrase : List Token) (field : String) (next : Option Token) :
    Prop where
  ends : scope.index.Ends phrase next
  field : ((scope.index.matchFor (phrase.map (·.key))).fieldsOf scope.report).head? = some field
  plain : Plain phrase

variable {main phrase behind : List Token}

theorem Asks.mentions_eq (asks : scope.Asks main behind.head?) (s : Progress) :
    scope.mentions s (main ++ behind) = scope.mentions s behind := by
  obtain ⟨ends, isMain, noField, plain⟩ := asks
  cases main with
  | nil => exact absurd rfl ends.ne_nil
  | cons t rest =>
      rw [List.cons_append]
      apply mentions_of_step
      rw [step_phrase plain.head ends]
      simp only [noField, isMain, if_true]

theorem Names.mentions_eq (names : scope.Names phrase field behind.head?) (s : Progress) :
    scope.mentions s (phrase ++ behind) =
      (scope.mention s field behind).bind fun next => scope.mentions next.1 next.2 := by
  obtain ⟨ends, first, plain⟩ := names
  cases phrase with
  | nil => exact absurd rfl ends.ne_nil
  | cons t rest =>
      have step := step_phrase (s := s) plain.head ends
      obtain ⟨others, fields⟩ := List.head?_eq_some_iff.mp first
      simp only [fields] at step
      rw [List.cons_append]
      cases mention : scope.mention s field behind with
      | error failure => rw [mentions_of_failed_step (step.trans mention)]; rfl
      | ok next => rw [mentions_of_step (step.trans mention)]; rfl

/-- Wherever a field is reached with a quoted text behind it, the reading goes on
with one more condition. -/
theorem Names.mentions_quoted (names : scope.Names phrase field (some q))
    (quoted : q.kind = .quoted) {s : Progress} (valued : s.lacks = false) (rest : List Token) :
    scope.mentions s (phrase ++ q :: rest) =
      (scope.conclude field none s.excludes q (scope.furtherValues false rest).1).bind fun node =>
        scope.mentions (s.constrain node) (scope.furtherValues false rest).2 := by
  have names : scope.Names phrase field (q :: rest).head? := names
  rw [names.mentions_eq, mention_quoted quoted valued]
  cases scope.conclude field none s.excludes q (scope.furtherValues false rest).1 <;> rfl

/-- A field at the end of a request is shown. So the request shows another column
if the last token is a quoted text and belongs to the phrase. -/
theorem readTokens_named (asks : scope.Asks main phrase.head?)
    (names : scope.Names phrase field none) :
    scope.readTokens (main ++ phrase) = .ok
      { domain := scope.domain
        main := .empty
        projections := [⟨field, false, none⟩]
        report := some scope.report.name } := by
  have shown : scope.mention {} field [] =
      .ok ({ projections := [⟨field, false, none⟩] }, []) := rfl
  have read : scope.mentions {} (phrase ++ []) = _ := names.mentions_eq {}
  rw [List.append_nil, shown] at read
  rw [readTokens_plain (asks.plain.append names.plain), asks.mentions_eq, read]
  simp only [Except.bind, mentions]
  rfl

/-- A quoted text right behind a field is its value, as long as no phrase goes on
with it. Whatever follows, a query that is read compares the field with the
text. If nothing follows, the query says just this and shows all columns, unless
the column cannot hold the text: then the text is malformed, or it is an integer with
too many digits for a column of numbers. -/
theorem readTokens_quoted (unruled : scope.rules = {}) (asks : scope.Asks main phrase.head?)
    (names : scope.Names phrase field (some q)) (quoted : q.kind = .quoted)
    (found : scope.report.column? field = some column) (named : field ≠ "") :
    (∀ rest query, scope.readTokens (main ++ phrase ++ q :: rest) = .ok query →
      ∃ p ∈ query.main.allPredicates, p.Compares field column q) ∧
    scope.readTokens (main ++ phrase ++ [q]) = (bound column field false q).map (fun v =>
      { domain := scope.domain
        main := ⟨[⟨field, .compare .equals v, named⟩], [], .and, false⟩
        report := some scope.report.name }) ∧
    ∀ failure, bound column field false q = .error failure →
      failure.code? = some .malformedValue ∨
        column.numeric = true ∧ (∃ n, Literal.number? q.raw = some (.whole n)) ∧
          maxDigits < Literal.digitCount q.raw ∧
          failure = .integerNotRead (Literal.digitCount q.raw) := by
  have plain : Plain (main ++ phrase ++ [q]) :=
    (asks.plain.append names.plain).append (Plain.of_quoted quoted)
  have mentions (rest : List Token) :
      scope.mentions {} (main ++ phrase ++ q :: rest) =
        (scope.conclude field none false q (scope.furtherValues false rest).1).bind fun node =>
          scope.mentions (({} : Progress).constrain node) (scope.furtherValues false rest).2 := by
    have first : (phrase ++ q :: rest).head? = phrase.head? :=
      List.head?_append_of_ne_nil phrase names.ends.ne_nil
    have asks : scope.Asks main (phrase ++ q :: rest).head? := first ▸ asks
    rw [List.append_assoc, asks.mentions_eq, names.mentions_quoted quoted rfl]
  refine ⟨?_, ?_, ?_⟩
  · intro rest query read
    rw [List.append_cons (main ++ phrase) q rest] at read
    obtain ⟨left, s, read, heq⟩ := mentions_of_readTokens plain read
    rw [← List.append_cons (main ++ phrase) q left, mentions left] at read
    obtain ⟨node, concluded, read⟩ := ok_of_bind read
    obtain ⟨p, member, compares⟩ := compares_of_conclude unruled found concluded
    have kept := (conditions_of_mentions read).subset (List.mem_singleton_self (node, false))
    exact ⟨p, heq ▸ (mem_gathered s.conditions p).mpr ⟨_, kept, member⟩, compares⟩
  · have alone : scope.furtherValues false [] = ([], []) := by rw [furtherValues]
    rw [readTokens_plain plain, mentions [], alone, conclude_quoted unruled found named quoted]
    cases bound column field false q with
    | error failure => rfl
    | ok v =>
        simp only [Except.map, Except.bind, Scope.mentions]
        rfl
  · intro failure failed
    rcases error_of_bound failed with malformed | ⟨numeric, failed⟩
    · exact .inl malformed
    · obtain ⟨n, found, many, cause⟩ := Literal.number_eq_error_iff.mp failed
      exact .inr ⟨numeric, ⟨n, found⟩, many, cause⟩

theorem readTokens_quoted_towns :
    ({ report := .towns, index := .of [.towns] } : Scope).readTokens
        [⟨"Orte", "orte", .word⟩, ⟨"Ort", "ort", .word⟩, ⟨"Bonn", "bonn", .quoted⟩] =
      .ok { domain := .unknown
            main := ⟨[⟨"ort", .compare .equals (.text "Bonn"), by decide⟩], [], .and, false⟩
            report := some "Orte" } := by
  have asks : Asks { report := .towns, index := .of [.towns] } [⟨"Orte", "orte", .word⟩]
      (some ⟨"Ort", "ort", .word⟩) :=
    ⟨by decide +kernel, by decide +kernel, by decide +kernel, by decide +kernel⟩
  have names : Names { report := .towns, index := .of [.towns] } [⟨"Ort", "ort", .word⟩] "ort"
      (some ⟨"Bonn", "bonn", .quoted⟩) :=
    ⟨by decide +kernel, by decide +kernel, by decide +kernel⟩
  have value : bound { source := "T.ORT", header := "Ort", keywords := ["ort"] } "ort" false
      ⟨"Bonn", "bonn", .quoted⟩ = .ok (.text "Bonn") := by decide +kernel
  have read := (readTokens_quoted rfl asks names rfl rfl (by decide)).2.1
  rw [value] at read
  exact read

end Scope

end Request

/-- A report with a column whose keyword goes on with that of another. -/
def Report.places : Report :=
  { Report.towns with columns := [
      ("ort", { source := "T.ORT", header := "Ort", keywords := ["ort"] }),
      ("ort_name", { source := "T.NAME", header := "Name", keywords := ["ort name"] })] }

/-- A quoted text that completes a longer phrase is no value: the request for the
places of one name shows the names of all places. -/
theorem Request.Scope.quoted_text_swallowed :
    Token.ofText "Orte Ort \"Name\"" =
      [⟨"Orte", "orte", .word⟩, ⟨"Ort", "ort", .word⟩, ⟨"Name", "name", .quoted⟩] ∧
    (({ report := .places, index := .of [.places] } : Scope).read "Orte Ort \"Name\"").map
        (fun q => (q.main.allPredicates, q.projections)) =
      .ok ([], [⟨"ort_name", false, none⟩]) := by
  decide +kernel

end Inquiry
