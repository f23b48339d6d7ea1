import Inquiry.Proofs.LiteralForms
import Inquiry.Proofs.Requoting
import Inquiry.Proofs.Respelling

/-!
# Requests in composed and in decomposed form

A request may be typed or pasted with its accented letters as single characters or as
letters and marks. Where these letters are quoted, the form does not matter. Both
forms have the same keys; so both ask for help or neither does, the same specialist
accepts them and the same report is chosen. They are also read alike: the queries
show, filter and order by the same columns, and the values they compare with are the
same but for their form (`recognition_of_forms`).

Outside quotations the form matters. A mark is no word character, and it ends the
word whose letter it belongs to, although folding composes text first so that both
forms have one key (`form_matters`).
-/

namespace Inquiry

open Text (composedForm decomposedForm)

/-! ## Values -/

/-- A value with its text in decomposed form. -/
def Scalar.decomposedForm : Scalar → Scalar
  | .text s => .text (Text.decomposedForm s)
  | .number n => .number n

/-- Values that are the same but for the form of their text. -/
def Scalar.Equivalent (v w : Scalar) : Prop := v.decomposedForm = w.decomposedForm

namespace Scalar

theorem equivalent_refl (v : Scalar) : v.Equivalent v := rfl

theorem equivalent_text (s : String) :
    (Scalar.text s).Equivalent (.text (Text.decomposedForm s)) :=
  congrArg Scalar.text (Text.decomposedForm_decomposedForm s).symm

end Scalar

namespace Token

/-- Whether the accented letters of a request are all quoted: outside quotations, its
composed form has only characters that are not decomposed further. -/
def AccentsQuoted (text : String) : Prop :=
  SpelledOut (cut none (tidied (Text.composed text.toList)))

instance (text : String) : Decidable (AccentsQuoted text) :=
  inferInstanceAs (Decidable (SpelledOut _))

theorem requotes_respelled : Requotes respelled where
  kind := respelled_kind
  key := respelled_key
  unquoted _ := respelled_of_unquoted

/-- The tokens of the decomposed form are those of the composed form with decomposed
quoted texts. -/
theorem ofText_decomposedForm {text : String} (quoted : AccentsQuoted text) :
    ofText (decomposedForm text) = (ofText (composedForm text)).map respelled :=
  ofText_decomposed quoted

/-- A token respelled where no character of its text is another one in disguise. -/
def reformed (t : Token) : Token :=
  if ∀ c ∈ t.raw.toList, Text.IsProper c then t.respelled else t

theorem requotes_reformed : Requotes reformed := by
  have same := requotes_respelled
  refine ⟨fun t => ?_, fun t => ?_, fun t other => ?_⟩
  all_goals
    unfold reformed
    split
  · exact same.kind t
  · rfl
  · exact same.key t
  · rfl
  · exact same.unquoted t other
  · rfl

/-- In composed text every character is what it seems. -/
theorem map_reformed (text : String) :
    (ofText (composedForm text)).map reformed = (ofText (composedForm text)).map respelled := by
  refine List.map_congr_left fun t member => if_pos fun c own => ?_
  have known := mem_tidied_of_mem_raw member own
  rw [composedForm, String.toList_ofList] at known
  exact Text.isProper_of_mem_tidied _ c known

end Token

open Token (signature AccentsQuoted respelled reformed)

namespace Request

/-- A quoted text is bound in both forms, to equivalent values, or in none. -/
theorem bound_respelled (column : Column) (field : String) (searches : Bool) (t : Token) :
    Alongside Scalar.Equivalent (bound column field searches t)
      (bound column field searches t.respelled) := by
  have refused : some Failure.Code.malformedValue = some .malformedValue := rfl
  by_cases quoted : t.kind = .quoted
  · have own : t.respelled = { t with raw := decomposedForm t.raw } := if_pos quoted
    simp only [bound, own, Text.trim_decomposedForm, quoted, Literal.number_decomposedForm,
      Literal.looksLikeDate_decomposedForm, reduceCtorEq, if_false]
    generalize Text.trim t.raw = raw
    split
    · cases Literal.number raw with
      | error failure => exact rfl
      | ok n? =>
          cases n? with
          | some number => exact Scalar.equivalent_refl _
          | none => exact refused
    · split
      · next dated =>
          have looks := (dated.resolve_left (by decide)).2
          rw [Literal.date?_decomposedForm looks]
          cases Literal.date? raw with
          | some date => exact Scalar.equivalent_refl _
          | none => exact refused
      · cases searches with
        | true =>
            rw [Literal.pattern_decomposedForm]
            exact Scalar.equivalent_text _
        | false => exact Scalar.equivalent_text _
  · rw [Token.respelled_of_unquoted quoted]
    exact Alongside.refl Scalar.equivalent_refl _

namespace Rules

theorem redirectBroker_respelled (field : String) {t : Token}
    (proper : ∀ c ∈ t.raw.toList, Text.IsProper c) (r : Report) :
    redirectBroker field t.respelled r = redirectBroker field t r := by
  by_cases quoted : t.kind = .quoted
  · have own : t.respelled = { t with raw := decomposedForm t.raw } := if_pos quoted
    rw [redirectBroker, own, isBrokerNumber_decomposedForm proper, redirectBroker]
  · rw [Token.respelled_of_unquoted quoted]

/-- A country is looked for in the same columns, whatever its name is. -/
theorem corresponds_expandCountry {R : Scalar → Scalar → Prop} {p q : Predicate}
    (alike : p.Corresponds R q) (r : Report) :
    (expandCountry p r).Corresponds R (expandCountry q r) := by
  have tests := alike.test.countryTest?
  rw [expandCountry, expandCountry, alike.field]
  split
  · generalize countryTest? p.test = test at tests ⊢
    generalize countryTest? q.test = other at tests ⊢
    cases tests with
    | none => exact .predicate alike
    | @some test other both =>
        obtain ⟨test, negated⟩ := test
        obtain ⟨other, _⟩ := other
        obtain ⟨own, rfl⟩ := both
        have twice : List.Forall₂ (Predicate.Corresponds R)
            [⟨"land", test, by decide⟩, ⟨"land_code", test, by decide⟩]
            [⟨"land", other, by decide⟩, ⟨"land_code", other, by decide⟩] :=
          .cons ⟨rfl, own⟩ (.cons ⟨rfl, own⟩ .nil)
        exact .group (.mk .or negated twice .nil)
  · exact .predicate alike

end Rules

/-- The rules for contracts do not notice the form of a quoted text, and neither does
a domain without rules. -/
theorem Scope.tolerates_reformed {scope : Scope}
    (rules : scope.rules = {} ∨ scope.rules = .cover) :
    scope.Tolerates reformed Scalar.Equivalent where
  requotes := Token.requotes_reformed
  redirect field t := by
    rcases rules with none | cover
    · rw [none]
    · unfold reformed
      split
      · next proper =>
          rw [cover]
          exact Rules.redirectBroker_respelled field proper scope.report
      · rfl
  expand p q alike := by
    rcases rules with none | cover
    · rw [none]
      exact .predicate alike
    · rw [cover]
      exact Rules.corresponds_expandCountry alike scope.report
  binds column field searches t := by
    unfold reformed
    split
    · exact bound_respelled column field searches t
    · exact Alongside.refl Scalar.equivalent_refl _

end Request

namespace Specialist

/-- A specialist reads both forms of a request alike. -/
theorem alongside_query {text : String} (quoted : AccentsQuoted text) (s : Specialist)
    (rules : s.rules = {} ∨ s.rules = .cover)
    (accepts : s.accepts (composedForm text) = s.accepts (decomposedForm text))
    (chooses : s.chooseReport (Token.ofText (composedForm text)) =
      s.chooseReport (Token.ofText (decomposedForm text))) :
    Alongside (Query.Corresponds Scalar.Equivalent) (s.query (composedForm text))
      (s.query (decomposedForm text)) := by
  rw [query, query, accepts]
  split
  · rw [queryOf, queryOf, chooses]
    refine (Alongside.refl (fun _ => rfl) _).bind ?_
    rintro report _ rfl
    have tolerates : (s.scope report).Tolerates reformed Scalar.Equivalent :=
      Request.Scope.tolerates_reformed rules
    rw [Request.Scope.read, Request.Scope.read, Token.ofText_decomposedForm quoted,
      ← Token.map_reformed]
    exact tolerates.alongside_readTokens _
  · exact (rfl : some Failure.Code.contractViolation = some .contractViolation)

/-- A specialist for a report with an accented main keyword. -/
def cities : Specialist :=
  { towns with index := .of [{ Report.towns with mainKeywords := ["Städte"] }] }

/-- The form of a request decides whether it is accepted: decomposed, a main keyword
falls into two words. -/
theorem form_matters :
    (Token.ofText (composedForm "Städte")).map signature = [(.word, "staedte")] ∧
      (Token.ofText (decomposedForm "Städte")).map signature =
        [(.word, "sta"), (.word, "dte")] ∧
      cities.accepts (composedForm "Städte") = true ∧
      cities.accepts (decomposedForm "Städte") = false := by
  decide +kernel

/-- Recognition does not depend on the form of a request whose accented letters are
all quoted. Both forms have tokens of the same kinds and keys in the same order; both
ask for help or neither does; every specialist accepts both or neither, counts the
same hits in them, chooses the same report for them and, with the rules of its
domain, reads them as queries that differ at most in the form of the texts they
compare with; and the same specialist answers them. -/
theorem recognition_of_forms {text : String} (quoted : AccentsQuoted text)
    (specialists : List Specialist) :
    (Token.ofText (composedForm text)).map signature =
        (Token.ofText (decomposedForm text)).map signature ∧
      Help.isAskedFor (composedForm text) = Help.isAskedFor (decomposedForm text) ∧
      (∀ s ∈ specialists, s.accepts (composedForm text) = s.accepts (decomposedForm text) ∧
        s.index.mainHits (Token.ofText (composedForm text)) =
          s.index.mainHits (Token.ofText (decomposedForm text)) ∧
        s.chooseReport (Token.ofText (composedForm text)) =
          s.chooseReport (Token.ofText (decomposedForm text)) ∧
        (s.rules = {} ∨ s.rules = .cover →
          Alongside (Query.Corresponds Scalar.Equivalent) (s.query (composedForm text))
            (s.query (decomposedForm text)))) ∧
      ∀ settings,
        ((Compiler.mk settings (specialists.map (·.toExpert))).resolve
            (composedForm text)).toOption =
          ((Compiler.mk settings (specialists.map (·.toExpert))).resolve
            (decomposedForm text)).toOption := by
  have same : (Token.ofText (composedForm text)).map signature =
      (Token.ofText (decomposedForm text)).map signature := by
    rw [Token.ofText_decomposedForm quoted, Token.requotes_respelled.map_signature]
  obtain ⟨help, routed, resolved⟩ := routing_of_signature same specialists
  refine ⟨same, help, fun s member => ?_, resolved⟩
  obtain ⟨accepts, hits, chooses⟩ := routed s member
  exact ⟨accepts, hits, chooses, fun rules => s.alongside_query quoted rules accepts chooses⟩

theorem recognition_of_forms_cologne : AccentsQuoted "Orte mit Ort \"Köln\"" ∧
    (Token.ofText (composedForm "Orte mit Ort \"Köln\"")).map signature =
      (Token.ofText (decomposedForm "Orte mit Ort \"Köln\"")).map signature ∧
    Alongside (Query.Corresponds Scalar.Equivalent)
      (towns.query (composedForm "Orte mit Ort \"Köln\""))
      (towns.query (decomposedForm "Orte mit Ort \"Köln\"")) ∧
    composedForm "Orte mit Ort \"Köln\"" ≠ decomposedForm "Orte mit Ort \"Köln\"" ∧
    towns.accepts (decomposedForm "Orte mit Ort \"Köln\"") = true := by
  have quoted : AccentsQuoted "Orte mit Ort \"Köln\"" := by decide +kernel
  obtain ⟨same, -, read, -⟩ := recognition_of_forms quoted [towns]
  obtain ⟨-, -, -, alike⟩ := read towns List.mem_cons_self
  exact ⟨quoted, same, alike (.inl rfl), by decide +kernel, by decide +kernel⟩

end Specialist

end Inquiry
