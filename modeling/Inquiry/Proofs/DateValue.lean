import Inquiry.Proofs.Comparisons
import Inquiry.Proofs.DateText

/-!
# Dates as values

A date that is compared with a text column is bound in its compact form, quoted or
not, so the same query is read (`read_date`). Only a date that is short in
year-month-day order is told apart: in quotation marks it is a date like any other,
and without them it is a word, which is bound as it was typed. The words of a
column are then compared with the compact dates in it, and nothing fails.
-/

namespace Inquiry

open Text

namespace Literal

variable {text : String}

theorem trim_trim (h : looksLikeDate text = true) : trim (trim text) = trim text := by
  have date := isDateText_of_looksLikeDate h
  have again := trimmed_of_visible (Token.date_ne_nil date) (Token.date_visible date)
    (List.forall_mem_nil _) (List.forall_mem_nil _)
  rw [List.nil_append, List.append_nil] at again
  rw [trim, trim, String.toList_ofList, again]

theorem date?_trim (h : looksLikeDate text = true) : date? (trim text) = date? text := by
  have same := congrArg String.toList (trim_trim h)
  simp only [trim, String.toList_ofList] at same
  simp only [date?, trim, String.toList_ofList, same]

theorem looksLikeDate_trim (h : looksLikeDate text = true) : looksLikeDate (trim text) = true := by
  have same := congrArg String.toList (trim_trim h)
  simp only [trim, String.toList_ofList] at same
  simpa only [looksLikeDate, trim, String.toList_ofList, same] using h

theorem hasWildcard_trim (h : looksLikeDate text = true) : hasWildcard (trim text) = false := by
  have date := isDateText_of_looksLikeDate h
  have free : ∀ c ∈ trimmed text.toList, c ∉ ['*', '%'] := by
    intro c member
    rcases date.chars c member with digit | sign
    · exact Token.notMem_of_isDigit digit (by decide)
    · have signs : ∀ sign ∈ ['.', '/', '-'], sign ∉ ['*', '%'] := by decide
      exact signs c sign
  rw [hasWildcard, trim, String.toList_ofList, List.any_eq_false]
  intro c member
  simpa using free c member

/-- A short date has a hyphen, and the compact form of a date has none. -/
theorem trim_ne_compact (short : isShortDate text = true) (d : Date) : trim text ≠ d.compact := by
  obtain ⟨shape, -⟩ := (Bool.and_eq_true _ _).mp short
  obtain ⟨-, sign, rest, left, known, -⟩ := isDateShape_next.mp shape
  rw [List.mem_singleton.mp known] at left
  have hyphen : '-' ∈ trimmed text.toList :=
    List.mem_of_mem_drop (left ▸ List.mem_cons_self)
  have digits (width n : Nat) : '-' ∉ Date.padded width n := by
    intro member
    rcases List.mem_append.mp member with zero | digit
    · exact absurd (List.eq_of_mem_replicate zero) (by decide)
    · exact absurd (Nat.isDigit_of_mem_toDigits (by decide) (by decide) digit) (by decide)
  intro same
  have chars := congrArg String.toList same
  rw [trim, Date.compact, String.toList_ofList, String.toList_ofList] at chars
  rw [chars, List.mem_append, List.mem_append] at hyphen
  rcases hyphen with (year | month) | day
  · exact digits _ _ year
  · exact digits _ _ month
  · exact digits _ _ day

end Literal

namespace Request

open Literal

variable {column : Column} {field text : String} {d : Date}

/-- A date in a text column is bound in compact form, quoted or not. -/
theorem bound_date (words : column.numeric = false) (shaped : looksLikeDate text = true)
    (denotes : date? text = some d) {key : String} {kind : Token.Kind}
    (dated : kind = .date ∨ kind = .quoted) :
    bound column field false ⟨trim text, key, kind⟩ = .ok (.text d.compact) := by
  have read : kind = .date ∨ (kind = .quoted ∧ looksLikeDate (trim text) = true) :=
    dated.imp_right fun quoted => ⟨quoted, looksLikeDate_trim shaped⟩
  simp only [bound, words, Bool.false_eq_true, if_false, trim_trim shaped]
  rw [if_pos read, date?_trim shaped, denotes]

/-- A word in a text column is bound as it was typed. -/
theorem bound_word (words : column.numeric = false) (raw key : String) :
    bound column field false ⟨raw, key, .word⟩ = .ok (.text (trim raw)) := by
  simp [bound, words]

namespace Scope

/-- A text that ends with a field and with what compares it, so that a value is
expected behind it. There is no quotation in it. -/
structure Prompts (scope : Scope) (lead : String) (field : String) (comparison : Comparison) :
    Prop where
  reads : ∃ main phrase op, Token.ofText lead = main ++ phrase ++ op ∧
    scope.Introduces phrase.head? main ∧ scope.Names phrase field op.head? ∧
    Compares op comparison
  unquoted : '"' ∉ lead.toList.map Token.plainQuote

variable {scope : Scope} {lead target : String} {comparison : Comparison}

/-- The word that a short date is when it is not quoted. -/
def dateWord (text : String) : Token := ⟨trim text, fold (trim text), .word⟩

/-- A date behind a comparison is one more token of the request. -/
theorem Prompts.ofText_date (prompts : scope.Prompts lead field comparison)
    (shaped : looksLikeDate text = true) :
    Token.ofText (lead ++ " " ++ ("\"" ++ text ++ "\"")) =
        Token.ofText lead ++ [⟨trim text, fold (trim text), .quoted⟩] ∧
      Token.ofText (lead ++ " " ++ text) =
        Token.ofText lead ++
          [if isShortDate text then dateWord text else ⟨trim text, trim text, .date⟩] := by
  obtain ⟨quoted, plain⟩ := Token.ofText_date shaped
  obtain ⟨same, free⟩ := Token.plainQuote_date (isDateText_of_looksLikeDate shaped)
  constructor
  · rw [Token.ofText_append, quoted]
    intro mark known member
    have inside : ("\"" ++ text ++ "\"").toList.map Token.plainQuote =
        '"' :: (text.toList ++ ['"']) := by
      have own : Token.plainQuote '"' = '"' := by decide
      simp [same, own]
    have other : mark ≠ '"' := fun double => prompts.unquoted (double ▸ member)
    rw [inside]
    simp [other, free mark known]
  · rw [Token.ofText_append, plain]
    · rfl
    · intro mark known _
      rw [same]
      exact free mark known

/-- A comparison with a date reads as the comparison with its compact form, if the
date is quoted or not short. A short date that is not quoted is compared as it was
typed, and that is another text. -/
theorem read_date (prompts : scope.Prompts lead field comparison)
    (redirected : ∀ v : Token, v.raw = trim text →
      scope.rules.redirect field v scope.report = target)
    (found : scope.report.column? target = some column) (words : column.numeric = false)
    (named : target ≠ "") (shaped : looksLikeDate text = true) (denotes : date? text = some d) :
    scope.read (lead ++ " " ++ ("\"" ++ text ++ "\"")) =
        .ok (scope.comparing ⟨target, .compare comparison (.text d.compact), named⟩) ∧
      (isShortDate text = false → scope.read (lead ++ " " ++ text) =
        .ok (scope.comparing ⟨target, .compare comparison (.text d.compact), named⟩)) ∧
      (isShortDate text = true → scope.startsPlainWord [dateWord text] = true →
        (dateWord text).isWordIn commandWords = false →
        scope.read (lead ++ " " ++ text) =
          .ok (scope.comparing ⟨target, .compare comparison (.text (trim text)), named⟩) ∧
        trim text ≠ d.compact) := by
  obtain ⟨main, phrase, op, tokens, introduces, names, compares⟩ := prompts.reads
  obtain ⟨quoted, plain⟩ := prompts.ofText_date shaped
  rw [read, read, quoted, plain, tokens]
  refine ⟨?_, ?_, ?_⟩
  · exact readTokens_compared introduces names compares (.of_quoted rfl []) (by simp)
      (redirected _ rfl) found named (bound_date words shaped denotes (.inr rfl))
  · intro full
    rw [full]
    exact readTokens_compared introduces names compares (.of_date rfl []) (by simp)
      (redirected _ rfl) found named (bound_date words shaped denotes (.inl rfl))
  · intro short unknown noCommand
    have isValue : scope.IsValue (dateWord text) [] :=
      .of_word rfl unknown noCommand (hasWildcard_trim shaped)
    have binds : bound column target false (dateWord text) = .ok (.text (trim text)) := by
      rw [dateWord, bound_word words, trim_trim shaped]
    rw [short]
    exact ⟨readTokens_compared introduces names compares isValue (by simp [dateWord])
      (redirected _ rfl) found named binds, trim_ne_compact short d⟩

theorem prompts_towns : towns.Prompts "Zeige Orte mit Ort ab" "ort" .greaterOrEqual := by
  have asks : towns.Asks [⟨"Orte", "orte", .word⟩] (some ⟨"mit", "mit", .word⟩) :=
    ⟨by decide +kernel, by decide +kernel, by decide +kernel, by decide⟩
  have introduces : towns.Introduces (some ⟨"Ort", "ort", .word⟩)
      [⟨"Zeige", "zeige", .word⟩, ⟨"Orte", "orte", .word⟩, ⟨"mit", "mit", .word⟩] :=
    .idle ⟨by decide, by decide, by decide, by decide +kernel⟩
      (.asks asks (.idle ⟨by decide, by decide, by decide, by decide +kernel⟩ .nothing))
  have names : towns.Names [⟨"Ort", "ort", .word⟩] "ort" (some ⟨"ab", "ab", .word⟩) :=
    ⟨by decide +kernel, by decide +kernel, by decide⟩
  have spelt : Spelt ["ab"] [⟨"ab", "ab", .word⟩] := .cons ⟨rfl, rfl⟩ .nil
  exact ⟨⟨_, [⟨"Ort", "ort", .word⟩], [⟨"ab", "ab", .word⟩], by decide +kernel, introduces, names,
    .phrase (by decide) (by decide) spelt⟩, by decide⟩

theorem read_date_towns :
    towns.read "Zeige Orte mit Ort ab \"2024-3-15\"" = .ok (towns.comparing
        ⟨"ort", .compare .greaterOrEqual (.text "20240315"), by decide⟩) ∧
      towns.read "Zeige Orte mit Ort ab 2024-3-15" = .ok (towns.comparing
        ⟨"ort", .compare .greaterOrEqual (.text "2024-3-15"), by decide⟩) := by
  have denotes : date? "2024-3-15" = some ⟨2024, 3, 15, by decide, by decide, by decide⟩ := by
    decide +kernel
  have found : towns.report.column? "ort" =
      some { source := "T.ORT", header := "Ort", keywords := ["ort"] } := by decide +kernel
  obtain ⟨quoted, -, short⟩ := read_date prompts_towns (fun _ _ => rfl) found rfl (by decide)
    (by decide +kernel : looksLikeDate "2024-3-15" = true) denotes
  exact ⟨quoted, (short (by decide +kernel) (by decide +kernel) (by decide +kernel)).1⟩

/-- A month of one digit: the tokens of a request need two digits, and dates do not.
So the same date is read in two ways. -/
theorem short_date_read_twice :
    looksLikeDate "2024-3-15" = true ∧
      (date? "2024-3-15").map Date.compact = some "20240315" ∧
      (towns.read "Orte Ort ab \"2024-3-15\"").map (fun q => q.main.allPredicates.map (·.test)) =
        .ok [.compare .greaterOrEqual (.text "20240315")] ∧
      (towns.read "Orte Ort ab 2024-3-15").map (fun q => q.main.allPredicates.map (·.test)) =
        .ok [.compare .greaterOrEqual (.text "2024-3-15")] := by
  decide +kernel

end Scope

end Request

end Inquiry
