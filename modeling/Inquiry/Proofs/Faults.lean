import Inquiry.Proofs.NumberTokens
import Inquiry.Proofs.RowBound

/-!
# What the service fails for

A request that fails is not recognized, has no clear report, or has a wrong field or
value. All of these have a class, so the service answers that the request is to blame.

One failure has none: an integer of the request that has too many digits to be read. It
takes a request with more than `maxDigits` digits in the part that is read, so a compiler
that cuts requests to `maxDigits` characters, or less, never fails that way; one that reads
more does (`Compiler.statement_contractsUpTo`).
-/

namespace Inquiry

open Literal (digitCount IsDigits)

/-- The classes of failures for which a request is to blame. -/
def Failure.requestCodes : List Failure.Code :=
  [.unrecognizedRequest, .noMatchingTemplate, .unresolvedField, .malformedValue]

theorem Settings.digitCount_cut (settings : Settings) (text : String)
    (positive : 0 < settings.maxLength) :
    (digitCount (settings.cut text) : Int) ≤ settings.maxLength := by
  have digits : digitCount (settings.cut text) ≤ (settings.cut text).length :=
    List.countP_le_length
  have short := settings.length_cut text positive
  omega

/-! ## An integer with too many digits -/

/-- A request for contracts, limited to as many rows as the digits say. -/
def contractsUpTo (digits : List Char) : String := "Verträge limit" ++ " " ++ String.ofList digits

/-- The digits are a token of their own. -/
theorem ofText_contractsUpTo {digits : List Char} (own : IsDigits digits) :
    Token.ofText (contractsUpTo digits) = [⟨"Verträge", "vertraege", .word⟩] ++
      ([⟨"limit", "limit", .word⟩] ++
        [⟨String.ofList digits, String.ofList digits, .number⟩]) := by
  have written := Literal.Written.whole own
  have front : Token.ofText "Verträge limit" =
      [⟨"Verträge", "vertraege", .word⟩, ⟨"limit", "limit", .word⟩] := by decide +kernel
  have number : Token.lexeme? none digits = some (.number, digits.length) :=
    Token.lexeme?_number written false
  have ends := Token.ofText_at_end (a := "Verträge limit")
    (t := ⟨String.ofList digits, String.ofList digits, .number⟩) own.1 (written.visible false)
    (Token.unquoted_number written false) number rfl
  rw [contractsUpTo, ends, front]
  rfl

namespace Request.Scope

variable {scope : Scope} {main : List Token} {word number : Token}

/-- Behind a main keyword, a limit that cannot be read makes the reading fail. -/
theorem readTokens_limit_error (asks : scope.Asks main none)
    (isLimit : word.isWordIn ["limit"] = true) (kind : number.kind = .number) {failure : Failure}
    (unread : limit number.raw = .error failure) :
    scope.readTokens (main ++ ([word] ++ [number])) = .error failure := by
  have spelt : Spelt ["limit"] [word] := .cons ⟨(isWordIn_iff.mp isLimit).1, by
    simpa using (isWordIn_iff.mp isLimit).2⟩ .nil
  have unsorted : Unmarked sortMarkers ([word] ++ [number]) [] := by
    refine .of_heads (by decide) ?_ _
    intro t member
    rcases List.mem_pair.mp member with rfl | rfl
    · exact isWordIn_of_apart isLimit (by decide)
    · exact isWordIn_of_kind (by simp [kind]) _
  have sorted : scope.sorting (main ++ ([word] ++ [number])) =
      .ok ([], main ++ ([word] ++ [number])) := by
    rw [sorting_append asks.plain, sorting_of_unmarked unsorted]
    rfl
  have unlimited := @rowLimit_number scope main _ _ _ (by decide : ["limit"] ∈ limitMarkers)
    spelt kind (asks.plain.unmarked (by decide) (by decide) []) (by decide)
  rw [if_neg (by simp), unread] at unlimited
  rw [readTokens, sorted]
  simp only [bind, Except.bind, unlimited]
  rfl

end Request.Scope

open Request in
/-- The same for the specialist for contracts. -/
theorem Specialist.cover_limit_error {settings : Settings} (enough : settings.minHits ≤ 1)
    {text : String} {main : List Token} {word number : Token}
    (tokens : Token.ofText text = main ++ ([word] ++ [number]))
    (spells : Catalogue.Cover.report.Spells main none) (isLimit : word.isWordIn ["limit"] = true)
    (kind : number.kind = .number) {failure : Failure}
    (unread : limit number.raw = .error failure) :
    (cover settings).accepts text = true ∧ (cover settings).statement text = .error failure := by
  have clear := Catalogue.hasClearKeywords_cover
  have asks : ((cover settings).scope Catalogue.Cover.report).Asks main
      ([word] ++ [number]).head? := by
    refine Scope.asks_of_reserved clear rfl spells ?_
    rintro _ ⟨⟩
    have listed := (isWordIn_iff.mp isLimit).2
    rw [List.mem_singleton.mp listed]
    decide
  have alone : ((cover settings).scope Catalogue.Cover.report).Asks main none :=
    Scope.asks_of_reserved clear rfl spells (by simp)
  have accepted : (cover settings).accepts text = true :=
    ((cover settings).accepts_iff text).mpr (Scope.findsMain_of_asks asks tokens)
  have chosen := chooseReport_of_single (s := cover settings) rfl enough accepted
  refine ⟨accepted, ?_⟩
  rw [statement_of_chooseReport accepted chosen, Scope.read, tokens,
    Scope.readTokens_limit_error alone isLimit kind unread]
  rfl

namespace Compiler

/-- A row limit with too many digits makes the compiler fail, unless they are cut off. -/
theorem statement_contractsUpTo {settings : Settings} (enough : settings.minHits ≤ 1)
    {digits : List Char} (own : IsDigits digits) (many : maxDigits < digits.length)
    (whole : settings.cut (contractsUpTo digits) = contractsUpTo digits) :
    (standard settings).statement (contractsUpTo digits) =
      .error (.integerNotRead digits.length) := by
  have unread : Request.limit (String.ofList digits) = .error (.integerNotRead digits.length) := by
    have read := Literal.number_of_written (.whole own) false
    rw [if_pos ⟨rfl, many⟩] at read
    change Literal.number (String.ofList digits) = _ at read
    rw [Request.limit, read]
    rfl
  obtain ⟨accepted, failed⟩ := Specialist.cover_limit_error enough (ofText_contractsUpTo own)
    Catalogue.Cover.spells_vertraege rfl rfl unread
  have answers : (standard settings).Answers (settings.cut (contractsUpTo digits)) []
      (Specialist.cover settings).toExpert :=
    ⟨⟨_, rfl⟩, fun _ member => (List.not_mem_nil member).elim, whole.symm ▸ accepted⟩
  rw [statement_of_answers answers]
  change ((Specialist.cover settings).statement (settings.cut _)).map _ = _
  rw [whole, failed]
  rfl

/-! ## The failures of the standard compiler -/

variable {settings : Settings} {text : String} {failure : Failure}

/-- A failure has the class of a fault of the request, or an integer of the request is too
long to be read. -/
theorem class_of_standard (h : (standard settings).statement text = .error failure) :
    (∃ code ∈ Failure.requestCodes, failure.code? = some code) ∨
      ∃ n, failure = .integerNotRead n ∧ maxDigits < n ∧ n ≤ digitCount (settings.cut text) := by
  have listed {code : Failure.Code} (found : failure.code? = some code)
      (known : code ∈ Failure.requestCodes) : ∃ code ∈ Failure.requestCodes,
        failure.code? = some code := ⟨code, known, found⟩
  rcases standard_statement_error h with (unclear | fault) | ⟨unrecognized, -⟩
  · exact .inl (listed unclear (by decide))
  · cases fault with
    | unresolved field => exact .inl (listed field (by decide))
    | malformed value => exact .inl (listed value (by decide))
    | digits many within => exact .inr ⟨_, rfl, many, within⟩
  · exact .inl (listed unrecognized (by decide))

/-- A request is not recognized exactly if the part of it that is read has no main keyword. -/
theorem unrecognized_iff (settings : Settings) (text : String) :
    (∃ failure, (standard settings).statement text = .error failure ∧
      failure.code? = some .unrecognizedRequest) ↔
        ¬ Specialist.coverIndex.FindsMain (settings.cut text) ∧
        ¬ Specialist.schadenIndex.FindsMain (settings.cut text) := by
  constructor
  · rintro ⟨failure, h, code⟩
    rcases standard_statement_error h with (unclear | fault) | ⟨-, silent⟩
    · rw [code] at unclear
      cases unclear
    · cases fault with
      | unresolved field =>
          rw [code] at field
          cases field
      | malformed value =>
          rw [code] at value
          cases value
      | digits => cases code
    · exact silent
  · intro silent
    have rejected := (standard_rejects_iff settings _).mpr silent
    have bounded : (standard settings).bounded text = settings.cut text := bounded_eq_cut _ _
    rw [← bounded] at rejected
    exact statement_of_unrecognized rejected

/-- A failure of the service is one of its compiler. -/
theorem statement_of_answer {c : Compiler}
    (h : Service.answer c text = .error (.failed failure)) :
    c.statement (Text.trim text) = .error failure := by
  simp only [Service.answer] at h
  split at h
  · cases h
  · split at h
    · cases h
    · split at h
      · cases h
      · next failed =>
          cases h
          exact failed

/-- A request that fails is not recognized, has no clear report, or has a wrong field or
value, unless an integer with more digits than can be read is among the digits of the part
that is read. So nothing else goes wrong if that part is cut to so many characters. It is
not recognized exactly if the part has no main keyword. And the service answers that the
request is to blame, except for such an integer. -/
theorem standard_failures (settings : Settings) (text : String) :
    (∀ failure, (standard settings).statement text = .error failure →
      (∃ code ∈ Failure.requestCodes, failure.code? = some code) ∨
        ∃ n, failure = .integerNotRead n ∧ maxDigits < n ∧
          n ≤ digitCount (settings.cut text)) ∧
    (0 < settings.maxLength → settings.maxLength ≤ maxDigits →
      ∀ failure, (standard settings).statement text = .error failure →
        ∃ code ∈ Failure.requestCodes, failure.code? = some code) ∧
    ((∃ failure, (standard settings).statement text = .error failure ∧
      failure.code? = some .unrecognizedRequest) ↔
        ¬ Specialist.coverIndex.FindsMain (settings.cut text) ∧
        ¬ Specialist.schadenIndex.FindsMain (settings.cut text)) ∧
    (∀ failure, Service.answer (standard settings) text = .error (.failed failure) →
      (∃ code, failure.code? = some code ∧ Service.statusOf code = 422) ∨
        ∃ n, failure = .integerNotRead n ∧ maxDigits < n) := by
  refine ⟨fun _ => class_of_standard, fun positive short failure h => ?_,
    unrecognized_iff settings text, fun failure h => ?_⟩
  · rcases class_of_standard h with listed | ⟨n, -, many, within⟩
    · exact listed
    · have digits := settings.digitCount_cut text positive
      omega
  · rcases class_of_standard (statement_of_answer h) with ⟨code, known, found⟩ | ⟨n, rfl, many, -⟩
    · have blamed : ∀ code ∈ Failure.requestCodes, Service.statusOf code = 422 := by decide
      exact .inl ⟨code, found, blamed code known⟩
    · exact .inr ⟨n, rfl, many⟩

/-- Where requests of 10000 characters are read, one with a limit of 4301 digits fails for
none of these reasons. -/
theorem limit_with_many_digits :
    (standard { maxLength := 10000 }).statement (contractsUpTo (List.replicate 4301 '1')) =
        .error (.integerNotRead 4301) ∧
      ¬ ∃ code ∈ Failure.requestCodes, (Failure.integerNotRead 4301).code? = some code := by
  have length : (List.replicate 4301 '1').length = 4301 := List.length_replicate
  have own : IsDigits (List.replicate 4301 '1') :=
    ⟨List.ne_nil_of_length_pos (by omega), fun c member => List.eq_of_mem_replicate member ▸ rfl⟩
  generalize List.replicate 4301 '1' = digits at length own ⊢
  have many : maxDigits < digits.length := by
    rw [length]
    decide
  have short : (contractsUpTo digits).length = 4316 := by
    rw [contractsUpTo, String.length_append, String.length_ofList, length]
    rfl
  have whole : Settings.cut { maxLength := 10000 } (contractsUpTo digits) =
      contractsUpTo digits := by
    rw [Settings.cut, if_pos (by decide), firstCharacters, List.take_of_length_le,
      String.ofList_toList]
    rw [String.length_toList, short]
    decide
  refine ⟨?_, by decide⟩
  rw [statement_contractsUpTo (by decide) own many whole, length]

end Compiler

end Inquiry
