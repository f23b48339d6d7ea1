import Inquiry.Proofs.BetweenBlanks
import Inquiry.Proofs.LongIntegers

/-!
# Numbers as tokens

A number is one lexeme (`lexeme?_number`). That it is no date has to be seen from its
parts: there are two of them only, or the second one has three digits, and that of a date
has at most two.

So what is written as a number is read as this number, unless it is an integer with too
many digits, and in a request it is one token with the text as it was written, wherever it
stands between blanks and not in a quotation (`numbers_read_as_written`).
-/

namespace Inquiry

open Text

namespace Literal

/-! ## The groups of a number -/

/-- What may follow the first digits of a number: groups of three behind points, and at
last digits behind a point or a comma. -/
inductive Behind : List Char → Prop where
  | nil : Behind []
  | last {sign : Char} {run : List Char} (separates : sign ∈ ['.', ',']) (own : IsDigits run) :
      Behind (sign :: run)
  | group {group more : List Char} (three : group.length = 3) (own : IsDigits group)
      (behind : Behind more) : Behind ('.' :: (group ++ more))

variable {cs whole : List Char} {fraction : Option (List Char)}

theorem Behind.ends (h : Behind cs) : ∀ c ∈ cs.head?, isDigit c = false := by
  have separators : ∀ c ∈ ['.', ','], isDigit c = false := by decide
  cases h with
  | nil => simp
  | last separates => simpa using separators _ separates
  | group => simpa using separators '.' (by decide)

theorem Groups.behind (h : Groups cs whole) {more : List Char} (behind : Behind more) :
    Behind (cs ++ more) := by
  induction h with
  | nil => exact behind
  | cons three own _ ih =>
      rw [List.cons_append, List.append_assoc]
      exact .group three own ih

theorem Grouped.behind (h : Grouped cs whole) {more : List Char} (behind : Behind more) :
    ∃ lead rest, cs ++ more = lead ++ rest ∧ IsDigits lead ∧ Behind rest := by
  obtain ⟨lead, groups, _, rfl, -, -, own, -, tail⟩ := h
  exact ⟨lead, groups ++ more, List.append_assoc _ _ _, own, tail.behind behind⟩

/-- The digits in front of the first separator, and what is behind them. -/
theorem Written.behind (h : Written cs whole fraction) :
    ∃ lead rest, cs = lead ++ rest ∧ IsDigits lead ∧ Behind rest := by
  cases h with
  | whole digits => exact ⟨cs, [], (List.append_nil cs).symm, digits, .nil⟩
  | grouped groups =>
      obtain ⟨lead, rest, split, parts⟩ := groups.behind .nil
      exact ⟨lead, rest, (List.append_nil cs).symm.trans split, parts⟩
  | pointed before behind => exact ⟨_, _, rfl, before, .last (by decide) behind⟩
  | comma before behind => exact ⟨_, _, rfl, before, .last (by decide) behind⟩
  | groupedComma before behind => exact before.behind (.last (by decide) behind)

end Literal

namespace Token

open Literal

variable {cs run rest : List Char}

/-! ## A number is a lexeme -/

theorem digitRun_digits (own : IsDigits run) (ends : ∀ c ∈ rest.head?, isDigit c = false) :
    digitRun (run ++ rest) = run.length := by
  rw [digitRun, (takeWhile_digits own.2 rest ends).1]

theorem digitGroups?_cons {sign : Char} (separates : sign ∈ ['.', ',']) (own : IsDigits run)
    (ends : ∀ c ∈ rest.head?, isDigit c = false) {n : Nat} (found : digitGroups? rest = some n) :
    digitGroups? (sign :: (run ++ rest)) = some (1 + run.length + n) := by
  have positive := List.length_pos_iff.mpr own.1
  have separates : sign = '.' ∨ sign = ',' := by simpa using separates
  rw [digitGroups?]
  simp only [digitRun_digits own ends, List.drop_left, found]
  rw [if_pos ⟨separates, positive⟩]

theorem digitGroups?_behind (h : Behind cs) : digitGroups? cs = some cs.length := by
  induction h with
  | nil => rw [digitGroups?]; rfl
  | @last sign run separates own =>
      have none : digitGroups? [] = some 0 := by rw [digitGroups?]
      have all := digitGroups?_cons separates own (by simp) none
      rw [List.append_nil] at all
      rw [all, List.length_cons]
      congr 1
      omega
  | @group group more three own behind ih =>
      rw [digitGroups?_cons (by decide) own behind.ends ih, List.length_cons, List.length_append]
      congr 1
      omega

theorem number?_digits (negative : Bool) (own : IsDigits run) (behind : Behind rest) :
    number? none (sign negative ++ (run ++ rest)) =
      some (sign negative ++ (run ++ rest)).length := by
  have positive := List.length_pos_iff.mpr own.1
  have digits := digitRun_digits own behind.ends
  have first : (if (sign negative ++ (run ++ rest)).head? = some '-' then 1 else 0) =
      (sign negative).length := by
    cases negative with
    | true => rfl
    | false => exact if_neg (own.head? rest)
  rw [number?, if_neg (by simp)]
  simp only [first, List.drop_left, digits]
  rw [if_neg (Nat.pos_iff_ne_zero.mp positive), ← List.drop_drop, List.drop_left, List.drop_left,
    digitGroups?_behind behind, Option.map_some, List.length_append, List.length_append,
    Nat.add_assoc]

/-- A hyphen begins no date. -/
theorem date?_hyphen (cs : List Char) : date? ('-' :: cs) = none := by
  rw [Option.eq_none_iff_forall_ne_some]
  intro n found
  exact absurd (isDigit_of_date? found) (by decide)

/-- A number is no date: it has two parts only, or its second part has three digits. -/
theorem date?_digits (own : IsDigits run) (behind : Behind rest) : date? (run ++ rest) = none := by
  have digits := digitRun_digits own behind.ends
  have points : dateParts? ['.', '/'] [(1, 2), (1, 2), (2, 4)] (run ++ rest) = none := by
    simp only [dateParts?, digits, List.drop_left]
    cases behind with
    | nil => simp
    | @last sign second _ other =>
        have whole := @digitRun_digits second [] other (by simp)
        rw [List.append_nil] at whole
        simp [whole]
    | @group group more three other behind =>
        simp [digitRun_digits other behind.ends, three]
  have hyphens : dateParts? ['-'] [(4, 4), (2, 2), (2, 2)] (run ++ rest) = none := by
    simp only [dateParts?, digits, List.drop_left]
    cases behind with
    | nil => simp
    | last separates =>
        have other : ∀ sign ∈ ['.', ','], sign ≠ '-' := by decide
        simp [other _ separates]
    | group => simp
  rw [date?, points, hyphens]
  rfl

/-- A number has no quotation marks in it, of whatever form. -/
theorem unquoted_number {whole : List Char} {fraction : Option (List Char)}
    (h : Written cs whole fraction) (negative : Bool) :
    ∀ c ∈ sign negative ++ cs, plainQuote c = c ∧ c ∉ quoteMarks := by
  intro c member
  rcases h.chars negative c member with digit | sign
  · refine ⟨?_, notMem_of_isDigit digit (by decide)⟩
    rw [plainQuote, if_neg (notMem_of_isDigit digit (by decide)),
      if_neg (notMem_of_isDigit digit (by decide))]
  · have signs : ∀ c ∈ ['.', ',', '-'], plainQuote c = c ∧ c ∉ quoteMarks := by decide
    exact signs c sign

/-- A number is one lexeme. -/
theorem lexeme?_number {whole : List Char} {fraction : Option (List Char)}
    (h : Written cs whole fraction) (negative : Bool) :
    lexeme? none (sign negative ++ cs) = some (.number, (sign negative ++ cs).length) := by
  obtain ⟨run, rest, rfl, own, behind⟩ := h.behind
  have unquoted := unquoted_number h negative
  have number := number?_digits negative own behind
  have date : date? (sign negative ++ (run ++ rest)) = none := by
    cases negative with
    | true => exact date?_hyphen _
    | false =>
        rw [sign, if_neg Bool.false_ne_true, List.nil_append]
        exact date?_digits own behind
  obtain ⟨c, others, first⟩ : ∃ c others, sign negative ++ (run ++ rest) = c :: others :=
    List.exists_cons_of_ne_nil (by simp [own.1])
  rw [first] at unquoted number date ⊢
  have noQuote := (unquoted c List.mem_cons_self).2
  have double : quotation? '"' (c :: others) = none :=
    quotation?_of_ne (fun same => noQuote (by simp [quoteMarks, same])) others
  have single : quotation? '\'' (c :: others) = none :=
    quotation?_of_ne (fun same => noQuote (by simp [quoteMarks, same])) others
  simp [lexeme?, double, single, date, number]

end Token

namespace Literal

/-! ## Ways to write a number -/

/-- The ways to write digits, with a fraction or without: with a point between the
thousands or none, and with a comma or a point in front of the fraction. -/
inductive WayToWrite (whole : List Char) : Option (List Char) → List Char → Prop where
  | plain : WayToWrite whole none whole
  | grouped : WayToWrite whole none (thousands whole)
  | comma {decimals : List Char} : WayToWrite whole (some decimals) (whole ++ ',' :: decimals)
  | groupedComma {decimals : List Char} :
      WayToWrite whole (some decimals) (thousands whole ++ ',' :: decimals)
  | point {decimals : List Char} : WayToWrite whole (some decimals) (whole ++ '.' :: decimals)

variable {cs whole : List Char} {fraction : Option (List Char)}

/-- All of them are notations, though a point may be one between thousands. -/
theorem WayToWrite.written (h : WayToWrite whole fraction cs) (digits : IsDigits whole)
    (decimals : ∀ ds ∈ fraction, IsDigits ds) : ∃ all behind, Written cs all behind := by
  cases h with
  | plain => exact ⟨_, _, .whole digits⟩
  | grouped => exact ⟨_, _, written_thousands digits⟩
  | comma => exact ⟨_, _, .comma digits (decimals _ rfl)⟩
  | groupedComma => exact ⟨_, _, written_thousands_comma digits (decimals _ rfl)⟩
  | @point behind =>
      by_cases groups : ∃ all, Grouped (whole ++ '.' :: behind) all
      · obtain ⟨all, grouped⟩ := groups
        exact ⟨all, none, .grouped grouped⟩
      · exact ⟨whole, some behind, .pointed digits (decimals _ rfl) fun all grouped =>
          groups ⟨all, grouped⟩⟩

/-- What is written is read again: an integer from its digits, grouped or not, if it does
not have too many, and a decimal of any length from its digits around a comma, grouped or
not, and around a point, unless that groups thousands. And in a request, between blanks,
each of these texts is one number token with that text, unless it is content of a
quotation. A text is content of none if no quotation mark in front of it comes again
behind it. -/
theorem numbers_read_as_written :
    (∀ n : Int, let read := if isWritable n then .ok (some (.whole n))
        else .error (.integerNotRead (digits n.natAbs).length)
      number (integerText n) = read ∧ number (groupedText n) = read) ∧
    (∀ {whole decimals} (negative : Bool), IsDigits whole → IsDigits decimals →
      number (String.ofList (sign negative ++ (whole ++ ',' :: decimals))) =
          .ok (some (.decimal
            ⟨negative, numeral (whole ++ decimals), -(decimals.length : Int)⟩)) ∧
        number (String.ofList (sign negative ++ (thousands whole ++ ',' :: decimals))) =
          .ok (some (.decimal
            ⟨negative, numeral (whole ++ decimals), -(decimals.length : Int)⟩)) ∧
        number (String.ofList (sign negative ++ (whole ++ '.' :: decimals))) =
          .ok (some (if whole.length ≤ 3 ∧ decimals.length = 3 then
              numberOf negative (whole ++ decimals) none
            else .decimal ⟨negative, numeral (whole ++ decimals), -(decimals.length : Int)⟩))) ∧
    (∀ {whole fraction cs} (negative : Bool) (a b : String), IsDigits whole →
      (∀ decimals ∈ fraction, IsDigits decimals) → WayToWrite whole fraction cs →
      Token.Standing a b (sign negative ++ cs)
          ⟨String.ofList (sign negative ++ cs), String.ofList (sign negative ++ cs), .number⟩ ∧
        ((∀ mark ∈ ['"', '\''], mark ∈ a.toList.map Token.plainQuote →
            mark ∉ b.toList.map Token.plainQuote) →
          Token.ofText (a ++ " " ++ String.ofList (sign negative ++ cs) ++ " " ++ b) =
            Token.ofText a ++ ⟨String.ofList (sign negative ++ cs),
              String.ofList (sign negative ++ cs), .number⟩ :: Token.ofText b)) := by
  refine ⟨number_integer, fun negative digits decimals => ?_,
    fun {whole fraction cs} negative a b digits decimals way => ?_⟩
  · obtain ⟨comma, grouped⟩ := number_decimal digits decimals negative
    exact ⟨comma, grouped, number_pointed digits decimals negative⟩
  · obtain ⟨all, behind, written⟩ := way.written digits decimals
    have ne : sign negative ++ cs ≠ [] := by simp [written.ne_nil]
    have visible := written.visible negative
    have unquoted := Token.unquoted_number written negative
    have lexeme := Token.lexeme?_number written negative
    exact ⟨Token.standing_of_lexeme? ne visible unquoted lexeme rfl,
      Token.ofText_between ne visible unquoted lexeme rfl⟩

/-- An amount in a request. -/
theorem numbers_read_as_written_amount :
    number (integerText (-1234567)) = .ok (some (.whole (-1234567))) ∧
      number (groupedText (-1234567)) = .ok (some (.whole (-1234567))) ∧
      number "1234,50" = .ok (some (.decimal ⟨false, 123450, -2⟩)) ∧
      Token.Standing "Summe" "EUR" "1.234,50".toList ⟨"1.234,50", "1.234,50", .number⟩ ∧
      Token.ofText "Summe 1.234,50 EUR" =
        Token.ofText "Summe" ++ ⟨"1.234,50", "1.234,50", .number⟩ :: Token.ofText "EUR" := by
  obtain ⟨integers, decimals, tokens⟩ := numbers_read_as_written
  have digits : IsDigits "1234".toList := by decide
  have behind : IsDigits "50".toList := by decide
  have text : sign false ++ (thousands "1234".toList ++ ',' :: "50".toList) =
      "1.234,50".toList := by decide +kernel
  obtain ⟨standing, between⟩ := @tokens "1234".toList (some "50".toList) _ false "Summe" "EUR"
    digits (fun ds own => Option.some.inj own ▸ behind) .groupedComma
  rw [text, String.ofList_toList] at standing between
  have comma := (decimals false digits behind).1
  have value : numeral ("1234".toList ++ "50".toList) = 123450 := by decide +kernel
  rw [value] at comma
  exact ⟨(integers _).1, (integers _).2, comma, standing, between (by decide)⟩

/-- An integer with too many digits is not read. And between the blanks of a quotation a
number is no token, but part of the quoted text. -/
theorem numbers_not_read_as_written :
    (number (integerText (10 ^ maxDigits)) ≠ .ok (some (.whole (10 ^ maxDigits))) ∧
      number (groupedText (10 ^ maxDigits)) ≠ .ok (some (.whole (10 ^ maxDigits)))) ∧
    WayToWrite "12".toList none "12".toList ∧ IsDigits "12".toList ∧
      Token.ofText ("\"Haus" ++ " " ++ "12" ++ " " ++ "links\"") =
        [⟨"Haus 12 links", "haus 12 links", .quoted⟩] ∧
      ⟨"12", "12", .number⟩ ∉ Token.ofText ("\"Haus" ++ " " ++ "12" ++ " " ++ "links\"") := by
  refine ⟨?_, .plain, by decide, by decide +kernel, by decide +kernel⟩
  obtain ⟨plain, grouped⟩ := number_integer (10 ^ maxDigits)
  rw [not_isWritable_pow] at plain grouped
  rw [plain, grouped]
  exact ⟨nofun, nofun⟩

end Literal

end Inquiry
