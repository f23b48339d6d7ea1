import Inquiry.Proofs.Alongside
import Inquiry.Proofs.Signatures

/-!
# The content of quoted texts

Phrases and steering words are found by the kinds and keys of tokens. What a quoted
text says beyond its key is looked at in two places only: where a value is bound, and
where the rules of a domain redirect a field.

So if quoted texts are changed and keep their keys, whatever finds its place in a
request finds the same place, and leaves the same tokens behind it but for the change.
-/

namespace Inquiry

namespace Token

/-- A change of quoted texts that keeps their keys. -/
structure Requotes (f : Token → Token) : Prop where
  kind : ∀ t, (f t).kind = t.kind
  key : ∀ t, (f t).key = t.key
  unquoted : ∀ t, t.kind ≠ .quoted → f t = t

end Token

open Token (Requotes)

namespace Token.Requotes

variable {f : Token → Token}

theorem isWordIn (h : Requotes f) (words : List String) (t : Token) :
    (f t).isWordIn words = t.isWordIn words := by
  rw [Token.isWordIn, h.kind, h.key, Token.isWordIn]

theorem isValue (h : Requotes f) (t : Token) : (f t).isValue = t.isValue := by
  rw [Token.isValue, h.kind, Token.isValue]

theorem word (h : Requotes f) {t : Token} (kind : t.kind = .word) : f t = t :=
  h.unquoted t (by rw [kind]; decide)

theorem map_signature (h : Requotes f) (tokens : List Token) :
    (tokens.map f).map signature = tokens.map signature := by
  rw [List.map_map]
  refine List.map_congr_left fun t _ => ?_
  rw [Function.comp_apply, signature, signature, h.kind, h.key]

theorem matchAt (h : Requotes f) (index : Keyword.Index) (tokens : List Token) :
    index.matchAt (tokens.map f) = index.matchAt tokens :=
  Keyword.Index.matchAt_of_signature (h.map_signature tokens)

end Token.Requotes

namespace Request

variable {f : Token → Token} (scope : Scope)

theorem dropWhile_map {p : Token → Bool} (keeps : ∀ t, p (f t) = p t) (tokens : List Token) :
    (tokens.map f).dropWhile p = (tokens.dropWhile p).map f := by
  rw [List.dropWhile_map, show p ∘ f = p from funext keeps]

/-! ## Words and phrases -/

section Words

variable (same : Requotes f)

include same

theorem beginsWith_map (words : List String) (tokens : List Token) :
    beginsWith words (tokens.map f) = beginsWith words tokens := by
  cases tokens with
  | nil => rfl
  | cons t rest => exact same.isWordIn words t

theorem afterPhrase?_map (phrase : List String) (tokens : List Token) :
    afterPhrase? phrase (tokens.map f) = (afterPhrase? phrase tokens).map (List.map f) := by
  induction phrase generalizing tokens with
  | nil => rfl
  | cons word phrase ih =>
      cases tokens with
      | nil => rfl
      | cons t rest =>
          rw [List.map_cons, afterPhrase?, afterPhrase?, same.kind, same.key, ih]
          split <;> rfl

theorem afterAnyPhrase?_map (phrases : List (List String)) (tokens : List Token) :
    afterAnyPhrase? phrases (tokens.map f) =
      (afterAnyPhrase? phrases tokens).map (List.map f) := by
  induction phrases with
  | nil => rfl
  | cons phrase phrases ih =>
      rw [afterAnyPhrase?, afterAnyPhrase?, List.findSome?_cons, List.findSome?_cons,
        afterPhrase?_map same]
      cases afterPhrase? phrase tokens with
      | none => exact ih
      | some rest => rfl

theorem startsPlainWord_map (tokens : List Token) :
    scope.startsPlainWord (tokens.map f) = scope.startsPlainWord tokens := by
  cases tokens with
  | nil => rfl
  | cons t rest =>
      have found := same.matchAt scope.index (t :: rest)
      rw [List.map_cons] at found ⊢
      simp only [Scope.startsPlainWord, same.kind, same.key, found]

theorem startsUnknownWord_map (tokens : List Token) :
    scope.startsUnknownWord (tokens.map f) = scope.startsUnknownWord tokens := by
  cases tokens with
  | nil => rfl
  | cons t rest =>
      have found := same.matchAt scope.index (t :: rest)
      rw [List.map_cons] at found ⊢
      simp only [Scope.startsUnknownWord, same.kind, same.key, found]

theorem startsCondition_map (tokens : List Token) :
    scope.startsCondition (tokens.map f) = scope.startsCondition tokens := by
  cases tokens with
  | nil => rfl
  | cons t rest =>
      have phrase := afterAnyPhrase?_map same (comparingPhrases.map (·.1)) (t :: rest)
      have plain := startsPlainWord_map scope same (t :: rest)
      rw [List.map_cons] at phrase plain ⊢
      simp only [Scope.startsCondition, same.isWordIn, same.isValue, same.kind, phrase, plain,
        Option.isSome_map]

theorem fieldAt_map (tokens : List Token) :
    scope.fieldAt (tokens.map f) = scope.fieldAt tokens := by
  rw [Scope.fieldAt, same.matchAt, Scope.fieldAt]

end Words

/-! ## Values -/

theorem word_of_mem_plainWords (tokens : List Token) :
    ∀ t ∈ (scope.plainWords tokens).1, t.kind = .word := by
  induction tokens with
  | nil => exact fun t member => absurd member List.not_mem_nil
  | cons t rest ih =>
      rw [Scope.plainWords]
      split
      · next word =>
          simp only [Scope.startsPlainWord, Bool.and_eq_true, beq_iff_eq] at word
          exact List.forall_mem_cons.mpr ⟨word.1.1, ih⟩
      · exact fun t member => absurd member List.not_mem_nil

section Values

variable (same : Requotes f)

include same

theorem plainWords_map (tokens : List Token) :
    scope.plainWords (tokens.map f) =
      ((scope.plainWords tokens).1, (scope.plainWords tokens).2.map f) := by
  induction tokens with
  | nil => rfl
  | cons t rest ih =>
      have starts := startsPlainWord_map scope same (t :: rest)
      rw [List.map_cons] at starts ⊢
      rw [Scope.plainWords, starts, ih, Scope.plainWords]
      split
      · next word =>
          simp only [Scope.startsPlainWord, Bool.and_eq_true, beq_iff_eq] at word
          rw [same.word word.1.1]
      · rfl

theorem plainValue?_map (tokens : List Token) :
    scope.plainValue? (tokens.map f) =
      (scope.plainValue? tokens).map fun value => (f value.1, value.2.map f) := by
  have words := word_of_mem_plainWords scope tokens
  rw [Scope.plainValue?, plainWords_map scope same, Scope.plainValue?]
  generalize scope.plainWords tokens = read at words
  obtain ⟨found, rest⟩ := read
  cases found with
  | nil => rfl
  | cons first others =>
      have own : f (if others.isEmpty then first else Scope.joinWords (first :: others)) =
          if others.isEmpty then first else Scope.joinWords (first :: others) := by
        split
        · exact same.word (words first List.mem_cons_self)
        · exact same.word rfl
      simp only [Option.map_some, own]

theorem value?_map (tokens : List Token) :
    scope.value? (tokens.map f) =
      (scope.value? tokens).map fun value => (f value.1, value.2.map f) := by
  cases tokens with
  | nil => rfl
  | cons t rest =>
      have unnamed := dropWhile_map (p := fun u => u.kind == .word && isCurrency u.key)
        (fun u => by rw [same.kind, same.key]) rest
      have plain := plainValue?_map scope same (t :: rest)
      rw [List.map_cons] at plain ⊢
      rw [Scope.value?, Scope.value?, same.kind]
      cases t.kind with
      | number => rw [unnamed, Option.map_some]
      | date | quoted => rfl
      | word | operator | comma => exact plain

theorem furtherValues_map (andToo : Bool) (tokens : List Token) :
    scope.furtherValues andToo (tokens.map f) =
      ((scope.furtherValues andToo tokens).1.map f,
        (scope.furtherValues andToo tokens).2.map f) := by
  have separates (t : Token) :
      Scope.separatesValues (f t) andToo = Scope.separatesValues t andToo := by
    rw [Scope.separatesValues, same.kind, same.key, Scope.separatesValues]
  fun_induction Scope.furtherValues scope andToo tokens with
  | case1 => rw [List.map_nil, Scope.furtherValues]
  | case2 separator rest separated value after found more behind split ih =>
      have found' : scope.value? (rest.map f) = some (f value, after.map f) := by
        rw [value?_map scope same, found, Option.map_some]
      rw [split] at ih
      rw [List.map_cons, Scope.furtherValues, separates, if_pos separated]
      split
      · next value' after' heq =>
          rw [found'] at heq
          cases heq
          rw [ih]
          rfl
      · next missing =>
          rw [found'] at missing
          cases missing
  | case3 separator rest separated missing =>
      have missing' : scope.value? (rest.map f) = none := by
        rw [value?_map scope same, missing, Option.map_none]
      rw [List.map_cons, Scope.furtherValues, separates, if_pos separated]
      split
      · next found =>
          rw [missing'] at found
          cases found
      · rfl
  | case4 separator rest other =>
      rw [List.map_cons, Scope.furtherValues, separates, if_neg other]
      rfl

theorem values_map (andToo : Bool) (tokens : List Token) :
    scope.values andToo (tokens.map f) =
      ((scope.values andToo tokens).1.map f, (scope.values andToo tokens).2.map f) := by
  rw [Scope.values, value?_map scope same, Scope.values]
  cases scope.value? tokens with
  | none => rfl
  | some value =>
      simp only [Option.map_some, furtherValues_map scope same]
      rfl

theorem bounds?_map (tokens : List Token) :
    scope.bounds? (tokens.map f) =
      (scope.bounds? tokens).map fun read => (f read.1, f read.2.1, read.2.2.map f) := by
  rw [Scope.bounds?, value?_map scope same, Scope.bounds?]
  cases scope.value? tokens with
  | none => rfl
  | some low =>
      obtain ⟨low, rest⟩ := low
      simp only [Option.map_some, beginsWith_map same, ← List.map_drop, value?_map scope same]
      split
      · rw [Option.map_map, Option.map_map]
        rfl
      · rfl

/-! ## The opening of a condition -/

theorem skipWord_map (words : List String) (tokens : List Token) :
    Scope.skipWord words (tokens.map f) = (Scope.skipWord words tokens).map f := by
  rw [Scope.skipWord, beginsWith_map same, Scope.skipWord]
  split
  · exact List.map_drop.symm
  · rfl

theorem operatorAt_map (tokens : List Token) :
    operatorAt (tokens.map f) =
      { operatorAt tokens with rest := (operatorAt tokens).rest.map f } := by
  cases tokens with
  | nil => rfl
  | cons t rest =>
      have phrase (entry : List String × Comparison) :
          (afterPhrase? entry.1 ((t :: rest).map f)).map (entry.2, ·) =
            ((afterPhrase? entry.1 (t :: rest)).map (entry.2, ·)).map
              fun read => (read.1, read.2.map f) := by
        rw [afterPhrase?_map same, Option.map_map, Option.map_map]
        rfl
      have found : (comparingPhrases.findSome? fun entry =>
          (afterPhrase? entry.1 ((t :: rest).map f)).map (entry.2, ·)) =
            (comparingPhrases.findSome? fun entry =>
              (afterPhrase? entry.1 (t :: rest)).map (entry.2, ·)).map
                fun read => (read.1, read.2.map f) := by
        simp only [phrase]
        exact List.map_findSome?.symm
      rw [List.map_cons] at found ⊢
      simp only [operatorAt, same.isWordIn, same.kind]
      split
      · rfl
      · split
        · next sign => rw [same.unquoted t (by rw [sign]; decide)]
        · rw [found]
          cases comparingPhrases.findSome? fun entry =>
            (afterPhrase? entry.1 (t :: rest)).map (entry.2, ·) <;> rfl

theorem opening_map (explicit : Bool) (tokens : List Token) :
    opening explicit (tokens.map f) =
      { opening explicit tokens with rest := (opening explicit tokens).rest.map f } := by
  simp only [opening, operatorAt_map same]
  cases (operatorAt tokens).relation.or (if explicit then some (.compare .equals) else none) with
  | none => rfl
  | some relation =>
      have rest := dropWhile_map (p := (·.isWordIn articles)) (same.isWordIn articles)
        (operatorAt tokens).rest
      simp only [rest]

/-- Which relation is meant does not depend on what is quoted. -/
theorem settled_map (column : Column) (relation : Option Relation) (negate : Bool) (first : Token)
    (others : List Token) :
    settled column relation negate (f first) (others.map f) =
      settled column relation negate first others := by
  have pattern (t : Token) : ((f t).kind == .word && Literal.hasWildcard (f t).raw) =
      (t.kind == .word && Literal.hasWildcard t.raw) := by
    by_cases word : t.kind = .word
    · rw [same.word word]
    · rw [same.kind, beq_false_of_ne word, Bool.false_and, Bool.false_and]
  have patterns : (f first :: others.map f).any
        (fun v => v.kind == .word && Literal.hasWildcard v.raw) =
      (first :: others).any fun v => v.kind == .word && Literal.hasWildcard v.raw := by
    rw [← List.map_cons, List.any_map]
    exact congrArg _ (funext pattern)
  have default_ : defaultRelation column negate (f first) (others.map f) =
      defaultRelation column negate first others := by
    by_cases quoted : first.kind = .quoted
    · have value : first.isValue = true := by rw [Token.isValue, quoted]
      simp [defaultRelation, same.kind, same.isValue, quoted, value]
    · rw [same.unquoted first quoted]
      simp only [defaultRelation, ne_eq, List.map_eq_nil_iff]
  simp only [settled, default_, patterns, List.map_eq_nil_iff]

end Values

end Request

end Inquiry
