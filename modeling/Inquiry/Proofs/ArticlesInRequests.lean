import Inquiry.Proofs.Articles
import Inquiry.Proofs.ValueLists

/-!
# Articles in requests

A request is read in three passes: the sort block is taken out, then the row limit, and what
is left is read as mentions of columns. Articles behind an operator change none of them. Each
pass has the same result with them or leaves them where they are (`Scope.Keeps`), and what it
takes out in front of them are whole blocks (`Scope.Cuts`). So articles before a quoted text or
a date say nothing behind an operator that no keyword reaches over
(`Scope.readTokens_past_articles`), and in the catalogue only `bis` belongs to keywords
(`Catalogue.readTokens_articles`).

A range is not read like that. The words behind `zwischen` have to be its two bounds, and an
article before either of them is none (`Catalogue.read_range_articles`).
-/

namespace Inquiry

namespace Request

namespace Scope

variable {scope : Scope} {front rest : List Token} {o v : Token}

/-! ## What is taken out -/

/-- What tokens are when blocks between them are taken out that begin with a marker of a sort
block or of a row limit. -/
inductive Cuts : List Token → List Token → Prop
  | refl (tokens : List Token) : Cuts tokens tokens
  | cut {front mark block rest left : List Token} {marker : List String}
      (known : marker ∈ blockMarkers) (spelt : Spelt marker mark)
      (further : Cuts (front ++ rest) left) : Cuts (front ++ (mark ++ block ++ rest)) left

namespace Cuts

theorem trans {tokens left left' : List Token} (h : Cuts tokens left) (h' : Cuts left left') :
    Cuts tokens left' := by
  induction h with
  | refl => exact h'
  | cut known spelt _ ih => exact .cut known spelt (ih h')

theorem cons (t : Token) {tokens left : List Token} (h : Cuts tokens left) :
    Cuts (t :: tokens) (t :: left) := by
  induction h with
  | refl => exact .refl _
  | @cut front mark block rest left marker known spelt _ ih =>
      exact @Cuts.cut (t :: front) mark block rest _ marker known spelt ih

/-- A block is taken out up to some tokens that are left. -/
theorem block (front : List Token) {mark tokens rest : List Token} {marker : List String}
    (known : marker ∈ blockMarkers) (spelt : Spelt marker mark) (suffix : rest <:+ tokens) :
    Cuts (front ++ (mark ++ tokens)) (front ++ rest) := by
  obtain ⟨block, rfl⟩ := suffix
  rw [← List.append_assoc mark]
  exact .cut known spelt (.refl _)

end Cuts

/-- A pass over a request: with any articles before the value the result is the same, or
it keeps the articles and the value, whatever it takes out before and behind them. -/
inductive Keeps (scope : Scope) (front : List Token) (o v : Token) {α : Type}
    (read : List Token → Except Failure (α × List Token)) : Prop
  | same (result : Except Failure (α × List Token))
      (eq : ∀ skipped, (∀ a ∈ skipped, scope.IsArticle a) → read skipped = result) :
      Keeps scope front o v read
  | kept (value : α) (left behind : List Token) (cuts : Cuts front left)
      (eq : ∀ skipped, (∀ a ∈ skipped, scope.IsArticle a) →
        read skipped = .ok (value, left ++ o :: (skipped ++ v :: behind))) :
      Keeps scope front o v read

namespace Keeps

variable {α : Type} {read read' : List Token → Except Failure (α × List Token)}

/-- A pass whose result is settled, and what it leaves behind the value with it. -/
theorem of_eq_map {result : Except Failure (α × List Token)} {left : List Token}
    (cuts : Cuts front left)
    (eq : ∀ skipped, (∀ a ∈ skipped, scope.IsArticle a) → read skipped =
      result.map fun (value, behind) => (value, left ++ o :: (skipped ++ v :: behind))) :
    Keeps scope front o v read := by
  cases result with
  | error failure => exact .same (.error failure) eq
  | ok found => exact .kept found.1 left found.2 cuts eq

theorem congr (h : Keeps scope front o v read)
    (eq : ∀ skipped, (∀ a ∈ skipped, scope.IsArticle a) → read' skipped = read skipped) :
    Keeps scope front o v read' := by
  cases h with
  | same result same => exact .same result fun skipped skips => (eq _ skips).trans (same _ skips)
  | kept value left behind cuts kept =>
      exact .kept value left behind cuts fun skipped skips => (eq _ skips).trans (kept _ skips)

/-- A token in front that a pass leaves where it is. -/
theorem cons (h : Keeps scope front o v read) {t : Token}
    (eq : ∀ skipped, (∀ a ∈ skipped, scope.IsArticle a) →
      read' skipped = (read skipped).map fun (value, left) => (value, t :: left)) :
    Keeps scope (t :: front) o v read' := by
  cases h with
  | same result same =>
      exact .same _ fun skipped skips => by rw [eq skipped skips, same skipped skips]
  | kept value left behind cuts kept =>
      refine .kept value (t :: left) behind (cuts.cons t) fun skipped skips => ?_
      rw [eq skipped skips, kept skipped skips]
      rfl

end Keeps

theorem articled {skipped : List Token} (skips : ∀ a ∈ skipped, scope.IsArticle a) (v : Token)
    (rest : List Token) : scope.Articled v rest (skipped ++ v :: rest) := ⟨skipped, skips, rfl⟩

/-- Sort keys begin behind articles. -/
theorem sortKeys_of_dropWhile {tokens tokens' : List Token}
    (same : tokens.dropWhile (·.isWordIn articles) = tokens'.dropWhile (·.isWordIn articles)) :
    scope.sortKeys tokens = scope.sortKeys tokens' := by
  cases found : scope.fieldAt (tokens.dropWhile (·.isWordIn articles)) with
  | none => rw [sortKeys_of_no_field found, sortKeys_of_no_field (same ▸ found), same]
  | some m => rw [sortKeys_of_fieldAt found, sortKeys_of_fieldAt (same ▸ found), same]

/-- Behind articles the row limit is read as if they were not there. -/
theorem limitBehind_articles {skipped : List Token} (skips : ∀ a ∈ skipped, scope.IsArticle a)
    (v : Token) (rest : List Token) :
    scope.limitBehind (skipped ++ [v]) rest =
      (scope.limitBehind [v] rest).map fun (n, left) => (n, skipped ++ left) := by
  induction skipped with
  | nil => cases found : scope.limitBehind [v] rest <;> simp [found, Except.map]
  | cons a skipped ih =>
      have further := @limitBehind_behind scope [] (skipped ++ [v]) a
        (skips a List.mem_cons_self).spared (.inl (by simp)) rest
      rw [List.nil_append] at further
      rw [List.cons_append, further, ih fun b member => skips b (List.mem_cons_of_mem a member)]
      cases scope.limitBehind [v] rest <;> rfl

/-- No row limit begins with an article before the value. -/
theorem unmarked_articles (literal : IsLiteral v) {skipped : List Token}
    (skips : ∀ a ∈ skipped, scope.IsArticle a) (rest : List Token) :
    Unmarked limitMarkers (skipped ++ [v]) rest := by
  induction skipped with
  | nil =>
      refine .of_heads (by decide) (fun t member => ?_) rest
      rw [List.mem_singleton.mp member]
      exact isWordIn_of_kind literal.kind_ne_word _
  | cons a skipped ih =>
      have tail := fun b member => skips b (List.mem_cons_of_mem a member)
      have article := (isWordIn_iff.mp (skips a List.mem_cons_self).word).2
      have alone : afterAnyPhrase? limitMarkers [a] = none := by
        rw [Option.eq_none_iff_forall_ne_some]
        intro left found
        obtain ⟨-, words, own, known, spelt, split⟩ := exists_of_afterAnyPhrase? (by decide) found
        obtain ⟨rfl, rfl⟩ := List.nil_eq_append_iff.mp split
        cases spelt
        have single : ∀ w ∈ articles, [w] ∉ limitMarkers := by decide
        exact single _ article known
      refine .cons ?_ (ih tail)
      have next := (articled tail v rest).afterAnyPhrase?_eq literal
        (show ∀ w ∈ articles, (limitMarkers.flatMap (·.tail)).contains w = false by decide) a []
      rw [alone] at next
      simpa using next

/-- An operator is no row limit, even if it is `maximal`: no number follows. -/
theorem limitBehind_operator (operates : Operates o) {t : Token} (noNumber : t.kind ≠ .number)
    (before rest : List Token) :
    scope.limitBehind before (o :: t :: rest) = scope.limitBehind (before ++ [o]) (t :: rest) := by
  rw [limitBehind]
  split
  · rfl
  · next behind found =>
      obtain ⟨word, words, own, known, spelt, split⟩ := exists_of_afterAnyPhrase? (by decide) found
      have comparing : ∀ marker ∈ limitMarkers, ∀ w ∈ marker.head?, w ∈ linkingWords →
          marker = ["maximal"] := by decide
      have links : o.key ∈ linkingWords := by
        cases operates with
        | sign kind => simp [word] at kind
        | word links => exact (isWordIn_iff.mp links).2
      obtain ⟨maximal, rfl⟩ := List.cons.inj (comparing _ known _ rfl links)
      cases spelt
      obtain rfl : t :: rest = behind := split
      simp [noNumber, maximal]

/-- Whether a field ends here does not depend on what stands behind the operator. -/
theorem followsField_before {before tokens : List Token}
    (spares : scope.index.Spares (before ++ tokens) o) (behind : List Token) :
    scope.followsField before (tokens ++ o :: behind) = scope.followsField before tokens := by
  have ends {before tokens : List Token} (spares : scope.index.Spares (before ++ tokens) o) :
      scope.EndsField before (tokens ++ o :: behind) ↔ scope.EndsField before tokens := by
    refine exists_congr fun phrase => and_congr_right fun _ => and_congr_right fun suffix => ?_
    obtain ⟨own, rfl⟩ := suffix
    rw [← List.append_assoc, fieldAt_before (spares.of_suffix ⟨own, by simp⟩)]
  rw [Bool.eq_iff_iff, followsField_iff, followsField_iff]
  rcases List.eq_nil_or_concat' before with rfl | ⟨init, last, rfl⟩
  · simp [ends spares]
  · have spares' : scope.index.Spares (init ++ ([last] ++ tokens)) o := by simpa using spares
    have moved := ends spares'
    rw [List.append_assoc] at moved
    simp only [List.getLast?_concat, List.dropLast_concat, Option.any_some, Option.toList_some,
      moved, ends spares]

section Passes

variable (literal : IsLiteral v) (operates : Operates o) (rest : List Token)

include literal operates

/-- Behind a marker the sort keys are the same with articles, or end in front of them. -/
theorem keeps_sortKeys {mark behind : List Token} {marker : List String}
    (known : marker ∈ sortMarkers) (spelt : Spelt marker mark)
    (split : front ++ [o] = mark ++ behind) (spares : scope.index.Spares front o) :
    Keeps scope front o v fun skipped => scope.sortKeys (behind ++ (skipped ++ v :: rest)) := by
  rcases List.suffix_concat_iff.mp (⟨mark, split.symm⟩ : behind <:+ front ++ [o]) with
    rfl | ⟨own, rfl, suffix⟩
  · refine .same (scope.sortKeys (v :: rest)) fun skipped skips => ?_
    rw [List.nil_append]
    apply sortKeys_of_dropWhile
    rw [List.dropWhile_append_of_pos fun a member => (skips a member).word]
  · rw [← List.append_assoc] at split
    obtain rfl := List.append_cancel_right split
    simp only [List.append_assoc, List.singleton_append]
    cases steady_sortKeys literal operates rest (spares.of_suffix suffix) with
    | same result eq => exact .same result fun skipped skips => eq _ (articled skips v rest)
    | kept keys left inside eq =>
        exact .kept keys left rest (.block [] (List.mem_append_left _ known) spelt inside)
          fun skipped skips => eq _ (articled skips v rest)

/-- The sort block is the same with articles, and keeps them. -/
theorem keeps_sorting (spares : scope.index.Spares front o) :
    Keeps scope front o v fun skipped =>
      scope.sorting (front ++ o :: (skipped ++ v :: rest)) := by
  induction front with
  | nil =>
      refine @Keeps.of_eq_map _ _ _ _ _ _ (scope.sorting rest) [] (.refl []) fun skipped skips => ?_
      have unmarked : Unmarked sortMarkers (o :: (skipped ++ [v])) rest := by
        refine .of_heads (by decide) (fun t member => ?_) rest
        rcases List.mem_cons.mp member with rfl | member
        · exact operates.notIn (by decide)
        · rcases List.mem_append.mp member with member | member
          · exact isWordIn_of_apart (skips t member).word (by decide)
          · rw [List.mem_singleton.mp member]
            exact isWordIn_of_kind literal.kind_ne_word _
      simpa using sorting_unmarked unmarked
  | cons t front ih =>
      have found (skipped : List Token) (skips : ∀ a ∈ skipped, scope.IsArticle a) :
          afterAnyPhrase? sortMarkers (t :: (front ++ o :: (skipped ++ v :: rest))) =
            (afterAnyPhrase? sortMarkers (t :: (front ++ [o]))).map
              (· ++ (skipped ++ v :: rest)) := by
        rw [List.append_cons front]
        exact (articled skips v rest).afterAnyPhrase?_eq literal (by decide) t _
      cases marked : afterAnyPhrase? sortMarkers (t :: (front ++ [o])) with
      | none =>
          refine (ih (spares.of_suffix (List.suffix_cons t front))).cons fun skipped skips => ?_
          rw [List.cons_append, sorting, found skipped skips, marked]
          rfl
      | some behind =>
          obtain ⟨marker, known, split⟩ := List.exists_of_findSome?_eq_some marked
          obtain ⟨mark, spelt, split⟩ := afterPhrase?_eq_some_iff.mp split
          have read (skipped : List Token) (skips : ∀ a ∈ skipped, scope.IsArticle a) :
              scope.sorting (t :: front ++ o :: (skipped ++ v :: rest)) =
                scope.sortKeys (behind ++ (skipped ++ v :: rest)) := by
            rw [List.cons_append, sorting, found skipped skips, marked]
            rfl
          exact (keeps_sortKeys literal operates rest known spelt split spares).congr read

/-- Where only the operator is left, the row limit stands behind the articles. -/
theorem keeps_limitBehind_operator {before : List Token} (spares : scope.index.Spares before o) :
    Keeps scope before o v fun skipped =>
      scope.limitBehind before (o :: (skipped ++ v :: rest)) := by
  have read (skipped : List Token) (skips : ∀ a ∈ skipped, scope.IsArticle a) :
      scope.limitBehind before (o :: (skipped ++ v :: rest)) =
        (scope.limitBehind [v] rest).map fun (n, left) =>
          (n, before ++ o :: (skipped ++ left)) := by
    obtain ⟨t, more, split, -, noNumber, -⟩ := (articled skips v rest).exists_head literal
    have whole : before ++ [o] ++ (skipped ++ [v]) = before ++ o :: (skipped ++ [v]) := by simp
    rw [split, limitBehind_operator operates noNumber, ← split, List.append_cons skipped,
      limitBehind_unmarked (unmarked_articles literal skips rest), whole,
      limitBehind_behind spares (.inl (by simp)), limitBehind_articles skips]
    cases scope.limitBehind [v] rest <;> rfl
  cases found : scope.limitBehind [v] rest with
  | error failure =>
      refine .same (.error failure) fun skipped skips => ?_
      rw [read skipped skips, found]
      rfl
  | ok limited =>
      obtain ⟨n, left⟩ := limited
      obtain ⟨behind, rfl⟩ := prefix_of_limitBehind found
      refine .kept n before behind (.refl before) fun skipped skips => ?_
      rw [read skipped skips, found]
      rfl

/-- The row limit is the same with articles, and keeps them. -/
theorem keeps_limitBehind {before : List Token} (spares : scope.index.Spares (before ++ front) o) :
    Keeps scope (before ++ front) o v fun skipped =>
      scope.limitBehind before (front ++ o :: (skipped ++ v :: rest)) := by
  induction front generalizing before with
  | nil =>
      rw [List.append_nil] at spares ⊢
      exact keeps_limitBehind_operator literal operates rest spares
  | cons t front ih =>
      have later : o.isWordIn (limitMarkers.flatMap (·.tail)) = false :=
        operates.notIn (by decide)
      have marked := afterAnyPhrase?_behind_first later t front
      have follows := @followsField_before scope o before (t :: front) spares
      have noNumber : o.kind ≠ .number := by
        rcases operates.kind_eq with kind | kind <;> simp [kind]
      have whole : before ++ [t] ++ front = before ++ t :: front := by simp
      have passed := ih (whole ▸ spares)
      rw [whole] at passed
      simp only [List.cons_append] at marked follows ⊢
      simp only [limitBehind, marked, follows]
      cases found : afterAnyPhrase? limitMarkers (t :: front) with
      | none => exact passed
      | some behind =>
          simp only [Option.map_some]
          split
          · exact passed
          · cases behind with
            | nil =>
                simp only [List.nil_append, noNumber, if_false]
                split
                · exact .same (.error (.limitMissing o.raw)) fun _ _ => rfl
                · exact passed
            | cons u after =>
                simp only [List.cons_append]
                split
                · cases limit u.raw with
                  | error failure => exact .same (.error failure) fun _ _ => rfl
                  | ok n =>
                      obtain ⟨marker, known, found⟩ := List.exists_of_findSome?_eq_some found
                      obtain ⟨mark, spelt, split⟩ := afterPhrase?_eq_some_iff.mp found
                      refine .kept (some n) (before ++ after) rest ?_ fun skipped _ => ?_
                      · rw [split]
                        exact .block before (List.mem_append_right _ known) spelt
                          (List.suffix_cons u after)
                      · rw [Except.map, List.append_assoc]
                · split
                  · exact .same (.error (.limitMissing u.raw)) fun _ _ => rfl
                  · exact passed

/-- Articles before a quoted text or a date say nothing behind an operator that no keyword
reaches over, wherever in a request it stands. -/
theorem readTokens_skipped {skipped : List Token} (skips : ∀ a ∈ skipped, scope.IsArticle a)
    (spares : ∀ left, Cuts front left → scope.index.Spares left o) :
    scope.readTokens (front ++ o :: (skipped ++ v :: rest)) =
      scope.readTokens (front ++ o :: v :: rest) := by
  have none : ∀ a ∈ ([] : List Token), scope.IsArticle a := by simp
  change _ = scope.readTokens (front ++ o :: ([] ++ v :: rest))
  cases keeps_sorting literal operates rest (spares front (.refl front)) with
  | same result sorted => simp only [readTokens, sorted skipped skips, sorted [] none]
  | kept keys left behind cuts sorted =>
      have limits := @keeps_limitBehind scope left o v literal operates behind []
        (spares left cuts)
      cases limits with
      | same result limited =>
          simp only [readTokens, sorted skipped skips, sorted [] none, bind, Except.bind, rowLimit,
            limited skipped skips, limited [] none]
      | kept n left' behind' cuts' limited =>
          have spared := spares left' (cuts.trans cuts')
          rw [readTokens_eq (sorted skipped skips) (limited skipped skips),
            readTokens_eq (sorted [] none) (limited [] none),
            mentions_articled literal operates behind' (articled skips v behind') spared]
          rfl

end Passes

end Scope

/-! ## Ranges -/

/-- A range: what opens it, and its two bounds with a word between them. -/
structure Range where
  being : Option Token
  negation : Option Token
  word : Token
  low : Token
  separator : Token
  high : Token

namespace Range

/-- What stands in front of the bounds of a range. -/
def opening (r : Range) : List Token := r.being.toList ++ r.negation.toList ++ [r.word]

theorem opening_ne_nil (r : Range) : r.opening ≠ [] :=
  List.append_ne_nil_of_right_ne_nil _ (List.cons_ne_nil _ _)

/-- The tokens of a range with these words in front of its bounds. -/
def tokens (r : Range) (first second : List Token) : List Token :=
  r.opening ++ (first ++ r.low :: r.separator :: (second ++ [r.high]))

/-- The word `zwischen`, behind `ist` and a negation if they are there, and two values with
`und` between them. -/
structure IsLiteral (r : Range) : Prop where
  being : ∀ t ∈ r.being, t.isWordIn beingWords = true
  negation : ∀ t ∈ r.negation, t.isWordIn negatingWords = true
  word : r.word.isWordIn ["zwischen"] = true
  low : Request.IsLiteral r.low
  separator : r.separator.isWordIn ["und"] = true
  high : Request.IsLiteral r.high

end Range

namespace Scope

variable {scope : Scope} {v : Token} {r : Range} {first second phrase : List Token} {field : String}
  {s : Progress}

theorem value?_literal (literal : IsLiteral v) (rest : List Token) :
    scope.value? (v :: rest) = some (v, rest) := by
  rcases literal with kind | kind <;> simp only [value?, kind]

/-- No value begins with an article. -/
theorem value?_article {a : Token} (article : a.isWordIn articles = true) (tokens : List Token) :
    scope.value? (a :: tokens) = none := by
  rw [← Option.not_isSome_iff_eq_none]
  intro begins
  rw [notIn_of_value begins (by decide)] at article
  cases article

/-- Two values with `und` between them are bounds if no article stands before either. -/
theorem bounds?_literals (literal : r.IsLiteral) (rest : List Token) :
    scope.bounds? (r.low :: r.separator :: r.high :: rest) = some (r.low, r.high, rest) := by
  simp only [bounds?, value?_literal literal.low, beginsWith, literal.separator, List.drop_one,
    List.tail_cons, value?_literal literal.high, if_true, Option.map_some]

theorem bounds?_articles (literal : r.IsLiteral) (skips : ∀ a ∈ first, a.isWordIn articles = true)
    (skips' : ∀ a ∈ second, a.isWordIn articles = true) (some : first ≠ [] ∨ second ≠ [])
    (rest : List Token) :
    scope.bounds? (first ++ r.low :: r.separator :: (second ++ r.high :: rest)) = none := by
  cases first with
  | cons a first => rw [List.cons_append, bounds?, value?_article (skips a List.mem_cons_self)]
  | nil =>
      cases second with
      | nil => simp at some
      | cons a second =>
          have article := skips' a List.mem_cons_self
          simp only [List.nil_append, List.cons_append, bounds?, value?_literal literal.low,
            beginsWith, literal.separator, List.drop_one, List.tail_cons, value?_article article,
            if_true, Option.map_none]

/-- Behind what opens a range stand two bounds, or the condition fails. -/
theorem condition?_opening (literal : r.IsLiteral) (field : String) (negate : Bool)
    (tokens : List Token) :
    scope.condition? field negate (r.opening ++ tokens) =
      match scope.bounds? tokens with
      | none => .error (.rangeIncomplete field)
      | some (low, high, left) =>
        reading (scope.between field (negate != r.negation.isSome) low high) left := by
  obtain ⟨being, negation, range, low, separator, high⟩ := r
  obtain ⟨beings, negations, opens, -⟩ := literal
  have apart {words : List String} (h : ∀ w ∈ ["zwischen"], words.contains w = false) :
      beginsWith words (range :: tokens) = false := isWordIn_of_apart opens h
  have begins : beginsWith ["zwischen"] (range :: tokens) = true := opens
  have affirmed (negate : Bool) :
      scope.condition? field negate (being.toList ++ range :: tokens) =
        match scope.bounds? tokens with
        | none => .error (.rangeIncomplete field)
        | some (low, high, left) => reading (scope.between field negate low high) left := by
    have skipped : skipWord beingWords (being.toList ++ range :: tokens) = range :: tokens := by
      cases being with
      | none => exact skipWord_of_not_begins (apart (by decide))
      | some b => exact skipWord_of_begins (beings b rfl)
    have noNegation := @apart negatingWords (by decide)
    have noEmpty := @apart emptyWords (by decide)
    have noPresent := @apart presentWords (by decide)
    cases bounded : scope.bounds? tokens <;>
      simp only [condition?, skipped, skipWord_of_not_begins noNegation, noNegation, noEmpty,
        noPresent, begins, List.drop_one, List.tail_cons, if_true, if_false, Bool.false_eq_true,
        Bool.bne_false, bounded]
  cases negation with
  | none => simpa [Range.opening] using affirmed negate
  | some word =>
      have negates : OpensNegated being.toList word (range :: tokens) := by
        refine ⟨negations word rfl, apart (by decide), ?_⟩
        cases being with
        | none => exact .inl ⟨rfl, apart (by decide)⟩
        | some b => exact .inr ⟨b, rfl, beings b rfl⟩
      have split : being.toList ++ [word] ++ [range] ++ tokens =
          being.toList ++ word :: range :: tokens := by simp
      rw [Range.opening, Option.toList_some, split, negates.condition?_eq, affirmed]
      simp

/-- A field with a range is one condition more, or the request fails. -/
theorem mentions_opening (literal : r.IsLiteral)
    (names : scope.Names phrase field r.opening.head?) (valued : s.lacks = false)
    (tokens : List Token) :
    scope.mentions s (phrase ++ (r.opening ++ tokens)) =
      match scope.bounds? tokens with
      | none => .error (.rangeIncomplete field)
      | some (low, high, left) =>
        (scope.between field (s.excludes != r.negation.isSome) low high).bind fun node =>
          scope.mentions (s.constrain node) left := by
  have first : (r.opening ++ tokens).head? = r.opening.head? :=
    List.head?_append_of_ne_nil _ r.opening_ne_nil
  rw [← first] at names
  rw [names.mentions_eq, mention, if_neg (by simp [valued]), condition?_opening literal]
  cases scope.bounds? tokens with
  | none => rfl
  | some read =>
      obtain ⟨low, high, left⟩ := read
      simp only [reading]
      cases scope.between field (s.excludes != r.negation.isSome) low high <;> rfl

/-- A range is read up to its second bound. -/
theorem mentions_range (literal : r.IsLiteral)
    (names : scope.Names phrase field r.opening.head?) (valued : s.lacks = false)
    (rest : List Token) :
    scope.mentions s (phrase ++ r.tokens [] [] ++ rest) =
      (scope.between field (s.excludes != r.negation.isSome) r.low r.high).bind fun node =>
        scope.mentions (s.constrain node) rest := by
  have split : phrase ++ r.tokens [] [] ++ rest =
      phrase ++ (r.opening ++ r.low :: r.separator :: r.high :: rest) := by simp [Range.tokens]
  rw [split, mentions_opening literal names valued, bounds?_literals literal]

/-- With an article before one of its bounds a range is not read. -/
theorem mentions_range_articles (literal : r.IsLiteral)
    (names : scope.Names phrase field r.opening.head?) (valued : s.lacks = false)
    (skips : ∀ a ∈ first, a.isWordIn articles = true)
    (skips' : ∀ a ∈ second, a.isWordIn articles = true) (some : first ≠ [] ∨ second ≠ [])
    (rest : List Token) :
    scope.mentions s (phrase ++ r.tokens first second ++ rest) =
      .error (.rangeIncomplete field) := by
  have split : phrase ++ r.tokens first second ++ rest =
      phrase ++ (r.opening ++
        (first ++ r.low :: r.separator :: (second ++ r.high :: rest))) := by simp [Range.tokens]
  rw [split, mentions_opening literal names valued, bounds?_articles literal skips skips' some]

end Scope

end Request

namespace Catalogue

open Request Request.Scope Keyword

/-! ## The catalogue -/

section

variable {scope : Scope} (shared : ∀ r ∈ scope.index.reports, r ∈ allReports)

include shared

theorem spares_of_operates {o : Token} (operates : Operates o) (free : o.key ≠ "bis")
    (left : List Token) : scope.index.Spares left o := by
  refine Index.spares_of_unregistered (unregistered_of_operators shared ?_) left
  cases operates with
  | sign _ own known => exact List.mem_append_right _ (own ▸ known)
  | word links =>
      have words : linkingWords ⊆ operatorWords ++ negatingWords := by decide
      exact List.mem_append_left _
        (List.mem_filter.mpr ⟨words (isWordIn_iff.mp links).2, decide_eq_true free⟩)

theorem isArticle {a : Token} (article : a.isWordIn articles = true) : scope.IsArticle a where
  word := article
  spared := by
    rw [Index.spares_nil_iff]
    intro keys registered begins
    obtain ⟨r, known, entry, entered, rfl⟩ := Index.mem_phrases_iff.mp registered
    exact (listable (shared r known) entry entered).2 _ begins (isWordIn_iff.mp article).2

/-- A range belongs to the column before it. -/
theorem names_of_range (known : scope.report ∈ allReports)
    (indexed : scope.report ∈ scope.index.reports) {phrase : List Token} {field : String}
    (spells : scope.report.Spells phrase (some field)) {r : Range} (literal : r.IsLiteral) :
    scope.Names phrase field r.opening.head? := by
  have lists := hasListKeywords known indexed shared
  refine names_of_holds lists.clear lists.holds spells fun t opens longer registered goesOn => ?_
  have own : t.key ∈ longer := goesOn.subset (by simp)
  refine unregistered_of_operators shared ?_ longer registered own
  have words : beingWords ++ negatingWords ++ ["zwischen"] ⊆ freeOperators := by decide
  refine words ?_
  have member : t ∈ r.opening := List.mem_of_head? opens
  simp only [Range.opening, List.mem_append, Option.mem_toList, List.mem_singleton] at member
  rcases member with (being | negation) | rfl
  · have word := (isWordIn_iff.mp (literal.being t being)).2
    exact List.mem_append_left _ (List.mem_append_left _ word)
  · have word := (isWordIn_iff.mp (literal.negation t negation)).2
    exact List.mem_append_left _ (List.mem_append_right _ word)
  · exact List.mem_append_right _ (isWordIn_iff.mp literal.word).2

/-- In a request for a report of the catalogue, articles between an operator and a quoted text
or a date say nothing, wherever the operator stands. Only `bis` belongs to keywords as well,
so it must not end one. Before the bounds of a range, which are read as they stand, an article
is an error. -/
theorem readTokens_articles (known : scope.report ∈ allReports)
    (indexed : scope.report ∈ scope.index.reports) :
    (∀ front o skipped v rest, Operates o → IsLiteral v →
      (∀ a ∈ skipped, a.isWordIn articles = true) →
      (o.key = "bis" → ∀ left, Cuts front left → scope.index.Spares left o) →
        scope.readTokens (front ++ o :: (skipped ++ v :: rest)) =
          scope.readTokens (front ++ o :: v :: rest)) ∧
    ∀ phrase field, scope.report.Spells phrase (some field) → ∀ r : Range, r.IsLiteral →
      ∀ s : Progress, s.lacks = false → ∀ rest,
        scope.mentions s (phrase ++ r.tokens [] [] ++ rest) =
          (scope.between field (s.excludes != r.negation.isSome) r.low r.high).bind
            (fun node => scope.mentions (s.constrain node) rest) ∧
        ∀ first second, (∀ a ∈ first, a.isWordIn articles = true) →
          (∀ a ∈ second, a.isWordIn articles = true) → first ≠ [] ∨ second ≠ [] →
            scope.mentions s (phrase ++ r.tokens first second ++ rest) =
              .error (.rangeIncomplete field) := by
  refine ⟨?_, ?_⟩
  · intro front o skipped v rest operates literal skips ends
    refine readTokens_skipped literal operates rest (fun a member => isArticle shared
      (skips a member)) fun left cuts => ?_
    by_cases bis : o.key = "bis"
    · exact ends bis left cuts
    · exact spares_of_operates shared operates bis left
  · intro phrase field spells r literal s valued rest
    have names := names_of_range shared known indexed spells literal
    exact ⟨mentions_range literal names valued rest, fun first second skips skips' some =>
      mentions_range_articles literal names valued skips skips' some rest⟩

end

end Catalogue

namespace Request.Scope

/-- In a request for any report, articles between an operator and a quoted text or a date say
nothing, wherever the operator stands, if no keyword begins with one of them or reaches over
the operator. The bounds of a range are read as they stand, and an article before either of
them is an error. -/
theorem readTokens_past_articles (scope : Scope) :
    (∀ front o skipped v rest, Operates o → IsLiteral v → (∀ a ∈ skipped, scope.IsArticle a) →
      (∀ left, Cuts front left → scope.index.Spares left o) →
        scope.readTokens (front ++ o :: (skipped ++ v :: rest)) =
          scope.readTokens (front ++ o :: v :: rest)) ∧
    ∀ (r : Range) phrase field, r.IsLiteral → scope.Names phrase field r.opening.head? →
      ∀ s : Progress, s.lacks = false → ∀ rest,
        scope.mentions s (phrase ++ r.tokens [] [] ++ rest) =
          (scope.between field (s.excludes != r.negation.isSome) r.low r.high).bind
            (fun node => scope.mentions (s.constrain node) rest) ∧
        ∀ first second, (∀ a ∈ first, a.isWordIn articles = true) →
          (∀ a ∈ second, a.isWordIn articles = true) → first ≠ [] ∨ second ≠ [] →
            scope.mentions s (phrase ++ r.tokens first second ++ rest) =
              .error (.rangeIncomplete field) :=
  ⟨fun _ _ _ _ rest operates literal skips spares =>
    readTokens_skipped literal operates rest skips spares,
  fun _ _ _ literal names _ valued rest =>
    ⟨mentions_range literal names valued rest, fun _ _ skips skips' some =>
      mentions_range_articles literal names valued skips skips' some rest⟩⟩

end Request.Scope

namespace Catalogue

open Request Request.Scope Keyword

/-- Contracts since a day with an article before it, and contracts that begin between two days,
where articles are an error. -/
theorem readTokens_past_articles_contracts :
    let scope : Scope := { report := Cover.report, index := .of [Cover.report] }
    let main : Token := ⟨"Verträge", "vertraege", .word⟩
    let begins : Token := ⟨"Beginn", "beginn", .word⟩
    let dem : Token := ⟨"dem", "dem", .word⟩
    let day : Token := ⟨"01.01.2024", "01.01.2024", .date⟩
    let r : Range := ⟨none, none, ⟨"zwischen", "zwischen", .word⟩, day, ⟨"und", "und", .word⟩,
      ⟨"31.12.2024", "31.12.2024", .date⟩⟩
    scope.readTokens [main, begins, ⟨"seit", "seit", .word⟩, dem, day] =
        scope.readTokens [main, begins, ⟨"seit", "seit", .word⟩, day] ∧
      scope.mentions {} (begins :: r.tokens [] []) =
        (scope.between "beginn" false r.low r.high).bind
          (fun node => scope.mentions (({} : Progress).constrain node) []) ∧
      (scope.between "beginn" false r.low r.high).toOption.isSome = true ∧
      scope.mentions {} (begins :: r.tokens [dem] [dem]) = .error (.rangeIncomplete "beginn") := by
  intro scope main begins dem day r
  have known : scope.report ∈ allReports := List.mem_cons_self
  have shared : ∀ r ∈ scope.index.reports, r ∈ allReports := of_mem_single known
  have spells : scope.report.Spells [begins] (some "beginn") :=
    Report.spells_of_mem_keywords
      (by decide +kernel : ("beginn", some "beginn") ∈ Cover.report.keywords)
      (by decide +kernel) (by decide) (by decide)
  have article : ∀ a ∈ [dem], a.isWordIn articles = true := by decide
  have literal : r.IsLiteral :=
    ⟨by simp [r], by simp [r], by decide, .inr rfl, by decide, .inr rfl⟩
  have since : Operates ⟨"seit", "seit", .word⟩ := .word (by decide)
  obtain ⟨skipped, ranges⟩ := readTokens_past_articles scope
  obtain ⟨read, failed⟩ := ranges r [begins] "beginn" literal
    (names_of_range shared known List.mem_cons_self spells literal) {} rfl []
  refine ⟨?_, read, by decide +kernel, ?_⟩
  · exact skipped [main, begins] ⟨"seit", "seit", .word⟩ [dem] day [] since (.inr rfl)
      (fun a member => isArticle shared (article a member))
      fun left _ => spares_of_operates shared since (by decide) left
  · exact failed [dem] [dem] article article (.inl (by simp))

/-- An article before a bound of a range is no article before a value: the request for towns
is not read, although it is without the article and the one with another operator is. -/
theorem read_range_articles :
    (towns.read "Orte mit Einwohner zwischen \"1\" und \"9\"").map (·.main.predicates) =
        .ok [⟨"einwohner", .between (.number (.whole 1)) (.number (.whole 9)), by decide⟩] ∧
      (towns.read "Orte mit Einwohner zwischen den \"1\" und \"9\"").map (·.main.predicates) =
        .error (.rangeIncomplete "einwohner") ∧
      (towns.read "Orte mit Einwohner ab den \"1\"").map (·.main.predicates) =
        .ok [⟨"einwohner", .compare .greaterOrEqual (.number (.whole 1)), by decide⟩] := by
  decide +kernel

end Catalogue

end Inquiry
