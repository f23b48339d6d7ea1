import Inquiry.Proofs.Precedence
import Inquiry.Proofs.Statement

/-!
# What conditions mean

The conditions of a statement are read back. The reader sees their text with
the expressions of columns marked, and it finds the predicates in their order,
joined so that the whole has the value of the groups it was written for.

Text, items and values of a group are made in the same way from those of its
members, so each fact is proved for predicates and for joined members only.
-/

namespace Inquiry

open Reading

/-- A text and the same text with marked expressions. -/
def SameText (text : String) (marked : List Symbol) : Prop := plain marked = text.toList

namespace Test

/-- Whether the column of a test is compared without its case and the blanks
around it. -/
def folds (test : Test) (c : Column) : Bool := test.foldsText && !c.numeric

/-- The column of a test with its expression marked. -/
def markedOperand (test : Test) (c : Column) : List Symbol :=
  if test.folds c then
    symbols "UPPER(RTRIM(LTRIM(" ++ .expression c.expression :: symbols ")))"
  else [.expression c.expression]

/-- What a test says about its column. -/
def claim : Test → String
  | .compare comparison _ => " " ++ comparison.sign ++ " ?"
  | .oneOf _ others => " IN (?" ++ (String.join (others.map fun _ => ", ?") ++ ")")
  | .between .. => " BETWEEN ? AND ?"
  | .isNull => " IS NULL"
  | .isNotNull => " IS NOT NULL"

/-- The text of a test with the expression of its column marked. -/
def marked (test : Test) (c : Column) : List Symbol := test.markedOperand c ++ symbols test.claim

/-- A test as it can be read. -/
def atom (test : Test) (c : Column) : Atom :=
  ⟨c.expression, test.folds c, test.operator, test.values.length⟩

theorem sameText_marked (test : Test) (c : Column) : SameText (test.text c) (test.marked c) := by
  have operand : plain (test.markedOperand c) = (test.operand c).toList := by
    rw [markedOperand, folds, Test.operand]
    cases test.foldsText <;> cases c.numeric <;> simp [plain, symbols]
  rw [SameText, marked, text_eq, plain_append, operand, plain_symbols]
  cases test <;> simp [claim]

/-- A list of further places ends at its closing parenthesis. -/
theorem morePlaces?_others (others : List Scalar) (rest : List Lexeme) :
    morePlaces? (lexemes (symbols (String.join (others.map fun _ => ", ?") ++ ")")) ++ rest) =
      some (others.length, rest) := by
  induction others with
  | nil => rfl
  | cons v others ih =>
      have place : lexemes (symbols ", ?") = [.run [','], .run ['?']] := rfl
      rw [List.map_cons, String.join_cons, String.append_assoc, symbols_append,
        lexemes_append (.inl (by decide)), place]
      simp only [List.cons_append, List.nil_append, morePlaces?, ih, Option.map_some,
        List.length_cons]

/-- What a test says about its column is read as its operator. -/
theorem test?_claim (test : Test) (rest : List Lexeme) :
    test? (lexemes (symbols test.claim) ++ rest) =
      some ((test.operator, test.values.length), rest) := by
  cases test with
  | compare comparison v =>
      cases comparison
      all_goals
        simp only [claim, Comparison.sign, symbols_append]
        rfl
  | oneOf first others =>
      have start : lexemes (symbols " IN (?") = [.run ['I', 'N'], .run ['('], .run ['?']] := rfl
      have list (lexemes : List Lexeme) :
          test? (([.run ['I', 'N'], .run ['('], .run ['?']] : List Lexeme) ++ lexemes) =
            (morePlaces? lexemes).map fun more => ((.oneOf, more.1 + 1), more.2) := rfl
      rw [claim, symbols_append, lexemes_append (.inl (by decide)), start, List.append_assoc, list,
        morePlaces?_others]
      rfl
  | between low high =>
      rw [claim]
      rfl
  | isNull =>
      rw [claim]
      rfl
  | isNotNull =>
      rw [claim]
      rfl

theorem operand?_markedOperand (test : Test) (c : Column) (rest : List Lexeme) :
    operand? (lexemes (test.markedOperand c) ++ rest) =
      some ((c.expression, test.folds c), rest) := by
  rw [markedOperand]
  cases test.folds c with
  | true => rfl
  | false => rfl

theorem endsApart_markedOperand (test : Test) (c : Column) : EndsApart (test.markedOperand c) := by
  rw [markedOperand]
  split
  · intro s member
    rw [List.getLast?_append] at member
    have last : s = .char ')' := by simpa [symbols] using member.symm
    rw [last]
    decide
  · intro s member
    cases member
    rfl

/-- A test is read as one item, whatever its values are. -/
theorem reads_marked (test : Test) (c : Column) : Reads (test.marked c) [.atom (test.atom c)] := by
  refine Reads.of_item? fun rest => ?_
  rw [marked, lexemes_append (.inl (test.endsApart_markedOperand c)), List.append_assoc]
  exact item?_of_operand? (test.operand?_markedOperand c _) (test.test?_claim rest)

end Test

namespace Predicate

/-- The text of a predicate with the expression of its column marked. -/
def marked (r : Report) (p : Predicate) : List Symbol :=
  match r.column? p.field with
  | some column => p.test.marked column
  | none => []

/-- A predicate as it can be read. -/
def atom (r : Report) (p : Predicate) : Atom :=
  match r.column? p.field with
  | some column => p.test.atom column
  | none => ⟨"", false, p.test.operator, p.test.values.length⟩

theorem sameText_marked (r : Report) (p : Predicate) : SameText (p.sqlText r) (p.marked r) := by
  rw [SameText, marked, sqlText]
  cases r.column? p.field with
  | none => rfl
  | some column => exact p.test.sameText_marked column

theorem reads_marked {r : Report} {p : Predicate} (known : r.hasField p.field = true) :
    Reads (p.marked r) [.atom (p.atom r)] := by
  obtain ⟨column, found⟩ := (r.hasField_iff p.field).mp known
  rw [marked, atom, found]
  exact p.test.reads_marked column

end Predicate

namespace Connective

/-- A connective as an item. -/
def item {α : Type} : Connective → Item α
  | .and => .and
  | .or => .or

/-- A connective as it is written between members. -/
def separator (connective : Connective) : List Symbol :=
  symbols (" " ++ connective.word ++ " ")

theorem reads_separator (connective : Connective) :
    Reads connective.separator [connective.item] := by
  cases connective with
  | and => exact Reads.and
  | or => exact Reads.or

theorem separator_apart (connective : Connective) :
    StartsApart connective.separator ∧ EndsApart connective.separator := by
  cases connective <;> decide

end Connective

namespace Group

/-- Texts of members as the text of their group. -/
def joinTexts (connective : Connective) (negated : Bool) (members : List String) : String :=
  let body := "(" ++ (" " ++ connective.word ++ " ").intercalate members ++ ")"
  if negated then "NOT " ++ body else body

/-- Texts of members as the text of their group, with marked expressions. -/
def joinMarked (connective : Connective) (negated : Bool) (members : List (List Symbol)) :
    List Symbol :=
  let body := symbols "(" ++ connective.separator.intercalate members ++ symbols ")"
  if negated then symbols "NOT " ++ body else body

/-- Items of members as the items of their group. -/
def joinItems {α : Type} (connective : Connective) (negated : Bool)
    (members : List (List (Item α))) : List (Item α) :=
  let body := .opening :: [connective.item].intercalate members ++ [.closing]
  if negated then .not :: body else body

theorem textBy_eq_fold (text : Predicate → String) (g : Group) :
    g.textBy text = g.fold text joinTexts := by
  induction g using Group.induction with
  | mk predicates groups connective negated ih =>
      have nested : textsBy text groups = folds text joinTexts groups := by
        rw [textsBy_eq, folds_eq]
        exact List.flatMap_congr fun g member => congrArg Option.toList (ih g member)
      rw [textBy_mk, fold_mk, nested]
      rfl

theorem textsBy_eq_folds (text : Predicate → String) (groups : List Group) :
    textsBy text groups = folds text joinTexts groups := by
  rw [textsBy_eq, folds_eq]
  exact List.flatMap_congr fun g _ => congrArg Option.toList (textBy_eq_fold text g)

/-- The text of all conditions with the expressions of columns marked. -/
def markedConditions (r : Report) (groups : List Group) : List Symbol :=
  let texts := folds (·.marked r) joinMarked groups
  if texts.isEmpty then symbols "1=1" else (symbols " AND ").intercalate texts

/-- The items of all conditions, with something for each predicate. -/
def conditionItems {α : Type} (f : Predicate → α) (groups : List Group) : List (Item α) :=
  let members := folds (fun p => [.atom (f p)]) joinItems groups
  if members.isEmpty then [.constant true] else [.and].intercalate members

/-! ### The text -/

theorem sameText_intercalate {texts : List String} {marked : List (List Symbol)}
    (h : List.Forall₂ SameText texts marked) (separator : String) :
    SameText (separator.intercalate texts) ((symbols separator).intercalate marked) := by
  induction h with
  | nil => rfl
  | cons head tail ih =>
      cases tail with
      | nil => simpa using head
      | cons =>
          rw [SameText] at head ih ⊢
          rw [List.intercalate_cons_cons, String.intercalate_cons_cons]
          simp only [plain_append, String.toList_append, plain_symbols, head, ih]

theorem sameText_join (connective : Connective) (negated : Bool) {texts : List String}
    {marked : List (List Symbol)} (h : List.Forall₂ SameText texts marked) :
    SameText (joinTexts connective negated texts) (joinMarked connective negated marked) := by
  have content := sameText_intercalate h (" " ++ connective.word ++ " ")
  rw [joinTexts, joinMarked, Connective.separator]
  generalize " " ++ connective.word ++ " " = separator at *
  rw [SameText] at content ⊢
  have body : plain (symbols "(" ++ (symbols separator).intercalate marked ++ symbols ")") =
      ("(" ++ separator.intercalate texts ++ ")").toList := by
    rw [plain_append, plain_append, content]
    simp
  cases negated with
  | false => exact body
  | true =>
      rw [if_pos rfl, if_pos rfl, plain_append, body, plain_symbols]
      exact String.toList_append.symm

/-- The marked text is the text of the conditions. -/
theorem sameText_markedConditions (r : Report) (groups : List Group) :
    SameText (conditionsBy (·.sqlText r) groups) (markedConditions r groups) := by
  have texts : List.Forall₂ SameText (folds (·.sqlText r) joinTexts groups)
      (folds (·.marked r) joinMarked groups) :=
    folds_related_of_leaves (fun connective negated _ _ _ h =>
      sameText_join connective negated h) groups fun p _ => p.sameText_marked r
  have content := sameText_intercalate texts " AND "
  rw [conditionsBy, markedConditions, textsBy_eq_folds]
  generalize folds (·.sqlText r) joinTexts groups = plainTexts at *
  generalize folds (·.marked r) joinMarked groups = markedTexts at *
  cases texts with
  | nil => rfl
  | cons head tail => exact content

/-! ### The items -/

theorem reads_joinMarked (connective : Connective) (negated : Bool) {texts : List (List Symbol)}
    {items : List (List (Item Atom))} (h : List.Forall₂ Reads texts items) (nonempty : texts ≠ []) :
    Reads (joinMarked connective negated texts) (joinItems connective negated items) := by
  obtain ⟨starts, ends⟩ := connective.separator_apart
  have content := Reads.intercalate connective.reads_separator starts ends h nonempty
  have body := (Reads.opening.append content (.inl (by decide))).append Reads.closing
    (.inr (by decide))
  rw [joinMarked, joinItems]
  cases negated with
  | false => exact body
  | true => exact Reads.not.append body (.inl (by decide))

/-- The marked text is read as one item for each predicate. -/
theorem reads_markedConditions {r : Report} {groups : List Group}
    (known : ∀ p ∈ allPredicatesOf groups, r.hasField p.field = true) :
    Reads (markedConditions r groups) (conditionItems (·.atom r) groups) := by
  have members := folds_related_of_leaves (fun connective negated _ _ nonempty h =>
    reads_joinMarked connective negated h nonempty) groups
    fun p member => Predicate.reads_marked (known p member)
  simp only [markedConditions, conditionItems]
  cases hleft : folds (·.marked r) joinMarked groups with
  | nil =>
      rw [hleft] at members
      rw [List.forall₂_nil_left_iff.mp members]
      exact Reads.constant
  | cons text texts =>
      rw [hleft] at members
      obtain ⟨items, more, -, -, hright⟩ := List.forall₂_cons_left_iff.mp members
      rw [hright] at members ⊢
      exact Reads.and.intercalate (by decide) (by decide) members (List.cons_ne_nil _ _)

/-! ### The value -/

theorem isOperand_joinItems (connective : Connective) (negated : Bool)
    {members : List (List (Item Bool))} {values : List Bool}
    (h : List.Forall₂ IsOperand members values) (nonempty : members ≠ []) :
    IsOperand (joinItems connective negated members) (negated != connective.combine values) := by
  have content : IsCondition ([connective.item].intercalate members)
      (connective.combine values) := by
    cases connective with
    | and => exact (IsConjunct.of_members h nonempty).isCondition
    | or => exact IsCondition.of_members h nonempty
  rw [joinItems]
  cases negated with
  | false => simpa using IsOperand.enclosed content
  | true => simpa using (IsOperand.enclosed content).not

/-- The items of the conditions have the value of the groups, also as operand of
a further AND. -/
theorem isConjunct_conditionItems (truth : Predicate → Bool) (groups : List Group) :
    IsConjunct (conditionItems truth groups) (allHold truth groups) := by
  have members := folds_related_of_leaves (fun connective negated _ _ nonempty h =>
    isOperand_joinItems connective negated h nonempty) groups
    fun p _ => IsOperand.atom (truth p)
  rw [folds_value truth fun g _ => fold_value truth g] at members
  simp only [conditionItems, allHold]
  cases hleft : folds (fun p => [.atom (truth p)]) joinItems groups with
  | nil =>
      rw [hleft] at members
      rw [List.forall₂_nil_left_iff.mp members]
      exact IsConjunct.constant true
  | cons first others =>
      rw [hleft] at members
      exact IsConjunct.of_members members (List.cons_ne_nil _ _)

theorem map_intercalate {α β : Type} (f : α → β) (separator : List α) (members : List (List α)) :
    (separator.intercalate members).map f =
      (separator.map f).intercalate (members.map (·.map f)) := by
  cases members with
  | nil => rfl
  | cons first others =>
      rw [List.map_cons, intercalate_eq_append, intercalate_eq_append, List.map_append,
        List.map_flatMap, List.flatMap_map]
      simp only [List.map_append]

theorem map_joinItems {α β : Type} (f : α → β) (connective : Connective) (negated : Bool)
    (members : List (List (Item α))) :
    (joinItems connective negated members).map (Item.map f) =
      joinItems connective negated (members.map (·.map (Item.map f))) := by
  have separator : ([connective.item].map (Item.map f) : List (Item β)) = [connective.item] := by
    cases connective <;> rfl
  have content := map_intercalate (Item.map f) [connective.item] members
  rw [separator] at content
  unfold joinItems
  cases negated <;> simp [content, Item.map]

/-- The items do not depend on what stands for the predicates. -/
theorem map_conditionItems {α β : Type} (h : α → β) (f : Predicate → α) (groups : List Group) :
    (conditionItems f groups).map (Item.map h) = conditionItems (fun p => h (f p)) groups := by
  have members := map_folds (·.map (Item.map h)) (fun p => [.atom (f p)]) (map_joinItems h) groups
  have same : folds (fun p => [Item.atom (f p)].map (Item.map h)) joinItems groups =
      folds (fun p => [.atom (h (f p))]) joinItems groups := rfl
  simp only [conditionItems]
  rw [← same, ← members, List.isEmpty_map]
  split
  · rfl
  · exact map_intercalate (Item.map h) [.and] _

theorem atoms_intercalate {α : Type} {separator : Item α} (h : separator.atom? = none)
    (members : List (List (Item α))) :
    ([separator].intercalate members).filterMap Item.atom? =
      (members.map (·.filterMap Item.atom?)).flatten := by
  cases members with
  | nil => rfl
  | cons first others =>
      rw [intercalate_eq_append, List.filterMap_append, List.filterMap_flatMap, List.map_cons,
        List.flatten_cons, ← List.flatMap_def]
      simp [h]

theorem atoms_joinItems {α : Type} (connective : Connective) (negated : Bool)
    (members : List (List (Item α))) :
    (joinItems connective negated members).filterMap Item.atom? =
      (members.map (·.filterMap Item.atom?)).flatten := by
  have separator : (connective.item : Item α).atom? = none := by cases connective <;> rfl
  have content := atoms_intercalate separator members
  have body : (Item.opening :: [connective.item].intercalate members ++ [Item.closing]).filterMap
      Item.atom? = (members.map (·.filterMap Item.atom?)).flatten := by
    rw [List.cons_append, List.filterMap_cons_none rfl, List.filterMap_append, content]
    exact List.append_nil _
  rw [joinItems]
  cases negated with
  | false => exact body
  | true => exact body

/-- The predicates are the atoms of the conditions, in the order in which their
values are bound. -/
theorem atoms_conditionItems (groups : List Group) :
    (conditionItems id groups).filterMap Item.atom? = allPredicatesOf groups := by
  have members := map_folds (·.filterMap Item.atom?) (fun p => [Item.atom p]) atoms_joinItems groups
  have same : folds (fun p => [Item.atom p].filterMap Item.atom?)
      (fun _ _ members => members.flatten) groups =
        folds (fun p => [p]) (fun _ _ members => members.flatten) groups := rfl
  rw [← folds_flatten, ← same, ← members]
  simp only [conditionItems, id]
  split
  · next empty =>
      rw [List.isEmpty_iff.mp empty]
      rfl
  · exact atoms_intercalate rfl _

/-- Only expressions of columns of the report are marked. -/
def MarksColumns (r : Report) (text : List Symbol) : Prop :=
  ∀ s, .expression s ∈ text → ∃ entry ∈ r.columns, entry.2.expression = s

theorem MarksColumns.symbols {r : Report} (s : String) : MarksColumns r (symbols s) := by
  intro e member
  obtain ⟨c, -, h⟩ := List.mem_map.mp member
  cases h

theorem MarksColumns.append {r : Report} {a b : List Symbol} (ha : MarksColumns r a)
    (hb : MarksColumns r b) : MarksColumns r (a ++ b) := by
  intro s member
  rcases List.mem_append.mp member with member | member
  · exact ha s member
  · exact hb s member

theorem MarksColumns.intercalate {r : Report} {separator : List Symbol}
    (h : MarksColumns r separator) {texts : List (List Symbol)}
    (members : ∀ text ∈ texts, MarksColumns r text) :
    MarksColumns r (separator.intercalate texts) := by
  cases texts with
  | nil =>
      intro s member
      cases member
  | cons first others =>
      rw [intercalate_eq_append]
      apply (members first List.mem_cons_self).append
      intro s member
      obtain ⟨text, htext, member⟩ := List.mem_flatMap.mp member
      exact h.append (members text (List.mem_cons_of_mem first htext)) s member

theorem marksColumns_predicate (r : Report) (p : Predicate) : MarksColumns r (p.marked r) := by
  rw [Predicate.marked]
  cases found : r.column? p.field with
  | none =>
      intro s member
      cases member
  | some column =>
      have expression : MarksColumns r [.expression column.expression] := by
        intro s member
        cases List.mem_singleton.mp member
        exact ⟨_, Report.mem_columns_of_column? found, rfl⟩
      have operand : MarksColumns r (p.test.markedOperand column) := by
        rw [Test.markedOperand]
        split
        · exact (MarksColumns.symbols _).append (expression.append (MarksColumns.symbols ")))"))
        · exact expression
      exact operand.append (MarksColumns.symbols p.test.claim)

theorem marksColumns_markedConditions (r : Report) (groups : List Group) :
    MarksColumns r (markedConditions r groups) := by
  have texts : ∀ text ∈ folds (·.marked r) joinMarked groups, MarksColumns r text := by
    refine forall_folds ?_ groups fun p _ => marksColumns_predicate r p
    intro connective negated members h
    have body := ((MarksColumns.symbols "(").append
      (MarksColumns.intercalate (MarksColumns.symbols (" " ++ connective.word ++ " ")) h)).append
      (MarksColumns.symbols ")")
    rw [joinMarked]
    cases negated with
    | false => exact body
    | true => exact (MarksColumns.symbols "NOT ").append body
  simp only [markedConditions]
  split
  · exact MarksColumns.symbols "1=1"
  · exact (MarksColumns.symbols " AND ").intercalate texts

/-- The conditions of a statement mean what its groups mean. Their text, with the
expressions of columns marked, is read as one item for each predicate, in the
order in which values are bound; under every truth of the predicates the items
have the value of the groups. Behind an AND they keep that value, whatever
stands around. There is a text unless a value cannot be written. -/
theorem conditions_mean {r : Report} {groups : List Group}
    (known : ∀ field ∈ fieldsOf groups, r.hasField field = true) :
    ((∀ p ∈ allPredicatesOf groups, p.IsWritable r) → ((renderConditions r groups).render []).1 =
        .ok (String.ofList (plain (markedConditions r groups)))) ∧
      ((¬ ∀ p ∈ allPredicatesOf groups, p.IsWritable r) →
        ((renderConditions r groups).render []).1 = .error .integerNotWritten) ∧
      MarksColumns r (markedConditions r groups) ∧
      ∃ items : List (Item Predicate),
        items? (lexemes (markedConditions r groups)) = some (items.map (Item.map (·.atom r))) ∧
        items.filterMap Item.atom? = allPredicatesOf groups ∧
        (∀ truth, Reading.value (items.map (Item.map truth)) = some (allHold truth groups)) ∧
        (∀ behind, StartsApart behind →
          items? (lexemes (symbols " AND " ++ markedConditions r groups ++ behind)) =
            (items? (lexemes behind)).map
              (.and :: items.map (Item.map (·.atom r)) ++ ·)) ∧
        ∀ truth before after,
          Reading.value (before ++ .and :: items.map (Item.map truth) ++ after) =
            Reading.value (before ++ .and :: .atom (allHold truth groups) :: after) := by
  have columns : ∀ p ∈ allPredicatesOf groups, r.hasField p.field = true := by
    intro p member
    apply known p.field
    rw [fieldsOf_eq_map]
    exact List.mem_map_of_mem member
  have reads := reads_markedConditions columns
  refine ⟨fun writable => ?_, fun some => ?_, marksColumns_markedConditions r groups,
    conditionItems id groups, ?_, atoms_conditionItems groups, ?_, ?_, ?_⟩
  · rw [(renderConditions_runs columns).binds writable [], sameText_markedConditions r groups,
      String.ofList_toList]
  · obtain ⟨front, -, stopped⟩ := (renderConditions_runs columns).stops some []
    rw [stopped]
  · rw [map_conditionItems]
    exact reads.items?_eq
  · intro truth
    rw [map_conditionItems]
    exact (isConjunct_conditionItems truth groups).isCondition.value_eq
  · intro behind apart
    rw [map_conditionItems]
    exact Reads.and.append reads (.inl (by decide)) behind (.inr apart)
  · intro truth before after
    rw [map_conditionItems]
    exact (isConjunct_conditionItems truth groups).value_append before after

/-- Towns with many inhabitants that are not named: one of two predicates holds,
and the other one is negated below. -/
theorem conditions_mean_towns :
    (∀ field ∈ fieldsOf Query.towns.filters, Report.towns.hasField field = true) ∧
      ∃ items : List (Item Predicate),
        items? (lexemes (markedConditions .towns Query.towns.filters)) =
          some (items.map (Item.map (·.atom .towns))) ∧
        items.filterMap Item.atom? = allPredicatesOf Query.towns.filters ∧
        Reading.value (items.map (Item.map fun p => p.field = "einwohner")) = some false := by
  have known : ∀ field ∈ fieldsOf Query.towns.filters, Report.towns.hasField field = true := by
    decide
  obtain ⟨-, -, -, items, read, atoms, means, -⟩ := conditions_mean known
  refine ⟨known, items, read, atoms, ?_⟩
  rw [means]
  rfl

end Group

end Inquiry
