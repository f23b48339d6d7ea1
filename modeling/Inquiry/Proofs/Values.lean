import Inquiry.Proofs.Outcome
import Inquiry.Proofs.TokenDigits
import Inquiry.Proofs.WellFormed

/-!
# Values of a request

Every reader leaves tokens of the request, so what is known of all its tokens
stays known. As every token says something, so does every value that is read,
and a value is bound to a column in the form that the column holds, or refused. An
integer with too many digits has no more of them than the request.
-/

namespace Inquiry.Request

/-- Tokens that all say something, and no integer of more than `most` digits. -/
def Telling (most : Nat) (tokens : List Token) : Prop := ∀ t ∈ tokens, t.Tells most

variable {most : Nat}

namespace Telling

variable {tokens rest : List Token}

theorem of_sublist (h : Telling most tokens) (sub : rest.Sublist tokens) : Telling most rest :=
  fun t member => h t (sub.subset member)

theorem drop (h : Telling most tokens) (n : Nat) : Telling most (tokens.drop n) :=
  h.of_sublist (List.drop_sublist n tokens)

theorem dropWhile (h : Telling most tokens) (p : Token → Bool) :
    Telling most (tokens.dropWhile p) :=
  h.of_sublist (List.dropWhile_sublist p)

theorem head {t : Token} (h : Telling most (t :: rest)) : t.Tells most := h t List.mem_cons_self

theorem tail {t : Token} (h : Telling most (t :: rest)) : Telling most rest :=
  fun u member => h u (List.mem_cons_of_mem t member)

theorem nil : Telling most [] := fun _ member => (List.not_mem_nil member).elim

theorem cons {t : Token} (h : Telling most rest) (ht : t.Tells most) :
    Telling most (t :: rest) := by
  intro u member
  rcases List.mem_cons.mp member with rfl | member
  · exact ht
  · exact h u member

theorem append (h : Telling most tokens) (h' : Telling most rest) :
    Telling most (tokens ++ rest) := by
  intro t member
  rcases List.mem_append.mp member with member | member
  · exact h t member
  · exact h' t member

theorem ofText (text : String) : Telling (Literal.digitCount text) (Token.ofText text) :=
  Token.tells_ofText text

end Telling

theorem afterPhrase?_sublist {phrase : List String} {tokens rest : List Token}
    (h : afterPhrase? phrase tokens = some rest) : rest.Sublist tokens := by
  fun_induction afterPhrase? phrase tokens with
  | case1 tokens =>
      cases h
      exact List.Sublist.refl _
  | case2 => cases h
  | case3 word phrase t tokens _ ih => exact (ih h).cons t
  | case4 => cases h

theorem afterAnyPhrase?_sublist {phrases : List (List String)} {tokens rest : List Token}
    (h : afterAnyPhrase? phrases tokens = some rest) : rest.Sublist tokens := by
  obtain ⟨phrase, -, found⟩ := List.exists_of_findSome?_eq_some h
  exact afterPhrase?_sublist found

theorem skipWord_of_begins {words : List String} {t : Token} {rest : List Token}
    (h : t.isWordIn words = true) : Scope.skipWord words (t :: rest) = rest := if_pos h

theorem skipWord_of_not_begins {words : List String} {tokens : List Token}
    (h : beginsWith words tokens = false) : Scope.skipWord words tokens = tokens :=
  if_neg (Bool.eq_false_iff.mp h)

theorem skipWord_sublist (words : List String) (tokens : List Token) :
    (Scope.skipWord words tokens).Sublist tokens := by
  rw [Scope.skipWord]
  split
  · exact List.drop_sublist 1 tokens
  · exact List.Sublist.refl tokens

theorem operatorAt_sublist (tokens : List Token) : (operatorAt tokens).rest.Sublist tokens := by
  unfold operatorAt
  split
  · exact List.Sublist.refl []
  · next t rest =>
      split
      · exact List.sublist_cons_self t rest
      · split
        · exact List.sublist_cons_self t rest
        · split
          · next found =>
              obtain ⟨_, _, hafter⟩ := List.exists_of_findSome?_eq_some found
              obtain ⟨_, hphrase, heq⟩ := Option.map_eq_some_iff.mp hafter
              cases heq
              exact afterPhrase?_sublist hphrase
          · exact List.Sublist.refl _

theorem opening_sublist (explicit : Bool) (tokens : List Token) :
    (opening explicit tokens).rest.Sublist tokens := by
  simp only [opening]
  cases (operatorAt tokens).relation.or _ with
  | none => exact operatorAt_sublist tokens
  | some relation => exact (List.dropWhile_sublist _).trans (operatorAt_sublist tokens)

namespace Scope

variable {scope : Scope} {tokens rest : List Token}

theorem plainWords_eq (scope : Scope) (tokens : List Token) :
    (scope.plainWords tokens).1 ++ (scope.plainWords tokens).2 = tokens := by
  induction tokens with
  | nil => rfl
  | cons t rest ih =>
      rw [plainWords]
      split
      · simp only [List.cons_append, ih]
      · rfl

theorem telling_of_plainValue? {value : Token} (h : scope.plainValue? tokens = some (value, rest))
    (telling : Telling most tokens) : value.Tells most ∧ Telling most rest := by
  have parts := scope.plainWords_eq tokens
  rw [plainValue?] at h
  split at h
  · cases h
  · next first others rest' words =>
      rw [words] at parts
      cases h
      subst parts
      have words : Telling most (first :: others) :=
        telling.of_sublist (List.sublist_append_left _ _)
      refine ⟨?_, telling.of_sublist (List.sublist_append_right _ _)⟩
      cases others with
      | nil => exact words.head
      | cons second others =>
          exact tells_joinWords most words.head.hasText words.tail.head.hasText others

/-- A value says something, and what follows it still does. -/
theorem telling_of_value? {value : Token} (h : scope.value? tokens = some (value, rest))
    (telling : Telling most tokens) : value.Tells most ∧ Telling most rest := by
  unfold value? at h
  split at h
  · cases h
  · next t tail =>
      split at h
      · cases h
        exact ⟨telling.head, telling.tail.dropWhile _⟩
      · cases h
        exact ⟨telling.head, telling.tail⟩
      · cases h
        exact ⟨telling.head, telling.tail⟩
      all_goals exact telling_of_plainValue? h telling

theorem telling_furtherValues (scope : Scope) (andToo : Bool) (telling : Telling most tokens) :
    Telling most (scope.furtherValues andToo tokens).1 ∧
      Telling most (scope.furtherValues andToo tokens).2 := by
  fun_induction furtherValues scope andToo tokens with
  | case1 => exact ⟨telling, telling⟩
  | case2 separator rest _ value after h more rest' heq ih =>
      obtain ⟨hvalue, hafter⟩ := telling_of_value? h telling.tail
      obtain ⟨hmore, hrest⟩ := ih hafter
      rw [heq] at hmore hrest
      exact ⟨hmore.cons hvalue, hrest⟩
  | case3 => exact ⟨Telling.nil, telling⟩
  | case4 => exact ⟨Telling.nil, telling⟩

theorem telling_values (scope : Scope) (andToo : Bool) (telling : Telling most tokens) :
    Telling most (scope.values andToo tokens).1 ∧ Telling most (scope.values andToo tokens).2 := by
  rw [values]
  split
  · exact ⟨Telling.nil, telling⟩
  · next first rest found =>
      obtain ⟨hfirst, hrest⟩ := telling_of_value? found telling
      obtain ⟨hmore, hbehind⟩ := scope.telling_furtherValues andToo hrest
      exact ⟨hmore.cons hfirst, hbehind⟩

theorem telling_of_bounds? {low high : Token} (h : scope.bounds? tokens = some (low, high, rest))
    (telling : Telling most tokens) : low.Tells most ∧ high.Tells most ∧ Telling most rest := by
  rw [bounds?] at h
  split at h
  · cases h
  · next low' after found =>
      obtain ⟨hlow, hafter⟩ := telling_of_value? found telling
      split at h
      · obtain ⟨⟨high', rest'⟩, found', heq⟩ := Option.map_eq_some_iff.mp h
        cases heq
        obtain ⟨hhigh, hrest⟩ := telling_of_value? found' (hafter.drop 1)
        exact ⟨hlow, hhigh, hrest⟩
      · cases h

end Scope

/-! ## Binding -/

theorem ofList_ne_empty {cs : List Char} (h : cs ≠ []) : String.ofList cs ≠ "" := by
  intro empty
  apply h
  rw [← String.toList_ofList (l := cs), empty]
  rfl

theorem pattern_ne_empty (text : String) : Literal.pattern text ≠ "" := by
  apply ofList_ne_empty
  split
  · next wildcard =>
      intro empty
      rw [List.map_eq_nil_iff.mp empty] at wildcard
      cases wildcard
  · exact List.cons_ne_nil _ _

theorem length_padded (width n : Nat) : width ≤ (Date.padded width n).length := by
  rw [Date.padded, List.length_append, List.length_replicate]
  omega

theorem compact_ne_empty (date : Date) : date.compact ≠ "" := by
  apply ofList_ne_empty
  intro empty
  have digits := length_padded 4 date.year
  rw [List.append_eq_nil_iff, List.append_eq_nil_iff] at empty
  rw [empty.1.1] at digits
  exact absurd digits (by decide)

/-- A number that is read can be written, and one with too many digits has no more of them
than the request. -/
theorem yields_number {t : Token} (telling : t.Tells most) :
    Yields most (fun n? => ∀ n ∈ n?, n.isWritable = true) (Literal.number t.raw) := by
  cases found : Literal.number t.raw with
  | ok n? =>
      rintro n rfl
      exact Literal.isWritable_of_number found
  | error failure =>
      obtain ⟨n, whole, many, rfl⟩ := Literal.number_eq_error_iff.mp found
      exact .digits many (telling.digits n whole)

/-- A value is bound as the column holds it, or refused as malformed. -/
theorem yields_bound {value : Token} (telling : value.Tells most) (column : Column)
    (field : String) (searches : Bool) :
    Yields most (·.Belongs column) (bound column field searches value) := by
  have text {s : String} (nonempty : s ≠ "") :
      (if searches then Literal.pattern s else s) ≠ "" := by
    split
    · exact pattern_ne_empty s
    · exact nonempty
  have raw : Text.trim value.raw ≠ "" := ofList_ne_empty (trimmed_ne_nil telling.hasText)
  simp only [bound]
  cases numeric : column.numeric with
  | true =>
      simp only [if_true]
      split
      · exact .malformed rfl
      · rw [Literal.number_trim]
        refine (yields_number telling).bind fun n? _ => ?_
        cases n? with
        | some n => simp [Scalar.Belongs, numeric]
        | none => exact .malformed rfl
  | false =>
      have belongs {s : String} (nonempty : s ≠ "") : (Scalar.text s).Belongs column := by
        simp [Scalar.Belongs, numeric, nonempty]
      simp only [Bool.false_eq_true, if_false]
      split
      · split
        · next date _ => exact belongs (text (compact_ne_empty date))
        · exact .malformed rfl
      · exact belongs (text raw)

end Inquiry.Request
