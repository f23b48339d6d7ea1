import Inquiry.Proofs.LongIntegers
import Inquiry.Proofs.WordCharacters

/-!
# The digits of a request

Digits are neither added nor repeated when a request is cut into tokens, so no token has
more of them than the request (`digitCount_le_of_mem_ofText`). Several words that are read
as one value denote no integer, because of the blanks between them.

So every value of a request tells something, and if it denotes an integer, then one with
no more digits than the request has.
-/

namespace Inquiry

open Text

namespace Literal

/-- Within an integer there is nothing that is no visible character. -/
theorem visible_of_number? {text : String} {n : Int} (h : number? text = some (.whole n)) :
    ∀ c ∈ trimmed text.toList, isBlank c = false := by
  obtain ⟨negative, cs, whole, eq, written, -⟩ := number?_eq_whole_iff.mp h
  rw [eq]
  exact written.visible negative

end Literal

namespace Token

open Literal

theorem countP_tidied (cs : List Char) : (tidied cs).countP isDigit = cs.countP isDigit := by
  have among (cs : List Char) : cs.countP isDigit = (cs.filter isWordChar).countP isDigit := by
    rw [List.countP_filter]
    refine List.countP_congr fun c _ => ?_
    rw [Bool.and_eq_true]
    exact ⟨fun digit => ⟨digit, isWordChar_of_isDigit digit⟩, And.left⟩
  rw [among, filter_tidied, ← among]

/-- A token has no more digits than the request it is read from. -/
theorem digitCount_le_of_mem_ofText {text : String} {t : Token} (h : t ∈ ofText text) :
    digitCount t.raw ≤ digitCount text := by
  obtain ⟨piece, known, found⟩ := List.mem_filterMap.mp h
  have part : piece.text.Sublist (tidied text.toList) := by
    rw [← flatMap_text_cut none (tidied text.toList), List.flatMap]
    exact List.sublist_flatten_of_mem (List.mem_map_of_mem known)
  calc digitCount t.raw
      ≤ (tidied text.toList).countP isDigit :=
        ((raw_sublist_of_ofPiece? found).trans part).countP_le
    _ = digitCount text := countP_tidied text.toList

/-- A token that says something, and no integer of more than `most` digits. -/
structure Tells (most : Nat) (t : Token) : Prop where
  hasText : t.HasText
  digits : ∀ n, Literal.number? t.raw = some (.whole n) → digitCount t.raw ≤ most

theorem tells_ofText (text : String) : ∀ t ∈ ofText text, t.Tells (digitCount text) :=
  fun t member => ⟨hasText_ofText text t member, fun _ _ => digitCount_le_of_mem_ofText member⟩

end Token

namespace Request

theorem raw_joinWords (first second : Token) (others : List Token) :
    (Scope.joinWords (first :: second :: others)).raw.toList =
      first.raw.toList ++ ' ' :: (Scope.joinWords (second :: others)).raw.toList := by
  simp only [Scope.joinWords, List.map_cons, String.intercalate_cons_cons, String.toList_append]
  simp

theorem hasText_joinWords {first : Token} (h : first.HasText) (others : List Token) :
    (Scope.joinWords (first :: others)).HasText := by
  obtain ⟨c, member, visible⟩ := h
  refine ⟨c, ?_, visible⟩
  cases others with
  | nil => simpa [Scope.joinWords] using member
  | cons second others =>
      rw [raw_joinWords]
      exact List.mem_append_left _ member

/-- Words with blanks between them are no integer. -/
theorem tells_joinWords (most : Nat) {first second : Token} (h : first.HasText)
    (h' : second.HasText) (others : List Token) :
    (Scope.joinWords (first :: second :: others)).Tells most := by
  refine ⟨hasText_joinWords h _, fun n found => ?_⟩
  have inside := mem_trimmed_between h (hasText_joinWords h' others) ' '
  rw [← raw_joinWords] at inside
  have visible := Literal.visible_of_number? found ' ' inside
  cases visible

end Request

end Inquiry
