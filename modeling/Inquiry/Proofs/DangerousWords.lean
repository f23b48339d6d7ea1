import Inquiry.Proofs.Semicolons
import Inquiry.Text.Word

/-!
# Which words the guard keeps out

The guard sees a text as its parser reads it. It accepts the text exactly if that is one
SELECT with harmless parts, and has no semicolons but in a row at its end
(`Parser.isSafe_iff`).

Whether a dangerous word is harmless depends on what the parser takes it for. As a keyword,
or as a word that begins a statement, it is refused; as anything else it is let through,
and so is a comment that stands alone. A parser takes words that it does not know for
names, and those that are called like a function. So some dangerous words are accepted
(`isSafe_dangerous`).
-/

namespace Inquiry.Sql

open Text

/-- The guard overlooks semicolons in a row at the end, and no others. -/
theorem unbroken_iff {cs : List Char} : ';' ∉ candidate cs ↔ ∃ n, ClosedBy n cs := by
  refine ⟨fun unbroken => ⟨_, closedBy_of_candidate unbroken⟩, ?_⟩
  rintro ⟨n, closed⟩ mark
  obtain ⟨before, split, free⟩ := closed.trimmed_eq
  have row : ∀ c ∈ List.replicate n ';', decide (c = ';') = true := fun c member =>
    decide_eq_true (List.eq_of_mem_replicate member)
  have kept := List.mem_reverse.mp (trimmed_sublist.subset mark)
  rw [split, List.reverse_append, List.reverse_replicate, List.dropWhile_append_of_pos row] at kept
  exact free (List.mem_reverse.mp ((List.dropWhile_sublist _).subset kept))

/-- A dangerous word is harmless to the guard exactly if it is taken for something else. -/
theorem Tree.isHarmless_dangerous_iff {kind : Kind} {text : List Char}
    (dangerous : capitals text ∈ dangerousWords) :
    (token kind text).IsHarmless ↔ kind = .other := by
  have notSelect : capitals text ≠ "SELECT" := by
    intro same
    rw [same] at dangerous
    exact absurd dangerous (by decide)
  cases kind <;> simp [IsHarmless, dangerous, notSelect]

/-- A text is safe exactly if the parser reads it as one SELECT with harmless parts, and if
it has no semicolons but in a row at its end. A dangerous word is in it only as a token
that the parser takes neither for a keyword nor for the beginning of a statement; and
whatever it takes for anything else is let through. -/
theorem Parser.isSafe_iff (parser : Parser) (sql : String) :
    (parser.isSafe sql = true ↔
      candidate sql.toList ≠ [] ∧ (∃ n, ClosedBy n sql.toList) ∧
        ∃ s, parser.statements (candidate sql.toList) = [s] ∧ s.IsSelect ∧
          ∀ part ∈ Tree.partsAll s.trees, part.IsHarmless) ∧
    ∀ kind text, capitals text ∈ dangerousWords →
      ((Tree.token kind text).IsHarmless ↔ kind = .other) := by
  refine ⟨?_, fun kind text => Tree.isHarmless_dangerous_iff⟩
  rw [isSafe, Option.isNone_iff_eq_none, objection?_eq_none_iff, unbroken_iff]
  exact and_congr_right fun _ => and_comm

/-- A dangerous word stands in a text, in any case, apart from other words and with no
quotation mark in front of it. -/
def HoldsDanger (cs : List Char) : Prop :=
  ∃ word ∈ dangerousWords, ∃ before behind, upper cs = before ++ word.toList ++ behind ∧
    (∀ c ∈ before.getLast?, isWordChar c = false) ∧ (∀ c ∈ behind.head?, isWordChar c = false) ∧
      ∀ mark ∈ ['\'', '"', '[', Char.ofNat 96], mark ∉ before

theorem holdsDanger_between {word : String} (listed : word ∈ dangerousWords) {cs : List Char}
    (before : List Char) (a b : Char) (behind : List Char)
    (split : upper cs = (before ++ [a]) ++ word.toList ++ b :: behind)
    (apart : isWordChar a = false ∧ isWordChar b = false)
    (unquoted : ∀ mark ∈ ['\'', '"', '[', Char.ofNat 96], mark ∉ before ++ [a]) :
    HoldsDanger cs := by
  refine ⟨word, listed, before ++ [a], b :: behind, split, ?_, ?_, unquoted⟩
  · simpa using apart.1
  · simpa using apart.2

/-- Calls of the dangerous kind are accepted, and dangerous words in a comment at the end. -/
theorem isSafe_dangerous :
    (Parser.standIn.isSafe "SELECT * FROM OPENROWSET('a')" = true ∧
      HoldsDanger "SELECT * FROM OPENROWSET('a')".toList) ∧
    (Parser.standIn.isSafe "SELECT 1 EXEC('a')" = true ∧
      HoldsDanger "SELECT 1 EXEC('a')".toList) ∧
    (Parser.standIn.isSafe "SELECT 1 -- DROP TABLE t" = true ∧
      HoldsDanger "SELECT 1 -- DROP TABLE t".toList) := by
  refine ⟨⟨by decide +kernel, ?_⟩, ⟨by decide +kernel, ?_⟩, ⟨by decide +kernel, ?_⟩⟩
  · exact holdsDanger_between (show "OPENROWSET" ∈ _ by decide) "SELECT * FROM".toList ' ' '('
      "'A')".toList (by decide +kernel) (by decide) (by decide)
  · exact holdsDanger_between (show "EXEC" ∈ _ by decide) "SELECT 1".toList ' ' '('
      "'A')".toList (by decide +kernel) (by decide) (by decide)
  · exact holdsDanger_between (show "DROP" ∈ _ by decide) "SELECT 1 --".toList ' ' ' '
      "TABLE T".toList (by decide +kernel) (by decide) (by decide)

end Inquiry.Sql
