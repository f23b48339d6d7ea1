import Inquiry.Sql.Guard
import Mathlib.Data.List.Infix

/-!
# What the guard guarantees

The guard tries its objections in order. A text without any is one statement that
is called a SELECT or begins with this word, and every part of it is harmless, at
any depth. This holds with every parser, since the guard relies on nothing but the
statements that it is given.
-/

namespace Inquiry.Sql

open Text

theorem holds_iff {part cs : List Char} : holds part cs = true ↔ part <:+: cs := by
  induction cs with
  | nil => simp [holds]
  | cons c cs ih =>
      rw [holds, Bool.or_eq_true, List.isPrefixOf_iff_prefix, ih, List.infix_cons_iff]

/-- A text in capitals holds no dangerous word. -/
def IsClean (text : List Char) : Prop := ∀ word ∈ dangerousWords, ¬ word.toList <:+: upper text

theorem dangerIn?_eq_none_iff {text : List Char} : dangerIn? text = none ↔ IsClean text := by
  rw [dangerIn?, List.find?_eq_none]
  simp only [holds_iff, IsClean]

/-- The parser calls a statement a SELECT, or has no name for it and lets it begin with
that word. -/
def Parsed.IsSelect (s : Parsed) : Prop :=
  (∃ name, s.name? = some name ∧ toUpper name = "SELECT") ∨
    s.name? = none ∧ s.start = "SELECT"

theorem Parsed.kindObjection?_eq_none_iff (s : Parsed) :
    s.kindObjection? = none ↔ s.IsSelect := by
  rw [kindObjection?, IsSelect]
  cases s.name? <;> simp

namespace Tree

mutual

/-- A tree and all trees inside it. -/
def parts : Tree → List Tree
  | .token kind text => [.token kind text]
  | .group isComment members => .group isComment members :: partsAll members

/-- Trees and all trees inside them. -/
def partsAll : List Tree → List Tree
  | [] => []
  | tree :: rest => tree.parts ++ partsAll rest

end

/-- What the guard wants of a part of a statement, whatever is inside it and around it: a
word that begins a statement begins a SELECT, a keyword is not dangerous, and comments in
a group hold no dangerous word. -/
def IsHarmless : Tree → Prop
  | .token .data text | .token .schema text => capitals text = "SELECT"
  | .token .keyword text => capitals text ∉ dangerousWords
  | .token .other _ => True
  | .group isComment members => isComment = true → IsClean (textAll members)

theorem objection?_token (kind : Kind) (text : List Char) :
    (token kind text).objection? = none ↔ (token kind text).IsHarmless := by
  cases kind <;> simp [objection?, IsHarmless]

theorem objection?_group (isComment : Bool) (members : List Tree) :
    (group isComment members).objection? = none ↔
      (group isComment members).IsHarmless ∧ objectionAll? members = none := by
  rw [objection?, Option.orElse_eq_orElse, Option.orElse_eq_or, Option.or_eq_none_iff, IsHarmless]
  refine and_congr_left fun _ => ?_
  cases isComment with
  | false => simp
  | true => simp [dangerIn?_eq_none_iff]

mutual

/-- The guard has nothing against a tree exactly if all its parts are harmless. -/
theorem objection?_eq_none_iff : (tree : Tree) →
    (tree.objection? = none ↔ ∀ part ∈ tree.parts, part.IsHarmless)
  | .token kind text => by simp [objection?_token, parts]
  | .group isComment members => by
      rw [objection?_group, objectionAll?_eq_none_iff members, parts, List.forall_mem_cons]

/-- The same for several trees. -/
theorem objectionAll?_eq_none_iff : (trees : List Tree) →
    (objectionAll? trees = none ↔ ∀ part ∈ partsAll trees, part.IsHarmless)
  | [] => by simp [objectionAll?, partsAll]
  | tree :: rest => by
      rw [objectionAll?, Option.orElse_eq_orElse, Option.orElse_eq_or, Option.or_eq_none_iff,
        objection?_eq_none_iff tree, objectionAll?_eq_none_iff rest, partsAll,
        List.forall_mem_append]

end

end Tree

/-- A text that a parser reads as one SELECT with harmless parts. -/
def Parser.ReadsSelect (parser : Parser) (cs : List Char) : Prop :=
  ∃ s, parser.statements cs = [s] ∧ s.IsSelect ∧
    ∀ part ∈ Tree.partsAll s.trees, part.IsHarmless

/-- The guard has no objection to a text exactly if what it looks at is not empty, is read
as one SELECT with harmless parts, and has no semicolon. -/
theorem Parser.objection?_eq_none_iff (parser : Parser) (sql : String) :
    parser.objection? sql = none ↔ candidate sql.toList ≠ [] ∧
      parser.ReadsSelect (candidate sql.toList) ∧ ';' ∉ candidate sql.toList := by
  rw [objection?, ReadsSelect]
  generalize candidate sql.toList = cs
  by_cases empty : cs = []
  · simp [empty]
  rw [if_neg empty, and_iff_right empty]
  split
  · next s single =>
      rw [Option.orElse_eq_orElse, Option.orElse_eq_or, Option.or_eq_none_iff,
        Option.orElse_eq_or, Option.or_eq_none_iff, Parsed.kindObjection?_eq_none_iff,
        Tree.objectionAll?_eq_none_iff]
      simp [single, and_assoc]
  · next several =>
      refine iff_of_false (Option.some_ne_none _) ?_
      rintro ⟨⟨s, single, -⟩, -⟩
      exact several s single

end Inquiry.Sql
