import Inquiry.Proofs.TokenBoundary
import Inquiry.Proofs.Wordwise

/-!
# Decomposed requests

A combining mark is no word character, so a letter that is written as a base and a
mark breaks a word that it belongs to. Inside a quotation nothing breaks, and the key
of a quoted text does not depend on the form of its letters.

So the two forms of a request are cut in the same way if its accented letters are all
quoted. The argument goes from piece to piece. What has not been cut yet begins in
the same way in both forms, up to the first quotation mark (`AgreeUntilQuote`), and
no lexeme but a quotation depends on what is behind a quotation mark.
-/

namespace Inquiry.Token

open Text

/-- The marks that open and close a quotation in tidied text. -/
def quoteMarks : List Char := ['"', '\'']

theorem decompose_quoteMark : ∀ mark ∈ quoteMarks, decompose mark = [mark] := by decide

theorem markClass_quoteMark : ∀ mark ∈ quoteMarks, markClass mark = 0 := by decide

theorem decomposed_quoteMark {mark : Char} (known : mark ∈ quoteMarks) (cs ds : List Char) :
    decomposed (cs ++ mark :: ds) = decomposed cs ++ mark :: decomposed ds :=
  decomposed_letter (decompose_quoteMark mark known) (markClass_quoteMark mark known) cs ds

/-! ## Quotations -/

theorem quotation?_of_ne {mark c : Char} (other : c ≠ mark) (rest : List Char) :
    quotation? mark (c :: rest) = none := by
  simp [quotation?, other]

/-- At a quotation mark there is a quotation if the mark comes again, and nothing
otherwise. -/
theorem lexeme?_quoteMark {mark : Char} (known : mark ∈ quoteMarks) (previous : Option Char)
    (rest : List Char) : lexeme? previous (mark :: rest) =
      if mark ∈ rest then some (.quoted, (rest.takeWhile (· ≠ mark)).length + 2) else none := by
  have first : ∀ mark ∈ quoteMarks, (isDigit mark = false ∧ mark ≠ '-') ∧
      mark ∉ ['<', '>', '!', '='] ∧ mark ≠ ',' ∧ isWordPart mark = false := by decide
  obtain ⟨noNumber, noSign, noComma, noPart⟩ := first mark known
  split
  · next closed =>
      have own : quotation? mark (mark :: rest) =
          some ((rest.takeWhile (· ≠ mark)).length + 2) := by simp [quotation?, closed]
      rcases List.mem_pair.mp known with rfl | rfl
      · rw [lexeme?, own]
        rfl
      · rw [lexeme?, quotation?_of_ne (by decide), own]
        rfl
  · next unclosed =>
      have unquoted : ∀ other ∈ ['"', '\''], quotation? other (mark :: rest) = none := by
        intro other _
        by_cases same : mark = other
        · subst same
          simp [quotation?, unclosed]
        · exact quotation?_of_ne same rest
      rw [lexeme?_of_unquoted unquoted noNumber noSign noComma, word?,
        List.takeWhile_cons_of_neg (by simp [noPart])]
      rfl

/-- Elsewhere there is no quotation. -/
theorem ne_quoted_of_lexeme? {c : Char} (other : c ∉ quoteMarks) {previous : Option Char}
    {rest : List Char} {kind : Kind} {n : Nat} (h : lexeme? previous (c :: rest) = some (kind, n)) :
    kind ≠ .quoted := by
  have noDouble : c ≠ '"' := fun own => other (by simp [quoteMarks, own])
  have noSingle : c ≠ '\'' := fun own => other (by simp [quoteMarks, own])
  rintro rfl
  simp [lexeme?, quotation?_of_ne noDouble, quotation?_of_ne noSingle, Option.or_eq_some_iff] at h

theorem length_takeWhile_content {mark : Char} {content : List Char} (noMark : mark ∉ content)
    (behind : List Char) :
    ((content ++ mark :: behind).takeWhile (· ≠ mark)).length = content.length := by
  rw [takeWhile_append_stop (by simp), List.takeWhile_eq_self_iff.mpr]
  intro c member
  have other : c ≠ mark := fun same => noMark (same ▸ member)
  simpa using other

theorem lexeme?_quotation {mark : Char} (known : mark ∈ quoteMarks) {content : List Char}
    (noMark : mark ∉ content) (previous : Option Char) (behind : List Char) :
    lexeme? previous (mark :: (content ++ mark :: behind)) =
      some (.quoted, content.length + 2) := by
  rw [lexeme?_quoteMark known, if_pos (by simp), length_takeWhile_content noMark]

/-- A lexeme at a quotation mark is a quotation, up to the next such mark. -/
theorem exists_quotation {mark : Char} (known : mark ∈ quoteMarks) {previous : Option Char}
    {rest : List Char} {kind : Kind} {n : Nat}
    (found : lexeme? previous (mark :: rest) = some (kind, n)) :
    kind = .quoted ∧ ∃ content behind, rest = content ++ mark :: behind ∧ mark ∉ content ∧
      n = content.length + 2 := by
  have closed : mark ∈ rest := by
    rw [lexeme?_quoteMark known] at found
    split at found
    · assumption
    · cases found
  obtain ⟨content, behind, rfl, noMark⟩ := List.eq_append_cons_of_mem closed
  rw [lexeme?_quotation known noMark] at found
  cases found
  exact ⟨rfl, content, behind, rfl, noMark, rfl⟩

/-- A quotation takes both marks and the content between them. -/
theorem take_quotation (mark : Char) (content behind : List Char) :
    mark :: (content ++ mark :: behind).take (content.length + 2 - 1) =
        mark :: (content ++ [mark]) ∧
      (content ++ mark :: behind).drop (content.length + 2 - 1) = behind := by
  have split : content ++ mark :: behind = (content ++ [mark]) ++ behind := by simp
  have length : content.length + 2 - 1 = (content ++ [mark]).length := by simp
  rw [split, length, List.take_left, List.drop_left]
  exact ⟨rfl, rfl⟩

theorem cut_quotation {mark : Char} (known : mark ∈ quoteMarks) {content : List Char}
    (noMark : mark ∉ content) (previous : Option Char) (behind : List Char) :
    cut previous (mark :: (content ++ mark :: behind)) =
      .lexeme .quoted (mark :: (content ++ [mark])) :: cut (some mark) behind := by
  obtain ⟨take, drop⟩ := take_quotation mark content behind
  rw [cut, lexeme?_quotation known noMark]
  simp only [take, drop]
  rw [← List.cons_append, List.getLast?_concat]

/-! ## Texts that begin in the same way -/

/-- Two texts that are the same, or the same up to a quotation mark. -/
def AgreeUntilQuote (cs ds : List Char) : Prop :=
  cs = ds ∨ ∃ start mark rest rest', mark ∈ quoteMarks ∧ cs = start ++ mark :: rest ∧
    ds = start ++ mark :: rest'

namespace AgreeUntilQuote

variable {cs ds : List Char}

theorem append (h : AgreeUntilQuote cs ds) (before : List Char) :
    AgreeUntilQuote (before ++ cs) (before ++ ds) := by
  rcases h with rfl | ⟨start, mark, rest, rest', known, rfl, rfl⟩
  · exact .inl rfl
  · refine .inr ⟨before ++ start, mark, rest, rest', known, ?_, ?_⟩ <;> rw [List.append_assoc]

theorem head?_eq (h : AgreeUntilQuote cs ds) : ds.head? = cs.head? := by
  rcases h with rfl | ⟨start, mark, rest, rest', known, rfl, rfl⟩
  · rfl
  · cases start <;> rfl

/-- Outside quotations, both texts begin with the same lexeme. -/
theorem lexeme?_eq (h : AgreeUntilQuote cs ds) {c : Char} (other : c ∉ quoteMarks)
    (previous : Option Char) : lexeme? previous (c :: ds) = lexeme? previous (c :: cs) := by
  rcases h with rfl | ⟨start, mark, rest, rest', known, rfl, rfl⟩
  · rfl
  · have unquoted (rest : List Char) : ∀ mark ∈ ['"', '\''],
        quotation? mark (c :: rest) = none := by
      intro mark own
      exact quotation?_of_ne (fun same => other (by rw [same]; exact own)) rest
    have until_ (rest : List Char) :
        lexeme? previous (c :: (start ++ mark :: rest)) = lexeme? previous (c :: start) := by
      refine lexeme?_append_of_quotations rest (isStop_of_mark mark known)
        (List.cons_ne_nil c start) (fun mark own => ?_) previous
      rw [unquoted start mark own]
      exact unquoted _ mark own
    rw [until_, until_]

end AgreeUntilQuote

/-! ## Pieces -/

/-- Whether a piece is a quotation. -/
def Piece.isQuoted : Piece → Bool
  | .lexeme .quoted _ => true
  | _ => false

theorem ne_quoted_of_ofPiece? {piece : Piece} {t : Token} (h : piece.isQuoted = false)
    (found : ofPiece? piece = some t) : t.kind ≠ .quoted := by
  cases piece with
  | skipped c => cases found
  | lexeme kind text =>
      cases kind with
      | quoted => cases h
      | word =>
          rw [ofPiece?, foldedToken?] at found
          split at found <;> cases found
          exact Kind.noConfusion
      | number | date | operator | comma =>
          cases found
          exact Kind.noConfusion

/-- The same piece, or a quotation and its decomposed form. -/
inductive Piece.Respells : Piece → Piece → Prop where
  | same {piece : Piece} (unquoted : piece.isQuoted = false) : piece.Respells piece
  | quotation (mark : Char) (cs : List Char) :
      Respells (.lexeme .quoted (mark :: (cs ++ [mark])))
        (.lexeme .quoted (mark :: (decomposed cs ++ [mark])))

/-- Whether the pieces of a text are spelled with characters that have no parts,
except for quotations. -/
def SpelledOut (pieces : List Piece) : Prop :=
  ∀ piece ∈ pieces, piece.isQuoted = false → ∀ c ∈ piece.text, decompose c = [c]

instance (pieces : List Piece) : Decidable (SpelledOut pieces) :=
  inferInstanceAs (Decidable (∀ piece ∈ pieces, _ → ∀ c ∈ piece.text, _))

/-- Where nothing is to be spelled out and the marks are in order, decomposing leaves
the text as it is. -/
theorem decomposed_append {w cs : List Char} (inOrder : (w ++ cs).IsChain InOrder)
    (whole : ∀ c ∈ w, decompose c = [c]) (agree : AgreeUntilQuote cs (decomposed cs)) :
    decomposed (w ++ cs) = w ++ decomposed cs := by
  induction w with
  | nil => rfl
  | cons c w ih =>
      obtain ⟨own, tail⟩ := List.forall_mem_cons.mp whole
      obtain ⟨next, inOrder⟩ := List.isChain_cons.mp inOrder
      have rest := ih inOrder tail
      have first : ∀ d ∈ (w ++ decomposed cs).head?, InOrder c d := by
        rw [(agree.append w).head?_eq]
        exact next
      rw [decomposed, List.cons_append, List.flatMap_cons, own, List.singleton_append, orderMarks,
        ← decomposed, rest, placeMark_eq_cons first]
      rfl

/-- Where no lexeme begins in a text, none begins in the decomposed text. -/
theorem lexeme?_decomposed_eq_none {previous : Option Char} {c : Char} {rest : List Char}
    (none : lexeme? previous (c :: rest) = none) (agree : AgreeUntilQuote rest (decomposed rest)) :
    lexeme? previous (c :: decomposed rest) = .none := by
  by_cases known : c ∈ quoteMarks
  · rw [lexeme?_quoteMark known] at none ⊢
    rw [if_neg]
    intro closed
    rw [if_pos ((mark_mem_decomposed known).mp closed)] at none
    cases none
  · rw [agree.lexeme?_eq known, none]

/-- A quotation goes on up to the same mark in the decomposed text. -/
theorem cut_decomposed_quotation {mark : Char} (known : mark ∈ quoteMarks) {content : List Char}
    (noMark : mark ∉ content) (previous : Option Char) (behind : List Char) :
    cut previous (decomposed (mark :: (content ++ mark :: behind))) =
        .lexeme .quoted (mark :: (decomposed content ++ [mark])) ::
          cut (some mark) (decomposed behind) ∧
      AgreeUntilQuote (mark :: (content ++ mark :: behind))
        (decomposed (mark :: (content ++ mark :: behind))) := by
  have split : decomposed (mark :: (content ++ mark :: behind)) =
      mark :: (decomposed content ++ mark :: decomposed behind) := by
    rw [← decomposed_quoteMark known, ← List.nil_append (mark :: _), decomposed_quoteMark known]
    rfl
  have noMark' : mark ∉ decomposed content := fun member =>
    noMark ((mark_mem_decomposed known).mp member)
  rw [split]
  exact ⟨cut_quotation known noMark' previous _, .inr ⟨[], mark, _, _, known, rfl, rfl⟩⟩

/-- Any other lexeme is the same in both texts if they agree behind it. -/
theorem cut_decomposed_lexeme {previous : Option Char} {c : Char} {rest : List Char} {kind : Kind}
    {length : Nat} (other : c ∉ quoteMarks)
    (found : lexeme? previous (c :: rest) = some (kind, length))
    (inOrder : (c :: rest).IsChain InOrder)
    (whole : ∀ d ∈ c :: rest.take (length - 1), decompose d = [d])
    (agree : AgreeUntilQuote (rest.drop (length - 1)) (decomposed (rest.drop (length - 1)))) :
    cut previous (decomposed (c :: rest)) = .lexeme kind (c :: rest.take (length - 1)) ::
        cut (c :: rest.take (length - 1)).getLast? (decomposed (rest.drop (length - 1))) ∧
      AgreeUntilQuote (c :: rest) (decomposed (c :: rest)) := by
  have parts : c :: rest.take (length - 1) ++ rest.drop (length - 1) = c :: rest := by simp
  have split : decomposed (c :: rest) =
      c :: rest.take (length - 1) ++ decomposed (rest.drop (length - 1)) := by
    rw [← parts] at inOrder ⊢
    exact decomposed_append inOrder whole agree
  have same := agree.append (rest.take (length - 1))
  rw [List.take_append_drop] at same
  have taken : (rest.take (length - 1)).length = length - 1 := by
    have within := le_of_lexeme? found
    rw [List.length_cons] at within
    rw [List.length_take]
    omega
  constructor
  · rw [split, List.cons_append, cut, same.lexeme?_eq other previous, found]
    simp only [List.take_left' taken, List.drop_left' taken]
  · have agree := agree.append (c :: rest.take (length - 1))
    rwa [parts, ← split] at agree

/-- The decomposed text is cut like the text itself. -/
theorem cut_decomposed (previous : Option Char) {cs : List Char} (inOrder : cs.IsChain InOrder)
    (spelled : SpelledOut (cut previous cs)) :
    List.Forall₂ Piece.Respells (cut previous cs) (cut previous (decomposed cs)) ∧
      AgreeUntilQuote cs (decomposed cs) := by
  fun_induction cut previous cs with
  | case1 previous =>
      have nothing : cut previous (decomposed []) = [] := by
        rw [show decomposed [] = [] from rfl, cut]
      rw [nothing]
      exact ⟨.nil, .inl rfl⟩
  | case2 previous c rest none ih =>
      obtain ⟨own, tail⟩ := List.forall_mem_cons.mp spelled
      obtain ⟨pieces, agree⟩ := ih (List.isChain_cons.mp inOrder).2 tail
      have split : decomposed (c :: rest) = c :: decomposed rest :=
        decomposed_append (w := [c]) inOrder (own rfl) agree
      rw [split, cut, lexeme?_decomposed_eq_none none agree]
      exact ⟨.cons (.same rfl) pieces, agree.append [c]⟩
  | case3 previous c rest kind length found text ih =>
      obtain ⟨own, tail⟩ := List.forall_mem_cons.mp spelled
      have parts : text ++ rest.drop (length - 1) = c :: rest := by simp [text]
      have inOrder' : (rest.drop (length - 1)).IsChain InOrder := by
        rw [← parts] at inOrder
        exact inOrder.right_of_append
      obtain ⟨pieces, agree⟩ := ih inOrder' tail
      by_cases known : c ∈ quoteMarks
      · obtain ⟨rfl, content, behind, rfl, noMark, rfl⟩ := exists_quotation known found
        obtain ⟨take, drop⟩ := take_quotation c content behind
        have last : text.getLast? = some c := by
          simp only [text, take]
          rw [← List.cons_append, List.getLast?_concat]
        rw [last, drop] at pieces ⊢
        obtain ⟨next, agree⟩ := cut_decomposed_quotation known noMark previous behind
        rw [next, show text = c :: (content ++ [c]) from take]
        exact ⟨.cons (.quotation c content) pieces, agree⟩
      · have unquoted : (Piece.lexeme kind text).isQuoted = false := by
          have other := ne_quoted_of_lexeme? known found
          cases kind with
          | quoted => exact absurd rfl other
          | _ => rfl
        obtain ⟨next, agree⟩ := cut_decomposed_lexeme known found inOrder (own unquoted) agree
        rw [next]
        exact ⟨.cons (.same unquoted) pieces, agree⟩

/-! ## Tokens -/

/-- A token with the decomposed text if it is quoted. -/
def respelled (t : Token) : Token :=
  if t.kind = .quoted then { t with raw := String.ofList (decomposed t.raw.toList) } else t

theorem respelled_kind (t : Token) : t.respelled.kind = t.kind := by
  unfold respelled
  split <;> rfl

theorem respelled_key (t : Token) : t.respelled.key = t.key := by
  unfold respelled
  split <;> rfl

theorem respelled_of_unquoted {t : Token} (h : t.kind ≠ .quoted) : t.respelled = t := if_neg h

theorem Piece.Respells.ofPiece? {piece other : Piece} (h : piece.Respells other) :
    ofPiece? other = (ofPiece? piece).map respelled := by
  cases h with
  | same unquoted =>
      cases token : Token.ofPiece? piece with
      | none => rfl
      | some t => rw [Option.map_some, respelled_of_unquoted (ne_quoted_of_ofPiece? unquoted token)]
  | quotation mark cs =>
      have content (cs : List Char) : ((mark :: (cs ++ [mark])).drop 1).dropLast = cs := by simp
      rw [Token.ofPiece?, Token.ofPiece?, content, content, wordwise_decomposed.trimmed,
        foldedToken?, foldedToken?]
      by_cases empty : trimmed cs = []
      · rw [if_pos empty, if_pos (decomposed_eq_nil.mpr empty)]
        rfl
      · rw [if_neg empty, if_neg fun nil => empty (decomposed_eq_nil.mp nil),
          folded_of_decomposed (decomposed_decomposed _)]
        simp [respelled]

/-- A request whose accented letters are all quoted has the same tokens in both forms,
but for the letters of quoted texts. -/
theorem ofText_decomposed {text : String}
    (spelled : SpelledOut (cut none (tidied (composed text.toList)))) :
    ofText (String.ofList (decomposed text.toList)) =
      (ofText (String.ofList (composed text.toList))).map respelled := by
  obtain ⟨pieces, -⟩ := cut_decomposed none (isChain_tidied (isChain_composed _)) spelled
  rw [← tidied_decomposed (grave_not_mem_composed _), decomposed_composed] at pieces
  rw [ofText, ofText, String.toList_ofList, String.toList_ofList, List.map_filterMap]
  generalize cut none (tidied (composed text.toList)) = first at pieces
  generalize cut none (tidied (decomposed text.toList)) = second at pieces
  induction pieces with
  | nil => rfl
  | cons head _ ih => rw [List.filterMap_cons, List.filterMap_cons, head.ofPiece?, ih]

end Inquiry.Token
