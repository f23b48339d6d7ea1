import Inquiry.Proofs.DateText
import Inquiry.Proofs.Respelling

/-!
# Between blanks

A lexeme between blanks is what it is on its own, since no lexeme but a quotation
reaches over a blank. A quotation that does is opened in front of the blank and closed
behind it (`blankAt_cut`), and then all that stands between the two marks is its content.

So a part of a request that is a token on its own is the same token between blanks,
unless it is content of a quotation (`standing_of_lexeme?`).
-/

namespace Inquiry.Token

open Text

variable {cs rest : List Char}

/-! ## A blank in a text -/

/-- What comes of a blank when a text is cut: it separates, or it is content of a
quotation that is opened in front of it and closed behind it. -/
inductive BlankAt (cs rest : List Char) : List Piece → Prop where
  | outside {before : List Piece} (front : before.flatMap Piece.text = cs) :
      BlankAt cs rest (before ++ .skipped ' ' :: cut (some ' ') rest)
  | inside {before : List Piece} {mark : Char} {lead inner behind : List Char}
      (known : mark ∈ quoteMarks) (front : before.flatMap Piece.text ++ mark :: lead = cs)
      (back : rest = inner ++ mark :: behind) :
      BlankAt cs rest (before ++ .lexeme .quoted (mark :: (lead ++ ' ' :: inner ++ [mark])) ::
        cut (some mark) behind)

theorem BlankAt.cons {pieces : List Piece} (h : BlankAt cs rest pieces) (piece : Piece) :
    BlankAt (piece.text ++ cs) rest (piece :: pieces) := by
  cases h with
  | outside front =>
      rw [← List.cons_append]
      exact .outside (by rw [List.flatMap_cons, front])
  | inside known front back =>
      rw [← List.cons_append]
      exact .inside known (by rw [List.flatMap_cons, List.append_assoc, front]) back

/-- A place where the argument can go on: a shorter text in front of the blank, whatever
stands before it. -/
def BlankBehind (cs rest : List Char) : Prop :=
  ∀ previous tail, tail.length ≤ cs.length →
    BlankAt tail rest (cut previous (tail ++ ' ' :: rest))

/-- A quotation that is closed behind the blank holds it; behind one that is closed in
front of it, the blank is still to come. -/
theorem blankAt_quotation {mark : Char} (known : mark ∈ quoteMarks)
    (closed : mark ∈ cs ++ ' ' :: rest) (later : BlankBehind cs rest) (previous : Option Char) :
    BlankAt (mark :: cs) rest (cut previous (mark :: (cs ++ ' ' :: rest))) := by
  have visible : ∀ mark ∈ quoteMarks, mark ≠ ' ' := by decide
  obtain ⟨content, behind, split, free⟩ := List.eq_append_cons_of_mem closed
  rw [split, cut_quotation known free]
  rcases List.append_eq_append_iff.mp split with ⟨inner, rfl, blank⟩ | ⟨tail, rfl, blank⟩
  · cases inner with
    | nil => exact absurd (List.cons.inj blank).1.symm (visible mark known)
    | cons d inner =>
        obtain ⟨rfl, back⟩ := List.cons.inj blank
        exact @BlankAt.inside _ _ [] mark cs inner behind known rfl back
  · cases tail with
    | nil => exact absurd (List.cons.inj blank).1 (visible mark known)
    | cons d tail =>
        obtain ⟨rfl, rfl⟩ := List.cons.inj blank
        have pieces := (later (some mark) tail (by simp; omega)).cons
          (.lexeme .quoted (mark :: (content ++ [mark])))
        simpa [Piece.text] using pieces

/-- Any other lexeme ends in front of the blank. -/
theorem blankAt_lexeme {c : Char} (other : c ∉ quoteMarks) (later : BlankBehind cs rest)
    (previous : Option Char) :
    BlankAt (c :: cs) rest (cut previous (c :: (cs ++ ' ' :: rest))) := by
  have unquoted (tail : List Char) (mark : Char) (known : mark ∈ quoteMarks) :
      quotation? mark (c :: tail) = none := by
    have differs : c ≠ mark := fun same => other (same ▸ known)
    exact quotation?_of_ne differs tail
  have same : lexeme? previous (c :: cs ++ ' ' :: rest) = lexeme? previous (c :: cs) :=
    lexeme?_append_of_quotations rest isStop_blank (List.cons_ne_nil c cs)
      (fun mark known => (unquoted _ mark known).trans (unquoted _ mark known).symm) previous
  rw [List.cons_append] at same
  rw [cut, same]
  cases found : lexeme? previous (c :: cs) with
  | none => exact (later (some c) cs (Nat.le_refl _)).cons (.skipped c)
  | some lexeme =>
      obtain ⟨kind, length⟩ := lexeme
      have within := le_of_lexeme? found
      rw [List.length_cons] at within
      have inside : length - 1 ≤ cs.length := by omega
      simp only [List.take_append_of_le_length inside, drop_append rest inside]
      have pieces := (later (c :: cs.take (length - 1)).getLast? (cs.drop (length - 1))
        (by simp)).cons (.lexeme kind (c :: cs.take (length - 1)))
      simpa [Piece.text] using pieces

theorem blankAt_cut (rest : List Char) (previous : Option Char) (cs : List Char) :
    BlankAt cs rest (cut previous (cs ++ ' ' :: rest)) := by
  induction length : cs.length using Nat.strong_induction_on generalizing previous cs with
  | _ n ih =>
      subst length
      cases cs with
      | nil =>
          rw [List.nil_append, cut_blank]
          exact @BlankAt.outside [] rest [] rfl
      | cons c cs =>
          have later : BlankBehind cs rest := fun previous tail shorter =>
            ih tail.length (Nat.lt_succ_of_le shorter) previous tail rfl
          rw [List.cons_append]
          by_cases mark : c ∈ quoteMarks
          · by_cases closed : c ∈ cs ++ ' ' :: rest
            · exact blankAt_quotation mark closed later previous
            · rw [cut, lexeme?_quoteMark mark, if_neg closed]
              exact (later (some c) cs (Nat.le_refl _)).cons (.skipped c)
          · exact blankAt_lexeme mark later previous

/-! ## Between blanks -/

/-- The words of a text as they stand in front of another word. -/
def inFront (text : String) : List Char :=
  (words (text.toList.map plainQuote)).flatMap (· ++ [' '])

/-- The words of a text as they stand behind another word. -/
def behind (text : String) : List Char :=
  (words (text.toList.map plainQuote)).flatMap (' ' :: ·)

theorem intercalate_cons (w : List Char) (ws : List (List Char)) :
    [' '].intercalate (w :: ws) = w ++ ws.flatMap (' ' :: ·) := by
  induction ws generalizing w with
  | nil => simp
  | cons v ws ih => rw [List.intercalate_cons_cons, ih, List.flatMap_cons]; simp

/-- In front of one word there is a blank behind each word, and behind it there is
one in front of each. -/
theorem intercalate_between (ws : List (List Char)) (w : List Char) (vs : List (List Char)) :
    [' '].intercalate (ws ++ w :: vs) =
      ws.flatMap (· ++ [' ']) ++ (w ++ vs.flatMap (' ' :: ·)) := by
  induction ws with
  | nil => exact intercalate_cons w vs
  | cons v ws ih =>
      rw [List.cons_append, List.intercalate_cons_of_ne_nil (by simp), ih, List.flatMap_cons]
      simp only [List.append_assoc]

theorem flatMap_blank_behind (w : List Char) (ws : List (List Char)) :
    (w :: ws).flatMap (· ++ [' ']) = [' '].intercalate (w :: ws) ++ [' '] := by
  induction ws generalizing w with
  | nil => simp
  | cons v ws ih =>
      rw [List.flatMap_cons, ih, List.intercalate_cons_cons]
      simp only [List.append_assoc]

theorem inFront_eq (text : String) :
    inFront text = [] ∨ inFront text = tidied text.toList ++ [' '] := by
  rw [inFront, tidied, spaced]
  cases words (text.toList.map plainQuote) with
  | nil => exact .inl rfl
  | cons w ws => exact .inr (flatMap_blank_behind w ws)

variable {part : List Char} {a b : String}

theorem map_plainQuote_eq_self (unquoted : ∀ c ∈ part, plainQuote c = c) :
    part.map plainQuote = part := by
  rw [List.map_congr_left unquoted, List.map_id'']
  exact fun c => rfl

/-- A word between two texts stays, with their words around it. -/
theorem tidied_between (ne : part ≠ []) (visible : ∀ c ∈ part, isBlank c = false)
    (unquoted : ∀ c ∈ part, plainQuote c = c) :
    tidied (a ++ " " ++ String.ofList part ++ " " ++ b).toList =
      inFront a ++ (part ++ behind b) := by
  have plain := map_plainQuote_eq_self unquoted
  have blank : plainQuote ' ' = ' ' := by decide
  have split : (a ++ " " ++ String.ofList part ++ " " ++ b).toList.map plainQuote =
      a.toList.map plainQuote ++ ' ' :: (part ++ ' ' :: b.toList.map plainQuote) := by
    simp [blank, plain]
  rw [tidied, split, spaced, words_append (by decide), words_append (by decide),
    words_of_visible ne visible, List.singleton_append, intercalate_between, inFront, behind]

/-- The pieces behind a word are those of the text behind it. -/
theorem tokens_behind (previous : Option Char) (text : String) :
    (cut previous (behind text)).filterMap ofPiece? = ofText text := by
  rw [behind, ofText, tidied, spaced]
  cases words (text.toList.map plainQuote) with
  | nil => rw [List.flatMap_nil, List.intercalate_nil, cut, cut]
  | cons w ws =>
      rw [List.flatMap_cons, List.cons_append, ← intercalate_cons, cut_blank, cut_behind_blank,
        List.filterMap_cons_none rfl]

/-- A lexeme that is not reached by a quotation is one piece in front of a blank, too. -/
theorem cut_lexeme {kind : Kind} (found : lexeme? none part = some (kind, part.length))
    (ne : part ≠ []) (unmarked : ∀ c ∈ part, c ∉ quoteMarks) (text : String) :
    cut none (part ++ behind text) = .lexeme kind part :: cut part.getLast? (behind text) := by
  have whole : lexeme? none (part ++ behind text) = some (kind, part.length) := by
    rw [behind]
    cases words (text.toList.map plainQuote) with
    | nil => rw [List.flatMap_nil, List.append_nil, found]
    | cons w ws =>
        rw [List.flatMap_cons, List.cons_append, lexeme?_append _ ne
          (fun mark known member => absurd known (unmarked mark member)), found]
  exact cut_span ne whole

/-- What becomes of a part of a request between blanks, which is a token on its own: it
is that token, with those of the text behind it, or it is content of a quotation
that is opened in front of it and closed behind it. -/
inductive Standing (a b : String) (part : List Char) (t : Token) : Prop where
  | apart {before after : List Piece}
      (pieces : cut none (tidied (a ++ " " ++ String.ofList part ++ " " ++ b).toList) =
        before ++ .lexeme t.kind part :: after)
      (front : before.flatMap Piece.text = inFront a)
      (back : after.flatMap Piece.text = behind b)
      (tokens : ofText (a ++ " " ++ String.ofList part ++ " " ++ b) =
        before.filterMap ofPiece? ++ t :: ofText b)
  | quoted {before after : List Piece} {mark : Char} {lead trail : List Char}
      (known : mark ∈ quoteMarks)
      (pieces : cut none (tidied (a ++ " " ++ String.ofList part ++ " " ++ b).toList) =
        before ++ .lexeme .quoted (mark :: (lead ++ part ++ trail ++ [mark])) :: after)
      (front : before.flatMap Piece.text ++ mark :: lead = inFront a)
      (back : trail ++ mark :: after.flatMap Piece.text = behind b)

/-- A text that ends at a mark ends behind a part of it that has no such mark. -/
theorem exists_trail {mark : Char} {back inner after : List Char} (free : mark ∉ part)
    (closed : part ++ back = inner ++ mark :: after) :
    ∃ trail, inner = part ++ trail ∧ back = trail ++ mark :: after := by
  rcases List.append_eq_append_iff.mp closed with later | ⟨rest, split, closing⟩
  · exact later
  · cases rest with
    | nil => exact ⟨[], by simpa using split.symm, closing.symm⟩
    | cons c rest =>
        obtain ⟨rfl, -⟩ := List.cons.inj closing
        exact absurd (split ▸ by simp) free

section Lexeme

variable {t : Token} (ne : part ≠ []) (visible : ∀ c ∈ part, isBlank c = false)
  (unquoted : ∀ c ∈ part, plainQuote c = c ∧ c ∉ quoteMarks)
  (found : lexeme? none part = some (t.kind, part.length))
  (token : ofPiece? (.lexeme t.kind part) = some t)

include ne visible unquoted found token

/-- Between blanks, a lexeme is a token of its own, or content of a quotation. -/
theorem standing_of_lexeme? : Standing a b part t := by
  have own := cut_lexeme found ne (fun c member => (unquoted c member).2) b
  have text := tidied_between (a := a) (b := b) ne visible fun c member => (unquoted c member).1
  have back : (cut part.getLast? (behind b)).flatMap Piece.text = behind b := flatMap_text_cut _ _
  rcases inFront_eq a with nothing | front
  · rw [nothing, List.nil_append] at text
    refine @Standing.apart a b part t [] _ (text ▸ own) nothing.symm back ?_
    rw [ofText, text, own, List.filterMap_cons_some token, tokens_behind]
    rfl
  · have pieces := blankAt_cut (part ++ behind b) none (tidied a.toList)
    have whole : tidied (a ++ " " ++ String.ofList part ++ " " ++ b).toList =
        tidied a.toList ++ ' ' :: (part ++ behind b) := by
      rw [text, front, List.append_assoc, List.singleton_append]
    rw [← whole] at pieces
    generalize cutting : cut none (tidied (a ++ " " ++ String.ofList part ++ " " ++ b).toList) = ps
      at pieces
    cases pieces with
    | @outside before same =>
        have split : before ++ .skipped ' ' :: cut (some ' ') (part ++ behind b) =
            (before ++ [.skipped ' ']) ++
              .lexeme t.kind part :: cut part.getLast? (behind b) := by
          rw [cut_behind_blank, own, List.append_assoc]
          rfl
        rw [split] at cutting
        refine .apart cutting ?_ back ?_
        · rw [List.flatMap_append, same, front]
          rfl
        · rw [ofText, cutting, List.filterMap_append, List.filterMap_cons_some token, tokens_behind]
    | @inside before mark lead inner after known same closed =>
        have free : mark ∉ part := fun member => (unquoted mark member).2 known
        obtain ⟨trail, rfl, later⟩ := exists_trail free closed
        refine @Standing.quoted a b part t before (cut (some mark) after) mark (lead ++ [' ']) trail
          known ?_ ?_ ?_
        · rw [cutting]
          simp
        · rw [front, ← same]
          simp
        · rw [flatMap_text_cut, later]

/-- At the end of a request, a lexeme is a token behind those of the text in front of it. -/
theorem ofText_at_end : ofText (a ++ " " ++ String.ofList part) = ofText a ++ [t] := by
  have plain : (String.ofList part).toList.map plainQuote = part := by
    rw [String.toList_ofList]
    exact map_plainQuote_eq_self fun c member => (unquoted c member).1
  have own : ofText (String.ofList part) = [t] := by
    rw [ofText, tidied, plain, spaced_of_visible ne visible, cut_of_lexeme? ne found,
      List.filterMap_cons_some token, List.filterMap_nil]
  rw [ofText_append, own]
  intro mark known _
  rw [plain]
  exact fun member => (unquoted mark member).2 known

/-- A part of a request with no quotation around it is one token between those of the
texts around it. -/
theorem ofText_between (closed : ∀ mark ∈ ['"', '\''],
      mark ∈ a.toList.map plainQuote → mark ∉ b.toList.map plainQuote) :
    ofText (a ++ " " ++ String.ofList part ++ " " ++ b) = ofText a ++ t :: ofText b := by
  have plain : (String.ofList part).toList.map plainQuote = part := by
    rw [String.toList_ofList]
    exact map_plainQuote_eq_self fun c member => (unquoted c member).1
  have unmarked (mark : Char) (known : mark ∈ ['"', '\'']) : mark ∉ part :=
    fun member => (unquoted mark member).2 known
  rw [ofText_append, ofText_at_end ne visible unquoted found token, List.append_assoc,
    List.singleton_append]
  intro mark known member
  have noBlank : ∀ mark ∈ ['"', '\''], mark ≠ plainQuote ' ' := by decide
  have blank : " ".toList = [' '] := rfl
  rw [String.toList_append, String.toList_append, List.map_append, List.map_append, plain, blank,
    List.map_singleton, List.mem_append, List.mem_append, List.mem_singleton] at member
  exact closed mark known ((member.resolve_right (unmarked mark known)).resolve_right
    (noBlank mark known))

end Lexeme

end Inquiry.Token
