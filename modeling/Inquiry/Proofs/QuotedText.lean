import Inquiry.Compiler
import Inquiry.Help
import Inquiry.Proofs.Phrases
import Inquiry.Proofs.Recognition
import Inquiry.Proofs.Statement
import Mathlib.Data.List.Find
import Mathlib.Data.List.Forall2

/-!
# What quoted text decides

Keywords and the phrases that ask for help are found by the keys of tokens, and
a quoted text has a key like any other token. So a quoted text can complete a
phrase, and then it decides who answers a request (`quoted_text_decides`).

Where no phrase reaches into a quoted text, its content decides nothing: two
requests that differ in such texts only are routed in the same way. The
argument compares the two requests place by place. At each place the same
phrases begin, because a phrase that begins in one request runs over tokens
that are equal in both.
-/

namespace Inquiry

namespace Token

/-- The same token, or two quoted texts. -/
def SameButQuoted (t u : Token) : Prop := t = u ∨ t.kind = .quoted ∧ u.kind = .quoted

/-- Whether none of the phrases that begin somewhere among the tokens runs over
quoted text. -/
def KeepsQuotes (phrases : List (List String)) (tokens : List Token) : Prop :=
  ∀ behind ∈ tokens.tails, ∀ phrase ∈ phrases, Keyword.startsWith phrase behind = true →
    ∀ t ∈ behind.take phrase.length, t.kind ≠ .quoted

instance (phrases : List (List String)) (tokens : List Token) :
    Decidable (KeepsQuotes phrases tokens) :=
  inferInstanceAs (Decidable (∀ behind ∈ tokens.tails, ∀ phrase ∈ phrases, _ → _))

namespace KeepsQuotes

variable {phrases : List (List String)} {tokens behind : List Token}

theorem of_suffix (h : KeepsQuotes phrases tokens) (suffix : behind <:+ tokens) :
    KeepsQuotes phrases behind := by
  intro rest member
  apply h rest
  rw [List.mem_tails] at member ⊢
  exact member.trans suffix

theorem of_subset (h : KeepsQuotes phrases tokens) {some : List (List String)}
    (subset : some ⊆ phrases) : KeepsQuotes some tokens :=
  fun rest member phrase known => h rest member phrase (subset known)

end KeepsQuotes

end Token

open Token (SameButQuoted KeepsQuotes)

namespace Keyword

/-- A phrase that begins the tokens without running over quoted text begins all
tokens that are the same but for quoted text. -/
theorem startsWith_of_sameButQuoted {phrase : List String} {tokens others : List Token}
    (same : List.Forall₂ SameButQuoted tokens others)
    (keeps : ∀ t ∈ tokens.take phrase.length, t.kind ≠ .quoted)
    (begins : startsWith phrase tokens = true) : startsWith phrase others = true := by
  induction phrase generalizing tokens others with
  | nil => rfl
  | cons key keys ih =>
      cases same with
      | nil => exact begins
      | @cons t u tokens others head tail =>
          rw [List.length_cons, List.take_succ_cons] at keeps
          have equal : t = u :=
            head.resolve_right fun quoted => keeps t List.mem_cons_self quoted.1
          rw [startsWith, Bool.and_eq_true] at begins ⊢
          exact ⟨equal ▸ begins.1,
            ih tail (fun v member => keeps v (List.mem_cons_of_mem t member)) begins.2⟩

/-- The phrases that begin here are the same. -/
theorem startsWith_eq {phrases : List (List String)} {tokens others : List Token}
    (same : List.Forall₂ SameButQuoted tokens others) (keeps : KeepsQuotes phrases tokens)
    (keeps' : KeepsQuotes phrases others) {phrase : List String} (known : phrase ∈ phrases) :
    startsWith phrase tokens = startsWith phrase others := by
  have whole (l : List Token) : l ∈ l.tails := (List.mem_tails _ _).mpr List.suffix_rfl
  have back : List.Forall₂ SameButQuoted others tokens :=
    (same.imp fun t u h => h.imp Eq.symm And.symm).flip
  rw [Bool.eq_iff_iff]
  constructor
  · intro begins
    exact startsWith_of_sameButQuoted same (keeps _ (whole tokens) phrase known begins) begins
  · intro begins
    exact startsWith_of_sameButQuoted back (keeps' _ (whole others) phrase known begins) begins

namespace Index

variable {index : Index} {tokens others : List Token}

theorem longestAt_eq (same : List.Forall₂ SameButQuoted tokens others)
    (keeps : KeepsQuotes index.phrases tokens) (keeps' : KeepsQuotes index.phrases others) :
    index.longestAt tokens = index.longestAt others := by
  rw [longestAt, longestAt]
  congr 2
  exact List.filter_congr fun r known =>
    startsWith_eq same keeps keeps' (List.mem_map_of_mem (f := (·.keys)) known)

theorem entriesFor_eq (same : List.Forall₂ SameButQuoted tokens others)
    (keeps : KeepsQuotes index.phrases tokens) (keeps' : KeepsQuotes index.phrases others)
    (n : Nat) : index.entriesFor ((tokens.take n).map (·.key)) =
      index.entriesFor ((others.take n).map (·.key)) := by
  rw [entriesFor, entriesFor]
  congr 2
  refine List.filter_congr fun r known => ?_
  rw [decide_eq_decide, eq_map_take_iff, eq_map_take_iff, same.length_eq,
    startsWith_eq same keeps keeps' (List.mem_map_of_mem (f := (·.keys)) known)]

theorem matchAt_eq (same : List.Forall₂ SameButQuoted tokens others)
    (keeps : KeepsQuotes index.phrases tokens) (keeps' : KeepsQuotes index.phrases others) :
    index.matchAt tokens = index.matchAt others := by
  have longest := longestAt_eq same keeps keeps'
  have entries := entriesFor_eq same keeps keeps'
  cases same with
  | nil => rfl
  | @cons t u tokens others head tail =>
      have kind : t.kind = u.kind := head.elim (congrArg Token.kind) fun h => h.1.trans h.2.symm
      simp only [matchAt, kind, longest, entries]

/-- Phrases are found at the same places if they begin there in both requests. -/
theorem scanFrom_of_matchAt (start : Nat) (length : tokens.length = others.length)
    (found : ∀ n, index.matchAt (tokens.drop n) = index.matchAt (others.drop n)) :
    index.scanFrom start tokens = index.scanFrom start others := by
  induction hn : tokens.length using Nat.strong_induction_on generalizing start tokens others with
  | _ n ih =>
      match tokens, others with
      | [], [] => rfl
      | [], _ :: _ | _ :: _, [] => cases length
      | t :: tokens, u :: others =>
          have left (k : Nat) : (tokens.drop k).length < n := by
            rw [← hn, List.length_cons, List.length_drop]
            omega
          have rest (k start : Nat) : index.scanFrom start (tokens.drop k) =
              index.scanFrom start (others.drop k) := by
            refine ih _ (left k) start ?_ (fun place => ?_) rfl
            · rw [List.length_drop, List.length_drop, Nat.succ.inj length]
            · simpa only [List.drop_drop, List.drop_succ_cons] using found (k + place + 1)
          have here : index.matchAt (t :: tokens) = index.matchAt (u :: others) := found 0
          rw [scanFrom, scanFrom, ← here]
          split
          · exact rest 0 (start + 1)
          · next m _ => rw [rest (m.length - 1) (start + m.length)]

theorem scan_eq (same : List.Forall₂ SameButQuoted tokens others)
    (keeps : KeepsQuotes index.phrases tokens) (keeps' : KeepsQuotes index.phrases others) :
    index.scan tokens = index.scan others :=
  scanFrom_of_matchAt 0 same.length_eq fun n => matchAt_eq (List.forall₂_drop n same)
    (keeps.of_suffix (List.drop_suffix n tokens)) (keeps'.of_suffix (List.drop_suffix n others))

end Index

end Keyword

namespace Help

/-- Keys hold a phrase exactly if it begins somewhere among the tokens. -/
theorem holdsPhrase_cons (phrase : List String) (t : Token) (tokens : List Token) :
    holdsPhrase phrase ((t :: tokens).map (·.key)) =
      (Keyword.startsWith phrase (t :: tokens) || holdsPhrase phrase (tokens.map (·.key))) := by
  rw [List.map_cons, holdsPhrase, ← List.map_cons (f := fun t : Token => t.key)]
  congr 1
  rw [Bool.eq_iff_iff, List.isPrefixOf_iff_prefix, Keyword.startsWith_iff]

theorem holdsPhrase_eq {phrase : List String} (known : phrase ∈ phrases)
    {tokens others : List Token} (same : List.Forall₂ SameButQuoted tokens others)
    (keeps : KeepsQuotes phrases tokens) (keeps' : KeepsQuotes phrases others) :
    holdsPhrase phrase (tokens.map (·.key)) = holdsPhrase phrase (others.map (·.key)) := by
  induction same with
  | nil => rfl
  | @cons t u tokens others head tail ih =>
      rw [holdsPhrase_cons, holdsPhrase_cons,
        Keyword.startsWith_eq (.cons head tail) keeps keeps' known,
        ih (keeps.of_suffix (List.suffix_cons t tokens))
          (keeps'.of_suffix (List.suffix_cons u others))]

theorem isAskedFor_eq {text other : String}
    (same : List.Forall₂ SameButQuoted (Token.ofText text) (Token.ofText other))
    (keeps : KeepsQuotes phrases (Token.ofText text))
    (keeps' : KeepsQuotes phrases (Token.ofText other)) : isAskedFor text = isAskedFor other := by
  rw [isAskedFor, isAskedFor, Bool.eq_iff_iff, List.any_eq_true, List.any_eq_true]
  refine exists_congr fun phrase => and_congr_right fun known => ?_
  rw [holdsPhrase_eq known same keeps keeps']

end Help

namespace Specialist

/-- A specialist accepts requests by the phrases in them. -/
theorem accepts_eq {s : Specialist} {text other : String}
    (scan : s.index.scan (Token.ofText text) = s.index.scan (Token.ofText other)) :
    s.accepts text = s.accepts other := by
  rw [Bool.eq_iff_iff, accepts_iff, accepts_iff, Keyword.Index.FindsMain, Keyword.Index.FindsMain,
    scan]

/-- The phrases by which requests are routed: those that ask for help, and the
keywords of specialists. -/
def routingPhrases (specialists : List Specialist) : List (List String) :=
  Help.phrases ++ specialists.flatMap (·.index.phrases)

/-- A specialist for the small report. -/
def towns : Specialist :=
  { name := "Orte", domain := .unknown, settings := {}, index := .of [.towns] }

/-- Quoted text is more than data where it completes a phrase: a quoted word can
ask for help, and a quoted main keyword makes a specialist accept a request. -/
theorem quoted_text_decides :
    List.Forall₂ SameButQuoted (Token.ofText "Ort \"Hilfe\"") (Token.ofText "Ort \"Bonn\"") ∧
      Help.isAskedFor "Ort \"Hilfe\"" = true ∧ Help.isAskedFor "Ort \"Bonn\"" = false ∧
      List.Forall₂ SameButQuoted (Token.ofText "Ort \"Orte\"") (Token.ofText "Ort \"Bonn\"") ∧
      towns.accepts "Ort \"Orte\"" = true ∧ towns.accepts "Ort \"Bonn\"" = false := by
  have same (u v : Token) (hu : u.kind = .quoted) (hv : v.kind = .quoted) :
      List.Forall₂ SameButQuoted [⟨"Ort", "ort", .word⟩, u] [⟨"Ort", "ort", .word⟩, v] :=
    .cons (.inl rfl) (.cons (.inr ⟨hu, hv⟩) .nil)
  have bonn : Token.ofText "Ort \"Bonn\"" =
      [⟨"Ort", "ort", .word⟩, ⟨"Bonn", "bonn", .quoted⟩] := by decide +kernel
  have help : Token.ofText "Ort \"Hilfe\"" =
      [⟨"Ort", "ort", .word⟩, ⟨"Hilfe", "hilfe", .quoted⟩] := by decide +kernel
  have orte : Token.ofText "Ort \"Orte\"" =
      [⟨"Ort", "ort", .word⟩, ⟨"Orte", "orte", .quoted⟩] := by decide +kernel
  rw [bonn, help, orte]
  exact ⟨same _ _ rfl rfl, by decide +kernel, by decide +kernel, same _ _ rfl rfl,
    by decide +kernel, by decide +kernel⟩

/-- Two requests that differ in quoted texts only are routed in the same way if
no routing phrase reaches into one of these texts. Both ask for help or neither
does, every specialist accepts both or neither, counts the same hits in them and
chooses the same report for them, and the same specialist answers them. -/
theorem routing_of_sameButQuoted {specialists : List Specialist} {text other : String}
    (same : List.Forall₂ SameButQuoted (Token.ofText text) (Token.ofText other))
    (keeps : KeepsQuotes (routingPhrases specialists) (Token.ofText text))
    (keeps' : KeepsQuotes (routingPhrases specialists) (Token.ofText other)) :
    Help.isAskedFor text = Help.isAskedFor other ∧
      (∀ s ∈ specialists, s.accepts text = s.accepts other ∧
        s.index.mainHits (Token.ofText text) = s.index.mainHits (Token.ofText other) ∧
        s.chooseReport (Token.ofText text) = s.chooseReport (Token.ofText other)) ∧
      ∀ settings, ((Compiler.mk settings (specialists.map (·.toExpert))).resolve text).toOption =
        ((Compiler.mk settings (specialists.map (·.toExpert))).resolve other).toOption := by
  have help : Help.phrases ⊆ routingPhrases specialists := List.subset_append_left _ _
  have keywords {s : Specialist} (member : s ∈ specialists) :
      s.index.phrases ⊆ routingPhrases specialists :=
    fun _ known => List.mem_append_right _ (List.mem_flatMap.mpr ⟨s, member, known⟩)
  have found {s : Specialist} (member : s ∈ specialists) :
      s.index.scan (Token.ofText text) = s.index.scan (Token.ofText other) :=
    Keyword.Index.scan_eq same (keeps.of_subset (keywords member))
      (keeps'.of_subset (keywords member))
  refine ⟨Help.isAskedFor_eq same (keeps.of_subset help) (keeps'.of_subset help), ?_, ?_⟩
  · intro s member
    have hits : s.index.mainHits (Token.ofText text) = s.index.mainHits (Token.ofText other) := by
      rw [Keyword.Index.mainHits, Keyword.Index.mainHits, found member]
    refine ⟨accepts_eq (found member), hits, ?_⟩
    rw [chooseReport, chooseReport, hits]
  · intro settings
    have first : (specialists.map (·.toExpert)).find? (·.accepts text) =
        (specialists.map (·.toExpert)).find? (·.accepts other) := by
      refine List.find?_congr fun expert member => ?_
      obtain ⟨s, known, rfl⟩ := List.mem_map.mp member
      exact accepts_eq (found known)
    simp only [Compiler.resolve, first]
    split <;> rfl

theorem routing_of_sameButQuoted_towns :
    Help.isAskedFor "Orte mit Ort \"Rom Hilfe\"" = Help.isAskedFor "Orte mit Ort \"Bonn\"" ∧
      towns.accepts "Orte mit Ort \"Rom Hilfe\"" = towns.accepts "Orte mit Ort \"Bonn\"" := by
  have rome : Token.ofText "Orte mit Ort \"Rom Hilfe\"" =
      [⟨"Orte", "orte", .word⟩, ⟨"mit", "mit", .word⟩, ⟨"Ort", "ort", .word⟩,
        ⟨"Rom Hilfe", "rom hilfe", .quoted⟩] := by decide +kernel
  have bonn : Token.ofText "Orte mit Ort \"Bonn\"" =
      [⟨"Orte", "orte", .word⟩, ⟨"mit", "mit", .word⟩, ⟨"Ort", "ort", .word⟩,
        ⟨"Bonn", "bonn", .quoted⟩] := by decide +kernel
  have same : List.Forall₂ SameButQuoted (Token.ofText "Orte mit Ort \"Rom Hilfe\"")
      (Token.ofText "Orte mit Ort \"Bonn\"") := by
    rw [rome, bonn]
    exact .cons (.inl rfl) (.cons (.inl rfl) (.cons (.inl rfl) (.cons (.inr ⟨rfl, rfl⟩) .nil)))
  have keeps :
      KeepsQuotes (routingPhrases [towns]) (Token.ofText "Orte mit Ort \"Rom Hilfe\"") := by
    rw [rome]
    decide +kernel
  have keeps' : KeepsQuotes (routingPhrases [towns]) (Token.ofText "Orte mit Ort \"Bonn\"") := by
    rw [bonn]
    decide +kernel
  have routed := routing_of_sameButQuoted same keeps keeps'
  exact ⟨routed.1, (routed.2.1 towns (List.mem_singleton.mpr rfl)).1⟩

end Specialist

end Inquiry
