import Inquiry.Proofs.QuotedText

/-!
# What recognition looks at

Phrases are found by the kinds and keys of tokens. So requests whose tokens agree in
kinds and keys are routed in the same way, whatever their tokens were typed as.
-/

namespace Inquiry

namespace Token

/-- What recognition looks at. -/
def signature (t : Token) : Kind × String := (t.kind, t.key)

variable {tokens others : List Token}

theorem map_key (same : tokens.map signature = others.map signature) :
    tokens.map (·.key) = others.map (·.key) := by
  have keys := congrArg (List.map Prod.snd) same
  rwa [List.map_map, List.map_map] at keys

end Token

open Token (signature)

namespace Keyword

variable {tokens others : List Token}

theorem startsWith_of_signature (same : tokens.map signature = others.map signature)
    (phrase : List String) : startsWith phrase tokens = startsWith phrase others := by
  rw [Bool.eq_iff_iff, startsWith_iff, startsWith_iff, Token.map_key same]

namespace Index

variable {index : Index}

theorem matchAt_of_signature (same : tokens.map signature = others.map signature) :
    index.matchAt tokens = index.matchAt others := by
  have longest : index.longestAt tokens = index.longestAt others := by
    simp only [longestAt, startsWith_of_signature same]
  have entries (n : Nat) : (tokens.take n).map (·.key) = (others.take n).map (·.key) := by
    rw [List.map_take, List.map_take, Token.map_key same]
  cases tokens with
  | nil => rw [List.map_eq_nil_iff.mp same.symm]
  | cons t tokens =>
      cases others with
      | nil => cases same
      | cons u others =>
          have kind : t.kind = u.kind := congrArg Prod.fst (List.cons.inj same).1
          simp only [matchAt, kind, longest, entries]

theorem scan_of_signature (same : tokens.map signature = others.map signature) :
    index.scan tokens = index.scan others := by
  have length := congrArg List.length same
  rw [List.length_map, List.length_map] at length
  refine scanFrom_of_matchAt 0 length fun n => matchAt_of_signature ?_
  rw [List.map_drop, List.map_drop, same]

end Index

end Keyword

namespace Specialist

/-- Whatever is decided by kinds and keys is decided alike for requests that agree in
them. -/
theorem routing_of_signature {text other : String}
    (same : (Token.ofText text).map signature = (Token.ofText other).map signature)
    (specialists : List Specialist) :
    Help.isAskedFor text = Help.isAskedFor other ∧
      (∀ s ∈ specialists, s.accepts text = s.accepts other ∧
        s.index.mainHits (Token.ofText text) = s.index.mainHits (Token.ofText other) ∧
        s.chooseReport (Token.ofText text) = s.chooseReport (Token.ofText other)) ∧
      ∀ settings, ((Compiler.mk settings (specialists.map (·.toExpert))).resolve text).toOption =
        ((Compiler.mk settings (specialists.map (·.toExpert))).resolve other).toOption := by
  have scan (s : Specialist) : s.index.scan (Token.ofText text) =
      s.index.scan (Token.ofText other) := Keyword.Index.scan_of_signature same
  refine ⟨?_, fun s _ => ?_, fun settings => ?_⟩
  · simp only [Help.isAskedFor, Token.map_key same]
  · have hits : s.index.mainHits (Token.ofText text) = s.index.mainHits (Token.ofText other) := by
      rw [Keyword.Index.mainHits, Keyword.Index.mainHits, scan]
    refine ⟨accepts_eq (scan s), hits, ?_⟩
    rw [chooseReport, chooseReport, hits]
  · have first : (specialists.map (·.toExpert)).find? (·.accepts text) =
        (specialists.map (·.toExpert)).find? (·.accepts other) := by
      refine List.find?_congr fun expert member => ?_
      obtain ⟨s, -, rfl⟩ := List.mem_map.mp member
      exact accepts_eq (scan s)
    simp only [Compiler.resolve, first]
    split <;> rfl

end Specialist

end Inquiry
