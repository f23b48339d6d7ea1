import Inquiry.Proofs.QuotedValue

/-!
# Exclusions that go on

A field without a condition is shown or left out by what stands in the gap before
it: the tokens since the field that was mentioned last. A comma right behind an
excluded field goes on with the exclusion, and of all tokens in the gap only one
that says nothing to the reading ends it. A marker before a list of fields does
not, and neither does a word like `zuerst`: the fields that are asked for are left
out as well (`marker_keeps_exclusion`).

The reading goes from mention to mention. A mention leaves behind whether the
exclusion goes on, and the steps of a gap keep the fields that are known.
-/

namespace Inquiry.Request

/-- Whether a token steers does not depend on what has been read. -/
theorem Progress.unsteered_of_eq_none {s : Progress} {t : Token} {rest : List Token}
    (h : s.steer? t rest = none) (other : Progress) : other.steer? t rest = none := by
  rw [steer?] at h ⊢
  split at h
  · next word => rw [if_pos word]
  · next word =>
      rw [if_neg word]
      split at h
      · cases h
      · repeat' split at h
        all_goals simp_all

/-- Words before a field that leave it out or turn it into a condition. -/
def refusingWords : List String := excludingWords ++ negatingWords ++ lackingWords

/-- A steering word that refuses nothing only steers the lists of fields. -/
theorem Progress.steer?_keeps {s s' : Progress} {t : Token} {rest behind : List Token}
    (h : s.steer? t rest = some (s', behind)) :
    s'.projections = s.projections ∧ s'.excludeRun = s.excludeRun ∧
      (t.isWordIn refusingWords = false → s'.excludes = s.excludes ∧ s'.lacks = s.lacks) := by
  rw [steer?] at h
  split at h
  · cases h
  · next word =>
      split at h
      · cases h
        exact ⟨rfl, rfl, fun _ => ⟨rfl, rfl⟩⟩
      · repeat' split at h
        all_goals cases h
        all_goals refine ⟨rfl, rfl, fun refuses => ?_⟩
        all_goals simp_all [Token.isWordIn, refusingWords]

namespace Scope

variable {scope : Scope}

/-! ## Steps of the reading -/

/-- A place where the reading mentions a field, with what follows its phrase. -/
structure MentionsAt (scope : Scope) (t : Token) (rest : List Token) (field : String)
    (behind : List Token) : Prop where
  noComma : t.kind ≠ .comma
  unsteered : ∀ s : Progress, s.steer? t rest = none
  found : ∃ m, scope.index.matchAt (t :: rest) = some m ∧
    (m.fieldsOf scope.report ≠ [] ∨ (!m.isMain) = true) ∧
    scope.resolve (t :: rest) m = .ok field ∧ behind = rest.drop (m.length - 1)

theorem MentionsAt.step_eq {t : Token} {rest behind : List Token} {field : String}
    (here : scope.MentionsAt t rest field behind) (s : Progress) :
    scope.step s t rest = scope.mention s field behind := by
  obtain ⟨m, matched, mentioned, resolved, rfl⟩ := here.found
  rw [step, if_neg here.noComma, here.unsteered s]
  simp only [matched, if_pos mentioned, resolved]

/-- A phrase of a field is mentioned where it ends. -/
theorem Names.mentionsAt {t : Token} {others behind : List Token} {field : String}
    (names : scope.Names (t :: others) field behind.head?) :
    scope.MentionsAt t (others ++ behind) field behind := by
  obtain ⟨ends, first, plain⟩ := names
  obtain ⟨fields, split⟩ := List.head?_eq_some_iff.mp first
  refine ⟨(ends.opens t rfl).1, fun s => s.steer?_eq_none plain.head _, _, ends.matchAt_eq,
    .inl ?_, ?_, ?_⟩
  · rw [split]
    exact List.cons_ne_nil field fields
  · rw [resolve, split]
  · simp [Keyword.Index.matchFor]

/-- The reading that goes on from one state and tokens to others. -/
inductive Reaches (scope : Scope) : Progress → List Token → Progress → List Token → Prop where
  | refl (s : Progress) (tokens : List Token) : Reaches scope s tokens s tokens
  | step {s s₁ s' : Progress} {t : Token} {rest left behind : List Token}
      (first : scope.step s t rest = .ok (s₁, left)) (further : Reaches scope s₁ left s' behind) :
      Reaches scope s (t :: rest) s' behind

/-- A gap: tokens before some others that mention no field. -/
inductive Gap (scope : Scope) : Progress → List Token → List Token → Progress → Prop where
  | nil (s : Progress) (behind : List Token) : Gap scope s [] behind s
  | cons {s s₁ s' : Progress} {t : Token} {skipped gap behind : List Token}
      (silent : ∀ field left, ¬ scope.MentionsAt t (skipped ++ (gap ++ behind)) field left)
      (first : scope.step s t (skipped ++ (gap ++ behind)) = .ok (s₁, gap ++ behind))
      (further : Gap scope s₁ gap behind s') :
      Gap scope s (t :: (skipped ++ gap)) behind s'

/-- The start of a request, or what is left of it right behind a mention. -/
inductive Resumes (scope : Scope) (tokens : List Token) : Progress → List Token → Prop where
  | start : Resumes scope tokens {} tokens
  | behind {s s₀ : Progress} {t : Token} {rest phrase left : List Token} {field : String}
      (reaches : Reaches scope {} tokens s (t :: rest))
      (here : scope.MentionsAt t rest field phrase)
      (mentioned : scope.mention s field phrase = .ok (s₀, left)) :
      Resumes scope tokens s₀ left

theorem Reaches.mentions_eq {s s' : Progress} {tokens behind : List Token}
    (h : scope.Reaches s tokens s' behind) :
    scope.mentions s tokens = scope.mentions s' behind := by
  induction h with
  | refl => rfl
  | step first _ ih => exact (mentions_of_step first).trans ih

theorem Gap.mentions_eq {s s' : Progress} {gap behind : List Token}
    (h : scope.Gap s gap behind s') :
    scope.mentions s (gap ++ behind) = scope.mentions s' behind := by
  induction h with
  | nil => rfl
  | cons _ first _ ih =>
      rw [List.cons_append, List.append_assoc, mentions_of_step first, ih]

theorem Resumes.mentions_eq {tokens left : List Token} {s₀ : Progress}
    (h : scope.Resumes tokens s₀ left) : scope.mentions {} tokens = scope.mentions s₀ left := by
  cases h with
  | start => rfl
  | behind reaches here mentioned =>
      rw [reaches.mentions_eq, mentions_of_step ((here.step_eq _).trans mentioned)]

/-- What a step without a mention does: nothing, what a steering word does, or the
end of all lists at a token that says nothing. -/
theorem step_cases {s s' : Progress} {t : Token} {rest behind : List Token}
    (h : scope.step s t rest = .ok (s', behind))
    (silent : ∀ field left, ¬ scope.MentionsAt t rest field left) :
    s' = s ∨ s.steer? t rest = some (s', behind) ∨
      (t.kind ≠ .comma ∧ t.isWordIn stopWords = false ∧
        s' = { s.endRuns with excludes := false, lacks := false }) := by
  rw [step] at h
  split at h
  · cases h
    exact .inl rfl
  · next noComma =>
      split at h
      · next steered =>
          cases h
          exact .inr (.inl steered)
      · next unsteered =>
          split at h
          · next m matched =>
              simp only at h
              split at h
              · next mentioned =>
                  split at h
                  · cases h
                  · next field resolved =>
                      exact absurd ⟨noComma, Progress.unsteered_of_eq_none unsteered, m, matched,
                        mentioned, resolved, rfl⟩ (silent field _)
              · cases h
                exact .inl rfl
          · split at h
            · cases h
              exact .inl rfl
            · next noStop =>
                split at h
                · cases h
                · cases h
                  exact .inr (.inr ⟨noComma, Bool.eq_false_iff.mpr noStop, rfl⟩)

/-- A gap keeps the fields that are known, and it can end an exclusion but not
begin one. -/
theorem Gap.keeps {s s' : Progress} {gap behind : List Token} (h : scope.Gap s gap behind s') :
    s'.projections = s.projections ∧ (s'.excludeRun = true → s.excludeRun = true) := by
  induction h with
  | nil => exact ⟨rfl, id⟩
  | cons silent first _ ih =>
      obtain ⟨projections, excludeRun⟩ := ih
      rw [projections]
      rcases step_cases first silent with rfl | steered | ⟨-, -, rfl⟩
      · exact ⟨rfl, excludeRun⟩
      · obtain ⟨same, run, -⟩ := Progress.steer?_keeps steered
        exact ⟨same, fun h => run ▸ excludeRun h⟩
      · exact ⟨rfl, fun h => absurd (excludeRun h) Bool.false_ne_true⟩

/-- Commas and stop words, all steering words among them, never end an
exclusion. -/
theorem Gap.excludeRun_eq {s s' : Progress} {gap behind : List Token}
    (h : scope.Gap s gap behind s')
    (idle : ∀ t ∈ gap, t.kind = .comma ∨ t.isWordIn stopWords = true) :
    s'.excludeRun = s.excludeRun := by
  induction h with
  | nil => rfl
  | @cons s s₁ s' t skipped gap behind silent first _ ih =>
      rw [ih fun u member => idle u (List.mem_cons_of_mem t (List.mem_append_right skipped member))]
      rcases step_cases first silent with rfl | steered | ⟨noComma, noStop, -⟩
      · rfl
      · exact (Progress.steer?_keeps steered).2.1
      · rcases idle t List.mem_cons_self with comma | stop
        · exact absurd comma noComma
        · rw [noStop] at stop
          cases stop

/-- A gap without refusing words refuses nothing. -/
theorem Gap.affirms {s s' : Progress} {gap behind : List Token} (h : scope.Gap s gap behind s')
    (affirmed : ∀ t ∈ gap, t.isWordIn refusingWords = false) (excludes : s.excludes = false)
    (lacks : s.lacks = false) : s'.excludes = false ∧ s'.lacks = false := by
  induction h with
  | nil => exact ⟨excludes, lacks⟩
  | @cons s s₁ s' t skipped gap behind silent first _ ih =>
      have tail (u : Token) (member : u ∈ gap) := affirmed u
        (List.mem_cons_of_mem t (List.mem_append_right skipped member))
      rcases step_cases first silent with rfl | steered | ⟨-, -, rfl⟩
      · exact ih tail excludes lacks
      · obtain ⟨-, -, same⟩ := Progress.steer?_keeps steered
        obtain ⟨sameExcludes, sameLacks⟩ := same (affirmed t List.mem_cons_self)
        exact ih tail (sameExcludes.trans excludes) (sameLacks.trans lacks)
      · exact ih tail rfl rfl

/-! ## Mentions -/

/-- Behind a mention nothing is refused, and an exclusion goes on only at a comma
right behind an excluded field. -/
theorem mention_cases {s s₀ : Progress} {field : String} {phrase left : List Token}
    (h : scope.mention s field phrase = .ok (s₀, left)) :
    s₀.excludes = false ∧ s₀.lacks = false ∧ (s₀.excludeRun = true →
      left.head?.any (·.kind == .comma) = true ∧
        ∃ known, s₀.projections = known ++ [⟨field, true, none⟩]) := by
  simp only [mention] at h
  split at h
  · obtain ⟨p, -, heq⟩ := ok_of_map h
    cases heq
    exact ⟨rfl, rfl, fun h => absurd h Bool.false_ne_true⟩
  · split at h
    · cases h
    · cases h
      exact ⟨rfl, rfl, fun h => absurd h Bool.false_ne_true⟩
    · cases h
      obtain ⟨_, _, _, heq, goesOn⟩ := Progress.project_eq
        { s with excludes := false, lacks := false } field (s.excludes || s.excludeRun) phrase
      rw [heq]
      refine ⟨rfl, rfl, fun runs => ?_⟩
      obtain ⟨excludes, comma⟩ := goesOn runs
      have excluded : (s.excludes || s.excludeRun) = true := by
        rcases excludes with run | excludes
        · rw [show s.excludeRun = true from run, Bool.or_true]
        · exact excludes
      exact ⟨comma, s.projections, by rw [if_pos excluded]⟩

theorem Resumes.cases {tokens left : List Token} {s₀ : Progress}
    (h : scope.Resumes tokens s₀ left) :
    s₀.excludes = false ∧ s₀.lacks = false ∧ (s₀.excludeRun = true →
      left.head?.any (·.kind == .comma) = true ∧
        ∃ known field, s₀.projections = known ++ [⟨field, true, none⟩]) := by
  cases h with
  | start => exact ⟨rfl, rfl, fun h => absurd h Bool.false_ne_true⟩
  | behind _ _ mentioned =>
      obtain ⟨excludes, lacks, runs⟩ := mention_cases mentioned
      exact ⟨excludes, lacks, fun h => ⟨(runs h).1, (runs h).2.choose, _, (runs h).2.choose_spec⟩⟩

theorem projections_of_mention {s s' : Progress} {field : String} {behind rest : List Token}
    (h : scope.mention s field behind = .ok (s', rest)) : s.projections <+: s'.projections := by
  simp only [mention] at h
  split at h
  · obtain ⟨p, -, heq⟩ := ok_of_map h
    cases heq
    exact List.prefix_refl _
  · split at h
    · cases h
    · cases h
      exact List.prefix_refl _
    · cases h
      rw [Progress.projections_project]
      exact List.prefix_append _ _

/-- Fields that are known stay at the beginning. -/
theorem projections_of_mentions {s s' : Progress} {tokens : List Token}
    (h : scope.mentions s tokens = .ok s') : s.projections <+: s'.projections := by
  fun_induction mentions scope s tokens with
  | case1 s =>
      cases h
      exact List.prefix_refl _
  | case2 => cases h
  | case3 s t rest s₁ behind heq ih =>
      refine List.IsPrefix.trans ?_ (ih h)
      by_cases mentioned : ∃ field left, scope.MentionsAt t rest field left
      · obtain ⟨field, left, here⟩ := mentioned
        exact projections_of_mention ((here.step_eq s).symm.trans heq)
      · have silent : ∀ field left, ¬ scope.MentionsAt t rest field left :=
          fun field left here => mentioned ⟨field, left, here⟩
        rcases step_cases heq silent with rfl | steered | ⟨-, -, rfl⟩
        · exact List.prefix_refl _
        · rw [(Progress.steer?_keeps steered).1]
        · exact List.prefix_refl _

/-- A word like `zuerst` gives the field behind it the next place. -/
theorem place_of_first {s s' : Progress} {t : Token} {behind : List Token}
    (first : t.isWordIn firstWords = true) (h : scope.Gap s [t] behind s') :
    s'.place = some s.nextPlace := by
  obtain ⟨word, listed⟩ := isWordIn_iff.mp first
  have marker : afterAnyPhrase? fieldListMarkers (t :: behind) = none :=
    afterAnyPhrase?_eq_none _ (by decide) (isWordIn_of_apart first (by decide)) behind
  have steered : s.steer? t behind = some ({ s with place := some s.nextPlace }, behind) := by
    rw [Progress.steer?, if_neg (not_not.mpr word), marker]
    simp only [if_pos (List.contains_iff_mem.mpr listed)]
  have noComma : t.kind ≠ .comma := by simp [word]
  generalize only : [t] = gap at h
  cases h with
  | nil => cases only
  | @cons _ s₁ _ _ skipped gap _ _ step further =>
      obtain ⟨rfl, none⟩ := List.cons.inj only
      obtain ⟨rfl, rfl⟩ := List.append_eq_nil_iff.mp none.symm
      rw [List.nil_append, List.nil_append, Scope.step, if_neg noComma, steered] at step
      cases step
      cases further
      rfl

/-! ## Fields without a condition -/

/-- What is left of a request without its sort block and its row limit. -/
def Leaves (scope : Scope) (tokens left : List Token) : Prop :=
  ∃ keys unsorted limit, scope.sorting tokens = .ok (keys, unsorted) ∧
    scope.rowLimit unsorted = .ok (limit, left)

theorem Leaves.mentions_ok {tokens left : List Token} {query : Query}
    (leaves : scope.Leaves tokens left) (read : scope.readTokens tokens = .ok query) :
    ∃ s, scope.mentions {} left = .ok s ∧ query.projections = s.projections := by
  obtain ⟨_, _, _, sorted, limited⟩ := leaves
  obtain ⟨_, _, s, sorted', limited', mentioned, -, projections⟩ := passes_of_readTokens read
  rw [sorted] at sorted'
  cases sorted'
  rw [limited] at limited'
  cases limited'
  exact ⟨s, mentioned, projections⟩

/-- A field without a condition, in a gap before which nothing refuses it, is added
to the fields that are known before the gap: left out exactly if an exclusion goes
on, and otherwise shown at its place. An exclusion goes on only if the last field
was left out and a comma stands right behind it. But then it goes on through every
gap of commas and stop words, whatever markers and steering words are among them.
A word like `zuerst` right before the field gives it the next place. -/
theorem projection_of_bare_mention {tokens left gap rest behind : List Token} {query : Query}
    {s₀ s : Progress} {t : Token} {field : String}
    (read : scope.readTokens tokens = .ok query) (leaves : scope.Leaves tokens left)
    (resumes : scope.Resumes left s₀ (gap ++ t :: rest)) (silent : scope.Gap s₀ gap (t :: rest) s)
    (affirmed : ∀ u ∈ gap, u.isWordIn refusingWords = false)
    (here : scope.MentionsAt t rest field behind)
    (bare : scope.condition? field false behind = .ok none) :
    (∃ more, query.projections = s₀.projections ++
      (if s.excludeRun then ⟨field, true, none⟩ else ⟨field, false, s.place⟩) :: more) ∧
    (s.excludeRun = true → (∃ comma ∈ gap.head?, comma.kind = .comma) ∧
      ∃ known last, s₀.projections = known ++ [⟨last, true, none⟩]) ∧
    ((∀ u ∈ gap, u.kind = .comma ∨ u.isWordIn stopWords = true) →
      s.excludeRun = s₀.excludeRun) ∧
    ∀ front first s₁, scope.Gap s₀ front (first :: t :: rest) s₁ →
      scope.Gap s₁ [first] (t :: rest) s → first.isWordIn firstWords = true →
        s.place = some s₀.nextPlace := by
  obtain ⟨excludes, lacks, runs⟩ := resumes.cases
  obtain ⟨projections, goesOn⟩ := silent.keeps
  obtain ⟨noExclude, noLack⟩ := silent.affirms affirmed excludes lacks
  refine ⟨?_, ?_, silent.excludeRun_eq, ?_⟩
  · obtain ⟨last, mentioned, heq⟩ := leaves.mentions_ok read
    have step : scope.step s t rest =
        .ok (({ s with excludes := false, lacks := false } : Progress).project field
          s.excludeRun behind, behind) := by
      rw [here.step_eq, mention]
      simp only [noLack, noExclude, bare, Bool.false_eq_true, if_false, Bool.false_or]
    rw [resumes.mentions_eq, silent.mentions_eq, mentions_of_step step] at mentioned
    obtain ⟨more, kept⟩ := projections_of_mentions mentioned
    rw [Progress.projections_project] at kept
    refine ⟨more, ?_⟩
    rw [heq, ← kept, ← projections, List.append_assoc]
    rfl
  · intro run
    obtain ⟨comma, excluded⟩ := runs (goesOn run)
    refine ⟨?_, excluded⟩
    cases gap with
    | nil =>
        simp only [List.nil_append, List.head?_cons, Option.any_some, beq_iff_eq] at comma
        exact absurd comma here.noComma
    | cons u gap =>
        simp only [List.cons_append, List.head?_cons, Option.any_some, beq_iff_eq] at comma
        exact ⟨u, rfl, comma⟩
  · intro front first s₁ before last isFirst
    rw [place_of_first isFirst last, Progress.nextPlace, Progress.nextPlace, before.keeps.1]

/-- Without a comma, a field asked for behind an excluded one is shown, and first. -/
theorem projection_of_bare_mention_towns :
    ∃ query more, towns.readTokens
        [⟨"Ohne", "ohne", .word⟩, ⟨"Ort", "ort", .word⟩, ⟨"zuerst", "zuerst", .word⟩,
          ⟨"Einwohner", "einwohner", .word⟩] = .ok query ∧
      query.projections = ⟨"ort", true, none⟩ :: ⟨"einwohner", false, some 0⟩ :: more := by
  have ort : towns.Names [⟨"Ort", "ort", .word⟩] "ort" (some ⟨"zuerst", "zuerst", .word⟩) :=
    ⟨by decide +kernel, by decide +kernel, by decide +kernel⟩
  have einwohner : towns.Names [⟨"Einwohner", "einwohner", .word⟩] "einwohner" none :=
    ⟨by decide +kernel, by decide +kernel, by decide +kernel⟩
  have resumes : towns.Resumes
      [⟨"Ohne", "ohne", .word⟩, ⟨"Ort", "ort", .word⟩, ⟨"zuerst", "zuerst", .word⟩,
        ⟨"Einwohner", "einwohner", .word⟩] { projections := [⟨"ort", true, none⟩] }
      [⟨"zuerst", "zuerst", .word⟩, ⟨"Einwohner", "einwohner", .word⟩] :=
    .behind (.step rfl (.refl { excludes := true } _))
      (@Names.mentionsAt towns _ [] [_, _] _ ort) rfl
  have first : towns.Gap { projections := [⟨"ort", true, none⟩] } [⟨"zuerst", "zuerst", .word⟩]
      [⟨"Einwohner", "einwohner", .word⟩]
      { projections := [⟨"ort", true, none⟩], place := some 0 } :=
    @Gap.cons towns _ _ _ _ [] [] _ (fun _ _ here => nomatch here.unsteered {}) rfl (.nil _ _)
  have readable : (towns.readTokens
      [⟨"Ohne", "ohne", .word⟩, ⟨"Ort", "ort", .word⟩, ⟨"zuerst", "zuerst", .word⟩,
        ⟨"Einwohner", "einwohner", .word⟩]).isOk = true := by
    decide +kernel
  have leaves : towns.Leaves
      [⟨"Ohne", "ohne", .word⟩, ⟨"Ort", "ort", .word⟩, ⟨"zuerst", "zuerst", .word⟩,
        ⟨"Einwohner", "einwohner", .word⟩]
      [⟨"Ohne", "ohne", .word⟩, ⟨"Ort", "ort", .word⟩, ⟨"zuerst", "zuerst", .word⟩,
        ⟨"Einwohner", "einwohner", .word⟩] :=
    ⟨[], _, none, rfl, rfl⟩
  obtain ⟨query, run⟩ := ok_of_isOk readable
  obtain ⟨⟨more, projections⟩, -⟩ := projection_of_bare_mention run leaves resumes first
    (by decide) (@Names.mentionsAt towns _ [] [] _ einwohner) rfl
  exact ⟨query, more, run, projections⟩

/-- A comma behind an excluded field leaves out the fields that are asked for
behind it, and the field that is to come first. -/
theorem marker_keeps_exclusion :
    (towns.read "Orte ohne Ort, mit Feldern Einwohner").map (·.projections) =
      .ok [⟨"ort", true, none⟩, ⟨"einwohner", true, none⟩] ∧
    (towns.read "Orte ohne Ort, zuerst Einwohner").map (·.projections) =
      .ok [⟨"ort", true, none⟩, ⟨"einwohner", true, none⟩] := by
  decide +kernel

end Scope

end Inquiry.Request
