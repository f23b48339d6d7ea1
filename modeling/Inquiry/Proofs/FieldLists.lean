import Inquiry.Proofs.Exclusion
import Inquiry.Proofs.Lookahead
import Inquiry.Proofs.SortLists

/-!
# Field lists

A marker such as `mit Feldern` opens a list of fields, in which every word has to be a
field. The list goes on at every comma and every `und`, behind keywords of the report and
stop words alike. So a list of keywords is read as these columns and nothing else, and
the first word that is neither a keyword nor a stop word is named as unknown
(`Catalogue.readTokens_field_list`).

Only words are refused. A number, a date or a quoted text that stands in the list where
a field should ends it, and a word behind it is passed over
(`Catalogue.quoted_text_ends_list`).
-/

namespace Inquiry

namespace Request

open Keyword

/-- The phrases with which a sort block or a row limit begins. -/
def blockMarkers : List (List String) := sortMarkers ++ limitMarkers

/-- The first words of these phrases. -/
def blockHeads : List String := blockMarkers.filterMap (·.head?)

/-- Stop words that do not leave a list of fields open: `limit`, behind which a number has to
stand, and the words that make a condition of the next field. -/
def closingWords : List String := ["limit"] ++ lackingWords

/-- What is read in a list of fields that goes on, with the fields that are known. -/
def Progress.listed (projections : List Projection) : Progress := { projections, listing := true }

/-- What has been read, where a list goes on and the next field is no condition. -/
structure Progress.Lists (s : Progress) : Prop where
  listing : s.listing = true
  valued : s.lacks = false

/-- The fields of a list, each of them shown and without a place. -/
def shownAll (fields : List String) : List Projection := fields.map (⟨·, false, none⟩)

/-- A separator is none of the words that are apart from `und` and `dann`. -/
theorem Separates.isWordIn_eq_false {t : Token} (separates : Separates t) {words : List String}
    (apart : ∀ w ∈ ["und", "dann"], words.contains w = false) : t.isWordIn words = false := by
  rcases separates with rfl | word
  · rfl
  · exact isWordIn_of_apart word apart

theorem Progress.lists_listed (projections : List Projection) : (listed projections).Lists :=
  ⟨rfl, rfl⟩

/-- Behind a field that is shown or left out, a separator leaves a list open. -/
theorem Progress.Lists.project {s : Progress} (lists : s.Lists) {t : Token}
    (separates : Separates t) (field : String) (exclude : Bool) (rest : List Token) :
    (s.project field exclude (t :: rest)).Lists := by
  have goesOn : (t :: rest).head?.any (·.kind == .comma) = true ∨
      beginsWith ("und" :: nextWords) (t :: rest) = true := by
    rcases separates with rfl | word
    · exact .inl rfl
    · exact .inr (isWordIn_mono word (by decide))
  unfold Progress.project
  by_cases comma : (t :: rest).head?.any (·.kind == .comma) = true
  · simp only [comma, if_true]
    cases exclude <;> exact ⟨lists.listing, lists.valued⟩
  · simp only [comma, goesOn.resolve_left comma, if_true]
    cases exclude <;> exact ⟨lists.listing, lists.valued⟩

namespace Scope

variable {scope : Scope} {phrase separators behind : List Token} {field : Option String}
variable {projections : List Projection} {s : Progress} {t u w : Token}

/-- Keywords that can stand in a list and that no steering word is part of. -/
structure HasFieldLists (scope : Scope) : Prop extends scope.HasListKeywords where
  unreserved : ∀ keys ∈ scope.index.phrases, ∀ key ∈ keys, key ∉ reservedKeys

/-- What can stand in a list of fields without an end to it: a keyword of the report, or a
stop word that leaves the list open and begins no keyword. -/
inductive ListItem (scope : Scope) : List Token → Prop where
  | keyword {phrase : List Token} {field : Option String}
      (spells : scope.report.Spells phrase field) : ListItem scope phrase
  | stop {u : Token} (stops : u.isWordIn stopWords = true)
      (opens : u.isWordIn closingWords = false)
      (unregistered : ∀ keys ∈ scope.index.phrases, keys.head? ≠ some u.key) :
      ListItem scope [u]

/-- A word that is no field, no stop word and no command, and begins no keyword. -/
structure IsUnknown (scope : Scope) (w : Token) : Prop where
  word : w.kind = .word
  unlisted : w.isWordIn (stopWords ++ commandWords) = false
  unregistered : ∀ keys ∈ scope.index.phrases, keys.head? ≠ some w.key

/-! ## Steps in a list -/

/-- A marker opens a list. -/
theorem mentions_marker {marker : List String} (known : marker ∈ fieldListMarkers)
    {mark : List Token} (spelt : Spelt marker mark) (s : Progress) (rest : List Token) :
    scope.mentions s (mark ++ rest) = scope.mentions { s with listing := true } rest := by
  have found : afterAnyPhrase? fieldListMarkers (mark ++ rest) = some rest :=
    afterAnyPhrase?_of_spelt (by decide) known spelt rest
  cases spelt with
  | nil => exact absurd known (by decide)
  | @cons _ t _ others own further =>
      rw [List.cons_append] at found ⊢
      apply mentions_of_step
      have steered : s.steer? t (others ++ rest) = some ({ s with listing := true }, rest) := by
        rw [Progress.steer?, if_neg (not_not.mpr own.1), found]
      rw [step, if_neg (by simp [own.1]), steered]

/-- The only marker that begins with a separator. -/
theorem separates_marker (separates : Separates t) (word : t.kind = .word) {words : List String}
    (known : t.key :: words ∈ fieldListMarkers) : words = ["zwar"] := by
  have own : t.key ∈ ["und", "dann"] := by
    rcases separates with rfl | isWord
    · cases word
    · exact (isWordIn_iff.mp isWord).2
  have only : ∀ marker ∈ fieldListMarkers, ∀ key ∈ ["und", "dann"], marker.head? = some key →
      marker.tail = ["zwar"] := by decide
  exact only _ known _ own rfl

/-- Without `und` in front of it, `zwar` is a stop word and nothing else. -/
theorem mentions_zwar (lists : scope.HasFieldLists) (word : u.kind = .word) (key : u.key = "zwar")
    (s : Progress) (rest : List Token) : scope.mentions s (u :: rest) = scope.mentions s rest := by
  have isIn (words : List String) : u.isWordIn words = words.contains "zwar" := by
    rw [Token.isWordIn, word, key, beq_self_eq_true, Bool.true_and]
  have marker : afterAnyPhrase? fieldListMarkers (u :: rest) = none :=
    afterAnyPhrase?_eq_none _ (by decide) ((isIn _).trans (by decide)) rest
  have steers := Progress.steer?_eq_none_of_unmarked marker ((isIn _).trans (by decide)) s
  have unregistered : ∀ keys ∈ scope.index.phrases, keys.head? ≠ some u.key := by
    intro keys registered begins
    exact lists.unreserved keys registered u.key (List.mem_of_head? begins) (by rw [key]; decide)
  apply mentions_of_step
  rw [step, if_neg (by simp [word]), steers]
  simp only [matchAt_unregistered unregistered, isIn stopWords]
  rfl

/-- A separator says nothing, unless a marker begins with it. -/
theorem step_separator (separates : Separates t) {rest : List Token}
    (noMarker : afterAnyPhrase? fieldListMarkers (t :: rest) = none) (s : Progress) :
    scope.step s t rest = .ok (s, rest) := by
  rcases separates with rfl | word
  · rw [step, if_pos rfl]
  · obtain ⟨kind, known⟩ := isWordIn_iff.mp word
    rw [step, if_neg (by simp [kind])]
    rcases List.mem_pair.mp known with own | own <;>
      simp [Progress.steer?, kind, noMarker, own, firstWords, nextWords]

/-- Separators say nothing, unless `und` goes on as a marker. -/
theorem mentions_separators (separate : ∀ t ∈ separators, Separates t)
    (next : ∀ t ∈ behind.head?, t.key ≠ "zwar") (s : Progress) :
    scope.mentions s (separators ++ behind) = scope.mentions s behind := by
  induction separators with
  | nil => rfl
  | cons t rest ih =>
      have tail := fun t member => separate t (List.mem_cons_of_mem _ member)
      have own := separate t List.mem_cons_self
      have noZwar : ∀ u ∈ (rest ++ behind).head?, u.key ≠ "zwar" := by
        cases rest with
        | nil => exact next
        | cons u rest =>
            rintro _ ⟨⟩
            rcases tail u List.mem_cons_self with rfl | word
            · decide
            · rcases List.mem_pair.mp (isWordIn_iff.mp word).2 with own | own <;> simp [own]
      have noMarker : afterAnyPhrase? fieldListMarkers (t :: (rest ++ behind)) = none := by
        rw [Option.eq_none_iff_forall_ne_some]
        intro left found
        obtain ⟨word, words, more, known, spelt, split⟩ :=
          exists_of_afterAnyPhrase? (by decide) found
        obtain rfl := separates_marker own word known
        cases spelt with
        | cons zwar _ => exact noZwar _ (by rw [split]; rfl) zwar.2
      rw [List.cons_append]
      exact (mentions_of_step (step_separator own noMarker s)).trans (ih tail)

/-- In a list that goes on, separators say nothing at all: a marker opens it once more. -/
theorem mentions_separators_listing (lists : scope.HasFieldLists)
    (separate : ∀ t ∈ separators, Separates t) (listing : s.listing = true)
    (behind : List Token) : scope.mentions s (separators ++ behind) = scope.mentions s behind := by
  induction separators with
  | nil => rfl
  | cons t rest ih =>
      have tail := fun t member => separate t (List.mem_cons_of_mem _ member)
      rw [List.cons_append, ← ih tail]
      have own := separate t List.mem_cons_self
      cases marked : afterAnyPhrase? fieldListMarkers (t :: (rest ++ behind)) with
      | none => exact mentions_of_step (step_separator own marked s)
      | some left =>
          obtain ⟨word, words, more, known, spelt, split⟩ :=
            exists_of_afterAnyPhrase? (by decide) marked
          obtain rfl := separates_marker own word known
          have opened : scope.step s t (rest ++ behind) = .ok (s, left) := by
            have steered : s.steer? t (rest ++ behind) =
                some ({ s with listing := true }, left) := by
              rw [Progress.steer?, if_neg (not_not.mpr word), marked]
            rw [step, if_neg (by simp [word]), steered, ← listing]
          cases spelt with
          | cons zwar ends =>
              cases ends
              rw [mentions_of_step opened, split, List.singleton_append,
                mentions_zwar lists zwar.1 zwar.2]

/-- No condition begins at a separator. -/
theorem condition?_of_separates (separates : Separates t) (field : String) (negate : Bool)
    (rest : List Token) : scope.condition? field negate (t :: rest) = .ok none := by
  by_contra reads
  have starts := (startsCondition_eq_iff scope field negate (t :: rest)).1 reads
  rw [startsCondition_of_separates separates.separatesSortKeys_eq] at starts
  cases starts

/-- A field in front of a separator is shown or left out, whatever has been read. -/
theorem mention_separated (valued : s.lacks = false) (separates : Separates t) (field : String)
    (rest : List Token) :
    scope.mention s field (t :: rest) =
      .ok (({ s with excludes := false, lacks := false } : Progress).project field
        (s.excludes || s.excludeRun) (t :: rest), t :: rest) := by
  have read : scope.condition? field s.excludes (t :: rest) = .ok none :=
    condition?_of_separates separates field s.excludes rest
  simp only [mention, valued, Bool.false_eq_true, if_false, read]

/-- In a list it is one more field. -/
theorem mention_listed (separates : Separates t) (field : String) (rest : List Token) :
    scope.mention (.listed projections) field (t :: rest) =
      .ok (.listed (projections ++ shownAll [field]), t :: rest) := by
  rw [mention_separated rfl separates]
  rcases separates with rfl | word
  · rfl
  · have goesOn : beginsWith ("und" :: nextWords) (t :: rest) = true :=
      isWordIn_mono word (by decide)
    have noComma : t.kind ≠ .comma := by simp [(isWordIn_iff.mp word).1]
    simp [Progress.project, Progress.listed, goesOn, noComma, shownAll]

/-- No phrase goes on with a separator. -/
theorem HasFieldLists.longest (lists : scope.HasFieldLists) (separates : Separates t)
    (phrase rest : List Token) : ∀ u ∈ (t :: rest).head?, ∀ longer ∈ scope.index.phrases,
      ¬ phrase.map (·.key) ++ [u.key] <+: longer := by
  rintro u ⟨⟩ longer known goesOn
  exact lists.spare longer known t.key (goesOn.subset (by simp)) separates.mem_listKeys

/-- A marker that does not go on with the second token is the first one alone. -/
theorem single_of_afterPhrase? {marker : List String} (nonempty : marker ≠ [])
    (ends : t.isWordIn marker.tail = false) {rest left : List Token}
    (found : afterPhrase? marker (u :: t :: rest) = some left) :
    marker = [u.key] ∧ left = t :: rest := by
  cases marker with
  | nil => exact absurd rfl nonempty
  | cons first more =>
      rw [afterPhrase?] at found
      split at found
      · next own =>
          cases more with
          | nil =>
              cases found
              exact ⟨by rw [own.2], rfl⟩
          | cons second others =>
              rw [afterPhrase?] at found
              split at found
              · next here =>
                  have later : t.isWordIn (second :: others) = true :=
                    isWordIn_iff.mpr ⟨here.1, here.2 ▸ List.mem_cons_self⟩
                  rw [List.tail_cons, later] at ends
                  cases ends
              · cases found
      · cases found

/-- A word that leaves a list open steers at most how the next field is shown. -/
theorem lists_of_steer? (opens : u.isWordIn closingWords = false) (separates : Separates t)
    (listing : s.Lists) {s' : Progress} {rest left : List Token}
    (steered : s.steer? u (t :: rest) = some (s', left)) : s'.Lists ∧ left = t :: rest := by
  rw [Progress.steer?] at steered
  split at steered
  · cases steered
  · next word =>
      have word : u.kind = .word := Classical.not_not.mp word
      split at steered
      · next found =>
          obtain ⟨marker, known, found⟩ := List.exists_of_findSome?_eq_some found
          cases steered
          have apart : ∀ m ∈ fieldListMarkers, m ≠ [] ∧
              ∀ w ∈ ["und", "dann"], m.tail.contains w = false := by decide
          obtain ⟨nonempty, later⟩ := apart marker known
          exact ⟨⟨rfl, listing.valued⟩,
            (single_of_afterPhrase? nonempty (separates.isWordIn_eq_false later) found).2⟩
      · split_ifs at steered with first next other refusing lacking
        · cases steered
          exact ⟨⟨listing.listing, listing.valued⟩, rfl⟩
        · cases steered
          exact ⟨listing, rfl⟩
        · cases steered
          exact ⟨⟨listing.listing, listing.valued⟩, rfl⟩
        · cases steered
          exact ⟨⟨listing.listing, listing.valued⟩, rfl⟩
        · have closes : u.isWordIn closingWords = true := isWordIn_iff.mpr
            ⟨word, List.mem_append_right _ (List.contains_iff_mem.mp lacking)⟩
          rw [opens] at closes
          cases closes

/-- In front of a separator a list goes on behind everything that can stand in it. -/
theorem ListItem.lists (item : scope.ListItem phrase) (lists : scope.HasFieldLists)
    (separates : Separates t) (listing : s.Lists) (rest : List Token) :
    ∃ s', s'.Lists ∧
      scope.mentions s (phrase ++ t :: rest) = scope.mentions s' (t :: rest) := by
  cases item with
  | @keyword phrase field spells =>
      have apart := lists.longest separates phrase rest
      cases field with
      | none =>
          have asks := asks_of_holds lists.clear lists.holds spells apart
          exact ⟨s, listing, asks.mentions_eq s⟩
      | some field =>
          have names := names_of_holds lists.clear lists.holds spells apart
          have shown : ({ s with excludes := false, lacks := false } : Progress).Lists :=
            ⟨listing.listing, rfl⟩
          refine ⟨_, shown.project separates field (s.excludes || s.excludeRun) rest, ?_⟩
          rw [names.mentions_eq, mention_separated listing.valued separates]
          rfl
  | @stop u stops opens unregistered =>
      have noComma : u.kind ≠ .comma := by simp [(isWordIn_iff.mp stops).1]
      cases steered : s.steer? u (t :: rest) with
      | some next =>
          obtain ⟨s', left⟩ := next
          obtain ⟨steers, rfl⟩ := lists_of_steer? opens separates listing steered
          refine ⟨s', steers, ?_⟩
          rw [List.singleton_append]
          apply mentions_of_step
          rw [step, if_neg noComma, steered]
      | none =>
          refine ⟨s, listing, ?_⟩
          rw [List.singleton_append]
          apply mentions_of_step
          rw [step, if_neg noComma, steered]
          simp only [matchAt_unregistered unregistered, stops, if_true]

/-- What begins no keyword and is no stop word and no command is refused in a list if it
is a word, and ends the list otherwise. -/
theorem step_unregistered (noComma : w.kind ≠ .comma)
    (unlisted : w.isWordIn (stopWords ++ commandWords) = false)
    (unregistered : ∀ keys ∈ scope.index.phrases, keys.head? ≠ some w.key) (s : Progress)
    (rest : List Token) :
    scope.step s w rest = if s.listing ∧ w.kind = .word then .error (scope.unknownField w)
      else .ok ({ s.endRuns with excludes := false, lacks := false }, rest) := by
  have steers := Progress.steer?_eq_none
    (isWordIn_of_subset unlisted (List.subset_append_right _ _)) s rest
  have noStop := isWordIn_of_subset unlisted (List.subset_append_left stopWords commandWords)
  rw [step, if_neg noComma, steers]
  simp only [matchAt_unregistered unregistered, noStop, Bool.false_eq_true, if_false]

/-- What is not refused is passed over. -/
theorem mentions_unregistered (noComma : w.kind ≠ .comma)
    (unlisted : w.isWordIn (stopWords ++ commandWords) = false)
    (unregistered : ∀ keys ∈ scope.index.phrases, keys.head? ≠ some w.key) {s : Progress}
    (passes : ¬ (s.listing = true ∧ w.kind = .word)) (rest : List Token) :
    scope.mentions s (w :: rest) =
      scope.mentions { s.endRuns with excludes := false, lacks := false } rest := by
  apply mentions_of_step
  rw [step_unregistered noComma unlisted unregistered, if_neg passes]

/-! ## Lists -/

end Scope

/-- What stands in a list of fields, and the separators behind it. -/
structure ListEntry where
  phrase : List Token
  separators : List Token

/-- The tokens of an entry. -/
def ListEntry.tokens (e : ListEntry) : List Token := e.phrase ++ e.separators

/-- An entry at which a list goes on. -/
structure ListEntry.GoesOn (e : ListEntry) (scope : Scope) : Prop where
  item : scope.ListItem e.phrase
  ne : e.separators ≠ []
  separate : ∀ t ∈ e.separators, Separates t

/-- What stands in an entry is in front of a separator, and its separators say nothing in a
list that goes on. -/
theorem ListEntry.GoesOn.separated {e : ListEntry} {scope : Scope} (goesOn : e.GoesOn scope)
    (lists : scope.HasFieldLists) (behind : List Token) :
    ∃ t rest, Separates t ∧ e.tokens ++ behind = e.phrase ++ t :: rest ∧
      ∀ s : Progress, s.listing = true →
        scope.mentions s (t :: rest) = scope.mentions s behind := by
  obtain ⟨-, ne, separate⟩ := goesOn
  obtain ⟨t, others, split⟩ := List.exists_cons_of_ne_nil ne
  refine ⟨t, others ++ behind, separate t (split ▸ List.mem_cons_self), ?_, fun s listing => ?_⟩
  · rw [ListEntry.tokens, split, List.append_assoc, List.cons_append]
  · rw [← List.cons_append, ← split]
    exact Scope.mentions_separators_listing lists separate listing behind

namespace Scope

variable {scope : Scope} {entries : List ListEntry} {behind : List Token}
variable {projections : List Projection} {s : Progress} {w : Token}

/-- No keyword begins with the word that makes a marker of `und`. -/
theorem head?_ne_zwar_of_spells (lists : scope.HasFieldLists) {phrase : List Token}
    {field : Option String} (spells : scope.report.Spells phrase field) (rest : List Token) :
    ∀ t ∈ (phrase ++ rest).head?, t.key ≠ "zwar" := by
  have registered := registered_of_spells lists.holds.mem spells
  cases phrase with
  | nil => exact absurd rfl (Index.ne_nil_of_mem_phrases registered)
  | cons t others =>
      rintro _ ⟨⟩ zwar
      exact lists.unreserved _ registered t.key List.mem_cons_self (by rw [zwar]; decide)

/-- A list of columns goes on with their fields. -/
theorem mentions_columns (lists : scope.HasFieldLists) {fields : List String}
    (columns : List.Forall₂ (fun e field => scope.report.Spells e.phrase (some field)) entries
      fields) (goOn : ∀ e ∈ entries, e.GoesOn scope) :
    scope.mentions (.listed projections) (entries.flatMap ListEntry.tokens ++ behind) =
      scope.mentions (.listed (projections ++ shownAll fields)) behind := by
  induction columns generalizing projections with
  | nil => simp [shownAll]
  | @cons e field entries fields spells _ ih =>
      have tail := fun e member => goOn e (List.mem_cons_of_mem _ member)
      obtain ⟨t, rest, separates, split, silent⟩ := (goOn e List.mem_cons_self).separated lists
        (entries.flatMap ListEntry.tokens ++ behind)
      have names := names_of_holds lists.clear lists.holds spells
        (lists.longest separates e.phrase rest)
      rw [List.flatMap_cons, List.append_assoc, split, names.mentions_eq,
        mention_listed separates, Except.bind, silent _ rfl, ih tail, shownAll, shownAll, shownAll,
        List.append_assoc]
      rfl

/-- A list goes on at all its entries. -/
theorem mentions_entries (lists : scope.HasFieldLists) (goOn : ∀ e ∈ entries, e.GoesOn scope)
    (listing : s.Lists) :
    ∃ s', s'.Lists ∧
      scope.mentions s (entries.flatMap ListEntry.tokens ++ behind) = scope.mentions s' behind := by
  induction entries generalizing s with
  | nil => exact ⟨s, listing, rfl⟩
  | cons e entries ih =>
      have tail := fun e member => goOn e (List.mem_cons_of_mem _ member)
      obtain ⟨t, rest, separates, split, silent⟩ := (goOn e List.mem_cons_self).separated lists
        (entries.flatMap ListEntry.tokens ++ behind)
      obtain ⟨s₁, open₁, item⟩ := (goOn e List.mem_cons_self).item.lists lists separates listing
        rest
      obtain ⟨s₂, open₂, others⟩ := ih tail open₁
      refine ⟨s₂, open₂, ?_⟩
      rw [List.flatMap_cons, List.append_assoc, split, item, silent s₁ open₁.listing, others]

/-- A keyword of a column at the end of a request ends the list with its field. -/
theorem mentions_last (lists : scope.HasFieldLists) {last : List Token} {field : String}
    (spells : scope.report.Spells last (some field)) :
    scope.mentions (.listed projections) last =
      .ok { projections := projections ++ shownAll [field] } := by
  have names : scope.Names last field ([] : List Token).head? :=
    names_of_holds lists.clear lists.holds spells (by simp)
  have shown : scope.mention (.listed projections) field [] =
      .ok ({ projections := projections ++ shownAll [field] }, []) := rfl
  have read := names.mentions_eq (.listed projections)
  rw [List.append_nil, shown] at read
  rw [read, Except.bind, mentions]

/-- A main keyword and a marker open a list. -/
theorem mentions_opened (lists : scope.HasFieldLists) {main mark : List Token}
    (spells : scope.report.Spells main none) {marker : List String}
    (opens : marker ∈ fieldListMarkers) (spelt : Spelt marker mark) (behind : List Token) :
    scope.mentions {} (main ++ mark ++ behind) = scope.mentions (.listed []) behind := by
  have apart : ∀ t ∈ (mark ++ behind).head?, ∀ longer ∈ scope.index.phrases,
      ¬ main.map (·.key) ++ [t.key] <+: longer := by
    have reserved : ∀ m ∈ fieldListMarkers, m ≠ [] ∧ ∀ w ∈ m.head?, w ∈ reservedKeys := by decide
    obtain ⟨ne, heads⟩ := reserved marker opens
    obtain ⟨u, others, rfl, first⟩ := spelt.exists_head ne
    rintro _ ⟨⟩ longer known goesOn
    refine lists.unreserved longer known u.key (goesOn.subset (by simp)) (heads u.key ?_)
    exact Option.mem_toList.mp (isWordIn_iff.mp first).2
  have asks := asks_of_holds lists.clear lists.holds spells apart
  rw [List.append_assoc, asks.mentions_eq, mentions_marker opens spelt]
  rfl

/-! ## The first two passes -/

variable {tokens rest left : List Token}

theorem unmarked_of_free (free : ∀ t ∈ tokens, t.isWordIn blockHeads = false)
    {phrases : List (List String)} (nonempty : [] ∉ phrases)
    (subset : phrases.filterMap (·.head?) ⊆ blockHeads) (rest : List Token) :
    Unmarked phrases tokens rest :=
  .of_heads nonempty (fun t member => isWordIn_of_subset (free t member) subset) rest

theorem free_of_plain (plain : Plain tokens) : ∀ t ∈ tokens, t.isWordIn blockHeads = false :=
  fun t member => isWordIn_of_subset (plain t member) (by decide)

/-- Tokens that the first two passes leave where they are, in front of others: no sort block
begins at them, and no row limit is read. -/
structure Unblocked (scope : Scope) (tokens rest : List Token) : Prop where
  unsorted : Unmarked sortMarkers tokens rest
  unlimited : ∀ before,
    scope.limitBehind before (tokens ++ rest) = scope.limitBehind (before ++ tokens) rest

namespace Unblocked

/-- Tokens at which neither begins. -/
theorem of_unmarked (unmarked : Unmarked blockMarkers tokens rest) :
    scope.Unblocked tokens rest :=
  ⟨unmarked.mono (by decide), limitBehind_unmarked (unmarked.mono (by decide))⟩

theorem of_free (free : ∀ t ∈ tokens, t.isWordIn blockHeads = false) (rest : List Token) :
    scope.Unblocked tokens rest :=
  of_unmarked (unmarked_of_free free (by decide) (List.Subset.refl _) rest)

theorem append {own : List Token} (h : scope.Unblocked tokens (own ++ rest))
    (h' : scope.Unblocked own rest) : scope.Unblocked (tokens ++ own) rest where
  unsorted := h.unsorted.append h'.unsorted
  unlimited before := by
    rw [List.append_assoc, h.unlimited, h'.unlimited, List.append_assoc]

/-- If nothing follows, all tokens are left. -/
theorem leaves (h : scope.Unblocked tokens []) :
    scope.sorting tokens = .ok ([], tokens) ∧ scope.rowLimit tokens = .ok (none, tokens) := by
  refine ⟨sorting_of_unmarked h.unsorted, ?_⟩
  have whole := h.unlimited []
  rwa [List.append_nil, limitBehind] at whole

end Unblocked

/-- They are left at the beginning, whatever follows. -/
theorem Leaves.exists_append (leaves : scope.Leaves (tokens ++ rest) left)
    (unblocked : ∀ rest, scope.Unblocked tokens rest) : ∃ more, left = tokens ++ more := by
  obtain ⟨keys, unsorted, limit, sorted, limited⟩ := leaves
  rw [scope.sorting_unmarked (unblocked rest).unsorted] at sorted
  obtain ⟨⟨_, further⟩, -, ⟨⟩⟩ := ok_of_map sorted
  rw [rowLimit, (unblocked further).unlimited] at limited
  obtain ⟨more, rfl⟩ := prefix_of_limitBehind limited
  exact ⟨more, rfl⟩

theorem Leaves.readTokens_error (leaves : scope.Leaves tokens left) {failure : Failure}
    (failed : scope.mentions {} left = .error failure) :
    scope.readTokens tokens = .error failure := by
  obtain ⟨keys, unsorted, limit, sorted, limited⟩ := leaves
  rw [readTokens_eq sorted limited, failed]
  rfl

/-- A marker in front of a separator that is a stop word alone is that word. -/
theorem marker_of_stop {u t : Token} (separates : Separates t) {phrases : List (List String)}
    (subset : phrases ⊆ blockMarkers) {rest left : List Token}
    (found : afterAnyPhrase? phrases (u :: t :: rest) = some left) :
    [u.key] ∈ phrases ∧ left = t :: rest := by
  have apart : ∀ m ∈ blockMarkers, m ≠ [] ∧
      ∀ w ∈ ["und", "dann"], m.tail.contains w = false := by decide
  obtain ⟨marker, known, found⟩ := List.exists_of_findSome?_eq_some found
  obtain ⟨nonempty, later⟩ := apart marker (subset known)
  obtain ⟨rfl, rfl⟩ := single_of_afterPhrase? nonempty (separates.isWordIn_eq_false later) found
  exact ⟨known, rfl⟩

/-- Neither a sort block nor a row limit is read at a stop word in front of a separator. -/
theorem unblocked_stop {u t : Token} (stops : u.isWordIn stopWords = true)
    (opens : u.isWordIn closingWords = false) (separates : Separates t) (rest : List Token) :
    scope.Unblocked [u] (t :: rest) := by
  obtain ⟨word, stop⟩ := isWordIn_iff.mp stops
  refine ⟨.cons ?_ fun behind suffix ne => absurd (List.suffix_nil.mp suffix) ne, fun before => ?_⟩
  · rw [List.nil_append, Option.eq_none_iff_forall_ne_some]
    intro left found
    obtain ⟨alone, -⟩ := marker_of_stop separates (by decide) found
    have several : ∀ w ∈ stopWords, [w] ∉ sortMarkers := by decide
    exact several u.key stop alone
  · have noLimit : u.key ≠ "limit" := by
      intro limit
      rw [isWordIn_iff.mpr ⟨word, by rw [limit]; decide⟩] at opens
      cases opens
    have noNumber : t.kind ≠ .number := by
      rcases separates with rfl | isWord
      · decide
      · simp [(isWordIn_iff.mp isWord).1]
    rw [List.singleton_append, limitBehind]
    split
    · rfl
    · next behind found =>
        obtain ⟨-, rfl⟩ := marker_of_stop separates (by decide) found
        simp [noNumber, noLimit]

/-- Neither a sort block nor a row limit is read in an entry of a list. -/
theorem unblocked_entry {e : ListEntry} (goesOn : e.GoesOn scope) (lists : scope.HasFieldLists)
    (rest : List Token) : scope.Unblocked e.tokens rest := by
  obtain ⟨phrase, separators⟩ := e
  obtain ⟨item, ne, separate⟩ := goesOn
  dsimp only at item ne separate
  have separators : scope.Unblocked separators rest :=
    .of_free (fun t member => (separate t member).isWordIn_eq_false (by decide)) rest
  refine .append ?_ separators
  cases item with
  | keyword spells => exact .of_free (free_of_plain (plain_of_spells lists.clear spells)) _
  | stop stops opens =>
      obtain ⟨t, others, rfl⟩ := List.exists_cons_of_ne_nil ne
      exact unblocked_stop stops opens (separate t List.mem_cons_self) _

/-- Neither a sort block nor a row limit is read in a list of fields. -/
theorem unblocked_list (lists : scope.HasFieldLists) {main mark : List Token}
    (spells : scope.report.Spells main none) {marker : List String}
    (opens : marker ∈ fieldListMarkers) (spelt : Spelt marker mark)
    (goOn : ∀ e ∈ entries, e.GoesOn scope) (rest : List Token) :
    scope.Unblocked (main ++ mark ++ entries.flatMap ListEntry.tokens) rest := by
  have marks : ∀ m ∈ fieldListMarkers, ∀ w ∈ m, blockHeads.contains w = false := by decide
  have free : ∀ t ∈ main ++ mark, t.isWordIn blockHeads = false := by
    intro t member
    rcases List.mem_append.mp member with member | member
    · exact free_of_plain (plain_of_spells lists.clear spells) t member
    · exact isWordIn_of_apart (isWordIn_of_spelt spelt member) (marks marker opens)
  refine (Unblocked.of_free free _).append ?_
  induction entries with
  | nil => exact .of_free (fun t member => (List.not_mem_nil member).elim) rest
  | cons e entries ih =>
      have first := unblocked_entry (goOn e List.mem_cons_self) lists
        (entries.flatMap ListEntry.tokens ++ rest)
      exact first.append (ih fun e member => goOn e (List.mem_cons_of_mem _ member))

/-! ## Whole requests -/

section Requests

variable {main mark last tail : List Token} {marker fields : List String} {field : String}
variable (lists : scope.HasFieldLists) (spells : scope.report.Spells main none)
  (opens : marker ∈ fieldListMarkers) (spelt : Spelt marker mark)
  (goOn : ∀ e ∈ entries, e.GoesOn scope)

include lists spells opens spelt goOn

/-- A list of columns is read as these, and nothing else. -/
theorem readTokens_columns
    (columns : List.Forall₂ (fun e field => scope.report.Spells e.phrase (some field)) entries
      fields) (column : scope.report.Spells last (some field)) :
    scope.readTokens (main ++ mark ++ entries.flatMap ListEntry.tokens ++ last) = .ok
      { domain := scope.domain
        main := .empty
        projections := shownAll (fields ++ [field])
        report := some scope.report.name } := by
  have unblocked : scope.Unblocked
      (main ++ mark ++ entries.flatMap ListEntry.tokens ++ last) [] :=
    (unblocked_list lists spells opens spelt goOn _).append
      (.of_free (free_of_plain (plain_of_spells lists.clear column)) [])
  obtain ⟨sorted, limited⟩ := unblocked.leaves
  have opened := mentions_opened lists spells opens spelt
    (entries.flatMap ListEntry.tokens ++ last)
  rw [← List.append_assoc] at opened
  rw [readTokens_eq sorted limited, opened, mentions_columns lists columns goOn,
    mentions_last lists column, shownAll, shownAll, shownAll, List.nil_append, ← List.map_append]
  rfl

/-- A word of the list that is unknown is named. -/
theorem readTokens_unknown (unknown : scope.IsUnknown w)
    (leaves : scope.Leaves (main ++ mark ++ entries.flatMap ListEntry.tokens ++ w :: tail) left) :
    scope.readTokens (main ++ mark ++ entries.flatMap ListEntry.tokens ++ w :: tail) =
      .error (scope.unknownField w) := by
  obtain ⟨word, unlisted, unregistered⟩ := unknown
  have whole (rest : List Token) : main ++ mark ++ entries.flatMap ListEntry.tokens ++ w :: rest =
      main ++ mark ++ entries.flatMap ListEntry.tokens ++ [w] ++ rest := by simp
  have free : ∀ t ∈ [w], t.isWordIn blockHeads = false := by
    intro t member
    rw [List.mem_singleton.mp member]
    exact isWordIn_of_subset unlisted (by decide)
  have unblocked (rest : List Token) : scope.Unblocked
      (main ++ mark ++ entries.flatMap ListEntry.tokens ++ [w]) rest :=
    (unblocked_list lists spells opens spelt goOn _).append (.of_free free rest)
  rw [whole] at leaves ⊢
  obtain ⟨more, rfl⟩ := leaves.exists_append unblocked
  obtain ⟨s, listing, read⟩ : ∃ s : Progress, s.Lists ∧ scope.mentions (.listed [])
      (entries.flatMap ListEntry.tokens ++ w :: more) = scope.mentions s (w :: more) :=
    mentions_entries lists goOn (Progress.lists_listed [])
  refine leaves.readTokens_error ?_
  rw [← whole, List.append_assoc, mentions_opened lists spells opens spelt, read]
  apply mentions_of_failed_step
  rw [step_unregistered (by simp [word]) unlisted unregistered, if_pos ⟨listing.listing, word⟩]

/-- If no sort block and no row limit begins behind it, the word is reached. -/
theorem leaves_unknown (unknown : scope.IsUnknown w)
    (free : ∀ t ∈ tail, t.isWordIn blockHeads = false) :
    scope.Leaves (main ++ mark ++ entries.flatMap ListEntry.tokens ++ w :: tail)
      (main ++ mark ++ entries.flatMap ListEntry.tokens ++ w :: tail) := by
  have behind : ∀ t ∈ w :: tail, t.isWordIn blockHeads = false := by
    intro t member
    rcases List.mem_cons.mp member with rfl | member
    · exact isWordIn_of_subset unknown.unlisted (by decide)
    · exact free t member
  obtain ⟨sorted, limited⟩ :=
    ((unblocked_list lists spells opens spelt goOn _).append (.of_free behind [])).leaves
  exact ⟨[], _, none, sorted, limited⟩

end Requests

end Scope

end Request

namespace Catalogue

open Request

/-- A request for a report of the catalogue, with the keywords of more of them, can have a
list of fields. -/
theorem hasFieldLists {scope : Scope} (known : scope.report ∈ allReports)
    (indexed : scope.report ∈ scope.index.reports)
    (shared : ∀ r ∈ scope.index.reports, r ∈ allReports) : scope.HasFieldLists where
  toHasListKeywords := hasListKeywords known indexed shared
  unreserved := by
    intro keys registered
    obtain ⟨r, own, entry, member, rfl⟩ := Keyword.Index.mem_phrases_iff.mp registered
    exact (hasClearKeywords r (shared r own)).unreserved entry member

/-- In a request for a report of the catalogue, a list of columns behind a marker is read as
these in order, and nothing else. The first word of the list that is no field, no stop word
and no command, and begins no keyword, is named as unknown, unless the sort block or the
row limit cannot be read; they can be if no word behind it begins one. -/
theorem readTokens_field_list {scope : Scope} (known : scope.report ∈ allReports)
    (indexed : scope.report ∈ scope.index.reports)
    (shared : ∀ r ∈ scope.index.reports, r ∈ allReports) {main mark : List Token}
    (spells : scope.report.Spells main none) {marker : List String}
    (opens : marker ∈ fieldListMarkers) (spelt : Spelt marker mark) {entries : List ListEntry}
    (goOn : ∀ e ∈ entries, e.GoesOn scope) :
    (∀ fields last field,
      List.Forall₂ (fun e field => scope.report.Spells e.phrase (some field)) entries fields →
      scope.report.Spells last (some field) →
        scope.readTokens (main ++ mark ++ entries.flatMap ListEntry.tokens ++ last) = .ok
          { domain := scope.domain
            main := .empty
            projections := shownAll (fields ++ [field])
            report := some scope.report.name }) ∧
    ∀ w, scope.IsUnknown w →
      (∀ tail left,
        scope.Leaves (main ++ mark ++ entries.flatMap ListEntry.tokens ++ w :: tail) left →
          scope.readTokens (main ++ mark ++ entries.flatMap ListEntry.tokens ++ w :: tail) =
            .error (scope.unknownField w)) ∧
      (∀ tail, (∀ t ∈ tail, t.isWordIn blockHeads = false) → ∃ left,
        scope.Leaves (main ++ mark ++ entries.flatMap ListEntry.tokens ++ w :: tail) left) ∧
      (scope.unknownField w).code? = some .unresolvedField ∧
      ("field", .text w.raw) ∈ (scope.unknownField w).details := by
  have lists := hasFieldLists known indexed shared
  refine ⟨fun fields last field columns column => ?_, fun w unknown => ⟨fun tail left leaves => ?_,
    fun tail free => ?_, rfl, List.mem_cons_self⟩⟩
  · exact Scope.readTokens_columns lists spells opens spelt goOn columns column
  · exact Scope.readTokens_unknown lists spells opens spelt goOn unknown leaves
  · exact ⟨_, Scope.leaves_unknown lists spells opens spelt goOn unknown free⟩

/-- No keyword of the contracts begins with one of these words. -/
theorem Cover.unregistered : ∀ word ∈ ["farbe", "notiz"],
    ∀ keys ∈ (Keyword.Index.of [Cover.report]).phrases, keys.head? ≠ some word := by
  refine Report.unregistered_of_codes ?_
  simp only [Report.codedKeywords, phraseCodes, ← bytewise_eq]
  decide +kernel

/-- `Farbe` is no word of a request for contracts. -/
theorem isUnknown_farbe :
    ({ report := Cover.report, index := .of [Cover.report] } : Scope).IsUnknown
      ⟨"Farbe", "farbe", .word⟩ :=
  ⟨rfl, by decide, Cover.unregistered _ (by decide)⟩

/-- Contracts with their number, name and number once more; and a word that is no field,
behind the name. -/
theorem readTokens_field_list_contracts :
    (∃ query, ({ report := Cover.report, index := .of [Cover.report] } : Scope).readTokens
        [⟨"Verträge", "vertraege", .word⟩, ⟨"mit", "mit", .word⟩, ⟨"Feldern", "feldern", .word⟩,
          ⟨"VSN", "vsn", .word⟩, ⟨",", ",", .comma⟩, ⟨"Firma", "firma", .word⟩,
          ⟨"und", "und", .word⟩, ⟨"VSN", "vsn", .word⟩] = .ok query ∧
      query.projections =
        [⟨"vsn", false, none⟩, ⟨"firma", false, none⟩, ⟨"vsn", false, none⟩] ∧
      query.main = .empty) ∧
    ∃ failure, ({ report := Cover.report, index := .of [Cover.report] } : Scope).readTokens
        [⟨"Verträge", "vertraege", .word⟩, ⟨"mit", "mit", .word⟩, ⟨"Feldern", "feldern", .word⟩,
          ⟨"VSN", "vsn", .word⟩, ⟨",", ",", .comma⟩, ⟨"Firma", "firma", .word⟩,
          ⟨"und", "und", .word⟩, ⟨"Farbe", "farbe", .word⟩] = .error failure ∧
      failure.code? = some .unresolvedField ∧ ("field", .text "Farbe") ∈ failure.details := by
  let scope : Scope := { report := Cover.report, index := .of [Cover.report] }
  have known : scope.report ∈ allReports := List.mem_cons_self
  have indexed : scope.report ∈ scope.index.reports := List.mem_cons_self
  have shared : ∀ r ∈ scope.index.reports, r ∈ allReports := of_mem_single known
  have goOn : ∀ e ∈ ([⟨[⟨"VSN", "vsn", .word⟩], [⟨",", ",", .comma⟩]⟩,
      ⟨[⟨"Firma", "firma", .word⟩], [⟨"und", "und", .word⟩]⟩] : List ListEntry),
      e.GoesOn scope := by
    intro e member
    rcases List.mem_pair.mp member with rfl | rfl
    · exact ⟨.keyword Cover.spells_vsn, List.cons_ne_nil _ _, by simp [Separates]⟩
    · exact ⟨.keyword Cover.spells_firma, List.cons_ne_nil _ _,
        by simp [Separates, Token.isWordIn]⟩
  obtain ⟨columns, unknown⟩ := readTokens_field_list known indexed shared
    Cover.spells_vertraege
    (by decide : ["mit", "feldern"] ∈ fieldListMarkers)
    (.cons ⟨rfl, rfl⟩ (.cons ⟨rfl, rfl⟩ .nil) : Spelt ["mit", "feldern"]
      [⟨"mit", "mit", .word⟩, ⟨"Feldern", "feldern", .word⟩]) goOn
  obtain ⟨named, leaves, code, field⟩ := unknown _ isUnknown_farbe
  obtain ⟨left, leaves⟩ := leaves [] (by simp)
  have listed := columns _ _ _ (.cons Cover.spells_vsn (.cons Cover.spells_firma .nil))
    Cover.spells_vsn
  exact ⟨⟨_, listed, rfl, rfl⟩, _, named [] left leaves, code, field⟩

/-- A quoted text ends a list of fields, so a word behind it is not refused, although it
stands in the list and means nothing at all. -/
theorem quoted_text_ends_list :
    let scope : Scope := { report := Cover.report, index := .of [Cover.report] }
    Token.ofText "Verträge mit Feldern VSN, \"Notiz\", Farbe" =
      [⟨"Verträge", "vertraege", .word⟩, ⟨"mit", "mit", .word⟩, ⟨"Feldern", "feldern", .word⟩,
        ⟨"VSN", "vsn", .word⟩, ⟨",", ",", .comma⟩, ⟨"Notiz", "notiz", .quoted⟩,
        ⟨",", ",", .comma⟩, ⟨"Farbe", "farbe", .word⟩] ∧
    scope.report ∈ allReports ∧
    scope.report.Spells [⟨"Verträge", "vertraege", .word⟩] none ∧
    ["mit", "feldern"] ∈ fieldListMarkers ∧
    scope.report.Spells [⟨"VSN", "vsn", .word⟩] (some "vsn") ∧
    scope.IsUnknown ⟨"Farbe", "farbe", .word⟩ ∧
    "farbe" ∉ vocabulary ++ descendingWords ++ ascendingWords ++ articles ++ currencyWords ++
      (sortMarkers ++ limitMarkers ++ fieldListMarkers).flatten ∧
    scope.read "Verträge mit Feldern VSN, \"Notiz\", Farbe" = .ok
      { domain := scope.domain
        main := .empty
        projections := [⟨"vsn", false, none⟩]
        report := some scope.report.name } := by
  intro scope
  have known : scope.report ∈ allReports := List.mem_cons_self
  have lists : scope.HasFieldLists := hasFieldLists known List.mem_cons_self (of_mem_single known)
  have tokens : Token.ofText "Verträge mit Feldern VSN, \"Notiz\", Farbe" =
      [⟨"Verträge", "vertraege", .word⟩, ⟨"mit", "mit", .word⟩, ⟨"Feldern", "feldern", .word⟩,
        ⟨"VSN", "vsn", .word⟩, ⟨",", ",", .comma⟩, ⟨"Notiz", "notiz", .quoted⟩,
        ⟨",", ",", .comma⟩, ⟨"Farbe", "farbe", .word⟩] := by decide +kernel
  refine ⟨tokens, known, Cover.spells_vertraege, by decide, Cover.spells_vsn, isUnknown_farbe,
    by decide, ?_⟩
  have goOn : ∀ e ∈ ([⟨[⟨"VSN", "vsn", .word⟩], [⟨",", ",", .comma⟩]⟩] : List ListEntry),
      e.GoesOn scope := by
    intro e member
    rw [List.mem_singleton.mp member]
    exact ⟨.keyword Cover.spells_vsn, List.cons_ne_nil _ _, by simp [Separates]⟩
  have opened (behind : List Token) : scope.mentions {}
      ([⟨"Verträge", "vertraege", .word⟩, ⟨"mit", "mit", .word⟩, ⟨"Feldern", "feldern", .word⟩] ++
        behind) = scope.mentions (.listed []) behind :=
    Scope.mentions_opened lists Cover.spells_vertraege
      (by decide : ["mit", "feldern"] ∈ fieldListMarkers)
      (.cons ⟨rfl, rfl⟩ (.cons ⟨rfl, rfl⟩ .nil) : Spelt ["mit", "feldern"]
        [⟨"mit", "mit", .word⟩, ⟨"Feldern", "feldern", .word⟩]) behind
  have shown : scope.mentions (.listed []) [⟨"VSN", "vsn", .word⟩, ⟨",", ",", .comma⟩,
      ⟨"Notiz", "notiz", .quoted⟩, ⟨",", ",", .comma⟩, ⟨"Farbe", "farbe", .word⟩] =
        scope.mentions (.listed [⟨"vsn", false, none⟩])
          [⟨"Notiz", "notiz", .quoted⟩, ⟨",", ",", .comma⟩, ⟨"Farbe", "farbe", .word⟩] :=
    Scope.mentions_columns lists (.cons Cover.spells_vsn .nil) goOn
  have ended (rest : List Token) :
      scope.mentions (.listed [⟨"vsn", false, none⟩]) (⟨"Notiz", "notiz", .quoted⟩ :: rest) =
        scope.mentions { projections := [⟨"vsn", false, none⟩] } rest :=
    Scope.mentions_unregistered (by decide) (by decide) (Cover.unregistered _ (by decide))
      (by decide) rest
  have passed (rest : List Token) :
      scope.mentions { projections := [⟨"vsn", false, none⟩] } (⟨"Farbe", "farbe", .word⟩ :: rest) =
        scope.mentions { projections := [⟨"vsn", false, none⟩] } rest :=
    Scope.mentions_unregistered (by decide) (by decide) isUnknown_farbe.unregistered (by decide)
      rest
  have separated (s : Progress) (rest : List Token) :
      scope.mentions s (⟨",", ",", .comma⟩ :: rest) = scope.mentions s rest :=
    Scope.mentions_of_step rfl
  rw [Scope.read, tokens, Scope.readTokens_unmarked (.of_heads (by decide) (by decide) [])
    (.of_heads (by decide) (by decide) [])]
  have read := opened [⟨"VSN", "vsn", .word⟩, ⟨",", ",", .comma⟩, ⟨"Notiz", "notiz", .quoted⟩,
    ⟨",", ",", .comma⟩, ⟨"Farbe", "farbe", .word⟩]
  rw [shown, ended, separated, passed, Scope.mentions] at read
  rw [List.cons_append, List.cons_append, List.cons_append, List.nil_append] at read
  rw [read]
  rfl

end Catalogue

end Inquiry
