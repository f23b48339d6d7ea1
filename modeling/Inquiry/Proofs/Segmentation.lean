import Inquiry.Proofs.FirstOccurrences
import Inquiry.Proofs.Phrases
import Inquiry.Proofs.TokenText
import Mathlib.Data.List.Pairwise

/-!
# Segmentation

A request is cut at its keywords: from left to right, each time at the longest phrase
that begins where the last one has ended. What is found is the only list of phrases
that follow each other, are the longest ones where they begin, and leave no place
outside at which a phrase could begin (`Index.scan_segments`).

A phrase stands for what has been registered for it, each entry once. So a main
keyword inside a longer phrase is not found, and a report has as many hits as the
phrases that are found have main entries with its name.
-/

namespace Inquiry

namespace Token

/-- The keys of commas and comparison signs. -/
def signKeys : List String := [",", "=", "<", ">", "<=", ">=", "!=", "<>"]

theorem mem_signKeys_of_comparison? {c : Char} {rest : List Char} {n : Nat}
    (h : comparison? (c :: rest) = some n) :
    String.ofList (c :: rest.take (n - 1)) ∈ signKeys := by
  unfold comparison? at h
  split at h
  all_goals cases h
  all_goals
    rename_i heq
    cases heq
    simp only [Nat.reduceSub, List.take_succ_cons, List.take_zero]
    decide

/-- In a text, a comma or an operator has a key of its own. -/
theorem key_mem_signKeys {text : String} {t : Token} (member : t ∈ ofText text)
    (sign : t.kind = .comma ∨ t.kind = .operator) : t.key ∈ signKeys := by
  obtain ⟨piece, known, made⟩ := List.mem_filterMap.mp member
  have cutOff := isCut_of_cut none _ piece known
  cases piece with
  | skipped c => cases made
  | lexeme kind span =>
      obtain ⟨previous, c, rest, n, found, rfl⟩ := cutOff
      have reads := finds_of_lexeme? found
      cases kind with
      | word | quoted =>
          rw [kind_of_foldedToken? made] at sign
          exact absurd sign (by decide)
      | date | number =>
          cases made
          exact absurd sign (by simp)
      | comma =>
          cases made
          obtain ⟨⟨⟩, rfl⟩ := reads
          exact List.mem_cons_self
      | operator =>
          cases made
          exact mem_signKeys_of_comparison? reads

end Token

namespace Keyword.Index

variable {index : Index} {tokens : List Token} {place n : Nat} {keys : List String} {m : Match}

/-! ## Entries -/

/-- What has been registered for a phrase, in order. -/
def registeredFor (index : Index) (keys : List String) : List Entry :=
  (index.registrations.filter (·.keys = keys)).map (·.entry)

/-- The entries of a phrase: what has been registered for it, each entry once and in
the order in which it was registered first. -/
structure Carries (index : Index) (keys : List String) (entries : List Entry) : Prop where
  mem_iff : ∀ entry, entry ∈ entries ↔ ⟨keys, entry⟩ ∈ index.registrations
  nodup : entries.Nodup
  ordered : entries.Pairwise fun first second =>
    (index.registeredFor keys).idxOf first < (index.registeredFor keys).idxOf second

theorem mem_registeredFor {entry : Entry} :
    entry ∈ index.registeredFor keys ↔ ⟨keys, entry⟩ ∈ index.registrations := by
  simp only [registeredFor, List.mem_map, List.mem_filter, decide_eq_true_eq]
  constructor
  · rintro ⟨known, ⟨member, rfl⟩, rfl⟩
    exact member
  · exact fun member => ⟨_, ⟨member, rfl⟩, rfl⟩

theorem carries_entriesFor (index : Index) (keys : List String) :
    index.Carries keys (index.entriesFor keys) := by
  have ordered : (index.entriesFor keys).Pairwise fun first second =>
      (index.registeredFor keys).idxOf first < (index.registeredFor keys).idxOf second := by
    have kept := ordered_eraseDups (index.registeredFor keys) fun _ => true
    rwa [List.filter_true] at kept
  refine ⟨fun entry => ?_, ordered.imp fun less same => ?_, ordered⟩
  · rw [entriesFor, List.mem_eraseDups]
    exact mem_registeredFor
  · exact Nat.lt_irrefl _ (same ▸ less)

/-- A phrase has only one list of entries. -/
theorem Carries.eq {entries others : List Entry} (h : index.Carries keys entries)
    (h' : index.Carries keys others) : entries = others := by
  have perm : entries.Perm others := (List.perm_ext_iff_of_nodup h.nodup h'.nodup).mpr
    fun entry => (h.mem_iff entry).trans (h'.mem_iff entry).symm
  exact perm.eq_of_pairwise (fun a b _ _ less more => absurd less (Nat.lt_asymm more)) h.ordered
    h'.ordered

/-! ## Phrases at a place -/

/-- A registered phrase that stands at a place: the tokens from there on have its keys,
and the first of them is no comma and no operator. -/
structure StandsAt (index : Index) (tokens : List Token) (place : Nat) (keys : List String) :
    Prop where
  registered : keys ∈ index.phrases
  spelt : keys <+: (tokens.drop place).map (·.key)
  opens : ∀ t ∈ tokens[place]?, t.kind ≠ .comma ∧ t.kind ≠ .operator

/-- In a text, a phrase that does not begin with a comma or a comparison sign stands
wherever it is spelt. -/
theorem standsAt_ofText_iff {text : String} (unsigned : ∀ key ∈ keys.head?, key ∉ Token.signKeys) :
    index.StandsAt (Token.ofText text) place keys ↔
      keys ∈ index.phrases ∧ keys <+: ((Token.ofText text).drop place).map (·.key) := by
  refine ⟨fun stands => ⟨stands.registered, stands.spelt⟩, fun ⟨registered, spelt⟩ =>
    ⟨registered, spelt, fun t found => ?_⟩⟩
  obtain ⟨key, more, rfl⟩ := List.exists_cons_of_ne_nil (ne_nil_of_mem_phrases registered)
  obtain ⟨within, own⟩ := List.getElem?_eq_some_iff.mp found
  rw [List.drop_eq_getElem_cons within, own, List.map_cons, List.cons_prefix_cons] at spelt
  rw [← not_or]
  intro sign
  have signed := Token.key_mem_signKeys (List.mem_of_getElem? found) sign
  rw [← spelt.1] at signed
  exact unsigned key rfl signed

/-- The longest phrase that stands at a place, with its entries. -/
def IsLongestAt (index : Index) (tokens : List Token) (place : Nat) (m : Match) : Prop :=
  ∃ keys, index.StandsAt tokens place keys ∧ m.length = keys.length ∧
    (∀ other, index.StandsAt tokens place other → other.length ≤ keys.length) ∧
    index.Carries keys m.entries

theorem standsAt_drop_iff :
    index.StandsAt (tokens.drop n) place keys ↔ index.StandsAt tokens (n + place) keys := by
  constructor
  · rintro ⟨registered, spelt, opens⟩
    rw [List.drop_drop] at spelt
    rw [List.getElem?_drop] at opens
    exact ⟨registered, spelt, opens⟩
  · rintro ⟨registered, spelt, opens⟩
    rw [← List.drop_drop] at spelt
    rw [← List.getElem?_drop] at opens
    exact ⟨registered, spelt, opens⟩

theorem isLongestAt_drop_iff :
    index.IsLongestAt (tokens.drop n) place m ↔ index.IsLongestAt tokens (n + place) m := by
  simp only [IsLongestAt, standsAt_drop_iff]

/-- A phrase has a token to stand at. -/
theorem StandsAt.lt_length (stands : index.StandsAt tokens place keys) :
    place < tokens.length := by
  by_contra beyond
  have spelt := stands.spelt
  rw [List.drop_of_length_le (Nat.not_lt.mp beyond), List.map_nil, List.prefix_nil] at spelt
  exact ne_nil_of_mem_phrases stands.registered spelt

/-- The phrase that is found is the longest one. -/
theorem isLongestAt_of_matchAt (found : index.matchAt tokens = some m) :
    index.IsLongestAt tokens 0 m := by
  obtain ⟨registered, fits⟩ := mem_phrases_of_matchAt found
  obtain ⟨opens, -, rfl⟩ := eq_of_matchAt found
  have length : ((tokens.take (index.longestAt tokens)).map (·.key)).length =
      index.longestAt tokens := by
    rw [List.length_map, List.length_take]
    exact Nat.min_eq_left fits
  refine ⟨_, ⟨registered, ?_, ?_⟩, length.symm, ?_, carries_entriesFor index _⟩
  · exact (List.take_prefix _ _).map _
  · intro t first
    rw [← List.head?_eq_getElem?] at first
    exact not_or.mp (opens t first)
  · intro other stands
    rw [length]
    exact longestAt_le_iff.mp (Nat.le_refl _) other stands.registered
      ((startsWith_iff _ _).mpr stands.spelt)

/-- There is only one longest phrase at a place. -/
theorem IsLongestAt.eq {m' : Match} (longest : index.IsLongestAt tokens place m)
    (longest' : index.IsLongestAt tokens place m') : m = m' := by
  obtain ⟨keys, stands, length, most, carries⟩ := longest
  obtain ⟨keys', stands', length', most', carries'⟩ := longest'
  have same : keys = keys' := by
    have equal : keys.length = keys'.length := Nat.le_antisymm (most' _ stands) (most _ stands')
    have begins := List.prefix_of_prefix_length_le stands.spelt stands'.spelt (Nat.le_of_eq equal)
    exact begins.eq_of_length equal
  subst same
  obtain ⟨l, entries⟩ := m
  obtain ⟨l', entries'⟩ := m'
  obtain rfl : entries = entries' := carries.eq carries'
  obtain rfl : l = l' := length.trans length'.symm
  rfl

theorem matchAt_eq_none_iff :
    index.matchAt tokens = none ↔ ∀ keys, ¬ index.StandsAt tokens 0 keys := by
  constructor
  · intro none keys stands
    have reaches : keys.length ≤ index.longestAt tokens :=
      longestAt_le_iff.mp (Nat.le_refl _) keys stands.registered
        ((startsWith_iff _ _).mpr stands.spelt)
    have positive := List.length_pos_iff.mpr (ne_nil_of_mem_phrases stands.registered)
    unfold matchAt at none
    split at none
    · exact absurd stands.lt_length (Nat.lt_irrefl 0)
    · next t rest =>
        rw [if_neg (not_or.mpr (stands.opens t rfl))] at none
        split at none
        · omega
        · cases none
  · intro nothing
    rw [Option.eq_none_iff_forall_ne_some]
    intro m found
    obtain ⟨keys, stands, -⟩ := isLongestAt_of_matchAt found
    exact nothing keys stands

/-! ## Segmentations -/

/-- A segmentation of a request: phrases that follow each other and are the longest
ones where they begin, with no phrase that begins outside of them. -/
structure Segments (index : Index) (tokens : List Token) (found : List (Nat × Match)) : Prop where
  ordered : found.Pairwise fun first second => first.1 + first.2.length ≤ second.1
  longest : ∀ hit ∈ found, index.IsLongestAt tokens hit.1 hit.2
  covered : ∀ place keys, index.StandsAt tokens place keys →
    ∃ hit ∈ found, hit.1 ≤ place ∧ place < hit.1 + hit.2.length

variable {front found : List (Nat × Match)}

/-- No phrase of a segmentation begins inside another one. -/
theorem Segments.apart (segments : index.Segments tokens found) :
    ∀ hit ∈ found, ∀ other ∈ found, hit.1 < other.1 → hit.1 + hit.2.length ≤ other.1 := by
  have further : found.Pairwise fun hit other => hit.1 < other.1 → hit.1 + hit.2.length ≤ other.1 :=
    segments.ordered.imp fun {first second} follows _ => by omega
  have back : found.Pairwise fun other hit => hit.1 < other.1 → hit.1 + hit.2.length ≤ other.1 :=
    segments.ordered.imp fun {first second} follows less => by omega
  exact further.forall_of_forall_of_flip (fun _ _ less => absurd less (Nat.lt_irrefl _)) back

/-- A phrase found in what is left of a request behind its first tokens, with its place
counted from the beginning. -/
def behind (n : Nat) (hit : Nat × Match) : Nat × Match := (n + hit.1, hit.2)

/-- The phrases found before a place are a segmentation of what stands there. -/
structure SegmentsFront (index : Index) (tokens : List Token) (n : Nat)
    (front : List (Nat × Match)) : Prop where
  ordered : front.Pairwise fun first second => first.1 + first.2.length ≤ second.1
  longest : ∀ hit ∈ front, index.IsLongestAt tokens hit.1 hit.2
  ends : ∀ hit ∈ front, hit.1 + hit.2.length ≤ n
  covered : ∀ place < n, ∀ keys, index.StandsAt tokens place keys →
    ∃ hit ∈ front, hit.1 ≤ place ∧ place < hit.1 + hit.2.length

/-- What is found behind a front that is segmented is a segmentation of what is left. -/
theorem segments_append_iff (before : index.SegmentsFront tokens n front) :
    index.Segments tokens (front ++ found.map (behind n)) ↔
      index.Segments (tokens.drop n) found := by
  constructor
  · rintro ⟨ordered, longest, covered⟩
    refine ⟨?_, fun hit member => ?_, fun place keys stands => ?_⟩
    · have further := List.pairwise_map.mp (List.pairwise_append.mp ordered).2.1
      refine further.imp fun {first second} follows => ?_
      simp only [behind] at follows
      omega
    · exact isLongestAt_drop_iff.mpr
        (longest _ (List.mem_append_right front (List.mem_map_of_mem member)))
    · obtain ⟨hit, member, starts, goesOn⟩ := covered _ keys (standsAt_drop_iff.mp stands)
      rcases List.mem_append.mp member with member | member
      · have ends := before.ends hit member
        omega
      · obtain ⟨own, ownMember, rfl⟩ := List.mem_map.mp member
        simp only [behind] at starts goesOn
        exact ⟨own, ownMember, by omega, by omega⟩
  · rintro ⟨ordered, longest, covered⟩
    refine ⟨List.pairwise_append.mpr ⟨before.ordered, List.pairwise_map.mpr ?_, ?_⟩,
      fun hit member => ?_, fun place keys stands => ?_⟩
    · refine ordered.imp fun {first second} follows => ?_
      simp only [behind]
      omega
    · intro first member second member'
      obtain ⟨second, -, rfl⟩ := List.mem_map.mp member'
      exact Nat.le_trans (before.ends first member) (Nat.le_add_right n _)
    · rcases List.mem_append.mp member with member | member
      · exact before.longest hit member
      · obtain ⟨own, ownMember, rfl⟩ := List.mem_map.mp member
        exact isLongestAt_drop_iff.mp (longest own ownMember)
    · by_cases within : place < n
      · obtain ⟨hit, member, covers⟩ := before.covered place within keys stands
        exact ⟨hit, List.mem_append_left _ member, covers⟩
      · obtain ⟨own, rfl⟩ := Nat.exists_eq_add_of_le (Nat.not_lt.mp within)
        obtain ⟨hit, member, starts, goesOn⟩ := covered own keys (standsAt_drop_iff.mpr stands)
        refine ⟨_, List.mem_append_right front (List.mem_map_of_mem member), ?_, ?_⟩
        · simp only [behind]
          omega
        · simp only [behind]
          omega

/-- Phrases that all begin behind the first tokens. -/
theorem exists_behind (later : ∀ hit ∈ found, n ≤ hit.1) :
    ∃ left : List (Nat × Match), found = left.map (behind n) := by
  refine ⟨found.map fun hit => (hit.1 - n, hit.2), ?_⟩
  rw [List.map_map]
  refine (List.map_id found).symm.trans (List.map_congr_left fun hit member => ?_)
  rw [Function.comp_apply, behind, Nat.add_sub_cancel' (later hit member), id]

/-- Where no phrase begins, a segmentation begins behind the first token. -/
theorem segments_of_none (none : index.matchAt tokens = none) :
    index.Segments tokens found ↔
      ∃ left, found = left.map (behind 1) ∧ index.Segments (tokens.drop 1) left := by
  have nothing := matchAt_eq_none_iff.mp none
  have before : index.SegmentsFront tokens 1 [] :=
    ⟨.nil, by simp, by simp, fun place first keys stands => by
      obtain rfl : place = 0 := by omega
      exact absurd stands (nothing keys)⟩
  constructor
  · intro segments
    have later : ∀ hit ∈ found, 1 ≤ hit.1 := by
      intro hit member
      obtain ⟨keys, stands, -⟩ := segments.longest hit member
      refine Nat.one_le_iff_ne_zero.mpr fun first => nothing keys ?_
      rw [← first]
      exact stands
    obtain ⟨left, rfl⟩ := exists_behind later
    exact ⟨left, rfl, (segments_append_iff before).mp segments⟩
  · rintro ⟨left, rfl, segments⟩
    exact (segments_append_iff before).mpr segments

/-- Where a phrase begins, a segmentation begins with the longest one. -/
theorem segments_of_longest (longest : index.IsLongestAt tokens 0 m) :
    index.Segments tokens found ↔ ∃ left, found = (0, m) :: left.map (behind m.length) ∧
      index.Segments (tokens.drop m.length) left := by
  have before : index.SegmentsFront tokens m.length [(0, m)] :=
    ⟨List.pairwise_singleton _ _, by simpa using longest, by simp,
      fun place within _ _ =>
        ⟨_, List.mem_singleton_self _, Nat.zero_le _, by simpa using within⟩⟩
  constructor
  · intro segments
    obtain ⟨keys, stands, -⟩ := id longest
    obtain ⟨hit, member, starts, -⟩ := segments.covered 0 keys stands
    cases found with
    | nil => cases member
    | cons first rest =>
        obtain ⟨follow, -⟩ := List.pairwise_cons.mp segments.ordered
        have own := segments.longest first List.mem_cons_self
        -- The phrase at the beginning does not follow another one, so it is the first.
        have begins : first.1 = 0 := by
          rcases List.mem_cons.mp member with rfl | member
          · exact Nat.le_zero.mp starts
          · have follows := follow hit member
            omega
        rw [begins] at own
        obtain rfl : first = (0, m) := Prod.ext begins (own.eq longest)
        have later : ∀ hit ∈ rest, m.length ≤ hit.1 := by
          simpa using follow
        obtain ⟨left, rfl⟩ := exists_behind later
        exact ⟨left, rfl, (segments_append_iff before).mp segments⟩
  · rintro ⟨left, rfl, segments⟩
    exact (segments_append_iff before).mpr segments

/-! ## The scan -/

theorem scanFrom_add (index : Index) (n start : Nat) (tokens : List Token) :
    index.scanFrom (n + start) tokens = (index.scanFrom start tokens).map (behind n) := by
  fun_induction scanFrom index start tokens with
  | case1 start => rw [scanFrom, List.map_nil]
  | case2 start t rest none ih =>
      rw [scanFrom, none]
      exact ih
  | case3 start t rest m found ih =>
      rw [scanFrom, found, List.map_cons, ← ih, ← Nat.add_assoc]
      rfl

theorem scan_of_none (none : index.matchAt tokens = none) :
    index.scan tokens = (index.scan (tokens.drop 1)).map (behind 1) := by
  cases tokens with
  | nil => simp [scan, scanFrom]
  | cons t rest =>
      rw [scan, scanFrom, none]
      exact scanFrom_add index 1 0 rest

theorem scan_of_longest (found : index.matchAt tokens = some m) :
    index.scan tokens = (0, m) :: (index.scan (tokens.drop m.length)).map (behind m.length) := by
  obtain ⟨keys, stands, -⟩ := isLongestAt_of_matchAt found
  cases tokens with
  | nil => exact absurd stands.lt_length (Nat.lt_irrefl 0)
  | cons t rest =>
      have begins : (t :: rest).drop m.length = rest.drop (m.length - 1) := by
        rw [← Nat.sub_add_cancel (length_pos_of_matchAt found), List.drop_succ_cons,
          Nat.add_sub_cancel]
      have later := scanFrom_add index m.length 0 (rest.drop (m.length - 1))
      rw [Nat.add_comm] at later
      rw [scan, scanFrom, found, begins, scan, ← later]

theorem segments_nil : index.Segments [] found ↔ found = [] := by
  constructor
  · intro segments
    refine List.eq_nil_iff_forall_not_mem.mpr fun hit member => ?_
    obtain ⟨keys, stands, -⟩ := segments.longest hit member
    exact Nat.not_lt_zero _ stands.lt_length
  · rintro rfl
    exact ⟨.nil, by simp, fun place keys stands => absurd stands.lt_length (Nat.not_lt_zero _)⟩

/-- The scan is the only segmentation. -/
theorem scan_eq_iff (index : Index) (tokens : List Token) (found : List (Nat × Match)) :
    index.scan tokens = found ↔ index.Segments tokens found := by
  cases begins : index.matchAt tokens with
  | some m =>
      have positive := length_pos_of_matchAt begins
      have within := (mem_phrases_of_matchAt begins).2
      have shorter : (tokens.drop m.length).length < tokens.length := by
        rw [List.length_drop]
        omega
      rw [scan_of_longest begins, segments_of_longest (isLongestAt_of_matchAt begins), eq_comm]
      simp only [← scan_eq_iff index (tokens.drop m.length), exists_eq_right']
  | none =>
      cases tokens with
      | nil => rw [segments_nil, scan, scanFrom, eq_comm]
      | cons t rest =>
          rw [scan_of_none begins, segments_of_none begins, eq_comm, List.drop_one, List.tail_cons]
          simp only [← scan_eq_iff index rest, exists_eq_right']
  termination_by tokens.length

/-! ## Hits -/

/-- The hits of a name that some report has: how many main entries with it are found. -/
theorem lookup_mainHits {name : String} (known : name ∈ index.reports.map (·.name)) :
    (index.mainHits tokens).lookup name =
      some (((index.scan tokens).flatMap fun (_, m) => m.entries.filter (·.isMain)).countP
        (·.reportName == name) : Int) := by
  have listed : name ∈ (index.reports.map (·.name)).eraseDups := List.mem_eraseDups.mpr known
  rw [mainHits, List.lookup_graph _ listed, List.count, ← List.map_flatMap, List.countP_map]
  rfl

/-- A request is cut at its keywords from left to right, and what is found is its only
segmentation. Nothing is found inside a phrase that is found. A report has as many hits
as the phrases that are found have main entries with its name; reports of one name
share them. -/
theorem scan_segments (reports : List Report) (tokens : List Token) :
    (of reports).Segments tokens ((of reports).scan tokens) ∧
    (∀ found, (of reports).Segments tokens found → found = (of reports).scan tokens) ∧
    (∀ hit ∈ (of reports).scan tokens, ∀ inner ∈ (of reports).scan tokens,
      hit.1 < inner.1 → hit.1 + hit.2.length ≤ inner.1) ∧
    ∀ name ∈ reports.map (·.name), ((of reports).mainHits tokens).lookup name =
      some ((((of reports).scan tokens).flatMap fun hit => hit.2.entries).countP fun entry =>
        entry.isMain && entry.reportName == name : Int) := by
  have segments := (scan_eq_iff (of reports) tokens _).mp rfl
  refine ⟨segments, fun found other => ((scan_eq_iff (of reports) tokens found).mpr other).symm,
    segments.apart, fun name known => ?_⟩
  rw [lookup_mainHits known, ← List.filter_flatMap, List.countP_filter]
  simp only [Bool.and_comm]

end Keyword.Index

end Inquiry
