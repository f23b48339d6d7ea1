import Inquiry.Catalogue
import Inquiry.Proofs.Clauses
import Inquiry.Proofs.PlainPhrases

/-!
# The keywords of the catalogue are clear

Whether the keywords of a report are clear is decided by comparing every keyword
with every other one. Words are compared as numbers, because different numbers
belong to different words. A phrase of plain words need not be cut and folded to
find its words (`Token.phraseKeys_of_plain`).
-/

namespace Inquiry

open Keyword Request

/-! ## Words as numbers -/

/-- The characters of a word as one number. -/
def letterCode (w : List Char) : Nat := w.foldl (fun n c => n * 1114112 + c.toNat) 0

/-- A word as a number. -/
def keyCode (key : String) : Nat := letterCode key.toList

/-- Whether a code point is a small letter. -/
def isLetterCode (n : Nat) : Bool := Nat.ble 97 n && Nat.ble n 122

/-- Whether a code point is that of a plain character: a small letter, a digit,
an underscore, a hyphen or a slash. -/
def isPlainCode (n : Nat) : Bool :=
  isLetterCode n || (Nat.ble 48 n && Nat.ble n 57) || n == 95 || n == 45 || n == 47

/-- Whether a word is plain, by its code points. -/
def isPlainWord : List Char → Bool
  | [] => false
  | c :: rest => isLetterCode c.toNat && rest.all (fun d => isPlainCode d.toNat) &&
      ((c :: rest).getLast?.all fun d => d.toNat != 45)

theorem mem_plainChars_of_code {c : Char} (plain : isPlainCode c.toNat = true) :
    c ∈ Text.plainChars := by
  have small : c.toNat < 123 := by
    simp only [isPlainCode, isLetterCode, Bool.or_eq_true, Bool.and_eq_true, Nat.ble_eq,
      beq_iff_eq] at plain
    omega
  have known : ∀ n < 123, isPlainCode n = true → Char.ofNat n ∈ Text.plainChars := by decide
  simpa using known c.toNat small plain

theorem isPlainWord_spec {w : List Char} (plain : isPlainWord w = true) :
    Token.IsPlainWord w := by
  cases w with
  | nil => cases plain
  | cons c rest =>
      simp only [isPlainWord, Bool.and_eq_true, List.all_eq_true] at plain
      obtain ⟨⟨letter, chars⟩, last⟩ := plain
      have head : c ∈ Text.plainChars := mem_plainChars_of_code (by simp [isPlainCode, letter])
      refine ⟨?_, ⟨c, rest, rfl, ?_⟩, ?_⟩
      · intro d member
        rcases List.mem_cons.mp member with rfl | member
        · exact head
        · exact mem_plainChars_of_code (chars d member)
      · have letters := Text.forall_plainChars (by decide +kernel : Text.plainChars.all (fun c =>
          decide (isLetterCode c.toNat = true → Text.isDigit c = false ∧ c ≠ '-')) = true)
        exact letters c head letter
      · rintro d found rfl
        rw [Option.all_eq_true] at last
        exact absurd (last '-' found) (by decide)

/-- The keys of a phrase by numbers. -/
def phraseCodes (phrase : String) : List Nat :=
  let ws := phrase.toList.splitOn ' '
  if ws.all isPlainWord then ws.map letterCode else (Token.phraseKeys phrase).map keyCode

theorem phraseCodes_eq (phrase : String) :
    phraseCodes phrase = (Token.phraseKeys phrase).map keyCode := by
  simp only [phraseCodes]
  split
  · next plain =>
      have words := Token.phraseKeys_of_plain
        (fun w member => isPlainWord_spec (List.all_eq_true.mp plain w member))
        (List.intercalate_splitOn ' ').symm
      rw [words, List.map_map]
      exact List.map_congr_left fun w _ => by simp [keyCode]
  · rfl

/-! ### Phrases byte by byte -/

/-- The characters of a text. An ASCII text is not decoded: its characters are its bytes. -/
def bytewise (s : String) : List Char :=
  let bytes := s.toByteArray.data.toList
  if bytes.all (fun b => Nat.blt b.toNat 128) then bytes.map fun b => Char.ofNat b.toNat
  else s.toList

/-- Of a character that is not ASCII no byte is. -/
theorem utf8Size_eq_one {c : Char} (ascii : ∀ b ∈ String.utf8EncodeChar c, b.toNat < 128) :
    c.utf8Size = 1 := by
  rw [Char.utf8Size_eq_one_iff, UInt32.le_iff_toNat_le]
  by_contra large
  have large : ¬c.val.toNat ≤ 127 := large
  rw [String.utf8EncodeChar] at ascii
  simp only [if_neg large] at ascii
  split_ifs at ascii
  all_goals
    have first := ascii _ List.mem_cons_self
    rw [UInt8.toNat_ofNat'] at first
    omega

theorem bytewise_eq (s : String) : bytewise s = s.toList := by
  have encoded : s.toByteArray.data.toList = s.toList.flatMap String.utf8EncodeChar := by
    rw [← String.utf8Encode_toList, List.utf8Encode, List.data_toByteArray, List.toList_toArray]
  have decoded (cs : List Char)
      (ascii : ∀ b ∈ cs.flatMap String.utf8EncodeChar, b.toNat < 128) :
      (cs.flatMap String.utf8EncodeChar).map (fun b => Char.ofNat b.toNat) = cs := by
    induction cs with
    | nil => rfl
    | cons c cs ih =>
        rw [List.flatMap_cons, List.forall_mem_append] at ascii
        have single := utf8Size_eq_one ascii.1
        have small : c.val.toNat < 256 := by
          have := UInt32.le_iff_toNat_le.mp (Char.utf8Size_eq_one_iff.mp single)
          have : (127 : UInt32).toNat = 127 := rfl
          omega
        rw [List.flatMap_cons, String.utf8EncodeChar_eq_singleton single, List.singleton_append,
          List.map_cons, ih ascii.2]
        congr 1
        rw [UInt32.toNat_toUInt8, Nat.mod_eq_of_lt small]
        exact Char.ofNat_toNat c
  rw [bytewise, encoded]
  split
  · next ascii =>
      refine decoded _ fun b member => ?_
      exact Nat.blt_eq.mp (List.all_eq_true.mp ascii b member)
  · rfl

/-! ## Comparing keywords -/

/-- The phrases that a report registers, each with its field. -/
def Report.keywords (r : Report) : List (String × Option String) :=
  r.mainKeywords.map (·, none) ++
    r.columns.flatMap fun (field, column) => (field :: column.keywords).map (·, some field)

theorem mem_keywords_of_registrationsOf {r : Report} {known : Registration}
    (h : known ∈ registrationsOf r) :
    ∃ phrase, (phrase, known.entry.field) ∈ r.keywords ∧
      known.keys = Token.phraseKeys phrase := by
  obtain ⟨member, -⟩ := List.mem_filter.mp h
  obtain ⟨⟨phrase, field⟩, hphrase, rfl⟩ := List.mem_map.mp member
  exact ⟨phrase, hphrase, rfl⟩

/-- A keyword by numbers: its words, all of them in one number, and its field. -/
structure CodedKeyword where
  keys : List Nat
  whole : Nat
  field : Option String

/-- A keyword by numbers. -/
def CodedKeyword.of (keys : List Nat) (field : Option String) : CodedKeyword :=
  ⟨keys, keys.foldl (fun n key => n * 1114112 + key) 0, field⟩

/-- Words that spell a registered phrase. -/
theorem Report.spells_of_mem_keywords {r : Report} {phrase : String} {field : Option String}
    (registered : (phrase, field) ∈ r.keywords) {tokens : List Token}
    (keys : Token.phraseKeys phrase = tokens.map (·.key)) (ne : tokens ≠ [])
    (word : ∀ t ∈ tokens.head?, t.kind = .word) : r.Spells tokens field := by
  refine ⟨⟨⟨Token.phraseKeys phrase, r.number, r.name, field⟩, ?_, keys, rfl⟩, word⟩
  refine List.mem_filter.mpr ⟨List.mem_map.mpr ⟨(phrase, field), registered, rfl⟩, ?_⟩
  simpa [keys] using ne

/-- Whether no phrase goes on from a main keyword to a column, by their numbers. -/
def areApart (known others : List CodedKeyword) : Bool :=
  known.all fun k => k.field.isSome || others.all fun longer =>
    !k.keys.isPrefixOf longer.keys || known.all fun column =>
      column.field.isNone || !(k.keys ++ column.keys.take 1).isPrefixOf longer.keys

/-- Whether keywords are clear, by their numbers. -/
def areClear (known : List CodedKeyword) (reserved : List Nat) : Bool :=
  known.all fun k =>
    k.keys.all (fun key => !reserved.any (Nat.beq key)) &&
      (known.all fun other => !Nat.beq k.whole other.whole || k.field == other.field) &&
      (k.field.isSome || known.all fun longer => !k.keys.isPrefixOf longer.keys ||
        known.all fun column => column.field.isNone ||
          !(k.keys ++ column.keys.take 1).isPrefixOf longer.keys)

/-- The keywords of a report by numbers. -/
def Report.codedKeywords (r : Report) : List CodedKeyword :=
  r.keywords.map fun (phrase, field) => .of (phraseCodes phrase) field

theorem mem_codedKeywords {r : Report} {known : Registration} (h : known ∈ registrationsOf r) :
    .of (known.keys.map keyCode) known.entry.field ∈ r.codedKeywords := by
  obtain ⟨phrase, member, keys⟩ := mem_keywords_of_registrationsOf h
  refine List.mem_map.mpr ⟨_, member, ?_⟩
  simp only [phraseCodes_eq, keys]

/-- Words with different numbers are different. -/
theorem not_mem_of_codes {words : List String} {key : String}
    (free : (words.map keyCode).any (Nat.beq (keyCode key)) = false) : key ∉ words := by
  intro member
  rw [List.any_eq_false] at free
  exact free _ (List.mem_map_of_mem member) (Nat.beq_refl _)

/-- No keyword of a report begins with one of the given words if its first word has none
of their numbers. -/
theorem Report.unregistered_of_codes {r : Report} {words : List String}
    (free : r.codedKeywords.all (fun k =>
      k.keys.head?.all fun key => !(words.map keyCode).any (Nat.beq key)) = true) :
    ∀ word ∈ words, ∀ keys ∈ (Index.of [r]).phrases, keys.head? ≠ some word := by
  intro word listed keys registered begins
  obtain ⟨own, single, known, member, rfl⟩ := Index.mem_phrases_iff.mp registered
  rw [List.mem_singleton.mp single] at member
  have code := List.all_eq_true.mp free _ (mem_codedKeywords member)
  rw [CodedKeyword.of, List.head?_map, begins, Option.map_some, Option.all_some,
    Bool.not_eq_true'] at code
  exact not_mem_of_codes code listed

/-- No keyword of a report has a word whose number is that of one of the given words. -/
theorem Report.spares_of_codes {r : Report} {words : List String}
    (free : r.codedKeywords.all (fun k =>
      k.keys.all fun key => !(words.map keyCode).any (Nat.beq key)) = true) :
    ∀ known ∈ registrationsOf r, ∀ key ∈ known.keys, key ∉ words := by
  simp only [List.all_eq_true, Bool.not_eq_true'] at free
  intro known member key own
  exact not_mem_of_codes (free _ (mem_codedKeywords member) _ (List.mem_map_of_mem own))

/-- No keyword of one report goes on from a main keyword to a column of another if none
does by their numbers. -/
theorem Report.apart_of_codes {r other : Report}
    (apart : areApart r.codedKeywords other.codedKeywords = true) :
    ∀ main ∈ registrationsOf r, main.entry.field = none →
      ∀ column ∈ registrationsOf r, column.entry.field ≠ none →
        ∀ longer ∈ registrationsOf other, ¬ main.keys ++ column.keys.take 1 <+: longer.keys := by
  simp only [areApart, List.all_eq_true, Bool.or_eq_true, Bool.not_eq_true',
    Option.isSome_iff_ne_none, Option.isNone_iff_eq_none] at apart
  intro main member noField column member' field longer member'' goesOn
  have codes := goesOn.map keyCode
  rw [List.map_append, List.map_take] at codes
  have begins : (main.keys.map keyCode).isPrefixOf (longer.keys.map keyCode) = true :=
    List.isPrefixOf_iff_prefix.mpr ((List.prefix_append _ _).trans codes)
  have others := ((apart _ (mem_codedKeywords member)).resolve_left fun h => h noField) _
    (mem_codedKeywords member'')
  have columns := others.resolve_left fun h => absurd (h.symm.trans begins) (by decide)
  have never := (columns _ (mem_codedKeywords member')).resolve_left field
  exact absurd (never.symm.trans (List.isPrefixOf_iff_prefix.mpr codes)) (by decide)

theorem Report.hasClearKeywords_of_codes {r : Report}
    (clear : areClear r.codedKeywords (reservedKeys.map keyCode) = true) :
    r.HasClearKeywords := by
  simp only [areClear, List.all_eq_true, Bool.and_eq_true, Bool.not_eq_true'] at clear
  refine ⟨?_, ?_, apart_of_codes (List.all_eq_true.mpr fun k member => (clear k member).2)⟩
  · intro known member key hkey
    exact not_mem_of_codes
      ((clear _ (mem_codedKeywords member)).1.1 (keyCode key) (List.mem_map_of_mem hkey))
  · intro known member other member' same
    have fields := (clear _ (mem_codedKeywords member)).1.2 _ (mem_codedKeywords member')
    rw [same, Bool.or_eq_true, Bool.not_eq_true', beq_iff_eq] at fields
    exact fields.resolve_left fun differ => absurd (differ.symm.trans (Nat.beq_refl _)) (by decide)

namespace Catalogue

theorem hasClearKeywords_cover : Cover.report.HasClearKeywords := by
  refine Report.hasClearKeywords_of_codes ?_
  simp only [Report.codedKeywords, phraseCodes, ← bytewise_eq]
  decide +kernel

theorem hasClearKeywords_schaden : Schaden.report.HasClearKeywords := by
  refine Report.hasClearKeywords_of_codes ?_
  simp only [Report.codedKeywords, phraseCodes, ← bytewise_eq]
  decide +kernel

/-- The keywords of all reports of the catalogue are clear. -/
theorem hasClearKeywords : ∀ r ∈ allReports, r.HasClearKeywords := by
  intro r member
  rcases (List.mem_pair.mp member : r = Cover.report ∨ r = Schaden.report) with rfl | rfl
  · exact hasClearKeywords_cover
  · exact hasClearKeywords_schaden

/-- An index of one report of the catalogue has only reports of the catalogue. -/
theorem of_mem_single {r : Report} (known : r ∈ allReports) :
    ∀ other ∈ (Index.of [r]).reports, other ∈ allReports := by
  intro other member
  rwa [List.mem_singleton.mp member]

theorem Cover.spells_vertraege : Cover.report.Spells [⟨"Verträge", "vertraege", .word⟩] none :=
  Report.spells_of_mem_keywords (by decide +kernel : ("verträge", none) ∈ Cover.report.keywords)
    (by decide +kernel) (by decide) (by decide)

theorem Cover.spells_vsn : Cover.report.Spells [⟨"VSN", "vsn", .word⟩] (some "vsn") :=
  Report.spells_of_mem_keywords (by decide +kernel : ("vsn", some "vsn") ∈ Cover.report.keywords)
    (by decide +kernel) (by decide) (by decide)

theorem Cover.spells_firma : Cover.report.Spells [⟨"Firma", "firma", .word⟩] (some "firma") :=
  Report.spells_of_mem_keywords
    (by decide +kernel : ("firma", some "firma") ∈ Cover.report.keywords)
    (by decide +kernel) (by decide) (by decide)

/-- In a request for a report of the catalogue, `oder` binds tighter than `und`: a
main keyword and a chain of clauses is read as these clauses and nothing else, and
it holds if each of the runs that `oder` makes has a clause that does. -/
theorem oder_binds_tighter {r : Report} (known : r ∈ allReports) (domain : Domain)
    {main : List Token} (spells : r.Spells main none) {first : Clause}
    (states : first.States r) (more : List (Token × Clause))
    (linked : ∀ entry ∈ more, Links entry.1 ∧ entry.2.States r) :
    ∃ query, ({ report := r, index := .of [r], domain } : Scope).readTokens
        (main ++ first.tokens ++ chained more) = .ok query ∧
      query.projections = [] ∧ query.sortKeys = [] ∧ query.limit = none ∧ query.further = [] ∧
      query.main.allPredicates.Perm
        (first.predicate :: more.map fun (_, c) => c.predicate) ∧
      ∀ truth, query.main.value truth =
        (((first.predicate, false) :: more.map fun (link, c) =>
            (c.predicate, link.key == "oder")).splitBy fun _ c => c.2).all
          (·.any (truth ·.1)) :=
  Scope.readTokens_chain (hasClearKeywords r known) rfl rfl spells states linked

/-- Claims in one of two states whose reserve is large. -/
theorem oder_binds_tighter_claims :
    ∃ query, ({ report := Schaden.report, index := .of [Schaden.report] } : Scope).readTokens
        [⟨"Schäden", "schaeden", .word⟩,
          ⟨"Status", "status", .word⟩, ⟨"=", "=", .operator⟩, ⟨"Offen", "offen", .quoted⟩,
          ⟨"oder", "oder", .word⟩,
          ⟨"Status", "status", .word⟩, ⟨"=", "=", .operator⟩, ⟨"Neu", "neu", .quoted⟩,
          ⟨"und", "und", .word⟩,
          ⟨"Reserve", "reserve", .word⟩, ⟨">", ">", .operator⟩, ⟨"500", "500", .quoted⟩] =
        .ok query ∧
      ∀ truth, query.main.value truth =
        ((truth ⟨"status", .compare .equals (.text "Offen"), by decide⟩ ||
            truth ⟨"status", .compare .equals (.text "Neu"), by decide⟩) &&
          truth ⟨"reserve", .compare .greaterThan (.number (.whole 500)), by decide⟩) := by
  have main : Schaden.report.Spells [⟨"Schäden", "schaeden", .word⟩] none :=
    Report.spells_of_mem_keywords (by decide +kernel : ("schäden", none) ∈ Schaden.report.keywords)
      (by decide +kernel) (by decide) (by decide)
  have status : Schaden.report.Spells [⟨"Status", "status", .word⟩] (some "status") :=
    Report.spells_of_mem_keywords
      (by decide +kernel : ("status", some "status") ∈ Schaden.report.keywords)
      (by decide +kernel) (by decide) (by decide)
  have reserve : Schaden.report.Spells [⟨"Reserve", "reserve", .word⟩] (some "reserve") :=
    Report.spells_of_mem_keywords
      (by decide +kernel : ("reserve", some "reserve") ∈ Schaden.report.keywords)
      (by decide +kernel) (by decide) (by decide)
  have offen : Clause.States ⟨[⟨"Status", "status", .word⟩], ⟨"=", "=", .operator⟩,
      ⟨"Offen", "offen", .quoted⟩,
      ⟨"status", .compare .equals (.text "Offen"), by decide⟩⟩ Schaden.report :=
    ⟨status, ⟨rfl, rfl⟩, rfl, .equals, _, _, by decide, rfl, by decide +kernel, rfl⟩
  have neu : Clause.States ⟨[⟨"Status", "status", .word⟩], ⟨"=", "=", .operator⟩,
      ⟨"Neu", "neu", .quoted⟩,
      ⟨"status", .compare .equals (.text "Neu"), by decide⟩⟩ Schaden.report :=
    ⟨status, ⟨rfl, rfl⟩, rfl, .equals, _, _, by decide, rfl, by decide +kernel, rfl⟩
  have large : Clause.States ⟨[⟨"Reserve", "reserve", .word⟩], ⟨">", ">", .operator⟩,
      ⟨"500", "500", .quoted⟩,
      ⟨"reserve", .compare .greaterThan (.number (.whole 500)), by decide⟩⟩ Schaden.report :=
    ⟨reserve, ⟨rfl, rfl⟩, rfl, .greaterThan, _, _, by decide, rfl, by decide +kernel, rfl⟩
  obtain ⟨query, read, -, -, -, -, -, value⟩ := oder_binds_tighter (r := Schaden.report)
    (by simp [allReports, domains, reports]) .unknown main offen
    [(⟨"oder", "oder", .word⟩, _), (⟨"und", "und", .word⟩, _)] (by
      intro entry member
      rcases List.mem_pair.mp member with rfl | rfl
      · exact ⟨⟨rfl, .inr rfl⟩, neu⟩
      · exact ⟨⟨rfl, .inl rfl⟩, large⟩)
  refine ⟨query, read, fun truth => ?_⟩
  rw [value truth]
  simp [List.splitBy, List.splitBy.loop]

end Catalogue

end Inquiry
