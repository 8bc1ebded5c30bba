import RecordFilter.Proofs.KeywordTexts
import RecordFilter.Proofs.LoweredTexts
import RecordFilter.Proofs.Scanning

/-!
# Keyword tokens

A word is a keyword if its lower form is one, but the words of a longer keyword are compared letter
by letter.  The two agree on all letters but the stray ones.  With such a letter a text is scanned
as a keyword whose lower form is none: the letter stays in it.  All other keyword tokens are known
to the parser, however they are written.
-/

namespace RecordFilter

open Text

/-! ## Words of a text -/

namespace Text

theorem words_blank {c : Char} (blank : isBlank c = true) (rest : List Char) :
    words (c :: rest) = words rest := by
  rw [words.eq_def]
  exact if_pos blank

theorem words_last {c : Char} (visible : isBlank c = false) {rest : List Char}
    (stops : ∀ d ∈ rest.head?, isBlank d = true) : words (c :: rest) = [c] :: words rest := by
  rw [words.eq_def]
  simp only [visible, Bool.false_eq_true, if_false]
  cases rest with
  | nil => rfl
  | cons d rest => cases words (d :: rest) <;> simp [stops d rfl]

theorem words_ne_nil {c : Char} (visible : isBlank c = false) (rest : List Char) :
    words (c :: rest) ≠ [] := by
  rw [words.eq_def]
  simp only [visible, Bool.false_eq_true, if_false]
  split
  · split_ifs <;> exact List.cons_ne_nil _ _
  · exact List.cons_ne_nil _ _

theorem words_visible {c d : Char} (visible : isBlank c = false) (next : isBlank d = false)
    (rest : List Char) : ∃ word others, words (d :: rest) = word :: others ∧
      words (c :: d :: rest) = (c :: word) :: others := by
  obtain ⟨word, others, later⟩ := List.exists_cons_of_ne_nil (words_ne_nil next rest)
  refine ⟨word, others, later, ?_⟩
  rw [words.eq_def]
  simp only [visible, later, next, Bool.false_eq_true, if_false]

theorem words_append {piece behind : List Char} (nonempty : piece ≠ [])
    (visible : ∀ c ∈ piece, isBlank c = false) (stops : ∀ c ∈ behind.head?, isBlank c = true) :
    words (piece ++ behind) = piece :: words behind := by
  induction piece with
  | nil => exact absurd rfl nonempty
  | cons c piece ih =>
      obtain ⟨first, visible⟩ := List.forall_mem_cons.mp visible
      cases piece with
      | nil => exact words_last first stops
      | cons d piece =>
          obtain ⟨word, others, later, all⟩ :=
            words_visible first (visible d List.mem_cons_self) (piece ++ behind)
          have known := ih (List.cons_ne_nil d piece) visible
          obtain ⟨rfl, rfl⟩ := List.cons.inj (later.symm.trans known)
          exact all

theorem words_eq_self {piece : List Char} (nonempty : piece ≠ [])
    (visible : ∀ c ∈ piece, isBlank c = false) : words piece = [piece] := by
  have whole : words (piece ++ []) = [piece] := words_append nonempty visible nofun
  rwa [List.append_nil] at whole

theorem words_gap {gap : List Char} (blank : ∀ c ∈ gap, isBlank c = true) (behind : List Char) :
    words (gap ++ behind) = words behind := by
  induction gap with
  | nil => rfl
  | cons c gap ih =>
      obtain ⟨first, blank⟩ := List.forall_mem_cons.mp blank
      rw [List.cons_append, words_blank first, ih blank]

theorem exists_mem_words {text : List Char} {c : Char} (member : c ∈ text)
    (visible : isBlank c = false) : ∃ word ∈ words text, c ∈ word := by
  induction text with
  | nil => cases member
  | cons d text ih =>
      rw [List.mem_cons] at member
      cases first : isBlank d with
      | true =>
          have later : c ∈ text := member.resolve_left fun same => by simp [same, first] at visible
          rw [words_blank first]
          exact ih later
      | false =>
          by_cases next : ∃ e ∈ text.head?, isBlank e = false
          · obtain ⟨e, head, next⟩ := next
            obtain ⟨rest, rfl⟩ := List.head?_eq_some_iff.mp head
            obtain ⟨word, others, later, all⟩ := words_visible first next rest
            rw [later, List.exists_mem_cons_iff] at ih
            rw [all, List.exists_mem_cons_iff]
            rcases member with rfl | member
            · exact .inl List.mem_cons_self
            · exact (ih member).imp_left (List.mem_cons_of_mem d)
          · have stops : ∀ e ∈ text.head?, isBlank e = true := by simpa using next
            rw [words_last first stops, List.exists_mem_cons_iff]
            exact member.imp List.mem_singleton.mpr ih

end Text

namespace Token

/-! ## Stray letters -/

/-- A stray letter leaves a character beyond ASCII in the lower form of a text. -/
theorem exists_beyond_of_stray {text : List Char} {c : Char} (member : c ∈ text)
    (stray : c ∈ strayLetters) :
    ∃ d ∈ lowerText text, isAscii d = false ∧ isBlank d = false := by
  obtain ⟨before, after, rfl⟩ := List.append_of_mem member
  obtain ⟨front, lowered⟩ := exists_lowerFrom_append false before (c :: after)
  simp only [lowerText, lowered, List.mem_append]
  have beyond : ∃ d ∈ lowerFrom (inWordAfter false before) (c :: after),
      isAscii d = false ∧ isBlank d = false := by
    simp only [strayLetters, List.mem_cons, List.not_mem_nil, or_false] at stray
    rcases stray with rfl | rfl | rfl
    · exact ⟨Char.ofNat 0x307, by simp [lowerFrom], by decide⟩
    · exact ⟨'ı', by rw [lowerFrom]; exact List.mem_cons_self, by decide⟩
    · exact ⟨'ſ', by rw [lowerFrom]; exact List.mem_cons_self, by decide⟩
  exact beyond.imp fun d found => ⟨.inr found.1, found.2⟩

/-! ## Keyword tokens -/

def knownKeywords : List String := [
  "like", "in", "between", "and", "is", "not", "empty", "is null", "is not null", "is empty",
  "is not empty", "not like", "not in", "not between"]

def keywordWords : List String := ["like", "in", "between", "and", "is", "not", "empty", "null"]

inductive KeywordText : List Char → Prop
  | simple {text : List Char} (word : ∀ c ∈ text, isWordChar c = true)
      (known : String.ofList (lowerText text) ∈ simpleKeywords) : KeywordText text
  | compound {ws : List String} {text : List Char} (known : ws ∈ compoundKeywords)
      (written : Written ws text) : KeywordText text

theorem wordLexeme_keyword {c : Char} {rest : List Char} (word : isWordChar c = true)
    (keyword : (wordLexeme c rest).1 = .keyword) :
    KeywordText (c :: rest.take (wordLexeme c rest).2) := by
  unfold wordLexeme at keyword ⊢
  split at keyword
  · next length compound =>
      obtain ⟨ws, known, written, -⟩ := written_of_compoundRun? compound
      exact .compound known written
  · simp only [take_wordRun]
    refine .simple (List.forall_mem_cons.mpr ⟨word, fun d => List.mem_takeWhile_imp⟩) ?_
    simp only [wordKind] at keyword
    split_ifs at keyword with null simple
    exact List.contains_iff_mem.mp simple

theorem keywordText_of_lexeme {c : Char} {rest : List Char}
    (keyword : (lexeme c rest).1 = .keyword) :
    KeywordText (c :: rest.take (lexeme c rest).2) := by
  unfold lexeme at keyword ⊢
  split_ifs at keyword ⊢ with bracket mark digit double single punctuation word
  · rcases delimited_eq .field '[' ']' rest with kind | ⟨kind, -⟩ <;> simp [kind] at keyword
  · rcases delimited_eq .text apostrophe apostrophe rest with kind | ⟨kind, -⟩ <;>
      simp [kind] at keyword
  · exact wordLexeme_keyword word keyword

theorem keywordText_of_mem_scanFrom {position : Nat} {text : List Char} {t : Token}
    (member : t ∈ scanFrom position text) (keyword : t.kind = .keyword) :
    KeywordText t.text.toList := by
  match text with
  | [] =>
      rw [scanFrom, List.mem_singleton] at member
      subst member
      cases keyword
  | c :: rest =>
      cases blank : isBlank c with
      | true =>
          rw [scanFrom_blank blank] at member
          exact keywordText_of_mem_scanFrom member keyword
      | false =>
          rw [scanFrom_lexeme blank, List.mem_cons] at member
          rcases member with rfl | member
          · rw [String.toList_ofList]
            exact keywordText_of_lexeme keyword
          · exact keywordText_of_mem_scanFrom member keyword
  termination_by text.length

/-! ## Straight texts -/

def Straight (text : List Char) : Prop := ∀ c ∈ text, c ∉ strayLetters

theorem straight_append {first second : List Char} :
    Straight (first ++ second) ↔ Straight first ∧ Straight second :=
  List.forall_mem_append

theorem lowerText_of_straight {text : List Char} (straight : Straight text) (noSigma : 'Σ' ∉ text) :
    lowerText text = text.map lowerChar :=
  lowerFrom_eq_map false noSigma fun member => straight 'İ' member (by decide)

theorem not_mem_sigma_of_sameText {word : String} {piece : List Char} (small : SmallWord word)
    (same : SameText word.toList piece) : 'Σ' ∉ piece := fun member =>
  (letterForm_facts _ (mem_letterForms_of_sameText small.2 same _ member)).2.2.2 rfl

theorem lowerText_of_sameText {word : String} {piece : List Char} (small : SmallWord word)
    (same : SameText word.toList piece) (straight : Straight piece) :
    lowerText piece = word.toList := by
  have letters {word piece : List Char} (same : SameText word piece)
      (small : ∀ l ∈ word, l ∈ smallLetters) (straight : Straight piece) :
      piece.map lowerChar = word := by
    induction same with
    | nil => rfl
    | cons first _ ih =>
        obtain ⟨smallFirst, small⟩ := List.forall_mem_cons.mp small
        obtain ⟨straightFirst, straight⟩ := List.forall_mem_cons.mp straight
        rw [List.map_cons, lowerChar_of_sameLetter smallFirst first straightFirst,
          ih small straight]
  rw [lowerText_of_straight straight (not_mem_sigma_of_sameText small same),
    letters same small.2 straight]

theorem Written.not_mem_sigma {ws : List String} {text : List Char} (written : Written ws text)
    (small : ∀ word ∈ ws, SmallWord word) : 'Σ' ∉ text := by
  induction written with
  | last same => exact not_mem_sigma_of_sameText (small _ List.mem_cons_self) same
  | more same _ blank _ ih =>
      obtain ⟨first, small⟩ := List.forall_mem_cons.mp small
      have visible : isBlank 'Σ' = false := by decide
      have noGap : 'Σ' ∉ _ := fun member => absurd (blank 'Σ' member) (by simp [visible])
      simp only [List.mem_append, not_or]
      exact ⟨⟨not_mem_sigma_of_sameText first same, noGap⟩, ih small⟩

theorem isBlank_letters {text : List Char} (letters : ∀ c ∈ text, c ∈ letterForms) :
    ∀ c ∈ text, isBlank c = false := fun c member => (letterForm_facts c (letters c member)).2.1

theorem SmallWord.isBlank {word : String} (small : SmallWord word) :
    ∀ c ∈ word.toList, isBlank c = false :=
  isBlank_letters fun c member =>
    List.mem_append_left _ (List.mem_append_left _ (small.2 c member))

theorem isBlank_sameText {word : String} {piece : List Char} (small : SmallWord word)
    (same : SameText word.toList piece) : ∀ c ∈ piece, isBlank c = false :=
  isBlank_letters (mem_letterForms_of_sameText small.2 same)

theorem Written.words_lower {ws : List String} {text : List Char} (written : Written ws text)
    (small : ∀ word ∈ ws, SmallWord word) (straight : Straight text) :
    words (lowerText text) = ws.map String.toList ∧
      (words text).map lowerText = ws.map String.toList := by
  induction written with
  | @last word piece same =>
      have first := small word List.mem_cons_self
      have lowered := lowerText_of_sameText first same straight
      rw [lowered, words_eq_self first.1 first.isBlank,
        words_eq_self (ne_nil_of_sameText first same) (isBlank_sameText first same)]
      simp [lowered]
  | @more word piece gap rest others same gapped blank written ih =>
      have noSigma := (Written.more same gapped blank written).not_mem_sigma small
      obtain ⟨first, small⟩ := List.forall_mem_cons.mp small
      obtain ⟨straightFront, straightRest⟩ := straight_append.mp straight
      have straightPiece := (straight_append.mp straightFront).1
      obtain ⟨lowerRest, wordsRest⟩ := ih small straightRest
      have lowerPiece := lowerText_of_sameText first same straightPiece
      have lowerGap : gap.map lowerChar = gap := by
        have kept : ∀ c ∈ gap, lowerChar c = c := fun c member => (blank_facts (blank c member)).1
        rw [List.map_congr_left kept, List.map_id']
      have lowered : lowerText (piece ++ gap ++ rest) = word.toList ++ (gap ++ lowerText rest) := by
        rw [lowerText_of_straight straight noSigma, List.map_append, List.map_append, lowerGap,
          ← lowerText_of_straight straightPiece (not_mem_sigma_of_sameText first same), lowerPiece,
          ← lowerText_of_straight straightRest (written.not_mem_sigma small), List.append_assoc]
      have stops (behind : List Char) : ∀ c ∈ (gap ++ behind).head?, isBlank c = true := by
        obtain ⟨d, gap, rfl⟩ := List.exists_cons_of_ne_nil gapped
        rintro _ ⟨⟩
        exact blank d List.mem_cons_self
      constructor
      · rw [lowered, words_append first.1 first.isBlank (stops _), words_gap blank, lowerRest,
          List.map_cons]
      · rw [List.append_assoc, words_append (ne_nil_of_sameText first same)
          (isBlank_sameText first same) (stops _), words_gap blank, List.map_cons, lowerPiece,
          wordsRest, List.map_cons]

/-! ## Keywords with and without stray letters -/

theorem mem_intercalate {ws : List String} {word : String} (member : word ∈ ws) {c : Char}
    (inside : c ∈ word.toList) : c ∈ (" ".intercalate ws).toList := by
  induction ws with
  | nil => cases member
  | cons first others ih =>
      rw [List.mem_cons] at member
      cases others with
      | nil =>
          rcases member with rfl | member
          · rwa [String.intercalate_singleton]
          · cases member
      | cons second others =>
          rw [String.intercalate_cons_cons, String.toList_append, List.mem_append]
          rcases member with rfl | member
          · exact .inl (by simp [inside])
          · exact .inr (ih member)

theorem not_known_of_stray {text : List Char} {c : Char} (member : c ∈ text)
    (stray : c ∈ strayLetters) :
    " ".intercalate ((words (lowerText text)).map String.ofList) ∉ knownKeywords := by
  have ascii : ∀ keyword ∈ knownKeywords, ∀ d ∈ keyword.toList, isAscii d = true := by decide
  intro known
  obtain ⟨d, lowered, beyond, visible⟩ := exists_beyond_of_stray member stray
  obtain ⟨word, listed, inside⟩ := exists_mem_words lowered visible
  have shown := mem_intercalate (List.mem_map_of_mem (f := String.ofList) listed)
    (by rwa [String.toList_ofList])
  rw [ascii _ known d shown] at beyond
  cases beyond

theorem not_word_of_stray {text : List Char} {c : Char} (member : c ∈ text)
    (stray : c ∈ strayLetters) :
    ∃ word ∈ words text, String.ofList (lowerText word) ∉ keywordWords := by
  have ascii : ∀ word ∈ keywordWords, ∀ d ∈ word.toList, isAscii d = true := by decide
  have visible : ∀ c ∈ strayLetters, isBlank c = false := by decide
  obtain ⟨word, listed, inside⟩ := exists_mem_words member (visible c stray)
  obtain ⟨d, lowered, beyond, -⟩ := exists_beyond_of_stray inside stray
  refine ⟨word, listed, fun known => ?_⟩
  rw [ascii _ known d (by rwa [String.toList_ofList])] at beyond
  cases beyond

theorem KeywordText.known {text : List Char} (h : KeywordText text) (straight : Straight text) :
    " ".intercalate ((words (lowerText text)).map String.ofList) ∈ knownKeywords ∧
      ∀ word ∈ words text, String.ofList (lowerText word) ∈ keywordWords := by
  cases h with
  | simple word known =>
      have alone : ∀ keyword ∈ simpleKeywords, keyword ∈ keywordWords ∧
          " ".intercalate ((words keyword.toList).map String.ofList) ∈ knownKeywords := by
        decide
      obtain ⟨listed, shown⟩ := alone _ known
      rw [String.toList_ofList] at shown
      refine ⟨shown, ?_⟩
      cases text with
      | nil => exact nofun
      | cons c text =>
          have visible : ∀ d ∈ c :: text, isBlank d = false :=
            fun d member => isBlank_wordChar (word d member)
          rw [words_eq_self (List.cons_ne_nil c text) visible, List.forall_mem_singleton]
          exact listed
  | @compound ws _ known written =>
      have listed : ∀ ws ∈ compoundKeywords,
          " ".intercalate ws ∈ knownKeywords ∧ ∀ word ∈ ws, word ∈ keywordWords := by
        decide
      obtain ⟨joined, parts⟩ := listed ws known
      obtain ⟨-, small⟩ := smallWords_of_mem_compoundKeywords ws known
      obtain ⟨lowered, separate⟩ := written.words_lower small straight
      constructor
      · rw [lowered, List.map_map]
        simpa using joined
      · intro word member
        have lowerWord : lowerText word ∈ ws.map String.toList :=
          separate ▸ List.mem_map_of_mem member
        obtain ⟨part, member, same⟩ := List.mem_map.mp lowerWord
        rw [← same, String.ofList_toList]
        exact parts part member

/-- A keyword token is known, and made of the words of keywords, exactly if there is no stray letter
in it. -/
theorem scan_keyword_iff (text : String) (t : Token) (member : t ∈ scan text)
    (keyword : t.kind = .keyword) :
    (t.keyword ∈ knownKeywords ↔ Straight t.text.toList) ∧
      ((∀ word ∈ words t.text.toList, String.ofList (lowerText word) ∈ keywordWords) ↔
        Straight t.text.toList) := by
  have written := keywordText_of_mem_scanFrom member keyword
  rw [Token.keyword, if_pos keyword]
  constructor
  · refine ⟨fun known c inside stray => not_known_of_stray inside stray known, fun straight => ?_⟩
    exact (written.known straight).1
  · refine ⟨fun parts c inside stray => ?_, fun straight => (written.known straight).2⟩
    obtain ⟨word, listed, unknown⟩ := not_word_of_stray inside stray
    exact unknown (parts word listed)

theorem scan_keyword_iff_notLike :
    let t : Token := ⟨.keyword, "NOT\tLI\u212aE", 4⟩
    t ∈ scan "[a] NOT\tLI\u212aE 'x'" ∧ t.keyword ∈ knownKeywords ∧
      ∀ word ∈ words t.text.toList, String.ofList (lowerText word) ∈ keywordWords := by
  intro t
  have member : t ∈ scan "[a] NOT\tLI\u212aE 'x'" := by decide +kernel
  have straight : Straight t.text.toList := by unfold Straight; decide +kernel
  obtain ⟨known, parts⟩ := scan_keyword_iff "[a] NOT\tLI\u212aE 'x'" t member rfl
  exact ⟨member, known.mpr straight, parts.mpr straight⟩

theorem scan_keyword_unknown :
    ∃ t ∈ scan "[a] ıs null", t.kind = .keyword ∧ t.keyword ∉ knownKeywords ∧
      ∃ word ∈ words t.text.toList, String.ofList (lowerText word) ∉ keywordWords := by
  refine ⟨⟨.keyword, "ıs null", 4⟩, ?_, rfl, ?_, "ıs".toList, ?_, ?_⟩ <;> decide +kernel

end Token

end RecordFilter
