import RecordFilter.Proofs.KeywordTexts
import RecordFilter.Proofs.TokenTiling

/-!
# Space between tokens

The tokens of a text may be moved apart, or closer to each other as long as a blank is left between
any two: the tokens are scanned again as they were.  A token ends before a blank where it ended
before, since only keywords of several words look beyond one.  Such a keyword is not found where
there was none, because a blank that is put between two characters never parts two word characters.
-/

namespace RecordFilter

open Text

namespace Token

/-! ## Loosened texts -/

/-- A character that a word may end with, so that no word character follows a token that does. -/
def EndsWord (c : Char) : Prop := isWordChar c = true ∧ isAsciiDigit c = false

/-- The second text is the first with its blanks changed: behind the character that is given first,
gaps between tokens may be made wider or narrower, but a gap is left, and new gaps may be put in
where no word goes on. -/
inductive Loosened : Char → List Char → List Char → Prop
  | ended {last : Char} {text : List Char} (blank : ∀ c ∈ text, isBlank c = true) :
      Loosened last text []
  | char {last c : Char} {text loose : List Char} (behind : Loosened c text loose) :
      Loosened last (c :: text) (c :: loose)
  | gap {last : Char} {narrow wide text loose : List Char} (blank : ∀ c ∈ narrow, isBlank c = true)
      (nonempty : wide ≠ []) (blankWide : ∀ c ∈ wide, isBlank c = true)
      (apart : narrow = [] → EndsWord last → Bounded text) (behind : Loosened ' ' text loose) :
      Loosened last (narrow ++ text) (wide ++ loose)

def Apart (behind : List Char) : Prop := ∀ c ∈ behind.head?, isBlank c = true

theorem Apart.bounded {behind : List Char} (apart : Apart behind) : Bounded behind :=
  fun c head => (blank_facts (apart c head)).2.1

theorem apart_append {gap : List Char} (nonempty : gap ≠ [])
    (blank : ∀ c ∈ gap, isBlank c = true) (behind : List Char) : Apart (gap ++ behind) := by
  obtain ⟨c, gap, rfl⟩ := List.exists_cons_of_ne_nil nonempty
  rintro _ ⟨⟩
  exact blank c List.mem_cons_self

namespace Loosened

variable {last : Char} {text loose : List Char}

theorem exists_cons {c : Char} (h : Loosened last text (c :: loose)) (visible : isBlank c = false) :
    ∃ rest, text = c :: rest ∧ Loosened c rest loose := by
  generalize same : c :: loose = whole at h
  cases h with
  | ended => cases same
  | char behind =>
      cases same
      exact ⟨_, rfl, behind⟩
  | gap _ nonempty blank =>
      obtain ⟨d, wide, rfl⟩ := List.exists_cons_of_ne_nil nonempty
      obtain ⟨rfl, -⟩ := List.cons.inj same
      rw [blank c List.mem_cons_self] at visible
      cases visible

theorem isBlank_of_nil (h : Loosened last text []) : ∀ c ∈ text, isBlank c = true := by
  generalize same : [] = whole at h
  cases h with
  | ended blank => exact blank
  | char => cases same
  | gap _ nonempty => exact absurd (List.append_eq_nil_iff.mp same.symm).1 nonempty

theorem bounded (h : Loosened last text loose) (ends : EndsWord last) (bound : Bounded loose) :
    Bounded text := by
  cases h with
  | ended blank =>
      cases text with
      | nil => exact nofun
      | cons c text => simpa using (apart_append (List.cons_ne_nil c text) blank []).bounded
  | char behind => exact fun d head => bound d head
  | @gap _ narrow _ text _ blank _ _ apart _ =>
      by_cases empty : narrow = []
      · rw [empty, List.nil_append]
        exact apart empty ends
      · exact (apart_append empty blank text).bounded

theorem trimLeft (h : Loosened last text loose) :
    Loosened ' ' (trimLeft text) (trimLeft loose) := by
  induction h with
  | @ended _ text blank =>
      rw [Text.trimLeft, List.dropWhile_eq_nil_iff.mpr blank]
      exact .ended (List.forall_mem_nil _)
  | @char _ c text loose behind ih =>
      simp only [Text.trimLeft, List.dropWhile_cons]
      cases isBlank c with
      | true => exact ih
      | false => exact .char behind
  | gap blank _ blankWide _ _ ih =>
      simp only [Text.trimLeft, List.dropWhile_append_of_pos blank,
        List.dropWhile_append_of_pos blankWide]
      exact ih

theorem append {front : List Char} (nonempty : front ≠ [])
    (behind : ∀ c, front.getLast? = some c → Loosened c text loose) :
    Loosened last (front ++ text) (front ++ loose) := by
  induction front generalizing last with
  | nil => exact absurd rfl nonempty
  | cons c front ih =>
      cases front with
      | nil => exact .char (behind c rfl)
      | cons d front =>
          refine .char (ih (List.cons_ne_nil d front) fun e ends => behind e ?_)
          rwa [List.getLast?_cons_cons]

theorem exists_append {word : List Char} (letters : ∀ c ∈ word, c ∈ letterForms)
    (nonempty : word ≠ []) (h : Loosened last text (word ++ loose)) :
    ∃ c rest, EndsWord c ∧ text = word ++ rest ∧ Loosened c rest loose := by
  induction word generalizing last text with
  | nil => exact absurd rfl nonempty
  | cons c word ih =>
      obtain ⟨first, letters⟩ := List.forall_mem_cons.mp letters
      obtain ⟨isWord, visible, noDigit, -⟩ := letterForm_facts c first
      obtain ⟨rest, rfl, behind⟩ := h.exists_cons visible
      cases word with
      | nil => exact ⟨c, rest, ⟨isWord, noDigit⟩, rfl, behind⟩
      | cons d word =>
          obtain ⟨e, others, ends, rfl, later⟩ := ih letters (List.cons_ne_nil d word) behind
          exact ⟨e, others, ends, rfl, later⟩

theorem exists_written {ws : List String} {piece behind : List Char}
    (small : ∀ word ∈ ws, SmallWord word) (written : Written ws piece) (bound : Bounded behind)
    (h : Loosened last text (piece ++ behind)) :
    ∃ piece' behind', Written ws piece' ∧ text = piece' ++ behind' ∧ Bounded behind' := by
  induction written generalizing last text with
  | @last word piece same =>
      have first := small word List.mem_cons_self
      obtain ⟨c, rest, ends, rfl, later⟩ := h.exists_append
        (mem_letterForms_of_sameText first.2 same) (ne_nil_of_sameText first same)
      exact ⟨piece, rest, .last same, rfl, later.bounded ends bound⟩
  | @more word piece gap rest others same gapped blank written ih =>
      obtain ⟨first, small⟩ := List.forall_mem_cons.mp small
      rw [List.append_assoc, List.append_assoc] at h
      obtain ⟨c, left, ends, rfl, later⟩ := h.exists_append
        (mem_letterForms_of_sameText first.2 same) (ne_nil_of_sameText first same)
      have bounded := later.bounded ends ((apart_append gapped blank _).bounded)
      have next := later.trimLeft
      rw [Text.trimLeft, Text.trimLeft, List.dropWhile_append_of_pos blank, ← Text.trimLeft,
        ← Text.trimLeft, written.trimLeft_eq_self small] at next
      obtain ⟨piece', behind', written', equal, bound'⟩ := ih small next
      -- Without a gap a word character would follow the first word.
      have gapLeft : left.takeWhile isBlank ≠ [] := by
        intro empty
        have whole := List.takeWhile_append_dropWhile (p := isBlank) (l := left)
        rw [empty, List.nil_append, ← Text.trimLeft, equal] at whole
        obtain ⟨e, others, rfl, form⟩ := written'.head? small
        have isWord := (letterForm_facts e form).1
        rw [bounded e (by rw [← whole]; rfl)] at isWord
        cases isWord
      refine ⟨_, behind', .more same gapLeft (fun e => List.mem_takeWhile_imp) written', ?_, bound'⟩
      rw [List.append_assoc, List.append_assoc, ← equal, Text.trimLeft,
        List.takeWhile_append_dropWhile]

theorem afterWords?_eq_none {ws : List String} (known : ws ∈ compoundKeywords)
    (h : Loosened last text loose) (unread : afterWords? ws text = none) :
    afterWords? ws loose = none := by
  obtain ⟨words, small⟩ := smallWords_of_mem_compoundKeywords ws known
  cases read : afterWords? ws loose with
  | none => rfl
  | some behind =>
      obtain ⟨piece, written, rfl, bound⟩ := (afterWords?_eq_some words small).mp read
      obtain ⟨piece', behind', found⟩ := h.exists_written small written bound
      rw [(afterWords?_eq_some words small).mpr ⟨piece', found⟩] at unread
      cases unread

end Loosened

/-! ## Ends of lexemes -/

theorem bounded_nil : Bounded [] := nofun

theorem not_endsWord (front : List Char) {mark last : Char} (known : isWordChar mark = false)
    (ends : (front ++ [mark]).getLast? = some last) : ¬ EndsWord last := by
  rw [List.getLast?_concat, Option.some.injEq] at ends
  rintro ⟨word, -⟩
  rw [← ends, known] at word
  cases word

theorem delimited_bounded {kind : TokenKind} {closing : Char} (mark : isWordChar closing = false)
    (opening : Char) (rest : List Char) {last : Char}
    (ends : (opening :: rest.take (delimited kind closing rest).2).getLast? = some last)
    (word : EndsWord last) : Bounded (rest.drop (delimited kind closing rest).2) := by
  rw [delimited] at ends ⊢
  cases span : closedSpan? closing rest with
  | none => simpa using bounded_nil
  | some length =>
      obtain ⟨inner, behind, rfl, -, rfl⟩ := eq_append_of_closedSpan? span
      simp only [span, take_closed] at ends
      exact absurd word (not_endsWord (opening :: inner) mark ends)

theorem isAsciiDigit_of_getLast? {text : List Char} {d : Decimal} (spelled : SpellsNumber text d)
    {last : Char} (ends : text.getLast? = some last) : isAsciiDigit last = true := by
  cases spelled with
  | whole _ digital => exact digital last (List.mem_of_getLast? ends)
  | @fractional digits places _ _ placed digitalPlaces =>
      obtain ⟨c, places, rfl⟩ := List.exists_cons_of_ne_nil placed
      refine digitalPlaces last (List.mem_of_getLast? ?_)
      rwa [List.getLast?_append_of_ne_nil _ (List.cons_ne_nil _ _), List.getLast?_cons_cons] at ends

theorem wordLexeme_bounded (c : Char) (rest : List Char) :
    Bounded (rest.drop (wordLexeme c rest).2) := by
  unfold wordLexeme
  split
  · next length compound =>
      obtain ⟨ws, -, -, bounded⟩ := written_of_compoundRun? compound
      exact bounded
  · intro d head
    have stops := List.head?_dropWhile_not isWordChar rest
    rw [Option.mem_def, drop_wordRun] at head
    rwa [head] at stops

theorem lexeme_bounded (c : Char) (rest : List Char) {last : Char}
    (ends : (c :: rest.take (lexeme c rest).2).getLast? = some last) (word : EndsWord last) :
    Bounded (rest.drop (lexeme c rest).2) := by
  have symbols : ∀ d ∈ doubleSymbols.map Prod.snd ++ singleSymbols ++ punctuationMarks,
      isWordChar d = false := by
    decide
  unfold lexeme at ends ⊢
  split_ifs at ends ⊢ with bracket mark digit double one punctuation isWord
  · exact delimited_bounded (by decide) c rest ends word
  · exact delimited_bounded (by decide) c rest ends word
  · obtain ⟨d, spelled⟩ := spells_numeralRun digit rest
    have digital := isAsciiDigit_of_getLast? spelled ends
    rw [EndsWord, digital] at word
    cases word.2
  · cases rest with
    | nil => cases double
    | cons d rest =>
        have second : d ∈ doubleSymbols.map Prod.snd :=
          List.mem_map_of_mem (f := Prod.snd) (List.contains_iff_mem.mp double)
        exact absurd word (not_endsWord [c] (symbols d (by simp [second])) ends)
  · have known : c ∈ singleSymbols := List.contains_iff_mem.mp one
    exact absurd word (not_endsWord [] (symbols c (by simp [known])) ends)
  · have known : c ∈ punctuationMarks := List.contains_iff_mem.mp punctuation
    exact absurd word (not_endsWord [] (symbols c (by simp [known])) ends)
  · exact wordLexeme_bounded c rest
  · exact absurd word (not_endsWord [] (by simpa using isWord) ends)

/-! ## Lexemes before a blank -/

theorem startsDouble_apart {c : Char} {rest behind : List Char} (length : Nat)
    (single : startsDouble c rest = false) (apart : Apart behind) :
    startsDouble c (rest.take length ++ behind) = false := by
  have blank : startsDouble c behind = false := startsDouble_eq_false fun d head member =>
    (blank_facts (apart d head)).2.2.2
      (List.mem_cons_of_mem _ (List.mem_map_of_mem (f := Prod.snd) member))
  cases rest with
  | nil => rwa [List.take_nil]
  | cons d rest =>
      cases length with
      | zero => exact blank
      | succ length => exact single

theorem delimited_apart {kind : TokenKind} {closing : Char} {rest behind : List Char}
    (closed : rest.drop (delimited kind closing rest).2 = [] → behind = []) :
    delimited kind closing (rest.take (delimited kind closing rest).2 ++ behind) =
      delimited kind closing rest := by
  cases span : closedSpan? closing rest with
  | none =>
      simp only [delimited, span, List.drop_length, List.take_length, true_implies] at closed ⊢
      rw [closed, List.append_nil, span]
  | some length =>
      obtain ⟨inner, others, rfl, closed, rfl⟩ := eq_append_of_closedSpan? span
      have self : delimited kind closing (inner ++ closing :: others) =
          (kind, inner.length + 1) := by
        rw [delimited, span]
      rw [self, take_closed, delimited_append closed, List.length_append, List.length_singleton]

theorem numeralRun_apart {c : Char} (digit : isAsciiDigit c = true) {rest behind : List Char}
    (apart : Apart behind) :
    numeralRun (rest.take (numeralRun rest) ++ behind) = numeralRun rest := by
  obtain ⟨d, spelled⟩ := spells_numeralRun digit rest
  have stops : ∀ d ∈ behind.head?, isAsciiDigit d = false ∧ d ≠ '.' := by
    intro d head
    obtain ⟨-, -, noDigit, listed⟩ := blank_facts (apart d head)
    exact ⟨noDigit, fun point => listed (by simp [point])⟩
  obtain ⟨_, written, same, -, run⟩ := exists_cons_of_spells spelled stops
  obtain ⟨-, rfl⟩ := List.cons.inj same
  rw [run, List.length_take, Nat.min_eq_left (numeralRun_le rest)]

theorem compoundRun?_apart {c : Char} {rest behind : List Char} {length : Nat}
    (apart : Apart behind) (compound : compoundRun? c rest = some length)
    (keywords : ∀ ws ∈ compoundKeywords, afterWords? ws (c :: rest) = none →
      afterWords? ws (c :: (rest.take length ++ behind)) = none) :
    compoundRun? c (rest.take length ++ behind) = some length := by
  obtain ⟨left, found, rfl⟩ := Option.map_eq_some_iff.mp compound
  obtain ⟨earlier, ws, later, split, read, none⟩ := List.findSome?_eq_some_iff.mp found
  have known : ws ∈ compoundKeywords := by
    rw [split]
    exact List.mem_append_right _ List.mem_cons_self
  obtain ⟨words, small⟩ := smallWords_of_mem_compoundKeywords ws known
  obtain ⟨written, -, -⟩ := written_of_afterWords? known read
  have found' : compoundKeywords.findSome? (afterWords? ·
      (c :: (rest.take (rest.length - left.length) ++ behind))) = some behind := by
    refine List.findSome?_eq_some_iff.mpr ⟨earlier, ws, later, split, ?_, fun ws' first => ?_⟩
    · exact (afterWords?_eq_some words small).mpr ⟨_, written, rfl, apart.bounded⟩
    · have known' : ws' ∈ compoundKeywords := by
        rw [split]
        exact List.mem_append_left _ first
      exact keywords ws' known' (none ws' first)
  rw [compoundRun?, found', Option.map_some, List.length_append, Nat.add_sub_cancel,
    List.length_take, Nat.min_eq_left (Nat.sub_le _ _)]

theorem wordLexeme_apart {c : Char} {rest behind : List Char} (apart : Apart behind)
    (keywords : ∀ ws ∈ compoundKeywords, afterWords? ws (c :: rest) = none →
      afterWords? ws (c :: (rest.take (wordLexeme c rest).2 ++ behind)) = none) :
    wordLexeme c (rest.take (wordLexeme c rest).2 ++ behind) = wordLexeme c rest := by
  cases compound : compoundRun? c rest with
  | some length =>
      simp only [wordLexeme, compound] at keywords ⊢
      rw [compoundRun?_apart apart compound keywords]
  | none =>
      simp only [wordLexeme, compound, take_wordRun] at keywords ⊢
      have none : compoundRun? c (rest.takeWhile isWordChar ++ behind) = none := by
        rw [compoundRun?, Option.map_eq_none_iff, List.findSome?_eq_none_iff] at compound ⊢
        exact fun ws known => keywords ws known (compound ws known)
      have same : (rest.takeWhile isWordChar ++ behind).takeWhile isWordChar =
          rest.takeWhile isWordChar := by
        have stops : behind.takeWhile isWordChar = [] := by
          cases behind with
          | nil => rfl
          | cons d behind => rw [List.takeWhile_cons, if_neg (by simp [apart.bounded d rfl])]
        rw [List.takeWhile_append_of_pos fun d => List.mem_takeWhile_imp, stops, List.append_nil]
      rw [none]
      simp only [same]

/-- A lexeme is the same if something else is put behind it, apart from it, in which no longer
keyword goes on. -/
theorem lexeme_apart (c : Char) (rest behind : List Char) (apart : Apart behind)
    (closed : rest.drop (lexeme c rest).2 = [] → behind = [])
    (keywords : ∀ ws ∈ compoundKeywords, afterWords? ws (c :: rest) = none →
      afterWords? ws (c :: (rest.take (lexeme c rest).2 ++ behind)) = none) :
    lexeme c (rest.take (lexeme c rest).2 ++ behind) = lexeme c rest := by
  rw [lexeme.eq_def c rest] at closed keywords ⊢
  split_ifs at closed keywords ⊢ with bracket mark digit double one punctuation isWord
  · rw [lexeme, if_pos bracket, delimited_apart closed]
  · rw [lexeme, if_neg bracket, if_pos mark, delimited_apart closed]
  · rw [lexeme_digit digit, numeralRun_apart digit apart]
  · cases rest with
    | nil => cases double
    | cons d rest =>
        have double' : startsDouble c ((d :: rest).take 1 ++ behind) = true := double
        rw [lexeme, if_neg bracket, if_neg mark, if_neg digit, if_pos double']
  all_goals
    have single := fun length => startsDouble_apart length (by simpa using double) apart
    simp only [lexeme, if_neg bracket, if_neg mark, if_neg digit, single, Bool.false_eq_true,
      if_false]
  · rw [if_pos one]
  · rw [if_neg one, if_pos punctuation]
  · rw [if_neg one, if_neg punctuation, if_pos isWord, wordLexeme_apart apart keywords]
  · rw [if_neg one, if_neg punctuation, if_neg isWord]

/-! ## Tokens moved apart -/

/-- A text made of tokens with gaps of any width between them. -/
inductive Spaced : List Token → List Char → Prop
  | nothing : Spaced [] []
  | token {t : Token} {tokens : List Token} {gap joined : List Char}
      (blank : ∀ c ∈ gap, isBlank c = true) (between : gap = [] ↔ tokens = [])
      (behind : Spaced tokens joined) : Spaced (t :: tokens) (t.text.toList ++ gap ++ joined)

theorem Spaced.nil_of_nil {joined : List Char} (spaced : Spaced [] joined) : joined = [] := by
  cases spaced
  rfl

theorem scanFrom_ne_nil (position : Nat) (text : List Char) : scanFrom position text ≠ [] := by
  obtain ⟨tokens, finish, scanned, -⟩ := scanFrom_formed position text
  rw [scanned]
  exact List.append_ne_nil_of_right_ne_nil tokens (List.cons_ne_nil finish [])

theorem scanFrom_gap {gap : List Char} (blank : ∀ c ∈ gap, isBlank c = true) (position : Nat)
    (behind : List Char) :
    scanFrom position (gap ++ behind) = scanFrom (position + gap.length) behind := by
  induction gap generalizing position with
  | nil => rfl
  | cons c gap ih =>
      obtain ⟨first, blank⟩ := List.forall_mem_cons.mp blank
      rw [List.cons_append, scanFrom_blank first, ih blank, List.length_cons, Nat.add_assoc,
        Nat.add_comm 1]

theorem scanFrom_apart {c : Char} {rest behind : List Char} (visible : isBlank c = false)
    (same : lexeme c (rest.take (lexeme c rest).2 ++ behind) = lexeme c rest) (position : Nat) :
    scanFrom position (c :: (rest.take (lexeme c rest).2 ++ behind)) =
      ⟨(lexeme c rest).1, String.ofList (c :: rest.take (lexeme c rest).2), position⟩ ::
        scanFrom (position + 1 + (lexeme c rest).2) behind := by
  have length : (rest.take (lexeme c rest).2).length = (lexeme c rest).2 :=
    List.length_take_of_le (lexeme_le c rest)
  rw [scanFrom_lexeme visible, same, List.take_append_of_le_length length.ge, List.take_take,
    Nat.min_self, List.drop_append_of_le_length length.ge, List.drop_take_self, List.nil_append]

theorem loosened_of_spaced {position : Nat} {text joined : List Char}
    (spaced : Spaced (scanFrom position text).dropLast joined) :
    Loosened ' ' (trimLeft text) joined := by
  match text with
  | [] =>
      rw [scanFrom] at spaced
      cases spaced
      exact .ended (List.forall_mem_nil _)
  | c :: rest =>
      cases blank : isBlank c with
      | true =>
          rw [scanFrom_blank blank] at spaced
          rw [trimLeft, List.dropWhile_cons_of_pos blank]
          exact loosened_of_spaced spaced
      | false =>
          rw [scanFrom_lexeme blank, List.dropLast_cons_of_ne_nil (scanFrom_ne_nil _ _)] at spaced
          cases spaced with
          | @token _ _ gap joined blankGap between behind =>
              have later := loosened_of_spaced behind
              have visible : trimLeft (c :: rest) = c :: rest :=
                trimLeft_eq_self_of_head (by rintro _ ⟨⟩; exact blank)
              have split : c :: rest = c :: rest.take (lexeme c rest).2 ++
                  rest.drop (lexeme c rest).2 := by
                rw [List.cons_append, List.take_append_drop]
              have gapLeft := List.takeWhile_append_dropWhile (p := isBlank)
                (l := rest.drop (lexeme c rest).2)
              rw [visible, String.toList_ofList, List.append_assoc, split]
              refine Loosened.append (List.cons_ne_nil _ _) fun last ends => ?_
              by_cases empty : gap = []
              · rw [between.mp empty] at behind
                rw [behind.nil_of_nil] at later
                rw [empty, behind.nil_of_nil]
                refine .ended ?_
                rw [← gapLeft]
                exact List.forall_mem_append.mpr
                  ⟨fun d => List.mem_takeWhile_imp, later.isBlank_of_nil⟩
              · rw [← gapLeft]
                have apart (none : (rest.drop (lexeme c rest).2).takeWhile isBlank = [])
                    (word : EndsWord last) :
                    Bounded ((rest.drop (lexeme c rest).2).dropWhile isBlank) := by
                  rw [none, List.nil_append] at gapLeft
                  rw [gapLeft]
                  exact lexeme_bounded c rest ends word
                exact .gap (fun d => List.mem_takeWhile_imp) empty blankGap apart later
  termination_by text.length

theorem scanFrom_spaced {position : Nat} {text joined : List Char}
    (spaced : Spaced (scanFrom position text).dropLast joined) (position' : Nat) :
    (scanFrom position' joined).map (fun t => (t.kind, t.text)) =
      (scanFrom position text).map fun t => (t.kind, t.text) := by
  match text with
  | [] =>
      rw [scanFrom] at spaced
      cases spaced
      simp [scanFrom]
  | c :: rest =>
      cases blank : isBlank c with
      | true =>
          rw [scanFrom_blank blank] at spaced ⊢
          exact scanFrom_spaced spaced position'
      | false =>
          have loosened := loosened_of_spaced spaced
          rw [scanFrom_lexeme blank, List.dropLast_cons_of_ne_nil (scanFrom_ne_nil _ _)] at spaced
          cases spaced with
          | @token _ _ gap joined blankGap between behind =>
              have visible : trimLeft (c :: rest) = c :: rest :=
                trimLeft_eq_self_of_head (by rintro _ ⟨⟩; exact blank)
              rw [visible, String.toList_ofList, List.append_assoc, List.cons_append] at loosened
              have apart : Apart (gap ++ joined) := by
                by_cases empty : gap = []
                · rw [between.mp empty] at behind
                  rw [empty, behind.nil_of_nil]
                  simp [Apart]
                · exact apart_append empty blankGap joined
              have closed (last : rest.drop (lexeme c rest).2 = []) : gap ++ joined = [] := by
                rw [last, scanFrom] at between behind
                rw [between.mpr rfl, behind.nil_of_nil, List.nil_append]
              have same := lexeme_apart c rest (gap ++ joined) apart closed fun _ known unread =>
                loosened.afterWords?_eq_none known unread
              rw [String.toList_ofList, List.append_assoc, List.cons_append,
                scanFrom_apart blank same, scanFrom_lexeme blank, List.map_cons, List.map_cons,
                scanFrom_gap blankGap, scanFrom_spaced behind]
  termination_by text.length

/-- Space between tokens does not matter. -/
theorem scan_spaced (text joined : String)
    (spaced : Spaced (scan text).dropLast joined.toList) :
    (scan joined).map (fun t => (t.kind, t.text)) = (scan text).map fun t => (t.kind, t.text) :=
  scanFrom_spaced spaced 0

theorem scan_spaced_touching :
    (scan "5 \tis\nnull  <=  [a b").map (fun t => (t.kind, t.text)) =
      (scan "5is\nnull<=[a b").map fun t => (t.kind, t.text) := by
  have tokens : (scan "5is\nnull<=[a b").dropLast =
      [⟨.number, "5", 0⟩, ⟨.keyword, "is\nnull", 1⟩, ⟨.symbol, "<=", 8⟩,
        ⟨.invalid, "[a b", 10⟩] := by
    decide +kernel
  have spaced : Spaced (scan "5is\nnull<=[a b").dropLast "5 \tis\nnull  <=  [a b".toList := by
    have open' : Spaced [⟨.invalid, "[a b", 10⟩] ("[a b".toList ++ [] ++ []) :=
      .token nofun (by decide) .nothing
    have symbol : Spaced [⟨.symbol, "<=", 8⟩, ⟨.invalid, "[a b", 10⟩]
        ("<=".toList ++ "  ".toList ++ "[a b".toList) :=
      .token (by decide) (by decide) open'
    have keyword : Spaced [⟨.keyword, "is\nnull", 1⟩, ⟨.symbol, "<=", 8⟩, ⟨.invalid, "[a b", 10⟩]
        ("is\nnull".toList ++ "  ".toList ++ "<=  [a b".toList) :=
      .token (by decide) (by decide) symbol
    rw [tokens]
    exact .token (by decide : ∀ c ∈ " \t".toList, isBlank c = true) (by decide) keyword
  exact scan_spaced _ _ spaced

end Token

end RecordFilter
