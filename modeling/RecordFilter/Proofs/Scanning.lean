import Mathlib.Tactic.SplitIfs
import RecordFilter.Proofs.Numerals
import RecordFilter.Token.Scan

/-!
# What scanning makes of a text

Scanning gives every literal and every field reference the form of its kind, and its only end of
text is its last token.

The other way round, a piece of text is scanned as the token that it is meant to be as long as
nothing behind it joins it.  Numerals and words go on as far as they can, so a piece of text that
ends in one has to be followed by a separator.
-/

namespace RecordFilter

open Text

namespace Token

/-! ## Delimited texts -/

theorem closedSpan?_cons (closing c : Char) (text : List Char) :
    closedSpan? closing (c :: text) =
      if c == closing then some 1 else (closedSpan? closing text).map (· + 1) := by
  rw [closedSpan?, closedSpan?, List.findIdx?_cons]
  split <;> simp [Function.comp_def]

theorem closedSpan?_append {closing : Char} {inner : List Char} (closed : closing ∉ inner)
    (behind : List Char) :
    closedSpan? closing (inner ++ closing :: behind) = some (inner.length + 1) := by
  induction inner with
  | nil => simp [closedSpan?_cons]
  | cons c inner ih =>
      simp only [List.mem_cons, not_or] at closed
      have other : (c == closing) = false := by simpa using Ne.symm closed.1
      simp [closedSpan?_cons, other, ih closed.2]

theorem take_closed (inner behind : List Char) (closing : Char) :
    (inner ++ closing :: behind).take (inner.length + 1) = inner ++ [closing] := by
  simp [List.take_append, List.take_of_length_le]

theorem eq_append_of_closedSpan? {closing : Char} {text : List Char} {length : Nat}
    (h : closedSpan? closing text = some length) :
    ∃ inner behind, text = inner ++ closing :: behind ∧ closing ∉ inner ∧
      length = inner.length + 1 := by
  induction text generalizing length with
  | nil => simp [closedSpan?] at h
  | cons c text ih =>
      rw [closedSpan?_cons] at h
      split_ifs at h with same
      · obtain rfl := beq_iff_eq.mp same
        cases h
        exact ⟨[], text, rfl, by simp, rfl⟩
      · obtain ⟨shorter, found, rfl⟩ := Option.map_eq_some_iff.mp h
        obtain ⟨inner, behind, rfl, closed, rfl⟩ := ih found
        have other : closing ≠ c := fun equal => same (by simp [equal])
        exact ⟨c :: inner, behind, rfl, by simp [other, closed], rfl⟩

/-! ## Numerals -/

theorem digitRun_append {digits rest : List Char} (digital : ∀ c ∈ digits, isAsciiDigit c = true)
    (stops : ∀ c ∈ rest.head?, isAsciiDigit c = false) :
    digitRun (digits ++ rest) = digits.length := by
  have none : rest.takeWhile isAsciiDigit = [] := by
    cases rest with
    | nil => rfl
    | cons c rest => simp [stops c rfl]
  rw [digitRun, List.takeWhile_append_of_pos digital, none, List.append_nil]

theorem eq_digits_append (text : List Char) :
    ∃ digits rest, text = digits ++ rest ∧ (∀ c ∈ digits, isAsciiDigit c = true) ∧
      ∀ c ∈ rest.head?, isAsciiDigit c = false := by
  induction text with
  | nil => exact ⟨[], [], rfl, by simp, by simp⟩
  | cons c text ih =>
      by_cases digit : isAsciiDigit c = true
      · obtain ⟨digits, rest, rfl, digital, stops⟩ := ih
        exact ⟨c :: digits, rest, rfl, by simpa [digit] using digital, stops⟩
      · exact ⟨[], c :: text, rfl, by simp, by simpa using digit⟩

theorem numeralRun_whole {digits rest : List Char} (digital : ∀ c ∈ digits, isAsciiDigit c = true)
    (stops : ∀ c ∈ rest.head?, isAsciiDigit c = false ∧ c ≠ '.') :
    numeralRun (digits ++ rest) = digits.length := by
  rw [numeralRun, digitRun_append digital fun c hc => (stops c hc).1, List.drop_left]
  split
  · exact absurd rfl (stops '.' rfl).2
  · rfl

theorem numeralRun_fractional {digits places rest : List Char}
    (digital : ∀ c ∈ digits, isAsciiDigit c = true) (placed : places ≠ [])
    (digitalPlaces : ∀ c ∈ places, isAsciiDigit c = true)
    (stops : ∀ c ∈ rest.head?, isAsciiDigit c = false) :
    numeralRun (digits ++ '.' :: (places ++ rest)) = (digits ++ '.' :: places).length := by
  have point : ∀ c ∈ ('.' :: (places ++ rest)).head?, isAsciiDigit c = false := by
    rintro c ⟨⟩
    decide
  have some : places.length ≠ 0 := by simpa using placed
  rw [numeralRun, digitRun_append digital point, List.drop_left]
  simp only [digitRun_append digitalPlaces stops, if_neg some, List.length_append,
    List.length_cons]
  omega

theorem spells_numeralRun {c : Char} (digit : isAsciiDigit c = true) (rest : List Char) :
    ∃ d, SpellsNumber (c :: rest.take (numeralRun rest)) d := by
  obtain ⟨digits, behind, rfl, digital, stops⟩ := eq_digits_append rest
  have digitalFront : ∀ b ∈ c :: digits, isAsciiDigit b = true := by simpa [digit] using digital
  by_cases point : ∃ fraction, behind = '.' :: fraction
  · obtain ⟨fraction, rfl⟩ := point
    obtain ⟨places, behind, rfl, digitalPlaces, stopsBehind⟩ := eq_digits_append fraction
    by_cases placed : places = []
    · subst placed
      have run : numeralRun (digits ++ '.' :: ([] ++ behind)) = digits.length := by
        have none : digitRun ([] ++ behind) = 0 := digitRun_append digitalPlaces stopsBehind
        rw [numeralRun, digitRun_append digital stops, List.drop_left]
        simp only [if_pos none]
      rw [run, List.take_left]
      exact ⟨_, .whole (List.cons_ne_nil c digits) digitalFront⟩
    · rw [numeralRun_fractional digital placed digitalPlaces stopsBehind, ← List.cons_append,
        ← List.append_assoc, List.take_left]
      exact ⟨_, .fractional (List.cons_ne_nil c digits) digitalFront placed digitalPlaces⟩
  · have stopsAtPoint : ∀ b ∈ behind.head?, isAsciiDigit b = false ∧ b ≠ '.' := by
      intro b hb
      refine ⟨stops b hb, ?_⟩
      rintro rfl
      obtain ⟨fraction, same⟩ := List.head?_eq_some_iff.mp hb
      exact point ⟨fraction, same⟩
    rw [numeralRun_whole digital stopsAtPoint, List.take_left]
    exact ⟨_, .whole (List.cons_ne_nil c digits) digitalFront⟩

/-! ## Forms of tokens -/

theorem delimited_eq (kind : TokenKind) (opening closing : Char) (rest : List Char) :
    (delimited kind closing rest).1 = .invalid ∨ (delimited kind closing rest).1 = kind ∧
      ∃ inner, Encloses opening closing (opening :: rest.take (delimited kind closing rest).2)
        inner := by
  rw [delimited]
  cases span : closedSpan? closing rest with
  | none => exact .inl rfl
  | some length =>
      obtain ⟨inner, behind, rfl, closed, rfl⟩ := eq_append_of_closedSpan? span
      exact .inr ⟨rfl, inner, by rw [take_closed], closed⟩

def Formless (kind : TokenKind) : Prop :=
  kind ∈ [TokenKind.keyword, .symbol, .punctuation, .null, .word, .invalid]

theorem wordLexeme_formless (c : Char) (rest : List Char) : Formless (wordLexeme c rest).1 := by
  unfold wordLexeme
  split
  · simp [Formless]
  · simp only [wordKind]
    split_ifs <;> simp [Formless]

theorem Formless.hasForm {t : Token} (h : Formless t.kind) : t.HasForm ∧ t.kind ≠ .finish := by
  simp only [Formless, List.mem_cons, List.not_mem_nil, or_false] at h
  rcases h with kind | kind | kind | kind | kind | kind <;> simp [HasForm, kind]

theorem hasForm_of_lexeme {c : Char} {rest : List Char} {t : Token}
    (kind : t.kind = (lexeme c rest).1)
    (text : t.text.toList = c :: rest.take (lexeme c rest).2) : t.HasForm ∧ t.kind ≠ .finish := by
  unfold lexeme at kind text
  split_ifs at kind text with bracket mark digit
  · obtain rfl := beq_iff_eq.mp bracket
    rcases delimited_eq .field '[' ']' rest with invalid | ⟨field, inner, encloses⟩
    · exact Formless.hasForm (by simp [Formless, kind, invalid])
    · rw [field] at kind
      simp only [HasForm, kind, text]
      exact ⟨⟨inner, encloses⟩, by simp⟩
  · obtain rfl := beq_iff_eq.mp mark
    rcases delimited_eq .text apostrophe apostrophe rest with invalid | ⟨literal, inner, encloses⟩
    · exact Formless.hasForm (by simp [Formless, kind, invalid])
    · rw [literal] at kind
      simp only [HasForm, kind, text]
      exact ⟨⟨inner, encloses⟩, by simp⟩
  · simp only [HasForm, kind, text]
    exact ⟨spells_numeralRun digit rest, by simp⟩
  · exact Formless.hasForm (by simp [Formless, kind])
  · exact Formless.hasForm (by simp [Formless, kind])
  · exact Formless.hasForm (by simp [Formless, kind])
  · exact Formless.hasForm (by rw [kind]; exact wordLexeme_formless c rest)
  · exact Formless.hasForm (by simp [Formless, kind])

theorem scanFrom_blank {c : Char} (blank : isBlank c = true) (position : Nat) (rest : List Char) :
    scanFrom position (c :: rest) = scanFrom (position + 1) rest := by
  rw [scanFrom, if_pos blank]

theorem scanFrom_lexeme {c : Char} (visible : isBlank c = false) (position : Nat)
    (rest : List Char) :
    scanFrom position (c :: rest) =
      ⟨(lexeme c rest).1, String.ofList (c :: rest.take (lexeme c rest).2), position⟩ ::
        scanFrom (position + 1 + (lexeme c rest).2) (rest.drop (lexeme c rest).2) := by
  rw [scanFrom, if_neg (by simp [visible])]

/-- Scanning ends with the only end of text, and all other tokens have the forms of their kinds. -/
theorem scanFrom_formed (position : Nat) (text : List Char) :
    ∃ tokens finish, scanFrom position text = tokens ++ [finish] ∧ finish.kind = .finish ∧
      (∀ t ∈ tokens, t.kind ≠ .finish) ∧ Formed tokens := by
  match text with
  | [] => exact ⟨[], ⟨.finish, "", position⟩, by simp [scanFrom], rfl, by simp, by simp [Formed]⟩
  | c :: rest =>
      cases blank : isBlank c with
      | true =>
          rw [scanFrom_blank blank]
          exact scanFrom_formed (position + 1) rest
      | false =>
          rw [scanFrom_lexeme blank]
          obtain ⟨tokens, finish, scanned, ends, only, formed⟩ := scanFrom_formed
            (position + 1 + (lexeme c rest).2) (rest.drop (lexeme c rest).2)
          rw [scanned, ← List.cons_append]
          have form := hasForm_of_lexeme (t := ⟨(lexeme c rest).1,
            String.ofList (c :: rest.take (lexeme c rest).2), position⟩) rfl (by simp)
          exact ⟨_, finish, rfl, ends, List.forall_mem_cons.mpr ⟨form.2, only⟩,
            List.forall_mem_cons.mpr ⟨form.1, formed⟩⟩
  termination_by text.length

/-! ## Pieces of text -/

def separators : List Char := [' ', ')', ',', Char.ofNat 125]

def Separates (rest : List Char) : Prop := ∀ c ∈ rest.head?, c ∈ separators

/-- Scanning takes tokens as wanted from a piece of text and goes on behind it. -/
def ScansTo (wanted : List Token → Prop) (text rest : List Char) : Prop :=
  ∀ position, ∃ tokens behind,
    scanFrom position (text ++ rest) = tokens ++ scanFrom behind rest ∧ wanted tokens

def Single (kind : TokenKind) (text : List Char) (tokens : List Token) : Prop :=
  ∃ position, tokens = [⟨kind, String.ofList text, position⟩]

theorem separates_nil : Separates [] := by simp [Separates]

theorem separates_cons {c : Char} (h : c ∈ separators) (rest : List Char) :
    Separates (c :: rest) := by simpa [Separates] using h

theorem Separates.head?_ne {rest : List Char} (h : Separates rest) : rest.head? ≠ some '=' := by
  intro equal
  exact absurd (h '=' equal) (by decide)

theorem Separates.eq {rest : List Char} (h : Separates rest) :
    rest = [] ∨ ∃ behind, rest = ' ' :: behind ∨ rest = ')' :: behind ∨ rest = ',' :: behind ∨
      rest = Char.ofNat 125 :: behind := by
  cases rest with
  | nil => exact .inl rfl
  | cons c behind =>
      have known := h c rfl
      simp only [separators, List.mem_cons, List.not_mem_nil, or_false] at known
      exact .inr ⟨behind, by simpa using known⟩

theorem ScansTo.mono {wanted goal : List Token → Prop} {text rest : List Char}
    (h : ScansTo wanted text rest) (weaker : ∀ ts, wanted ts → goal ts) :
    ScansTo goal text rest := by
  intro position
  obtain ⟨tokens, behind, scanned, good⟩ := h position
  exact ⟨tokens, behind, scanned, weaker tokens good⟩

def Behind (first second : List Token → Prop) (tokens : List Token) : Prop :=
  ∃ ts us, tokens = ts ++ us ∧ first ts ∧ second us

theorem ScansTo.append {first second : List Token → Prop} {text text' rest : List Char}
    (h : ScansTo first text (text' ++ rest)) (h' : ScansTo second text' rest) :
    ScansTo (Behind first second) (text ++ text') rest := by
  intro position
  obtain ⟨ts, behind, scanned, good⟩ := h position
  obtain ⟨us, behind', scanned', good'⟩ := h' behind
  refine ⟨ts ++ us, behind', ?_, ts, us, rfl, good, good'⟩
  rw [List.append_assoc, scanned, scanned', List.append_assoc]

theorem ScansTo.space {wanted : List Token → Prop} {text rest : List Char}
    (h : ScansTo wanted text rest) : ScansTo wanted (' ' :: text) rest := by
  intro position
  obtain ⟨tokens, behind, scanned, good⟩ := h (position + 1)
  exact ⟨tokens, behind, by rw [List.cons_append, scanFrom_blank isBlank_space, scanned], good⟩

theorem scansTo_lexeme {kind : TokenKind} (c : Char) (written : List Char) {rest : List Char}
    (visible : isBlank c = false) (h : lexeme c (written ++ rest) = (kind, written.length)) :
    ScansTo (Single kind (c :: written)) (c :: written) rest := by
  intro position
  refine ⟨_, position + 1 + written.length, ?_, position, rfl⟩
  rw [List.cons_append, scanFrom_lexeme visible, h, List.take_left, List.drop_left]
  rfl

theorem lexeme_digit {c : Char} (digit : isAsciiDigit c = true) (rest : List Char) :
    lexeme c rest = (.number, numeralRun rest) := by
  have notBracket : c ≠ '[' := ne_of_digit digit (by decide)
  have notMark : c ≠ apostrophe := ne_of_digit digit (by decide)
  simp [lexeme, notBracket, notMark, digit]

theorem exists_cons_of_spells {text rest : List Char} {d : Decimal} (spelled : SpellsNumber text d)
    (stops : ∀ c ∈ rest.head?, isAsciiDigit c = false ∧ c ≠ '.') :
    ∃ c written, text = c :: written ∧ isAsciiDigit c = true ∧
      numeralRun (written ++ rest) = written.length := by
  cases spelled with
  | @whole digits nonempty digital =>
      obtain ⟨c, digits, rfl⟩ := List.exists_cons_of_ne_nil nonempty
      rw [List.forall_mem_cons] at digital
      exact ⟨c, digits, rfl, digital.1, numeralRun_whole digital.2 stops⟩
  | @fractional digits places nonempty digital placed digitalPlaces =>
      obtain ⟨c, digits, rfl⟩ := List.exists_cons_of_ne_nil nonempty
      rw [List.forall_mem_cons] at digital
      have stopsBehind : ∀ c ∈ rest.head?, isAsciiDigit c = false := fun c hc => (stops c hc).1
      refine ⟨c, digits ++ '.' :: places, rfl, digital.1, ?_⟩
      rw [List.append_assoc, List.cons_append,
        numeralRun_fractional digital.2 placed digitalPlaces stopsBehind]

theorem scansTo_number {text rest : List Char} {d : Decimal} (spelled : SpellsNumber text d)
    (separates : Separates rest) : ScansTo (Single .number text) text rest := by
  have apart : separators.all (fun c => !isAsciiDigit c && c != '.') = true := by decide
  have stops : ∀ c ∈ rest.head?, isAsciiDigit c = false ∧ c ≠ '.' := fun c hc => by
    simpa using List.all_eq_true.mp apart c (separates c hc)
  obtain ⟨c, written, rfl, digit, run⟩ := exists_cons_of_spells spelled stops
  exact scansTo_lexeme c written (isBlank_digit digit) (by rw [lexeme_digit digit, run])

theorem delimited_append {kind : TokenKind} {closing : Char} {inner : List Char}
    (closed : closing ∉ inner) (rest : List Char) :
    delimited kind closing (inner ++ [closing] ++ rest) = (kind, (inner ++ [closing]).length) := by
  rw [delimited, List.append_assoc, List.singleton_append, closedSpan?_append closed]
  simp

theorem scansTo_field {text inner : List Char} (encloses : Encloses '[' ']' text inner)
    (rest : List Char) : ScansTo (Single .field text) text rest := by
  obtain ⟨rfl, closed⟩ := encloses
  exact scansTo_lexeme '[' (inner ++ [']']) (by decide) (delimited_append closed rest)

theorem scansTo_text {text inner : List Char}
    (encloses : Encloses apostrophe apostrophe text inner) (rest : List Char) :
    ScansTo (Single .text text) text rest := by
  obtain ⟨rfl, closed⟩ := encloses
  exact scansTo_lexeme apostrophe (inner ++ [apostrophe]) (by decide) (delimited_append closed rest)

/-! ## Symbols -/

theorem startsDouble_eq_false {c : Char} {rest : List Char}
    (single : ∀ d ∈ rest.head?, (c, d) ∉ doubleSymbols) : startsDouble c rest = false := by
  cases rest with
  | nil => rfl
  | cons d rest => simpa [startsDouble] using single d rfl

theorem startsDouble_of_all {cs : List Char}
    (all : cs.all (fun c => !(doubleSymbols.map Prod.fst).contains c) = true) {c : Char}
    (h : c ∈ cs) (rest : List Char) : startsDouble c rest = false := by
  refine startsDouble_eq_false fun d _ member => ?_
  have first := List.all_eq_true.mp all c h
  rw [List.contains_iff_mem.mpr (List.mem_map_of_mem member)] at first
  exact Bool.noConfusion first

theorem scansTo_punctuation {c : Char} (known : c ∈ punctuationMarks) (rest : List Char) :
    ScansTo (Single .punctuation [c]) [c] rest := by
  have single : startsDouble c rest = false := startsDouble_of_all (by decide) known rest
  simp only [punctuationMarks, List.mem_cons, List.not_mem_nil, or_false] at known
  rcases known with rfl | rfl | rfl | rfl | rfl <;>
    exact scansTo_lexeme _ [] (by decide) (by rw [List.nil_append, lexeme, single]; rfl)

theorem scansTo_sign {c : Char} (known : c ∈ ['!', '-', '+']) {rest : List Char}
    (apart : rest.head? ≠ some '=') : ScansTo (Single .symbol [c]) [c] rest := by
  have single : startsDouble c rest = false := by
    refine startsDouble_eq_false fun d hd member => ?_
    have signs : ∀ entry ∈ doubleSymbols, entry.1 ∈ ['!', '-', '+'] → entry.2 = '=' := by decide
    have equal : d = '=' := signs (c, d) member known
    rw [equal] at hd
    exact apart hd
  simp only [List.mem_cons, List.not_mem_nil, or_false] at known
  rcases known with rfl | rfl | rfl <;>
    exact scansTo_lexeme _ [] (by decide) (by rw [List.nil_append, lexeme, single]; rfl)

def binarySymbols : List String :=
  ["||", "&&", "+", "-", "*", "/", "==", "!=", "<", ">", "<=", ">="]

theorem scansTo_symbol {symbol : String} (known : symbol ∈ binarySymbols) (rest : List Char) :
    ScansTo (Single .symbol symbol.toList) symbol.toList (' ' :: rest) := by
  simp only [binarySymbols, List.mem_cons, List.not_mem_nil, or_false] at known
  rcases known with rfl | rfl | rfl | rfl | rfl | rfl | rfl | rfl | rfl | rfl | rfl | rfl
  · exact scansTo_lexeme '|' ['|'] (by decide) rfl
  · exact scansTo_lexeme '&' ['&'] (by decide) rfl
  · exact scansTo_lexeme '+' [] (by decide) rfl
  · exact scansTo_lexeme '-' [] (by decide) rfl
  · exact scansTo_lexeme '*' [] (by decide) rfl
  · exact scansTo_lexeme '/' [] (by decide) rfl
  · exact scansTo_lexeme '=' ['='] (by decide) rfl
  · exact scansTo_lexeme '!' ['='] (by decide) rfl
  · exact scansTo_lexeme '<' [] (by decide) rfl
  · exact scansTo_lexeme '>' [] (by decide) rfl
  · exact scansTo_lexeme '<' ['='] (by decide) rfl
  · exact scansTo_lexeme '>' ['='] (by decide) rfl

/-! ## Words -/

theorem scansTo_null {rest : List Char} (separates : Separates rest) :
    ScansTo (Single .null "NULL".toList) "NULL".toList rest := by
  have whole : lexeme 'N' (['U', 'L', 'L'] ++ rest) = (.null, 3) := by
    rcases separates.eq with rfl | ⟨behind, rfl | rfl | rfl | rfl⟩ <;> rfl
  exact scansTo_lexeme 'N' ['U', 'L', 'L'] (by decide) whole

theorem scansTo_simpleKeyword {word : String} (known : word ∈ ["in", "like", "between", "and"])
    (rest : List Char) :
    ScansTo (Single .keyword word.toList) word.toList (' ' :: rest) := by
  simp only [List.mem_cons, List.not_mem_nil, or_false] at known
  rcases known with rfl | rfl | rfl | rfl
  · exact scansTo_lexeme 'i' ['n'] (by decide) rfl
  · exact scansTo_lexeme 'l' ['i', 'k', 'e'] (by decide) rfl
  · exact scansTo_lexeme 'b' ['e', 't', 'w', 'e', 'e', 'n'] (by decide) rfl
  · exact scansTo_lexeme 'a' ['n', 'd'] (by decide) rfl

theorem scansTo_compound {c : Char} (initial : c ∈ ['i', 'n']) (written : List Char)
    {rest : List Char}
    (found : compoundKeywords.findSome? (afterWords? · (c :: (written ++ rest))) = some rest) :
    ScansTo (Single .keyword (c :: written)) (c :: written) rest := by
  have single : startsDouble c (written ++ rest) = false :=
    startsDouble_of_all (by decide) initial (written ++ rest)
  have word : wordLexeme c (written ++ rest) = (.keyword, written.length) := by
    simp [wordLexeme, compoundRun?, found]
  simp only [List.mem_cons, List.not_mem_nil, or_false] at initial
  rcases initial with rfl | rfl <;>
    exact scansTo_lexeme _ written (by decide) (by rw [lexeme, single]; exact word)

theorem scansTo_compoundKeyword {word : String}
    (known : word ∈ compoundKeywords.map (" ".intercalate ·)) {rest : List Char}
    (separates : Separates rest) :
    ScansTo (Single .keyword word.toList) word.toList rest := by
  have found : compoundKeywords.findSome? (afterWords? · (word.toList ++ rest)) = some rest := by
    rcases separates.eq with rfl | ⟨behind, rfl | rfl | rfl | rfl⟩ <;>
    simp only [compoundKeywords, List.map_cons, List.map_nil, List.mem_cons, List.not_mem_nil,
      or_false] at known <;>
    rcases known with rfl | rfl | rfl | rfl | rfl | rfl | rfl <;> rfl
  simp only [compoundKeywords, List.map_cons, List.map_nil, List.mem_cons, List.not_mem_nil,
    or_false] at known
  rcases known with rfl | rfl | rfl | rfl | rfl | rfl | rfl
  · exact scansTo_compound (by decide) "s not empty".toList found
  · exact scansTo_compound (by decide) "s not null".toList found
  · exact scansTo_compound (by decide) "s empty".toList found
  · exact scansTo_compound (by decide) "s null".toList found
  · exact scansTo_compound (by decide) "ot between".toList found
  · exact scansTo_compound (by decide) "ot like".toList found
  · exact scansTo_compound (by decide) "ot in".toList found

def writtenKeywords : List String :=
  ["in", "like", "between", "and"] ++ compoundKeywords.map (" ".intercalate ·)

theorem keyword_of_written {word : String} (known : word ∈ writtenKeywords) (position : Nat) :
    (⟨.keyword, word, position⟩ : Token).keyword = word := by
  have lower : ∀ word ∈ writtenKeywords, 
      " ".intercalate ((words (lowerText word.toList)).map String.ofList) = word := by decide
  simpa [keyword] using lower word known

end Token

end RecordFilter
