import Mathlib.Tactic.SplitIfs
import RecordFilter.Json.Reader
import RecordFilter.Proofs.Numerals
import RecordFilter.Proofs.Outcomes

/-!
# What the reader of documents does, step by step

The functions of the reader return what they read together with a bound on what is left.  Here is
each of them without the bound: an equation for its outcome, in terms of the outcomes of the
functions that it calls, for the texts that are written.
-/

namespace RecordFilter

namespace Text

/-- What holds of the characters of a list is decided along the list, not over all characters. -/
scoped instance (priority := 1100) decidableForallMem (p : Char → Prop) [DecidablePred p]
    (cs : List Char) : Decidable (∀ c ∈ cs, p c) := List.decidableBAll p cs

end Text

namespace Json

open Number Text

def outcome {α : Type} {bound : Nat} (x : Reading α bound) : Except JsonFailure (α × List Char) :=
  x.map fun parsed => (parsed.result, parsed.rest)

theorem rest_of_next?_none {α : Type} {bound : Nat} {p : Parsed Char α bound}
    (h : p.past.next? = none) : p.rest = [] := by
  obtain ⟨result, rest, short⟩ := p
  cases rest with
  | nil => rfl
  | cons => cases h

theorem rest_of_next?_some {α : Type} {bound : Nat} {p q : Parsed Char α bound} {c : Char}
    (h : p.past.next? = some (c, q)) : p.rest = c :: q.rest ∧ q.result = p.result := by
  obtain ⟨result, rest, short⟩ := p
  cases rest with
  | nil => cases h
  | cons =>
      cases h
      exact ⟨rfl, rfl⟩

theorem outcome_eq_ok {α : Type} {bound : Nat} {x : Reading α bound} {a : α} {rest : List Char}
    (h : outcome x = .ok (a, rest)) : ∃ p, x = .ok p ∧ p.result = a ∧ p.rest = rest := by
  cases x with
  | error => cases h
  | ok p =>
      cases h
      exact ⟨p, rfl, rfl, rfl⟩

theorem outcome_eq_error {α : Type} {bound : Nat} {x : Reading α bound} {e : JsonFailure}
    (h : outcome x = .error e) : x = .error e := by
  cases x with
  | error =>
      cases h
      rfl
  | ok => cases h

theorem outcome_bind {α β : Type} {m n : Nat} {x : Reading α m}
    {next : Parsed Char α m → Reading β n}
    {step : α × List Char → Except JsonFailure (β × List Char)}
    (h : ∀ p : Parsed Char α m, outcome (next p) = step (p.result, p.rest)) :
    outcome (x >>= next) = outcome x >>= step := by
  cases x with
  | error => rfl
  | ok p => exact h p

theorem next?_of_rest {α : Type} {bound : Nat} {p : Parsed Char α bound} {c : Char}
    {rest : List Char} (h : p.rest = c :: rest) : ∃ q, p.past.next? = some (c, q) := by
  obtain ⟨result, behind, short⟩ := p
  subst h
  exact ⟨_, rfl⟩

theorem outcome_bind_pure {α β : Type} {m n : Nat} {x : Reading α m}
    {combine : Parsed Char α m → Parsed Char β n} (make : α → β)
    (h : ∀ p : Parsed Char α m, (combine p).result = make p.result ∧ (combine p).rest = p.rest) :
    outcome (x >>= fun p => pure (combine p)) =
      (outcome x).map fun (a, rest) => (make a, rest) := by
  cases x with
  | error => rfl
  | ok p =>
      obtain ⟨result, rest⟩ := h p
      change Except.ok ((combine p).result, (combine p).rest) = Except.ok (make p.result, p.rest)
      rw [result, rest]

/-! ## Strings -/

section

variable (opening : Nat) {c : Char} {rest : List Char}

theorem outcome_readString_quote (rest : List Char) :
    outcome (readString opening ('"' :: rest)) = .ok ([], rest) := by
  rw [readString]
  rfl

theorem outcome_readString_nil : ∃ e, outcome (readString opening []) = .error e := by
  rw [readString]
  exact ⟨_, rfl⟩

theorem outcome_readString_plain (quote : c ≠ '"') (escape : c ≠ '\\') (printed : 32 ≤ c.toNat) :
    outcome (readString opening (c :: rest)) =
      (outcome (readString opening rest)).map fun (s, behind) => (c :: s, behind) := by
  have quote' : (c == doubleQuote) = false := beq_eq_false_iff_ne.mpr quote
  rw [readString, if_neg (by simp [quote']), if_neg (by simp [escape]), if_neg (by omega)]
  cases readString opening rest <;> rfl

theorem outcome_readString_escape :
    outcome (readString opening ('\\' :: rest)) = (do
      let (d, behind) ← outcome (readEscape opening rest)
      let (s, behind) ← outcome (readString opening behind)
      return (d :: s, behind)) := by
  rw [readString]
  exact outcome_bind fun escaped => outcome_bind fun more => rfl

theorem outcome_readEscape_simple {d : Char} (other : c ≠ 'u') (simple : simpleEscape? c = some d) :
    outcome (readEscape opening (c :: rest)) = .ok (d, rest) := by
  rw [readEscape, if_neg (by simp [other]), simple]
  rfl

theorem hexValue?_hexDigit {n : Nat} (low : n < 16) : hexValue? (hexDigit n) = some n := by
  have all : ∀ n < 16, hexValue? (hexDigit n) = some n := by decide
  exact all n low

theorem code?_hexDigits {n : Nat} (small : n < 0x10000) (e : Char) (rest : List Char) :
    (code? (hexDigits 4 n ++ e :: rest)).map (fun p => (p.result, p.rest)) =
      some (n, e :: rest) := by
  have value : ((n / 16 / 16 / 16 % 16 * 16 + n / 16 / 16 % 16) * 16 + n / 16 % 16) * 16 + n % 16 =
      n := by omega
  simp only [hexDigits, List.nil_append, List.cons_append, code?,
    hexValue?_hexDigit (Nat.mod_lt _ (by decide : 0 < 16)), Option.bind_eq_bind,
    Option.bind_some, Option.pure_def, Option.map_some]
  simp only [Parsed.past, Parsed.widen, Parsed.before, value]

theorem secondMark?_of_single {bound : Nat} (high : Parsed Char Nat bound)
    (single : isHighSurrogate high.result = false) : secondMark? high = none := by
  unfold secondMark?
  split
  · split
    · simp [single]
    · rfl
  · rfl

theorem outcome_readEscape_code {n : Nat} (small : n < 32) (e : Char) (rest : List Char) :
    outcome (readEscape opening ('u' :: (hexDigits 4 n ++ e :: rest))) =
      .ok (Char.ofNat n, e :: rest) := by
  obtain ⟨high, code, same⟩ := Option.map_eq_some_iff.mp
    (code?_hexDigits (Nat.lt_trans small (by decide)) e rest)
  obtain ⟨result, behind⟩ := Prod.mk.inj same
  have noHigh : isHighSurrogate n = false := by simp [isHighSurrogate]; omega
  have noLow : isLowSurrogate n = false := by simp [isLowSurrogate]; omega
  have single := secondMark?_of_single high (by rw [result, noHigh])
  rw [readEscape, if_pos (beq_self_eq_true 'u'), readCode, code]
  simp only [single]
  simp [outcome, Except.map, pure, Except.pure, Parsed.map, Parsed.past, Parsed.widen, behind,
    result, charOfCode, noHigh, noLow]

theorem outcome_readEscape_brokenCode (n : Nat) :
    ∃ e, outcome (readEscape opening ('u' :: hexDigits 4 n)) = .error e := by
  have broken : code? (hexDigits 4 n) = none := rfl
  rw [readEscape, if_pos (beq_self_eq_true 'u'), readCode, broken]
  exact ⟨_, rfl⟩

end

/-! ## Strings that were written -/

def IsPrintedAscii (c : Char) : Prop := 32 ≤ c.toNat ∧ c.toNat < 128

instance (c : Char) : Decidable (IsPrintedAscii c) := inferInstanceAs (Decidable (_ ∧ _))

inductive Written (c : Char) : List Char → Prop
  | escaped {d : Char} (other : d ≠ 'u') (simple : simpleEscape? d = some c)
      (ascii : IsPrintedAscii d) : Written c ['\\', d]
  | code (low : c.toNat < 32) : Written c ('\\' :: 'u' :: hexDigits 4 c.toNat)
  | plain (quote : c ≠ '"') (escape : c ≠ '\\') (printed : 32 ≤ c.toNat) : Written c [c]

theorem written_quoteChar (c : Char) : Written c (quoteChar c) := by
  have self {n : Nat} (h : c.toNat = n) : c = Char.ofNat n := by rw [← h, Char.ofNat_toNat]
  unfold quoteChar
  -- One case for each test that the writer makes, in its order.
  by_cases special : (c == doubleQuote || c == '\\') = true
  · rw [if_pos special]
    simp only [Bool.or_eq_true, beq_iff_eq] at special
    rcases special with rfl | rfl <;> exact .escaped (by decide) (by decide) (by decide)
  rw [if_neg special]
  by_cases feed : (c == '\n') = true
  · rw [if_pos feed, eq_of_beq feed]
    exact .escaped (by decide) (by decide) (by decide)
  rw [if_neg feed]
  by_cases return' : (c == '\r') = true
  · rw [if_pos return', eq_of_beq return']
    exact .escaped (by decide) (by decide) (by decide)
  rw [if_neg return']
  by_cases tab : (c == '\t') = true
  · rw [if_pos tab, eq_of_beq tab]
    exact .escaped (by decide) (by decide) (by decide)
  rw [if_neg tab]
  by_cases back : c.toNat = 8
  · rw [if_pos back, self back]
    exact .escaped (by decide) (by decide) (by decide)
  rw [if_neg back]
  by_cases page : c.toNat = 12
  · rw [if_pos page, self page]
    exact .escaped (by decide) (by decide) (by decide)
  rw [if_neg page]
  by_cases low : c.toNat < 32
  · rw [if_pos low]
    exact .code low
  · rw [if_neg low]
    simp only [Bool.or_eq_true, beq_iff_eq, not_or] at special
    exact .plain special.1 special.2 (Nat.le_of_not_lt low)

section

variable (opening : Nat)

/-- A written character is read back, behind which the string goes on. -/
theorem outcome_readString_quoteChar (c : Char) {more : List Char} (goesOn : more ≠ []) :
    outcome (readString opening (quoteChar c ++ more)) =
      (outcome (readString opening more)).map fun (s, behind) => (c :: s, behind) := by
  generalize h : quoteChar c = text
  cases h ▸ written_quoteChar c with
  | escaped other simple =>
      rw [List.cons_append, List.cons_append, List.nil_append, outcome_readString_escape,
        outcome_readEscape_simple opening other simple, ok_bind]
      dsimp only
      cases outcome (readString opening more) <;> rfl
  -- Behind a code the reader looks for a second one that could make a pair with it.
  | code low =>
      obtain ⟨e, rest, rfl⟩ := List.exists_cons_of_ne_nil goesOn
      rw [List.cons_append, List.cons_append, outcome_readString_escape,
        outcome_readEscape_code opening low, ok_bind, Char.ofNat_toNat]
      dsimp only
      cases outcome (readString opening (e :: rest)) <;> rfl
  | plain quote escape printed => exact outcome_readString_plain opening quote escape printed

theorem outcome_readString_quoteChar_error (c : Char) {more : List Char}
    (broken : ∃ e, outcome (readString opening more) = .error e) :
    ∃ e, outcome (readString opening (quoteChar c ++ more)) = .error e := by
  obtain ⟨e, broken⟩ := broken
  generalize h : quoteChar c = text
  cases h ▸ written_quoteChar c with
  | escaped other simple =>
      rw [List.cons_append, List.cons_append, List.nil_append, outcome_readString_escape,
        outcome_readEscape_simple opening other simple, ok_bind]
      dsimp only
      rw [broken]
      exact ⟨e, rfl⟩
  | code low =>
      rw [List.cons_append, List.cons_append, outcome_readString_escape]
      cases more with
      | nil =>
          obtain ⟨f, noCode⟩ := outcome_readEscape_brokenCode opening c.toNat
          rw [List.append_nil, noCode]
          exact ⟨f, rfl⟩
      | cons d rest =>
          rw [outcome_readEscape_code opening low, ok_bind]
          dsimp only
          rw [broken]
          exact ⟨e, rfl⟩
  | plain quote escape printed =>
      rw [List.singleton_append, outcome_readString_plain opening quote escape printed, broken]
      exact ⟨e, rfl⟩

theorem outcome_readString_quoted (s rest : List Char) :
    outcome (readString opening (s.flatMap quoteChar ++ '"' :: rest)) = .ok (s, rest) := by
  induction s with
  | nil => exact outcome_readString_quote opening rest
  | cons c s ih =>
      rw [List.flatMap_cons, List.append_assoc, outcome_readString_quoteChar _ _ (by simp), ih]
      rfl

theorem outcome_readString_unclosed (s : List Char) :
    ∃ e, outcome (readString opening (s.flatMap quoteChar)) = .error e := by
  induction s with
  | nil => exact outcome_readString_nil opening
  | cons c s ih =>
      rw [List.flatMap_cons]
      exact outcome_readString_quoteChar_error opening c ih

end

/-! ## Names and numbers -/

theorem forall_names (holds : String → Json → Prop) (null : holds "null" .null)
    (yes : holds "true" (.bool true)) (no : holds "false" (.bool false))
    (notANumber : holds "NaN" (.float (.nonFinite .notANumber)))
    (infinity : holds "Infinity" (.float (.nonFinite (.infinity false))))
    (minusInfinity : holds "-Infinity" (.float (.nonFinite (.infinity true)))) :
    ∀ entry ∈ names, holds entry.1 entry.2 := by
  simp only [names, List.forall_mem_cons]
  exact ⟨null, yes, no, notANumber, infinity, minusInfinity, by simp⟩

theorem outcome_readScalar_name {name : String} {value : Json} (named : (name, value) ∈ names)
    (rest : List Char) : outcome (readScalar (name.toList ++ rest)) = .ok (value, rest) :=
  forall_names (fun name value =>
    outcome (readScalar (name.toList ++ rest)) = .ok (value, rest)) rfl rfl rfl rfl rfl rfl _ named

def BeginsNumber (text : List Char) : Prop :=
  ∃ c ∈ text.head?, isAsciiDigit c = true ∨ c = '-' ∧ ∃ d ∈ text[1]?, isAsciiDigit d = true

theorem head?_name {name : String} {value : Json} (named : (name, value) ∈ names) :
    ∃ c rest, name.toList = c :: rest ∧ isAsciiDigit c = false ∧
      (c = '-' → rest.head? = some 'I') := by
  refine forall_names (fun name _ => ∃ c rest, name.toList = c :: rest ∧
    isAsciiDigit c = false ∧ (c = '-' → rest.head? = some 'I')) ?_ ?_ ?_ ?_ ?_ ?_ _ named <;>
    exact ⟨_, _, rfl, by decide, by decide⟩

theorem readScalar_unnamed {c : Char} {rest : List Char}
    (unnamed : ∀ entry ∈ names, ¬ entry.1.toList.isPrefixOf (c :: rest)) :
    readScalar (c :: rest) = readNumber (c :: rest) := by
  rw [readScalar]
  split
  · next found =>
      exact absurd (List.find?_some found) (unnamed _ (List.mem_of_find?_eq_some found))
  · rfl

theorem outcome_readScalar_number {text : List Char} (h : BeginsNumber text) :
    outcome (readScalar text) = outcome (readNumber text) := by
  obtain ⟨c, begins, digit⟩ := h
  obtain ⟨rest, rfl⟩ : ∃ rest, text = c :: rest := List.head?_eq_some_iff.mp begins
  refine congrArg outcome (readScalar_unnamed fun entry named isPrefix => ?_)
  obtain ⟨d, others, spelled, letter, minus⟩ := head?_name named
  rw [spelled, List.isPrefixOf_cons_cons, Bool.and_eq_true, beq_iff_eq] at isPrefix
  obtain ⟨rfl, below⟩ := isPrefix
  rcases digit with digit | ⟨rfl, e, second, digit⟩
  · exact absurd digit (by simp [letter])
  -- The only name behind a minus goes on with a letter.
  · obtain ⟨others', rfl⟩ : ∃ others', others = 'I' :: others' :=
      List.head?_eq_some_iff.mp (minus rfl)
    cases rest with
    | nil => cases second
    | cons f rest =>
        cases second
        rw [List.isPrefixOf_cons_cons, Bool.and_eq_true, beq_iff_eq] at below
        rw [← below.1] at digit
        exact absurd digit (by decide)

theorem outcome_readScalar_blank {c : Char} (blank : isBlank c = true) (rest : List Char) :
    ∃ e, outcome (readScalar (c :: rest)) = .error e := by
  have other {d : Char} (visible : isBlank d = false) : c ≠ d := by
    rintro rfl
    simp [blank] at visible
  have letter : isAsciiDigit c = false := Bool.eq_false_iff.mpr fun digit =>
    absurd blank (by simp [isBlank_digit digit])
  have unnamed : ∀ entry ∈ names, ¬ entry.1.toList.isPrefixOf (c :: rest) := by
    have visible : ∀ entry ∈ names, ∀ d ∈ entry.1.toList, isBlank d = false := by decide
    intro entry named isPrefix
    obtain ⟨d, others, spelled, -, -⟩ := head?_name named
    rw [spelled, List.isPrefixOf_cons_cons, Bool.and_eq_true, beq_iff_eq] at isPrefix
    exact other (visible _ named d (by simp [spelled])) isPrefix.1.symm
  have sign : (c :: rest).takeWhile (· == '-') = [] :=
    List.takeWhile_cons_of_neg (by simpa using other (by decide))
  have whole : wholeDigits (c :: rest) = [] := by
    unfold wholeDigits
    split
    · next same =>
        cases same
        exact absurd rfl (other (by decide))
    · exact List.takeWhile_cons_of_neg (by simp [letter])
  have parts : numberParts (c :: rest) = ([], [], (numberParts (c :: rest)).2.2) := by
    rw [numberParts, sign]
    exact congrArg (fun digits => ([], digits, _)) whole
  rw [readScalar_unnamed unnamed, readNumber, parts]
  exact ⟨_, rfl⟩

/-! ## Values -/

theorem outcome_readValue_nil : ∃ e, outcome (readValue []) = .error e := by
  rw [readValue]
  exact ⟨_, rfl⟩

theorem outcome_readValue_string (rest : List Char) :
    outcome (readValue ('"' :: rest)) =
      (outcome (readString (rest.length + 1) rest)).map fun (s, behind) =>
        (.string (String.ofList s), behind) := by
  rw [readValue, if_pos (by decide)]
  exact outcome_bind_pure (fun s => Json.string (String.ofList s)) fun _ => ⟨rfl, rfl⟩

theorem outcome_readValue_scalar {c : Char} (string : c ≠ '"') (array : c ≠ '[')
    (object : c ≠ '\x7b') (rest : List Char) :
    outcome (readValue (c :: rest)) = outcome (readScalar (c :: rest)) := by
  have other : ¬ c.toNat = 123 := fun same => object (by rw [← Char.ofNat_toNat c, same])
  have string' : (c == doubleQuote) = false := beq_eq_false_iff_ne.mpr string
  rw [readValue, if_neg (by simp [string']), if_neg (by simp [array]), if_neg other]

theorem rest_skipSpace {c : Char} (visible : isSpace c = false) (rest : List Char) :
    (skipSpace (c :: rest)).rest = c :: rest :=
  List.dropWhile_cons_of_neg (by simp [visible])

theorem outcome_readValue_emptyArray (rest : List Char) :
    outcome (readValue ('[' :: ']' :: rest)) = .ok (.array [], rest) := by
  rw [readValue, if_neg (by decide), if_pos (by decide)]
  rfl

theorem outcome_readValue_array {c : Char} (visible : isSpace c = false) (open' : c ≠ ']')
    (rest : List Char) :
    outcome (readValue ('[' :: c :: rest)) =
      (outcome (readItems (c :: rest))).map fun (items, behind) => (.array items, behind) := by
  have start := rest_skipSpace visible rest
  rw [readValue, if_neg (by decide), if_pos (by decide)]
  dsimp only
  split
  · next some =>
      obtain ⟨closes, -⟩ := rest_of_next?_some some
      rw [start] at closes
      exact absurd (List.cons.inj closes).1 open'
  · rw [outcome_bind_pure Json.array fun _ => ⟨rfl, rfl⟩, start]

theorem outcome_readItems (text : List Char) :
    outcome (readItems text) = (do
      let (item, behind) ← outcome (readValue text)
      match behind.dropWhile isSpace with
      | ']' :: rest => .ok ([item], rest)
      | ',' :: rest =>
          (outcome (readItems (rest.dropWhile isSpace))).map fun (items, behind) =>
            (item :: items, behind)
      | rest => fail .comma rest) := by
  rw [readItems]
  refine outcome_bind fun item => ?_
  dsimp only
  -- The first character behind the spaces decides, on both sides the same.
  split
  · next behind some =>
      obtain ⟨goesOn, result⟩ := rest_of_next?_some some
      change item.rest.dropWhile isSpace = ']' :: behind.rest at goesOn
      rw [goesOn]
      exact congrArg (fun item => Except.ok ([item], behind.rest)) result
  · next comma some =>
      obtain ⟨goesOn, result⟩ := rest_of_next?_some some
      change item.rest.dropWhile isSpace = ',' :: comma.rest at goesOn
      change comma.result = item.result at result
      rw [goesOn, ← result]
      exact outcome_bind_pure (comma.result :: ·) fun _ => ⟨rfl, rfl⟩
  · next noBracket noComma =>
      split
      · next goesOn =>
          obtain ⟨behind, some⟩ := next?_of_rest (p := item.dropWhile isSpace) goesOn
          exact (noBracket _ some).elim
      · next goesOn =>
          obtain ⟨comma, some⟩ := next?_of_rest (p := item.dropWhile isSpace) goesOn
          exact (noComma _ some).elim
      · rfl

theorem outcome_readItems_nil : ∃ e, outcome (readItems []) = .error e := by
  obtain ⟨e, none⟩ := outcome_readValue_nil
  rw [outcome_readItems, none]
  exact ⟨e, rfl⟩

theorem outcome_readValue_openArray : ∃ e, outcome (readValue ['[']) = .error e := by
  obtain ⟨e, none⟩ := outcome_readItems_nil
  rw [readValue, if_neg (by decide), if_pos (by decide)]
  change ∃ e, outcome (readItems [] >>= fun items => pure
    (Parsed.followedBy (skipSpace []) (fun _ items => Json.array items) items.past)) = .error e
  rw [outcome_bind_pure Json.array fun _ => ⟨rfl, rfl⟩, none]
  exact ⟨e, rfl⟩

theorem outcome_readValue_emptyObject (rest : List Char) :
    outcome (readValue ('\x7b' :: '\x7d' :: rest)) = .ok (.object [], rest) := by
  rw [readValue, if_neg (by decide), if_neg (by decide), if_pos (by decide)]
  rfl

theorem outcome_readValue_object (rest : List Char) :
    outcome (readValue ('\x7b' :: '"' :: rest)) =
      (outcome (readMembers ('"' :: rest))).map fun (members, behind) =>
        (.object (distinctMembers members), behind) := by
  rw [readValue, if_neg (by decide), if_neg (by decide), if_pos (by decide)]
  change outcome (readMembers ('"' :: rest) >>= fun members => pure
    (Parsed.followedBy (skipSpace ('"' :: rest))
      (fun _ members => Json.object (distinctMembers members)) members.past)) = _
  exact outcome_bind_pure (fun members => Json.object (distinctMembers members)) fun _ => ⟨rfl, rfl⟩

theorem outcome_readValue_openObject : ∃ e, outcome (readValue ['\x7b']) = .error e := by
  rw [readValue, if_neg (by decide), if_neg (by decide), if_pos (by decide)]
  exact ⟨_, rfl⟩

theorem outcome_readMembers (rest : List Char) :
    outcome (readMembers ('"' :: rest)) = (do
      let (name, behind) ← outcome (readString (rest.length + 1) rest)
      match behind.dropWhile isSpace with
      | ':' :: rest => do
          let (value, behind) ← outcome (readValue (rest.dropWhile isSpace))
          match behind.dropWhile isSpace with
          | '\x7d' :: rest => .ok ([(String.ofList name, value)], rest)
          | ',' :: rest =>
              (outcome (readMembers (rest.dropWhile isSpace))).map fun (members, behind) =>
                ((String.ofList name, value) :: members, behind)
          | rest => fail .comma rest
      | rest => fail .colon rest) := by
  rw [readMembers, if_pos (by decide)]
  refine outcome_bind fun name => ?_
  dsimp only
  split
  · next colon some =>
      obtain ⟨goesOn, result⟩ := rest_of_next?_some some
      change name.rest.dropWhile isSpace = ':' :: colon.rest at goesOn
      change colon.result = String.ofList name.result at result
      rw [goesOn, ← result]
      refine outcome_bind fun value => ?_
      dsimp only
      -- Behind the value stands a brace, a comma, or neither.
      split
      · next none =>
          have ended : value.rest.dropWhile isSpace = [] := rest_of_next?_none none
          rw [ended]
          rfl
      · next d behind some =>
          obtain ⟨goesOn, member⟩ := rest_of_next?_some some
          change value.rest.dropWhile isSpace = d :: behind.rest at goesOn
          change behind.result = (colon.result, value.result) at member
          rw [goesOn, ← member]
          by_cases closing : d.toNat = 125
          · rw [if_pos closing, show d = '\x7d' by rw [← Char.ofNat_toNat d, closing]]
            rfl
          rw [if_neg closing]
          by_cases comma : d = ','
          · subst comma
            rw [if_pos (beq_self_eq_true ',')]
            exact outcome_bind_pure (behind.result :: ·) fun _ => ⟨rfl, rfl⟩
          · rw [if_neg (by simp [comma])]
            split
            · next same => cases same; exact absurd rfl closing
            · next same => cases same; exact absurd rfl comma
            · exact congrArg (fail .comma) goesOn
  · next noColon =>
      split
      · next goesOn =>
          obtain ⟨colon, some⟩ :=
            next?_of_rest (p := (name.map String.ofList).dropWhile isSpace) goesOn
          exact (noColon _ some).elim
      · rfl

end Json

end RecordFilter
