import Mathlib.Data.List.Forall2
import RecordFilter.Proofs.DocumentNumbers
import RecordFilter.Proofs.DocumentSteps
import RecordFilter.Proofs.PrintRoundTrip

/-!
# Documents that were written

What is written on one line is read back, whatever follows it.  All of its characters are printed
ones, and those beyond ASCII stand inside of strings only, so that a document broken off in front of
one of them is no document any more.
-/

namespace RecordFilter.Json

open Number Text

/-! ## Texts that are broken off -/

section

variable {c : Char} {before behind xs ys : List Char}

theorem append_eq_split (h : xs ++ ys = before ++ c :: behind) :
    (∃ more, xs = before ++ c :: more) ∨
      ∃ more, before = xs ++ more ∧ ys = more ++ c :: behind := by
  rcases List.append_eq_append_iff.mp h with ⟨more, first, second⟩ | ⟨more, first, second⟩
  · exact .inr ⟨more, first, second⟩
  · cases more with
    | nil => exact .inr ⟨[], by simpa using first.symm, second.symm⟩
    | cons d more =>
        obtain ⟨rfl, -⟩ := List.cons.inj second
        exact .inl ⟨more, first⟩

theorem append_eq_split_of_ascii (ascii : ∀ d ∈ xs, IsPrintedAscii d) (beyond : 128 ≤ c.toNat)
    (h : xs ++ ys = before ++ c :: behind) :
    ∃ more, before = xs ++ more ∧ ys = more ++ c :: behind := by
  rcases append_eq_split h with ⟨more, inside⟩ | behind
  · exact absurd (ascii c (by simp [inside])).2 (Nat.not_lt.mpr beyond)
  · exact behind

theorem cons_eq_split {d : Char} (ascii : IsPrintedAscii d) (beyond : 128 ≤ c.toNat)
    (h : d :: ys = before ++ c :: behind) :
    ∃ more, before = d :: more ∧ ys = more ++ c :: behind :=
  append_eq_split_of_ascii (List.forall_mem_singleton.mpr ascii) beyond h

end

/-! ## Strings -/

theorem isPrintedAscii_hexDigits {width n : Nat} : ∀ c ∈ hexDigits width n, IsPrintedAscii c := by
  induction width generalizing n with
  | zero => simp [hexDigits]
  | succ width ih =>
      have low : ∀ n < 16, IsPrintedAscii (hexDigit n) := by decide
      intro c mem
      rcases List.mem_append.mp mem with mem | mem
      · exact ih c mem
      · rw [List.mem_singleton.mp mem]
        exact low _ (Nat.mod_lt n (by decide))

theorem quoteChar_shape (c : Char) :
    (quoteChar c = [c] ∧ 32 ≤ c.toNat) ∨ ∀ d ∈ quoteChar c, IsPrintedAscii d := by
  generalize h : quoteChar c = text
  cases h ▸ written_quoteChar c with
  | escaped other simple ascii =>
      refine .inr ?_
      simp only [List.forall_mem_cons, List.not_mem_nil, false_implies, implies_true, and_true]
      exact ⟨by decide, ascii⟩
  | code low =>
      refine .inr ?_
      simp only [List.forall_mem_cons]
      exact ⟨by decide, by decide, isPrintedAscii_hexDigits⟩
  | plain quote escape printed => exact .inl ⟨rfl, printed⟩

theorem printed_quoteChar {c d : Char} (mem : d ∈ quoteChar c) : 32 ≤ d.toNat := by
  rcases quoteChar_shape c with ⟨self, printed⟩ | ascii
  · rw [self, List.mem_singleton] at mem
    exact mem ▸ printed
  · exact (ascii d mem).1

theorem quoted_split {s before behind : List Char} {c : Char} (beyond : 128 ≤ c.toNat)
    (h : s.flatMap quoteChar ++ ['"'] = before ++ c :: behind) :
    ∃ first : List Char, before = first.flatMap quoteChar := by
  induction s generalizing before with
  | nil =>
      obtain ⟨more, -, empty⟩ := cons_eq_split (by decide) beyond h
      simp at empty
  | cons d s ih =>
      rw [List.flatMap_cons, List.append_assoc] at h
      rcases append_eq_split h with ⟨more, inside⟩ | ⟨more, rfl, rest⟩
      -- The character is the one in front of which the string is broken off, and stands for itself.
      · rcases quoteChar_shape d with ⟨self, -⟩ | ascii
        · have front : before = [] := by
            rw [self] at inside
            cases before with
            | nil => rfl
            | cons => simp at inside
          exact ⟨[], front⟩
        · exact absurd (ascii c (by simp [inside])).2 (Nat.not_lt.mpr beyond)
      · obtain ⟨first, rfl⟩ := ih rest
        exact ⟨d :: first, rfl⟩

/-! ## Values -/

def Ends (rest : List Char) : Prop := ∀ c ∈ rest.head?, c ∈ [',', ']', '\x7d']

theorem Ends.stops {rest : List Char} (h : Ends rest) : Stops rest := by
  intro c first
  have all : ∀ c ∈ [',', ']', '\x7d'], isAsciiDigit c = false ∧ c ≠ '.' ∧ c ≠ 'e' ∧ c ≠ 'E' := by
    decide
  exact all c (h c first)

theorem Ends.visible {rest : List Char} (h : Ends rest) : rest.dropWhile isSpace = rest := by
  cases rest with
  | nil => rfl
  | cons c rest =>
      have all : ∀ c ∈ [',', ']', '\x7d'], isSpace c = false := by decide
      exact List.dropWhile_cons_of_neg (by simp [all c (h c rfl)])

structure Document (text : List Char) (j : Json) : Prop where
  begins : ∃ c rest, text = c :: rest ∧ isSpace c = false ∧ c ≠ ']' ∧ IsPrintedAscii c
  reads : ∀ {rest : List Char}, Ends rest → outcome (readValue (text ++ rest)) = .ok (j, rest)
  /-- Broken off in front of a character beyond ASCII, it is none. -/
  breaks : ∀ {before behind : List Char} {c : Char}, 128 ≤ c.toNat →
    text = before ++ c :: behind → ∃ e, outcome (readValue before) = .error e
  printed : ∀ c ∈ text, 32 ≤ c.toNat

theorem Document.of_scalar {text : List Char} {j : Json} (ascii : ∀ c ∈ text, IsPrintedAscii c)
    (begins : ∃ c rest, text = c :: rest ∧ c ∉ ['"', '[', ']', '\x7b', ' '])
    (reads : ∀ {rest : List Char}, Ends rest →
      outcome (readScalar (text ++ rest)) = .ok (j, rest)) : Document text j := by
  obtain ⟨c, others, rfl, special⟩ := begins
  simp only [List.mem_cons, List.not_mem_nil, or_false, not_or] at special
  obtain ⟨quote, array, bracket, object, space⟩ := special
  have front : IsPrintedAscii c := ascii c List.mem_cons_self
  have control {d : Char} (low : d.toNat < 32) : c ≠ d := fun same =>
    absurd front.1 (Nat.not_le.mpr (same ▸ low))
  refine ⟨⟨c, others, rfl, ?_, bracket, front⟩, fun ends => ?_, fun beyond h => ?_,
    fun c mem => (ascii c mem).1⟩
  · simp only [isSpace, Bool.or_eq_false_iff, beq_eq_false_iff_ne]
    exact ⟨⟨⟨space, control (by decide)⟩, control (by decide)⟩, control (by decide)⟩
  · rw [List.cons_append, outcome_readValue_scalar quote array object]
    exact reads ends
  · rw [h] at ascii
    exact absurd (ascii _ (by simp)).2 (Nat.not_lt.mpr beyond)

theorem Document.name {name : String} {value : Json} (named : (name, value) ∈ names) :
    Document name.toList value := by
  have ascii : ∀ entry ∈ names, ∀ c ∈ entry.1.toList, IsPrintedAscii c := by decide
  refine .of_scalar (ascii _ named) ?_ fun _ => outcome_readScalar_name named _
  refine forall_names (fun name _ => ∃ c rest, name.toList = c :: rest ∧
    c ∉ ['"', '[', ']', '\x7b', ' ']) ?_ ?_ ?_ ?_ ?_ ?_ _ named <;>
    exact ⟨_, _, rfl, by decide⟩

theorem IsNumberText.forall {text : List Char} (h : IsNumberText text) (test : Char → Bool)
    (digits : asciiDigits.all test = true) (others : ['-', '+', '.', 'e'].all test = true) :
    ∀ c ∈ text, test c = true := by
  obtain ⟨sign, whole, fraction, exponent, number, rfl⟩ := h
  intro c mem
  rcases number.chars c mem with digit | other
  · exact all_digits digits digit
  · exact List.all_eq_true.mp others c other

theorem IsNumberText.ascii {text : List Char} (h : IsNumberText text) :
    ∀ c ∈ text, IsPrintedAscii c := by
  have test := h.forall (fun c => decide (IsPrintedAscii c)) (by decide) (by decide)
  exact fun c mem => of_decide_eq_true (test c mem)

theorem IsNumberText.beginsNumber {text : List Char} (h : IsNumberText text) (rest : List Char) :
    BeginsNumber (text ++ rest) := by
  obtain ⟨sign, whole, fraction, exponent, number, rfl⟩ := h
  have front := number.begins (fraction ++ exponent ++ rest)
  rwa [← List.append_assoc, ← List.append_assoc, List.append_assoc sign] at front

theorem Document.number {text : List Char} {j : Json} (number : IsNumberText text)
    (reads : ∀ {rest : List Char}, Stops rest →
      outcome (readNumber (text ++ rest)) = .ok (j, rest)) : Document text j := by
  have special := number.forall (fun c => decide (c ∉ ['"', '[', ']', '\x7b', ' ']))
    (by decide) (by decide)
  obtain ⟨c, begins, -⟩ := number.beginsNumber []
  rw [List.append_nil] at begins
  refine .of_scalar number.ascii ?_ fun {rest} ends => ?_
  · obtain ⟨others, shown⟩ := List.head?_eq_some_iff.mp begins
    exact ⟨c, others, shown, of_decide_eq_true (special c (by simp [shown]))⟩
  · rw [outcome_readScalar_number (number.beginsNumber rest)]
    exact reads ends.stops

theorem toList_quote (s : String) :
    (quote s).toList = '"' :: (s.toList.flatMap quoteChar ++ ['"']) := by
  rw [quote, String.toList_ofList]
  rfl

theorem printed_quote (s : String) : ∀ c ∈ (quote s).toList, 32 ≤ c.toNat := by
  simp only [toList_quote, List.mem_cons, List.mem_append, List.mem_flatMap, List.not_mem_nil,
    or_false]
  rintro c (rfl | ⟨d, -, mem⟩ | rfl)
  · decide
  · exact printed_quoteChar mem
  · decide

theorem Document.string (s : String) : Document (quote s).toList (.string s) := by
  have printed := printed_quote s
  rw [toList_quote] at printed ⊢
  refine ⟨⟨'"', _, rfl, by decide, by decide, by decide⟩, fun {rest} ends => ?_,
    fun {before behind c} beyond h => ?_, printed⟩
  · rw [List.cons_append, outcome_readValue_string, List.append_assoc, List.singleton_append,
      outcome_readString_quoted]
    exact congrArg (fun s => Except.ok (Json.string s, rest)) String.ofList_toList
  · obtain ⟨more, rfl, rest⟩ := cons_eq_split (by decide) beyond h
    obtain ⟨first, rfl⟩ := quoted_split beyond rest
    obtain ⟨e, broken⟩ := outcome_readString_unclosed ((first.flatMap quoteChar).length + 1) first
    rw [outcome_readValue_string, broken]
    exact ⟨e, rfl⟩

/-! ## Arrays -/

section

variable {text : List Char} {item : Json} {texts : List (List Char)} {items : List Json}

theorem ends_itemsText (texts : List (List Char)) {c : Char} (closing : c ∈ [']', '\x7d'])
    (rest : List Char) : Ends (itemsText texts ++ c :: rest) := by
  cases texts with
  | nil =>
      intro d first
      cases first
      exact List.mem_cons_of_mem _ closing
  | cons text texts =>
      intro d first
      cases first
      exact List.mem_cons_self

theorem Document.visible (h : Document text item) (rest : List Char) :
    (text ++ rest).dropWhile isSpace = text ++ rest := by
  obtain ⟨c, others, rfl, visible, -⟩ := h.begins
  exact List.dropWhile_cons_of_neg (by simp [visible])

theorem Document.front_visible (h : Document text item) {before behind rest : List Char} {c : Char}
    (front : text ++ rest = before ++ c :: behind) : before.dropWhile isSpace = before := by
  obtain ⟨d, others, rfl, visible, -⟩ := h.begins
  cases before with
  | nil => rfl
  | cons e before =>
      obtain ⟨rfl, -⟩ := List.cons.inj front
      exact List.dropWhile_cons_of_neg (by simp [visible])

theorem outcome_readItems_texts (first : Document text item)
    (others : List.Forall₂ Document texts items) (rest : List Char) :
    outcome (readItems (text ++ (itemsText texts ++ ']' :: rest))) =
      .ok (item :: items, rest) := by
  induction others generalizing text item with
  | nil =>
      rw [outcome_readItems, first.reads (ends_itemsText [] (by decide) rest), ok_bind]
      rfl
  | @cons text' item' texts items second others ih =>
      have ends := ends_itemsText (text' :: texts) (c := ']') (by decide) rest
      rw [outcome_readItems, first.reads ends, ok_bind]
      have comma : itemsText (text' :: texts) ++ ']' :: rest =
          ',' :: ' ' :: (text' ++ (itemsText texts ++ ']' :: rest)) := by simp [itemsText]
      rw [comma]
      change (outcome (readItems
        ((text' ++ (itemsText texts ++ ']' :: rest)).dropWhile isSpace))).map _ = _
      rw [second.visible, ih second]
      rfl

theorem outcome_readItems_broken {before behind : List Char} {c : Char} (first : Document text item)
    (others : List.Forall₂ Document texts items) (beyond : 128 ≤ c.toNat)
    (h : text ++ (itemsText texts ++ [']']) = before ++ c :: behind) :
    ∃ e, outcome (readItems before) = .error e := by
  -- The break is inside the first value, or in those behind the comma, but never in between.
  induction others generalizing text item before with
  | nil =>
      rcases append_eq_split h with ⟨more, inside⟩ | ⟨more, -, rest⟩
      · obtain ⟨e, broken⟩ := first.breaks beyond inside
        exact ⟨e, by rw [outcome_readItems, broken]; rfl⟩
      · obtain ⟨_, -, empty⟩ := cons_eq_split (by decide) beyond rest
        simp at empty
  | @cons text' item' texts items second others ih =>
      rcases append_eq_split h with ⟨more, inside⟩ | ⟨more, rfl, rest⟩
      · obtain ⟨e, broken⟩ := first.breaks beyond inside
        exact ⟨e, by rw [outcome_readItems, broken]; rfl⟩
      · have comma : itemsText (text' :: texts) ++ [']'] =
            [',', ' '] ++ (text' ++ (itemsText texts ++ [']'])) := by simp [itemsText]
        rw [comma] at rest
        obtain ⟨left, rfl, below⟩ := append_eq_split_of_ascii (by decide) beyond rest
        obtain ⟨e, broken⟩ := ih second below
        have ends : Ends ([',', ' '] ++ left) := by simp [Ends]
        rw [outcome_readItems, first.reads ends, ok_bind]
        change ∃ e, (outcome (readItems (left.dropWhile isSpace))).map _ = .error e
        rw [second.front_visible below, broken]
        exact ⟨e, rfl⟩

theorem forall_text {α : Type} {related : List Char → α → Prop} {good : List Char → Prop}
    {as : List α} (h : List.Forall₂ related texts as)
    (holds : ∀ {text a}, related text a → good text) : ∀ text ∈ texts, good text := by
  induction h with
  | nil => simp
  | cons first _ ih => exact List.forall_mem_cons.mpr ⟨holds first, ih⟩

theorem printed_itemsText (printed : ∀ text ∈ texts, ∀ c ∈ text, 32 ≤ c.toNat) :
    ∀ c ∈ itemsText texts, 32 ≤ c.toNat := by
  simp only [itemsText, List.mem_flatMap, List.mem_cons]
  rintro c ⟨text, mem, rfl | rfl | inside⟩
  · decide
  · decide
  · exact printed text mem c inside

theorem printed_bracketed {opening closing : Char} (first : ∀ c ∈ text, 32 ≤ c.toNat)
    (others : ∀ text ∈ texts, ∀ c ∈ text, 32 ≤ c.toNat) (left : 32 ≤ opening.toNat)
    (right : 32 ≤ closing.toNat) :
    ∀ c ∈ opening :: (text ++ (itemsText texts ++ [closing])), 32 ≤ c.toNat := by
  simp only [List.mem_cons, List.mem_append, List.not_mem_nil, or_false]
  rintro c (rfl | inside | inside | rfl)
  · exact left
  · exact first c inside
  · exact printed_itemsText others c inside
  · exact right

theorem Document.array (first : Document text item) (others : List.Forall₂ Document texts items) :
    Document ('[' :: (text ++ (itemsText texts ++ [']']))) (.array (item :: items)) := by
  obtain ⟨d, more, shown, visible, open', -⟩ := first.begins
  refine ⟨⟨'[', _, rfl, by decide, by decide, by decide⟩, fun {rest} ends => ?_,
    fun {before behind c} beyond h => ?_, ?_⟩
  · have whole := outcome_readItems_texts first others rest
    rw [shown, List.cons_append] at whole
    have front : '[' :: (text ++ (itemsText texts ++ [']'])) ++ rest =
        '[' :: d :: (more ++ (itemsText texts ++ ']' :: rest)) := by simp [shown]
    rw [front, outcome_readValue_array visible open', whole]
    rfl
  · obtain ⟨left, rfl, below⟩ := cons_eq_split (by decide) beyond h
    obtain ⟨e, broken⟩ := outcome_readItems_broken first others beyond below
    cases left with
    | nil => exact outcome_readValue_openArray
    | cons f left =>
        rw [shown] at below
        obtain ⟨rfl, -⟩ := List.cons.inj below
        rw [outcome_readValue_array visible open', broken]
        exact ⟨e, rfl⟩
  · exact printed_bracketed first.printed (forall_text others fun h => h.printed) (by decide)
      (by decide)

theorem Document.of_ascii {j : Json} (ascii : ∀ c ∈ text, IsPrintedAscii c)
    (begins : ∃ c rest, text = c :: rest ∧ isSpace c = false ∧ c ≠ ']' ∧ IsPrintedAscii c)
    (reads : ∀ {rest : List Char}, Ends rest → outcome (readValue (text ++ rest)) = .ok (j, rest)) :
    Document text j where
  begins := begins
  reads := reads
  breaks := fun beyond h => absurd (ascii _ (by simp [h])).2 (Nat.not_lt.mpr beyond)
  printed := fun c mem => (ascii c mem).1

theorem Document.emptyArray : Document ['[', ']'] (.array []) :=
  .of_ascii (by decide) ⟨'[', _, rfl, by decide, by decide, by decide⟩ fun _ =>
    outcome_readValue_emptyArray _

end

/-! ## Objects -/

section

variable {text : List Char} {member : String × Json} {texts : List (List Char)}
  {members : List (String × Json)}

def MemberDocument (text : List Char) (member : String × Json) : Prop :=
  ∃ value, text = (quote member.1).toList ++ ':' :: ' ' :: value ∧ Document value member.2

theorem MemberDocument.begins (h : MemberDocument text member) : ∃ rest, text = '"' :: rest := by
  obtain ⟨value, rfl, -⟩ := h
  rw [toList_quote]
  exact ⟨_, rfl⟩

theorem MemberDocument.printed (h : MemberDocument text member) : ∀ c ∈ text, 32 ≤ c.toNat := by
  obtain ⟨value, rfl, document⟩ := h
  simp only [List.mem_append, List.mem_cons]
  rintro c (inside | rfl | rfl | inside)
  · exact printed_quote _ c inside
  · decide
  · decide
  · exact document.printed c inside

theorem MemberDocument.front_visible (h : MemberDocument text member)
    {before behind rest : List Char} {c : Char} (front : text ++ rest = before ++ c :: behind) :
    before.dropWhile isSpace = before := by
  obtain ⟨others, rfl⟩ := h.begins
  cases before with
  | nil => rfl
  | cons e before =>
      obtain ⟨rfl, -⟩ := List.cons.inj front
      rfl

theorem MemberDocument.outcome_readMembers (h : MemberDocument text member) {rest : List Char} :
    Ends rest → outcome (readMembers (text ++ rest)) =
      match rest with
      | '\x7d' :: rest => .ok ([member], rest)
      | ',' :: rest =>
          (outcome (readMembers (rest.dropWhile isSpace))).map fun (members, behind) =>
            (member :: members, behind)
      | rest => fail .comma rest := by
  intro ends
  obtain ⟨value, rfl, document⟩ := h
  have front : (quote member.1).toList ++ ':' :: ' ' :: value ++ rest =
      '"' :: (member.1.toList.flatMap quoteChar ++ '"' :: ':' :: ' ' :: (value ++ rest)) := by
    simp [toList_quote]
  rw [front, Json.outcome_readMembers, outcome_readString_quoted, ok_bind]
  change (outcome (readValue ((value ++ rest).dropWhile isSpace)) >>= _) = _
  rw [document.visible, document.reads ends, ok_bind]
  dsimp only
  rewrite [ends.visible, String.ofList_toList]
  rfl

theorem MemberDocument.outcome_readMembers_broken (h : MemberDocument text member)
    {before behind : List Char} {c : Char} (beyond : 128 ≤ c.toNat)
    (split : text = before ++ c :: behind) : ∃ e, outcome (readMembers before) = .error e := by
  obtain ⟨value, rfl, document⟩ := h
  have front : (quote member.1).toList ++ ':' :: ' ' :: value =
      ['"'] ++ (member.1.toList.flatMap quoteChar ++ ['"'] ++ ([':', ' '] ++ value)) := by
    simp [toList_quote]
  rw [front] at split
  obtain ⟨left, rfl, below⟩ := append_eq_split_of_ascii (by decide) beyond split
  rw [List.singleton_append, Json.outcome_readMembers]
  rcases append_eq_split below with ⟨more, inside⟩ | ⟨left', rfl, behindName⟩
  · obtain ⟨first, rfl⟩ := quoted_split beyond inside
    obtain ⟨e, broken⟩ := outcome_readString_unclosed ((first.flatMap quoteChar).length + 1) first
    rw [broken]
    exact ⟨e, rfl⟩
  · obtain ⟨left, rfl, inValue⟩ := append_eq_split_of_ascii (by decide) beyond behindName
    obtain ⟨e, broken⟩ := document.breaks beyond inValue
    have name : member.1.toList.flatMap quoteChar ++ ['"'] ++ ([':', ' '] ++ left) =
        member.1.toList.flatMap quoteChar ++ '"' :: ':' :: ' ' :: left := by simp
    rw [name, outcome_readString_quoted, ok_bind]
    change ∃ e, (outcome (readValue (left.dropWhile isSpace)) >>= _) = .error e
    have same : value ++ [] = left ++ c :: behind := by rw [List.append_nil, inValue]
    rw [document.front_visible same, broken]
    exact ⟨e, rfl⟩

theorem outcome_readMembers_texts (first : MemberDocument text member)
    (others : List.Forall₂ MemberDocument texts members) (rest : List Char) :
    outcome (readMembers (text ++ (itemsText texts ++ '\x7d' :: rest))) =
      .ok (member :: members, rest) := by
  induction others generalizing text member with
  | nil => exact first.outcome_readMembers (ends_itemsText [] (by decide) rest)
  | @cons text' member' texts members second others ih =>
      rw [first.outcome_readMembers (ends_itemsText (text' :: texts) (by decide) rest)]
      have comma : itemsText (text' :: texts) ++ '\x7d' :: rest =
          ',' :: ' ' :: (text' ++ (itemsText texts ++ '\x7d' :: rest)) := by simp [itemsText]
      rw [comma]
      change (outcome (readMembers
        ((text' ++ (itemsText texts ++ '\x7d' :: rest)).dropWhile isSpace))).map _ = _
      obtain ⟨others', begins⟩ := second.begins
      have visible : (text' ++ (itemsText texts ++ '\x7d' :: rest)).dropWhile isSpace =
          text' ++ (itemsText texts ++ '\x7d' :: rest) := by
        rw [begins]
        rfl
      rw [visible, ih second]
      rfl

theorem outcome_readMembers_broken {before behind : List Char} {c : Char}
    (first : MemberDocument text member) (others : List.Forall₂ MemberDocument texts members)
    (beyond : 128 ≤ c.toNat) (h : text ++ (itemsText texts ++ ['\x7d']) = before ++ c :: behind) :
    ∃ e, outcome (readMembers before) = .error e := by
  induction others generalizing text member before with
  | nil =>
      rcases append_eq_split h with ⟨more, inside⟩ | ⟨more, -, rest⟩
      · exact first.outcome_readMembers_broken beyond inside
      · obtain ⟨_, -, empty⟩ := cons_eq_split (by decide) beyond rest
        simp at empty
  | @cons text' member' texts members second others ih =>
      rcases append_eq_split h with ⟨more, inside⟩ | ⟨more, rfl, rest⟩
      · exact first.outcome_readMembers_broken beyond inside
      · have comma : itemsText (text' :: texts) ++ ['\x7d'] =
            [',', ' '] ++ (text' ++ (itemsText texts ++ ['\x7d'])) := by simp [itemsText]
        rw [comma] at rest
        obtain ⟨left, rfl, below⟩ := append_eq_split_of_ascii (by decide) beyond rest
        obtain ⟨e, broken⟩ := ih second below
        have ends : Ends ([',', ' '] ++ left) := by simp [Ends]
        rw [first.outcome_readMembers ends]
        change ∃ e, (outcome (readMembers (left.dropWhile isSpace))).map _ = .error e
        rw [second.front_visible below, broken]
        exact ⟨e, rfl⟩

theorem Document.object (first : MemberDocument text member)
    (others : List.Forall₂ MemberDocument texts members) :
    Document ('\x7b' :: (text ++ (itemsText texts ++ ['\x7d'])))
      (.object (distinctMembers (member :: members))) := by
  obtain ⟨more, shown⟩ := first.begins
  refine ⟨⟨'\x7b', _, rfl, by decide, by decide, by decide⟩, fun {rest} ends => ?_,
    fun {before behind c} beyond h => ?_, ?_⟩
  · have whole := outcome_readMembers_texts first others rest
    rw [shown, List.cons_append] at whole
    have front : '\x7b' :: (text ++ (itemsText texts ++ ['\x7d'])) ++ rest =
        '\x7b' :: '"' :: (more ++ (itemsText texts ++ '\x7d' :: rest)) := by simp [shown]
    rw [front, outcome_readValue_object, whole]
    rfl
  · obtain ⟨left, rfl, below⟩ := cons_eq_split (by decide) beyond h
    obtain ⟨e, broken⟩ := Json.outcome_readMembers_broken first others beyond below
    cases left with
    | nil => exact outcome_readValue_openObject
    | cons f left =>
        rw [shown] at below
        obtain ⟨rfl, -⟩ := List.cons.inj below
        rw [outcome_readValue_object, broken]
        exact ⟨e, rfl⟩
  · exact printed_bracketed first.printed (forall_text others fun h => h.printed) (by decide)
      (by decide)

theorem Document.emptyObject : Document ['\x7b', '\x7d'] (.object []) :=
  .of_ascii (by decide) ⟨'\x7b', _, rfl, by decide, by decide, by decide⟩ fun _ =>
    outcome_readValue_emptyObject _

end

/-! ## What is read back -/

mutual

/-- What a document is read back as.  A floating-point number is what its text is read as, and of
several members of one name the last counts. -/
def reread : Json → Json
  | float (.finite negative mantissa exponent) =>
      ofNumber (Binary64.finite negative mantissa exponent).text.toList
  | array items => .array (rereadItems items)
  | object members => .object (distinctMembers (rereadMembers members))
  | j => j

def rereadItems : List Json → List Json
  | [] => []
  | item :: items => item.reread :: rereadItems items

def rereadMembers : List (String × Json) → List (String × Json)
  | [] => []
  | (name, item) :: members => (name, item.reread) :: rereadMembers members

end

theorem Document.int {n : Int} {text : String} (h : (Json.int n).compact = .ok text) :
    Document text.toList (.int n) := by
  rw [compact, integerText] at h
  split_ifs at h with bounded
  cases h
  rw [String.toList_ofList]
  exact .number (isNumberText_signedDigits n) fun stops =>
    outcome_readNumber_signedDigits bounded stops

theorem Document.float (x : Binary64) : Document (floatText x).toList (Json.float x).reread := by
  have named (name : String) (value : Json) (h : (name, value) ∈ names) :
      Document name.toList value := .name h
  match x with
  | .finite negative mantissa exponent =>
      obtain ⟨body, float, text⟩ := text_finite negative mantissa exponent
      change Document (Binary64.finite negative mantissa exponent).text.toList
        (ofNumber (Binary64.finite negative mantissa exponent).text.toList)
      rw [text]
      exact .number (float.isNumberText negative) fun stops =>
        float.outcome_readNumber negative stops
  | .nonFinite .notANumber => exact named "NaN" (.float (.nonFinite .notANumber)) (by simp [names])
  | .nonFinite (.infinity false) =>
      exact named "Infinity" (.float (.nonFinite (.infinity false))) (by simp [names])
  | .nonFinite (.infinity true) =>
      exact named "-Infinity" (.float (.nonFinite (.infinity true))) (by simp [names])

theorem Document.of_items {items : List Json} {texts : List String}
    (h : List.Forall₂ Document (texts.map String.toList) items) :
    Document ("[" ++ ", ".intercalate texts ++ "]").toList (.array items) := by
  cases texts with
  | nil =>
      cases h
      exact .emptyArray
  | cons text texts =>
      rw [List.map_cons] at h
      cases h with
      | cons first others =>
          have whole := first.array others
          rwa [String.toList_append, String.toList_append, Expr.toList_intercalate,
            List.append_assoc, List.append_assoc]

theorem Document.of_members {members : List (String × Json)} {texts : List String}
    (h : List.Forall₂ MemberDocument (texts.map String.toList) members) :
    Document ("\x7b" ++ ", ".intercalate texts ++ "\x7d").toList
      (.object (distinctMembers members)) := by
  cases texts with
  | nil =>
      cases h
      exact .emptyObject
  | cons text texts =>
      rw [List.map_cons] at h
      cases h with
      | cons first others =>
          have whole := Document.object first others
          rwa [String.toList_append, String.toList_append, Expr.toList_intercalate,
            List.append_assoc, List.append_assoc]

mutual

/-- A document that was written is found where it was written. -/
theorem document_compact (j : Json) {text : String} (h : j.compact = .ok text) :
    Document text.toList j.reread := by
  cases j with
  | null => cases h; exact (Document.name (by simp [names]) : Document "null".toList null)
  | bool b =>
      cases h
      cases b with
      | false => exact (Document.name (by simp [names]) : Document "false".toList (bool false))
      | true => exact (Document.name (by simp [names]) : Document "true".toList (bool true))
  | int n => exact .int h
  | float x => cases h; exact .float x
  | string s => cases h; exact .string s
  | array items =>
      obtain ⟨texts, written, h⟩ := bind_eq_ok.mp h
      cases h
      exact .of_items (documents_compactItems items written)
  | object members =>
      obtain ⟨texts, written, h⟩ := bind_eq_ok.mp h
      cases h
      exact .of_members (documents_compactMembers members written)

theorem documents_compactItems (items : List Json) {texts : List String}
    (h : compactItems items = .ok texts) :
    List.Forall₂ Document (texts.map String.toList) (rereadItems items) := by
  cases items with
  | nil => cases h; exact .nil
  | cons item items =>
      obtain ⟨text, first, h⟩ := bind_eq_ok.mp h
      obtain ⟨texts, others, h⟩ := bind_eq_ok.mp h
      cases h
      exact .cons (document_compact item first) (documents_compactItems items others)

theorem documents_compactMembers (members : List (String × Json)) {texts : List String}
    (h : compactMembers members = .ok texts) :
    List.Forall₂ MemberDocument (texts.map String.toList) (rereadMembers members) := by
  cases members with
  | nil => cases h; exact .nil
  | cons member members =>
      obtain ⟨text, first, h⟩ := bind_eq_ok.mp h
      obtain ⟨texts, others, h⟩ := bind_eq_ok.mp h
      cases h
      refine .cons ⟨text.toList, ?_, document_compact member.2 first⟩
        (documents_compactMembers members others)
      rw [String.toList_append, String.toList_append, List.append_assoc]
      rfl

end

/-! ## Whole texts -/

theorem Document.read_eq {text : List Char} {j : Json} (h : Document text j) :
    read (String.ofList text) = .ok j := by
  obtain ⟨c, rest, begins, visible, -, ascii⟩ := h.begins
  have plain : ¬ text.head?.any (·.toNat == 0xFEFF) = true := by
    rw [begins]
    have small := ascii.2
    simp
    omega
  have whole := h.reads (by simp [Ends] : Ends [])
  rw [List.append_nil] at whole
  have front : (skipSpace text).rest = text := by
    rw [begins]
    exact rest_skipSpace visible rest
  rw [← front] at whole
  obtain ⟨p, found, result, behind⟩ := outcome_eq_ok whole
  have ended : (p.dropWhile isSpace).rest = [] := congrArg (List.dropWhile isSpace) behind
  rw [read, String.toList_ofList]
  dsimp only
  rw [if_neg plain, found]
  change (if (p.dropWhile isSpace).rest.isEmpty = true then Except.ok p.result else _) = _
  rw [ended, if_pos List.isEmpty_nil, result]

theorem read_eq_error {text : List Char}
    (broken : ∃ e, outcome (readValue (text.dropWhile isSpace)) = .error e) :
    ∃ e, read (String.ofList text) = .error e := by
  obtain ⟨e, broken⟩ := broken
  rw [read, String.toList_ofList]
  dsimp only
  split
  · exact ⟨_, rfl⟩
  · have none : readValue (skipSpace text).rest = .error e := outcome_eq_error broken
    rw [none]
    exact ⟨e, rfl⟩

theorem isBlank_of_ascii {c : Char} (ascii : IsPrintedAscii c) (visible : isSpace c = false) :
    isBlank c = false := by
  have other : c.toNat ≠ 32 := fun same => by
    rw [show c = ' ' by rw [← Char.ofNat_toNat c, same]] at visible
    exact absurd visible (by decide)
  have printed := ascii.1
  have small := ascii.2
  rw [isBlank, if_pos (by simp [isAscii]; omega)]
  simp
  omega

theorem read_blank {text : List Char} (blank : isBlankText text = true) :
    ∃ e, read (String.ofList text) = .error e := by
  refine read_eq_error ?_
  have stillBlank : ∀ c ∈ text.dropWhile isSpace, isBlank c = true := fun c mem =>
    List.all_eq_true.mp blank c ((List.dropWhile_sublist isSpace).subset mem)
  cases left : text.dropWhile isSpace with
  | nil => exact outcome_readValue_nil
  | cons c rest =>
      have blank : isBlank c = true := stillBlank c (by simp [left])
      have other {d : Char} (visible : isBlank d = false) : c ≠ d := by
        rintro rfl
        simp [blank] at visible
      rw [outcome_readValue_scalar (other (by decide)) (other (by decide)) (other (by decide))]
      exact outcome_readScalar_blank blank rest

/-- A document broken off in front of a character beyond ASCII is none, and not blank either. -/
theorem Document.broken {text before behind : List Char} {j : Json} {c : Char}
    (h : Document text j) (beyond : 128 ≤ c.toNat) (split : text = before ++ c :: behind) :
    isBlankText before = false ∧ ∃ e, read (String.ofList before) = .error e := by
  obtain ⟨d, others, begins, visible, -, ascii⟩ := h.begins
  cases before with
  -- The first character is ASCII, so the break is not in front of it.
  | nil =>
      rw [begins] at split
      obtain ⟨rfl, -⟩ := List.cons.inj split
      exact absurd ascii.2 (Nat.not_lt.mpr beyond)
  | cons e before =>
      have whole := h.breaks beyond split
      rw [begins] at split
      obtain ⟨rfl, -⟩ := List.cons.inj split
      refine ⟨?_, read_eq_error ?_⟩
      · rw [isBlankText, List.all_cons, isBlank_of_ascii ascii visible, Bool.false_and]
      · rwa [List.dropWhile_cons_of_neg (by simp [visible])]

end RecordFilter.Json
