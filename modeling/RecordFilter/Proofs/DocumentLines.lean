import RecordFilter.Proofs.DocumentTexts
import RecordFilter.Proofs.WrittenFiles

/-!
# Documents on lines of their own

Records that are written one document to a line are loaded from such a file as they are from a file
that holds them as one list.  What keeps them from it are three characters that stand for themselves
in a document but end a line: then the document is broken off in the middle of a string, and the
file is refused.
-/

namespace RecordFilter

open Number Text

namespace Json

/-! ## Characters beyond ASCII -/

mutual

def texts : Json → List String
  | string s => [s]
  | array items => textsOfItems items
  | object members => textsOfMembers members
  | _ => []

def textsOfItems : List Json → List String
  | [] => []
  | item :: items => item.texts ++ textsOfItems items

def textsOfMembers : List (String × Json) → List String
  | [] => []
  | (name, item) :: members => name :: item.texts ++ textsOfMembers members

end

section

variable {c : Char}

theorem quoteChar_beyond (beyond : 128 ≤ c.toNat) : quoteChar c = [c] := by
  have other {d : Char} (low : d.toNat < 128) : (c == d) = false :=
    beq_eq_false_iff_ne.mpr fun same => absurd beyond (Nat.not_le.mpr (same ▸ low))
  rw [quoteChar, if_neg (by simp [doubleQuote, other]), if_neg (by simp [other]),
    if_neg (by simp [other]), if_neg (by simp [other]), if_neg (by omega), if_neg (by omega),
    if_neg (by omega)]

theorem not_mem_of_ascii {text : List Char} (ascii : ∀ d ∈ text, IsPrintedAscii d)
    (beyond : 128 ≤ c.toNat) : c ∉ text :=
  fun mem => absurd (ascii c mem).2 (Nat.not_lt.mpr beyond)

theorem mem_quote (beyond : 128 ≤ c.toNat) (s : String) : c ∈ (quote s).toList ↔ c ∈ s.toList := by
  have mark : c ≠ '"' := by rintro rfl; exact absurd beyond (by decide)
  simp only [toList_quote, List.mem_cons, List.mem_append, List.mem_flatMap, List.not_mem_nil, mark,
    false_or, or_false]
  constructor
  · rintro ⟨d, mem, inside⟩
    rcases quoteChar_shape d with ⟨self, -⟩ | ascii
    · rw [self, List.mem_singleton] at inside
      exact inside ▸ mem
    · exact absurd inside (not_mem_of_ascii ascii beyond)
  · intro mem
    exact ⟨c, mem, by rw [quoteChar_beyond beyond]; exact List.mem_singleton_self c⟩

theorem mem_itemsText (beyond : 128 ≤ c.toNat) (texts : List (List Char)) :
    c ∈ itemsText texts ↔ ∃ text ∈ texts, c ∈ text := by
  have comma : c ≠ ',' := by rintro rfl; exact absurd beyond (by decide)
  have space : c ≠ ' ' := by rintro rfl; exact absurd beyond (by decide)
  simp [itemsText, comma, space]

theorem mem_bracketed (beyond : 128 ≤ c.toNat) {opening closing : String}
    (left : ∀ d ∈ opening.toList, IsPrintedAscii d) (right : ∀ d ∈ closing.toList, IsPrintedAscii d)
    (texts : List String) :
    c ∈ (opening ++ ", ".intercalate texts ++ closing).toList ↔
      ∃ text ∈ texts, c ∈ text.toList := by
  have inside : c ∈ (", ".intercalate texts).toList ↔ ∃ text ∈ texts, c ∈ text.toList := by
    cases texts with
    | nil => simp
    | cons text texts => rw [Expr.toList_intercalate, List.mem_append, mem_itemsText beyond]; simp
  simp only [String.toList_append, List.mem_append, not_mem_of_ascii left beyond,
    not_mem_of_ascii right beyond, false_or, or_false, inside]

theorem ascii_int {n : Int} {text : String} (h : (Json.int n).compact = .ok text) :
    ∀ c ∈ text.toList, IsPrintedAscii c := by
  rw [compact, integerText] at h
  split_ifs at h
  cases h
  rw [String.toList_ofList]
  exact (isNumberText_signedDigits n).ascii

theorem ascii_floatText (x : Binary64) : ∀ c ∈ (floatText x).toList, IsPrintedAscii c := by
  match x with
  | .finite negative mantissa exponent =>
      obtain ⟨body, float, text⟩ := text_finite negative mantissa exponent
      change ∀ c ∈ (Binary64.finite negative mantissa exponent).text.toList, IsPrintedAscii c
      rw [text]
      exact (float.isNumberText negative).ascii
  | .nonFinite .notANumber => decide
  | .nonFinite (.infinity false) => decide
  | .nonFinite (.infinity true) => decide

mutual

theorem mem_compact (beyond : 128 ≤ c.toNat) (j : Json) {text : String} (h : j.compact = .ok text) :
    c ∈ text.toList ↔ ∃ s ∈ j.texts, c ∈ s.toList := by
  have scalar (ascii : ∀ d ∈ text.toList, IsPrintedAscii d) (none : j.texts = []) :
      c ∈ text.toList ↔ ∃ s ∈ j.texts, c ∈ s.toList := by
    simp [not_mem_of_ascii ascii beyond, none]
  cases j with
  | null => cases h; exact scalar (by decide) rfl
  | bool b => cases h; exact scalar (by cases b <;> decide) rfl
  | int n => exact scalar (ascii_int h) rfl
  | float x => cases h; exact scalar (ascii_floatText x) rfl
  | string s =>
      cases h
      rw [mem_quote beyond]
      simp [texts]
  | array items =>
      obtain ⟨texts, written, h⟩ := bind_eq_ok.mp h
      cases h
      rw [mem_bracketed beyond (by decide) (by decide), mem_compactItems beyond items written,
        Json.texts]
  | object members =>
      obtain ⟨texts, written, h⟩ := bind_eq_ok.mp h
      cases h
      rw [mem_bracketed beyond (by decide) (by decide), mem_compactMembers beyond members written,
        Json.texts]

theorem mem_compactItems (beyond : 128 ≤ c.toNat) (items : List Json) {texts : List String}
    (h : compactItems items = .ok texts) :
    (∃ text ∈ texts, c ∈ text.toList) ↔ ∃ s ∈ textsOfItems items, c ∈ s.toList := by
  cases items with
  | nil => cases h; simp [textsOfItems]
  | cons item items =>
      obtain ⟨text, first, h⟩ := bind_eq_ok.mp h
      obtain ⟨texts, others, h⟩ := bind_eq_ok.mp h
      cases h
      simp only [textsOfItems, List.mem_cons, List.mem_append, or_and_right, exists_or,
        exists_eq_left, mem_compact beyond item first, mem_compactItems beyond items others]

theorem mem_compactMembers (beyond : 128 ≤ c.toNat) (members : List (String × Json))
    {texts : List String} (h : compactMembers members = .ok texts) :
    (∃ text ∈ texts, c ∈ text.toList) ↔ ∃ s ∈ textsOfMembers members, c ∈ s.toList := by
  cases members with
  | nil => cases h; simp [textsOfMembers]
  | cons member members =>
      obtain ⟨text, first, h⟩ := bind_eq_ok.mp h
      obtain ⟨texts, others, h⟩ := bind_eq_ok.mp h
      cases h
      have name : c ∈ (quote member.1 ++ ": " ++ text).toList ↔
          c ∈ member.1.toList ∨ ∃ s ∈ member.2.texts, c ∈ s.toList := by
        simp only [String.toList_append, List.mem_append, mem_quote beyond,
          not_mem_of_ascii (by decide : ∀ d ∈ ": ".toList, IsPrintedAscii d) beyond, or_false,
          mem_compact beyond member.2 first]
      simp only [textsOfMembers, List.mem_cons, List.mem_append, or_and_right, exists_or,
        exists_eq_left, name, mem_compactMembers beyond members others, or_assoc]

end

end

end Json

/-! ## Lines -/

namespace Text

variable {line : List Char} {lines : List (List Char)} {c : Char}

/-- The characters besides line feeds and control characters that end a line. -/
def separators : List Char := ['\u0085', '\u2028', '\u2029']

theorem isLineEnd_iff (printed : 32 ≤ c.toNat) : isLineEnd c = true ↔ c ∈ separators := by
  have code {n : Nat} (same : c.toNat = n) : c = Char.ofNat n := by rw [← same, Char.ofNat_toNat]
  constructor
  · intro ends
    have codes : c.toNat = 0x85 ∨ c.toNat = 0x2028 ∨ c.toNat = 0x2029 := by
      simp [isLineEnd] at ends
      omega
    rcases codes with same | same | same <;>
      rw [code same] <;> decide
  · have all : ∀ c ∈ separators, isLineEnd c = true := by decide
    exact all c

def IsUnbroken (line : List Char) : Prop := ∀ c ∈ line, isLineEnd c = false

theorem splitLines_cons (unbroken : isLineEnd c = false) (text : List Char) :
    splitLines (c :: text) =
      match splitLines text with
      | [] => [[c]]
      | line :: lines => (c :: line) :: lines := by
  have other : ∀ rest, c = '\r' → text = '\n' :: rest → False := by
    rintro rest rfl -
    exact absurd unbroken (by decide)
  exact (splitLines.eq_3 _ _ other).trans (if_neg (by simp [unbroken]))

theorem splitLines_append (unbroken : IsUnbroken line) (ends : isLineEnd c = true)
    (single : c ≠ '\r') (text : List Char) :
    splitLines (line ++ c :: text) = line :: splitLines text := by
  induction line with
  | nil =>
      have other : ∀ rest, c = '\r' → text = '\n' :: rest → False := fun _ same _ => single same
      rw [List.nil_append, splitLines.eq_3 _ _ other, if_pos ends]
  | cons d line ih =>
      rw [IsUnbroken, List.forall_mem_cons] at unbroken
      rw [List.cons_append, splitLines_cons unbroken.1, ih unbroken.2]

theorem splitLines_of_unbroken (unbroken : IsUnbroken line) (filled : line ≠ []) :
    splitLines line = [line] := by
  induction line with
  | nil => exact absurd rfl filled
  | cons c line ih =>
      rw [IsUnbroken, List.forall_mem_cons] at unbroken
      rw [splitLines_cons unbroken.1]
      cases line with
      | nil => rfl
      | cons d line => rw [ih unbroken.2 (List.cons_ne_nil d line)]

def joinLines (lines : List (List Char)) : List Char := ['\n'].intercalate lines

theorem joinLines_cons (line second : List Char) (lines : List (List Char)) :
    joinLines (line :: second :: lines) = line ++ '\n' :: joinLines (second :: lines) := by
  rw [joinLines, List.intercalate_cons_cons, List.append_assoc]
  rfl

theorem joinLines_begins (line : List Char) (lines : List (List Char)) :
    ∃ rest, joinLines (line :: lines) = line ++ rest := by
  cases lines with
  | nil => exact ⟨[], by rw [joinLines, List.intercalate_singleton, List.append_nil]⟩
  | cons second lines => exact ⟨_, joinLines_cons line second lines⟩

theorem mem_joinLines (mem : c ∈ joinLines lines) : c = '\n' ∨ ∃ line ∈ lines, c ∈ line := by
  induction lines with
  | nil => cases mem
  | cons line lines ih =>
      cases lines with
      | nil =>
          rw [joinLines, List.intercalate_singleton] at mem
          exact .inr ⟨line, List.mem_cons_self, mem⟩
      | cons second lines =>
          rw [joinLines_cons, List.mem_append, List.mem_cons] at mem
          rcases mem with mem | feed | mem
          · exact .inr ⟨line, List.mem_cons_self, mem⟩
          · exact .inl feed
          · refine (ih mem).imp_right fun ⟨other, listed, mem⟩ => ?_
            exact ⟨other, List.mem_cons_of_mem line listed, mem⟩

theorem splitLines_joinLines (unbroken : ∀ line ∈ lines, IsUnbroken line)
    (filled : ∀ line ∈ lines, line ≠ []) : splitLines (joinLines lines) = lines := by
  induction lines with
  | nil => rfl
  | cons line lines ih =>
      rw [List.forall_mem_cons] at unbroken filled
      cases lines with
      | nil =>
          rw [joinLines, List.intercalate_singleton]
          exact splitLines_of_unbroken unbroken.1 filled.1
      | cons second lines =>
          rw [joinLines_cons, splitLines_append unbroken.1 (by decide) (by decide),
            ih unbroken.2 filled.2]

theorem exists_first_end (broken : ¬ IsUnbroken line) : ∃ before c behind,
    line = before ++ c :: behind ∧ IsUnbroken before ∧ isLineEnd c = true := by
  induction line with
  | nil => exact absurd (by simp [IsUnbroken]) broken
  | cons c line ih =>
      by_cases ends : isLineEnd c = true
      · exact ⟨[], c, line, rfl, by simp [IsUnbroken], ends⟩
      · rw [IsUnbroken, List.forall_mem_cons] at broken
        have plain : isLineEnd c = false := Bool.eq_false_iff.mpr ends
        obtain ⟨before, d, behind, rfl, unbroken, ends⟩ :=
          ih fun unbroken => broken ⟨plain, unbroken⟩
        exact ⟨c :: before, d, behind, rfl, List.forall_mem_cons.mpr ⟨plain, unbroken⟩, ends⟩

theorem exists_broken_line (printed : ∀ line ∈ lines, ∀ c ∈ line, 32 ≤ c.toNat)
    (broken : ∃ line ∈ lines, ¬ IsUnbroken line) :
    ∃ line ∈ lines, ∃ before c behind, line = before ++ c :: behind ∧ c ∈ separators ∧
      before ∈ splitLines (joinLines lines) := by
  induction lines with
  | nil => simp at broken
  | cons line lines ih =>
      rw [List.forall_mem_cons] at printed
      by_cases unbroken : IsUnbroken line
      -- A line that is whole is the first one that is split off.
      · have others : ∃ line ∈ lines, ¬ IsUnbroken line := by
          obtain ⟨other, mem, broken⟩ := broken
          rcases List.mem_cons.mp mem with rfl | mem
          · exact absurd unbroken broken
          · exact ⟨other, mem, broken⟩
        obtain ⟨other, mem, before, c, behind, split, ends, found⟩ := ih printed.2 others
        cases lines with
        | nil => cases mem
        | cons second lines =>
            refine ⟨other, List.mem_cons_of_mem line mem, before, c, behind, split, ends, ?_⟩
            rw [joinLines_cons, splitLines_append unbroken (by decide) (by decide)]
            exact List.mem_cons_of_mem line found
      · obtain ⟨before, c, behind, split, plain, ends⟩ := exists_first_end unbroken
        have printed' : 32 ≤ c.toNat := printed.1 c (by simp [split])
        -- A carriage return could end the line together with a line feed, but is not printed.
        have single : c ≠ '\r' := by
          rintro rfl
          exact absurd printed' (by decide)
        refine ⟨line, List.mem_cons_self, before, c, behind, split,
          (isLineEnd_iff printed').mp ends, ?_⟩
        obtain ⟨rest, joined⟩ := joinLines_begins line lines
        rw [joined, split, List.append_assoc, List.cons_append, splitLines_append plain ends single]
        exact List.mem_cons_self

end Text

/-! ## Texts that hold a document -/

open Text

def HoldsDocument (text : List Char) (j : Json) : Prop :=
  Json.read (String.ofList (normalizeNewlines (unmarked text))) = .ok j

theorem readDocument_of_ok {text : List Char} {j : Json}
    (h : Json.read (String.ofList text) = .ok j) : readDocument (String.ofList text) = .ok j := by
  rw [readDocument, h]

theorem readDocument_of_error {text : List Char}
    (h : ∃ e, Json.read (String.ofList text) = .error e) :
    ∃ e, readDocument (String.ofList text) = .error e := by
  obtain ⟨e, h⟩ := h
  exact ⟨_, by rw [readDocument, h]⟩

theorem isBlankText_eq_false {text : List Char} {j : Json}
    (h : Json.read (String.ofList text) = .ok j) : isBlankText text = false := by
  cases blank : isBlankText text with
  | false => rfl
  | true =>
      obtain ⟨e, none⟩ := Json.read_blank blank
      cases none.symm.trans h

theorem normalizeNewlines_of_printed {text : List Char} (printed : ∀ c ∈ text, 32 ≤ c.toNat) :
    normalizeNewlines text = text :=
  normalizeNewlines_of_plain fun mem => absurd (printed '\r' mem) (by decide)

theorem unmarked_of_ascii {c : Char} {text : List Char} (ascii : Json.IsPrintedAscii c) :
    unmarked (c :: text) = c :: text := by
  refine unmarked_of_head fun same => ?_
  cases same
  exact absurd ascii.2 (by decide)

theorem holdsDocument_compact {j : Json} {text : String} (h : j.compact = .ok text) :
    HoldsDocument text.toList j.reread := by
  have document := Json.document_compact j h
  obtain ⟨c, rest, begins, -, -, ascii⟩ := document.begins
  have kept : normalizeNewlines (unmarked text.toList) = text.toList := by
    rw [begins, unmarked_of_ascii ascii, ← begins, normalizeNewlines_of_printed document.printed]
  rw [HoldsDocument, kept]
  exact document.read_eq

/-! ## Records that were written -/

def rowsRead (objects : List (List (String × Json))) : List Row :=
  objects.map fun members =>
    ⟨Json.memberPayloads (Json.distinctMembers (Json.rereadMembers members)), []⟩

def tableRead (format : RecordFormat) (objects : List (List (String × Json))) : RecordTable :=
  ⟨format, fieldNamesOf (rowsRead objects), rowsRead objects⟩

def listOf (objects : List (List (String × Json))) : List Json := objects.map .object

def HasNoSeparator (objects : List (List (String × Json))) : Prop :=
  ∀ text ∈ Json.textsOfItems (listOf objects), ∀ c ∈ text.toList, c ∉ separators

section

variable {objects : List (List (String × Json))} {lines : List String} {text : List Char}

theorem rowsOfObjects_listOf (index : Nat) (objects : List (List (String × Json))) :
    rowsOfObjects index (listOf objects) =
      .ok (objects.map fun members => ⟨Json.memberPayloads members, []⟩) := by
  induction objects generalizing index with
  | nil => rfl
  | cons members objects ih =>
      rw [listOf, List.map_cons, ← listOf, rowsOfObjects, ih]
      rfl

theorem rereadItems_listOf (objects : List (List (String × Json))) :
    Json.rereadItems (listOf objects) =
      listOf (objects.map fun members => Json.distinctMembers (Json.rereadMembers members)) := by
  induction objects with
  | nil => rfl
  | cons members objects ih =>
      rw [listOf, List.map_cons, ← listOf, Json.rereadItems, ih]
      rfl

theorem tableOfObjects_reread (format : RecordFormat) (objects : List (List (String × Json))) :
    tableOfObjects format (Json.rereadItems (listOf objects)) = .ok (tableRead format objects) := by
  rw [tableOfObjects, rereadItems_listOf, rowsOfObjects_listOf, List.map_map]
  rfl

theorem loadDocument_eq {document : Json} {items : List Json}
    (holds : Json.read (String.ofList text) = .ok document)
    (list : recordsOf document = .ok items) :
    loadDocument text = tableOfObjects .json items := by
  rw [loadDocument, if_neg (by simp [isBlankText_eq_false holds]), readDocument_of_ok holds,
    ok_bind]
  dsimp only
  rw [list, ok_bind]

theorem recordsOf_object {members : List (String × Json)} {items : List Json}
    (member : members.lookup "records" = some (.array items)) :
    recordsOf (.object members) = .ok items := by
  rw [recordsOf, member]

/-! ## Files with a record on each line -/

theorem documents_listOf (written : Json.compactItems (listOf objects) = .ok lines) :
    List.Forall₂ Json.Document (lines.map String.toList) (Json.rereadItems (listOf objects)) :=
  Json.documents_compactItems (listOf objects) written

theorem document_of_line (written : Json.compactItems (listOf objects) = .ok lines) :
    ∀ line ∈ lines.map String.toList, ∃ j, Json.Document line j :=
  Json.forall_text (documents_listOf written) fun document => ⟨_, document⟩

theorem printed_lines (written : Json.compactItems (listOf objects) = .ok lines) :
    ∀ line ∈ lines.map String.toList, ∀ c ∈ line, 32 ≤ c.toNat := by
  intro line listed
  obtain ⟨j, document⟩ := document_of_line written line listed
  exact document.printed

theorem unbroken_iff (written : Json.compactItems (listOf objects) = .ok lines) :
    (∀ line ∈ lines.map String.toList, IsUnbroken line) ↔ HasNoSeparator objects := by
  have printed := printed_lines written
  have beyond : ∀ c ∈ separators, 128 ≤ c.toNat := by decide
  have each (c : Char) (mem : c ∈ separators) := Json.mem_compactItems (beyond c mem) _ written
  simp only [List.forall_mem_map] at printed ⊢
  constructor
  · intro unbroken s listed c mem separates
    obtain ⟨line, found, inside⟩ := (each c separates).mpr ⟨s, listed, mem⟩
    have ends := (isLineEnd_iff (printed line found c inside)).mpr separates
    rw [unbroken line found c inside] at ends
    cases ends
  · intro none line found c inside
    refine Bool.eq_false_iff.mpr fun ends => ?_
    have separates := (isLineEnd_iff (printed line found c inside)).mp ends
    obtain ⟨s, listed, mem⟩ := (each c separates).mp ⟨line, found, inside⟩
    exact none s listed c mem separates

theorem normalizeNewlines_lines (written : Json.compactItems (listOf objects) = .ok lines) :
    normalizeNewlines (unmarked ("\n".intercalate lines).toList) =
      joinLines (lines.map String.toList) := by
  have joined : ("\n".intercalate lines).toList = joinLines (lines.map String.toList) :=
    String.toList_intercalate
  have single : '\r' ∉ joinLines (lines.map String.toList) := by
    intro mem
    rcases mem_joinLines mem with same | ⟨line, listed, mem⟩
    · exact absurd same (by decide)
    · exact absurd (printed_lines written line listed '\r' mem) (by decide)
  have plain : unmarked (joinLines (lines.map String.toList)) =
      joinLines (lines.map String.toList) := by
    have documents := documents_listOf written
    -- The first line begins with an ASCII character, which is no mark.
    generalize lines.map String.toList = texts at documents
    generalize Json.rereadItems (listOf objects) = items at documents
    cases documents with
    | nil => rfl
    | @cons text _ texts _ first _ =>
        obtain ⟨c, rest, rfl, -, -, ascii⟩ := first.begins
        obtain ⟨others, front⟩ := joinLines_begins (c :: rest) texts
        rw [front, List.cons_append, unmarked_of_ascii ascii]
  rw [joined, plain, normalizeNewlines_of_plain single]

theorem mapM_readDocument {texts : List (List Char)} {items : List Json}
    (h : List.Forall₂ Json.Document texts items) :
    texts.mapM (fun line => readDocument (String.ofList line)) = .ok items :=
  mapM_eq_ok.mpr (h.imp fun _ _ document => readDocument_of_ok document.read_eq)

theorem loadLines_of_unbroken (written : Json.compactItems (listOf objects) = .ok lines)
    (unbroken : ∀ line ∈ lines.map String.toList, IsUnbroken line) :
    loadLines (joinLines (lines.map String.toList)) = .ok (tableRead .jsonLines objects) := by
  have filled : ∀ line ∈ lines.map String.toList, line ≠ [] := by
    intro line listed
    obtain ⟨j, document⟩ := document_of_line written line listed
    obtain ⟨c, rest, rfl, -⟩ := document.begins
    exact List.cons_ne_nil c rest
  have visible : ∀ line ∈ lines.map String.toList, (!isBlankText line) = true := by
    intro line listed
    obtain ⟨j, document⟩ := document_of_line written line listed
    rw [isBlankText_eq_false document.read_eq, Bool.not_false]
  rw [loadLines, splitLines_joinLines unbroken filled, List.filter_eq_self.mpr visible,
    mapM_readDocument (documents_listOf written), ok_bind, tableOfObjects_reread]

theorem loadLines_of_broken (written : Json.compactItems (listOf objects) = .ok lines)
    (broken : ∃ line ∈ lines.map String.toList, ¬ IsUnbroken line) :
    ∃ e, loadLines (joinLines (lines.map String.toList)) = .error e := by
  obtain ⟨line, listed, before, c, behind, split, separates, found⟩ :=
    exists_broken_line (printed_lines written) broken
  have beyond : ∀ c ∈ separators, 128 ≤ c.toNat := by decide
  obtain ⟨j, document⟩ := document_of_line written line listed
  obtain ⟨visible, noDocument⟩ := document.broken (beyond c separates) split
  obtain ⟨e, refused⟩ := readDocument_of_error noDocument
  -- What is left of the line is not blank, so it is not passed over.
  have kept : before ∈ (splitLines (joinLines (lines.map String.toList))).filter (!isBlankText ·) :=
    List.mem_filter.mpr ⟨found, by simp [visible]⟩
  obtain ⟨e', failed⟩ := mapM_eq_error_of_mem
    (f := fun line => readDocument (String.ofList line)) kept refused
  exact ⟨e', by rw [loadLines, failed]; rfl⟩

end

/-- Records are loaded the same from one list and from an object that has the list as its records.
Written one to a line they are loaded the same too, unless one of their texts holds a character that
ends a line: then the file is refused. -/
theorem loadTable_of_lines {e : Environment} {w : Workspace}
    {objects : List (List (String × Json))} {lines : List String}
    {inLines inArray inRecords : Selection} {linesFile arrayFile recordsFile : String}
    {arrayText recordsText : List Char} {members : List (String × Json)}
    (written : Json.compactItems (listOf objects) = .ok lines)
    (onLines : Selects w inLines linesFile .jsonLines ("\n".intercalate lines).toList)
    (asArray : Selects w inArray arrayFile .json arrayText)
    (array : HoldsDocument arrayText (.array (Json.rereadItems (listOf objects))))
    (asRecords : Selects w inRecords recordsFile .json recordsText)
    (records : HoldsDocument recordsText (.object members))
    (member : members.lookup "records" = some (.array (Json.rereadItems (listOf objects)))) :
    loadTable e w inArray = .ok (tableRead .json objects) ∧
      loadTable e w inRecords = .ok (tableRead .json objects) ∧
      (HasNoSeparator objects → loadTable e w inLines = .ok (tableRead .jsonLines objects)) ∧
      (¬ HasNoSeparator objects → ∃ failure, loadTable e w inLines = .error failure) := by
  rw [asArray.loadTable_eq, asRecords.loadTable_eq, onLines.loadTable_eq,
    normalizeNewlines_lines written, ← unbroken_iff written]
  refine ⟨?_, ?_, fun unbroken => ?_, fun broken => ?_⟩
  · rw [loadRecords, loadDocument_eq array rfl, tableOfObjects_reread]
    rfl
  · rw [loadRecords, loadDocument_eq records (recordsOf_object member), tableOfObjects_reread]
    rfl
  · rw [loadRecords, loadLines_of_unbroken written unbroken]
    rfl
  · obtain ⟨e, refused⟩ := loadLines_of_broken written (by simpa using broken)
    exact ⟨.records linesFile e, by rw [loadRecords, refused]; rfl⟩

/-! ## Memos in three files -/

def memoFolder (lines array records : String) : Workspace :=
  ⟨["", "memos"], [], [(["", "memos", "memos.jsonl"], encode lines.toList),
    (["", "memos", "list.json"], encode array.toList),
    (["", "memos", "records.json"], encode records.toList)]⟩

def memoFile (name : String) : Selection := ⟨some name, none, none, none, none⟩

section

variable (lines array records : String)

theorem selects_memoLines : Selects (memoFolder lines array records) (memoFile "memos.jsonl")
    "memos.jsonl" .jsonLines lines.toList :=
  ⟨rfl, by decide, by decide +kernel, rfl⟩

theorem selects_memoList : Selects (memoFolder lines array records) (memoFile "list.json")
    "list.json" .json array.toList :=
  ⟨rfl, by decide, by decide +kernel, rfl⟩

theorem selects_memoRecords : Selects (memoFolder lines array records) (memoFile "records.json")
    "records.json" .json records.toList :=
  ⟨rfl, by decide, by decide +kernel, rfl⟩

end

def memos : List (List (String × Json)) :=
  [[("Note", .string "two\nlines"), ("Done", .bool true)], [("Note", .string "über")]]

def memoRecords : Json := .object [("records", .array (listOf memos))]

theorem loadTable_of_lines_memos :
    ∃ lines array records, Json.compactItems (listOf memos) = .ok lines ∧
      (Json.array (listOf memos)).compact = .ok array ∧ memoRecords.compact = .ok records ∧
      let w := memoFolder ("\n".intercalate lines) array records
      loadTable ⟨none, none, []⟩ w (memoFile "list.json") = .ok (tableRead .json memos) ∧
        loadTable ⟨none, none, []⟩ w (memoFile "records.json") = .ok (tableRead .json memos) ∧
        loadTable ⟨none, none, []⟩ w (memoFile "memos.jsonl") =
          .ok (tableRead .jsonLines memos) := by
  have none : HasNoSeparator memos := by
    unfold HasNoSeparator
    decide
  obtain ⟨lines, written⟩ : ∃ lines, Json.compactItems (listOf memos) = .ok lines := ⟨_, rfl⟩
  refine ⟨lines, _, _, written, rfl, rfl, ?_⟩
  obtain ⟨array, records, lines, -⟩ := loadTable_of_lines (e := ⟨Option.none, Option.none, []⟩)
    written (selects_memoLines _ _ _) (selects_memoList _ _ _)
    (holdsDocument_compact (j := Json.array (listOf memos)) rfl) (selects_memoRecords _ _ _)
    (holdsDocument_compact (j := memoRecords) rfl) rfl
  exact ⟨array, records, lines none⟩

def separatedMemo : List (List (String × Json)) := [[("Note", .string "so\u2028it is")]]

theorem loadTable_of_lines_not_same :
    ¬ ∀ (e : Environment) (w : Workspace) (objects : List (List (String × Json)))
        (lines : List String) (array : String) (inLines inArray : Selection)
        (linesFile arrayFile : String),
      Json.compactItems (listOf objects) = .ok lines →
      (Json.array (listOf objects)).compact = .ok array →
      Selects w inLines linesFile .jsonLines ("\n".intercalate lines).toList →
      Selects w inArray arrayFile .json array.toList →
      ∃ columns rows, loadTable e w inLines = .ok ⟨.jsonLines, columns, rows⟩ ∧
        loadTable e w inArray = .ok ⟨.json, columns, rows⟩ := by
  intro claim
  obtain ⟨line, array, written, list⟩ : ∃ line array,
      Json.compactItems (listOf separatedMemo) = .ok [line] ∧
      (Json.array (listOf separatedMemo)).compact = .ok array := ⟨_, _, rfl, rfl⟩
  have separated : ¬ HasNoSeparator separatedMemo := by
    unfold HasNoSeparator
    decide
  have onLines := selects_memoLines ("\n".intercalate [line]) array ""
  obtain ⟨columns, rows, loaded, -⟩ := claim ⟨none, none, []⟩ _ _ _ _ _ _ _ _ written list onLines
    (selects_memoList _ _ _)
  rw [← unbroken_iff written] at separated
  obtain ⟨e, refused⟩ := loadLines_of_broken written (by simpa using separated)
  rw [onLines.loadTable_eq, normalizeNewlines_lines written, mapError_eq_ok, loadRecords,
    refused] at loaded
  cases loaded

end RecordFilter
