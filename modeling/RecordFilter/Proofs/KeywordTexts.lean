import Mathlib.Data.List.TakeWhile
import RecordFilter.Proofs.LiteralSearch
import RecordFilter.Proofs.Numerals
import RecordFilter.Token.Scan

/-!
# How keywords are written

The letters of a keyword of several words are compared one by one.  Besides the two cases of an
ASCII letter, four letters of other scripts count as one.  All of them are word characters, so the
words of a keyword have the same bounds however they are written.

A keyword of several words is read from a text exactly if the text begins with a writing of it
that no word character follows.
-/

namespace RecordFilter

open Text

namespace Token

/-! ## Letters -/

def smallLetters : List Char := "abcdefghijklmnopqrstuvwxyz".toList

def kelvinSign : Char := Char.ofNat 0x212a

/-- Letters that are taken for an ASCII letter though their lower form is another text. -/
def strayLetters : List Char := ['İ', 'ı', 'ſ']

def letterForms : List Char :=
  smallLetters ++ smallLetters.map Char.toUpper ++ kelvinSign :: strayLetters

theorem letterForm_facts : ∀ c ∈ letterForms,
    isWordChar c = true ∧ isBlank c = false ∧ isAsciiDigit c = false ∧ c ≠ 'Σ' := by
  decide +kernel

theorem eq_of_char_ofNat {n : Nat} {c : Char} (some : c.toNat ≠ 0) (same : Char.ofNat n = c) :
    n = c.toNat := by
  by_cases valid : n.isValidChar
  · rw [← same, Char.ofNat, dif_pos valid]
    rfl
  · rw [← same, Char.ofNat, dif_neg valid] at some
    exact absurd rfl some

theorem eq_or_of_lowerChar {c d : Char} (beyond : isAscii c = false)
    (target : d ∈ 'ı' :: 'ſ' :: smallLetters) (lowered : lowerChar c = d) :
    c = d ∨ c = 'İ' ∨ c = kelvinSign := by
  have table : ∀ run ∈ caseRuns, ∀ d ∈ 'ı' :: 'ſ' :: smallLetters,
      run.covers (d.toNat - run.offset).toNat = true →
        (d.toNat - run.offset).toNat ∈ ['İ'.toNat, kelvinSign.toNat] := by
    decide +kernel
  have some : ∀ d ∈ 'ı' :: 'ſ' :: smallLetters, d.toNat ≠ 0 := by decide
  rw [lowerChar, if_neg (by simp [beyond])] at lowered
  split at lowered
  · next run found =>
      have covers := List.find?_some (p := fun run : CaseRun => run.covers c.toNat) found
      have code := eq_of_char_ofNat (some d target) lowered
      have source : c.toNat = (d.toNat - run.offset).toNat := by
        have positive := some d target
        omega
      rw [source] at covers
      have known := table run (List.mem_of_find?_eq_some found) d target covers
      rw [← source] at known
      simp only [List.mem_cons, List.not_mem_nil, or_false, Char.toNat_inj] at known
      exact .inr known
  · exact .inl lowered

theorem letterKey_smallLetter : ∀ l ∈ smallLetters, letterKey l = l := by decide

theorem lowerChar_mem_of_sameLetter {l c : Char} (small : l ∈ smallLetters)
    (same : sameLetter l c = true) : lowerChar c = l ∨ lowerChar c ∈ ['ı', 'ſ'] := by
  have first : ∀ codes ∈ letterClasses, ∀ code ∈ codes.head?, Char.ofNat code ∈ smallLetters →
      ∀ low ∈ codes, low ∈ [Char.ofNat code, 'ı', 'ſ'].map Char.toNat := by
    decide +kernel
  have key : letterKey c = l := by
    rw [← letterKey_smallLetter l small]
    exact (beq_iff_eq.mp same).symm
  rw [letterKey] at key
  split_ifs at key with ascii
  · exact .inl (by rw [lowerChar, if_pos ascii, key])
  · dsimp only at key
    split at key
    · next code codes found =>
        obtain ⟨low, listed, equal⟩ := List.mem_map.mp
          (first _ (List.mem_of_find?_eq_some found) code rfl (key ▸ small) (lowerChar c).toNat
            (by simpa using List.find?_some found))
        rw [key, Char.toNat_inj.mp equal] at listed
        exact List.mem_cons.mp listed
    · exact .inl key

theorem mem_letterForms {l c : Char} (small : l ∈ smallLetters) (same : sameLetter l c = true) :
    c ∈ letterForms := by
  have target : lowerChar c ∈ 'ı' :: 'ſ' :: smallLetters := by
    rcases lowerChar_mem_of_sameLetter small same with lowered | lowered
    · rw [lowered]
      exact List.mem_cons_of_mem _ (List.mem_cons_of_mem _ small)
    · exact List.mem_append_left smallLetters lowered
  cases ascii : isAscii c with
  | true =>
      have capitals : ∀ n < 128, (Char.ofNat n).toLower ∈ 'ı' :: 'ſ' :: smallLetters →
          Char.ofNat n ∈ letterForms := by
        decide +kernel
      have form := capitals c.toNat (by simpa [isAscii] using ascii)
      rw [Char.ofNat_toNat] at form
      rw [lowerChar, if_pos ascii] at target
      exact form target
  | false =>
      have forms : ∀ d ∈ 'ı' :: 'ſ' :: smallLetters, d ∈ letterForms := by decide +kernel
      rcases eq_or_of_lowerChar ascii target rfl with equal | rfl | rfl
      · rw [equal]
        exact forms _ target
      · decide +kernel
      · decide +kernel

theorem lowerChar_of_sameLetter {l c : Char} (small : l ∈ smallLetters)
    (same : sameLetter l c = true) (straight : c ∉ strayLetters) : lowerChar c = l := by
  have strays : ∀ c ∈ letterForms, lowerChar c ∈ ['ı', 'ſ'] → c ∈ strayLetters := by
    decide +kernel
  exact (lowerChar_mem_of_sameLetter small same).resolve_right fun lowered =>
    straight (strays c (mem_letterForms small same) lowered)

/-! ## Blanks -/

def blankCodes : List Nat :=
  List.range' 9 5 ++ List.range' 28 5 ++
    blankSpans.flatMap fun (first, last) => List.range' first (last + 1 - first)

theorem mem_blankCodes {c : Char} (blank : isBlank c = true) : c.toNat ∈ blankCodes := by
  rw [isBlank] at blank
  split_ifs at blank
  · simp only [Bool.or_eq_true, Bool.and_eq_true, decide_eq_true_eq] at blank
    simp only [blankCodes, List.mem_append, List.mem_range'_1]
    omega
  · obtain ⟨⟨first, last⟩, listed, covers⟩ := List.any_eq_true.mp blank
    simp only [Bool.and_eq_true, decide_eq_true_eq] at covers
    refine List.mem_append_right _ (List.mem_flatMap.mpr ⟨_, listed, ?_⟩)
    simp only [List.mem_range'_1]
    omega

theorem blank_facts {c : Char} (blank : isBlank c = true) :
    lowerChar c = c ∧ isWordChar c = false ∧ isAsciiDigit c = false ∧
      c ∉ '.' :: doubleSymbols.map Prod.snd := by
  have facts : ∀ n ∈ blankCodes, lowerChar (Char.ofNat n) = Char.ofNat n ∧
      isWordChar (Char.ofNat n) = false ∧ isAsciiDigit (Char.ofNat n) = false ∧
        Char.ofNat n ∉ '.' :: doubleSymbols.map Prod.snd := by
    decide +kernel
  simpa only [Char.ofNat_toNat] using facts c.toNat (mem_blankCodes blank)

theorem isBlank_wordChar {c : Char} (word : isWordChar c = true) : isBlank c = false := by
  by_contra blank
  rw [(blank_facts (by simpa using blank)).2.1] at word
  cases word

/-! ## Words -/

theorem take_wordRun (text : List Char) :
    text.take (text.takeWhile isWordChar).length = text.takeWhile isWordChar :=
  (List.prefix_iff_eq_take.mp (List.takeWhile_prefix isWordChar)).symm

theorem drop_wordRun (text : List Char) :
    text.drop (text.takeWhile isWordChar).length = text.dropWhile isWordChar :=
  calc text.drop (text.takeWhile isWordChar).length
    _ = (text.takeWhile isWordChar ++ text.dropWhile isWordChar).drop
          (text.takeWhile isWordChar).length := by rw [List.takeWhile_append_dropWhile]
    _ = text.dropWhile isWordChar := List.drop_left

def SmallWord (word : String) : Prop := word.toList ≠ [] ∧ ∀ l ∈ word.toList, l ∈ smallLetters

instance (word : String) : Decidable (SmallWord word) :=
  inferInstanceAs (Decidable (_ ∧ _))

theorem smallWords_of_mem_compoundKeywords :
    ∀ ws ∈ compoundKeywords, ws ≠ [] ∧ ∀ word ∈ ws, SmallWord word := by
  decide +kernel

def Bounded (behind : List Char) : Prop := ∀ c ∈ behind.head?, isWordChar c = false

inductive Written : List String → List Char → Prop
  | last {word : String} {piece : List Char} (same : SameText word.toList piece) :
      Written [word] piece
  | more {word : String} {piece gap rest : List Char} {others : List String}
      (same : SameText word.toList piece) (nonempty : gap ≠ [])
      (blank : ∀ c ∈ gap, isBlank c = true) (behind : Written others rest) :
      Written (word :: others) (piece ++ gap ++ rest)

theorem afterWord?_eq_some {word text behind : List Char} :
    afterWord? word text = some behind ↔ ∃ piece, SameText word piece ∧ text = piece ++ behind := by
  induction word generalizing text with
  | nil => simp only [afterWord?, SameText, List.forall₂_nil_left_iff, exists_eq_left,
      List.nil_append, Option.some.injEq]
  | cons l word ih =>
      cases text with
      | nil => simp [afterWord?, SameText, List.forall₂_cons_left_iff]
      | cons c rest =>
          rw [afterWord?, Option.ite_none_right_eq_some, ih]
          constructor
          · rintro ⟨same, piece, spelled, rfl⟩
            exact ⟨c :: piece, .cons same spelled, rfl⟩
          · rintro ⟨piece, _ | ⟨same, spelled⟩, equal⟩
            cases equal
            exact ⟨same, _, spelled, rfl⟩

theorem mem_letterForms_of_sameText {word piece : List Char}
    (small : ∀ l ∈ word, l ∈ smallLetters) (same : SameText word piece) :
    ∀ c ∈ piece, c ∈ letterForms := by
  induction same with
  | nil => exact nofun
  | cons first _ ih =>
      obtain ⟨smallFirst, small⟩ := List.forall_mem_cons.mp small
      exact List.forall_mem_cons.mpr ⟨mem_letterForms smallFirst first, ih small⟩

theorem ne_nil_of_sameText {word : String} {piece : List Char} (small : SmallWord word)
    (same : SameText word.toList piece) : piece ≠ [] := by
  rintro rfl
  exact small.1 (List.forall₂_nil_right_iff.mp same)

theorem Written.head? {ws : List String} {text : List Char} (written : Written ws text)
    (small : ∀ word ∈ ws, SmallWord word) : ∃ c rest, text = c :: rest ∧ c ∈ letterForms := by
  have first {word : String} {piece : List Char} (small : SmallWord word)
      (same : SameText word.toList piece) : ∃ c rest, piece = c :: rest ∧ c ∈ letterForms := by
    obtain ⟨c, rest, rfl⟩ := List.exists_cons_of_ne_nil (ne_nil_of_sameText small same)
    exact ⟨c, rest, rfl, mem_letterForms_of_sameText small.2 same c List.mem_cons_self⟩
  cases written with
  | last same => exact first (small _ List.mem_cons_self) same
  | more same =>
      obtain ⟨c, rest, rfl, form⟩ := first (small _ List.mem_cons_self) same
      exact ⟨c, _, rfl, form⟩

theorem Written.trimLeft_eq_self {ws : List String} {text : List Char} (written : Written ws text)
    (small : ∀ word ∈ ws, SmallWord word) (behind : List Char) :
    trimLeft (text ++ behind) = text ++ behind := by
  obtain ⟨c, rest, rfl, form⟩ := written.head? small
  refine trimLeft_eq_self_of_head ?_
  rintro _ ⟨⟩
  exact (letterForm_facts c form).2.1

theorem afterWords?_last {word : String} {text behind : List Char} :
    afterWords? [word] text = some behind ↔
      afterWord? word.toList text = some behind ∧ Bounded behind := by
  have bound (rest : List Char) : rest.head?.any isWordChar = false ↔ Bounded rest := by
    cases rest <;> simp [Bounded]
  rw [afterWords?]
  cases afterWord? word.toList text with
  | none => simp
  | some rest =>
      simp only [Option.ite_none_left_eq_some, Bool.not_eq_true, bound, Option.some.injEq]
      constructor
      · rintro ⟨bounded, rfl⟩
        exact ⟨rfl, bounded⟩
      · rintro ⟨rfl, bounded⟩
        exact ⟨bounded, rfl⟩

theorem afterWords?_cons {word next : String} {others : List String} {text behind : List Char} :
    afterWords? (word :: next :: others) text = some behind ↔
      ∃ c rest, afterWord? word.toList text = some (c :: rest) ∧ isBlank c = true ∧
        afterWords? (next :: others) (trimLeft rest) = some behind := by
  rw [afterWords?]
  · split
    · next c rest found => simp [found]
    · next other =>
        simp only [reduceCtorEq, false_iff]
        rintro ⟨c, rest, found, -⟩
        exact other c rest found
  · exact nofun

theorem afterWords?_eq_some {ws : List String} (words : ws ≠ [])
    (small : ∀ word ∈ ws, SmallWord word) {text behind : List Char} :
    afterWords? ws text = some behind ↔
      ∃ piece, Written ws piece ∧ text = piece ++ behind ∧ Bounded behind := by
  induction ws generalizing text with
  | nil => exact absurd rfl words
  | cons word others ih =>
      obtain ⟨smallFirst, small⟩ := List.forall_mem_cons.mp small
      cases others with
      | nil =>
          rw [afterWords?_last, afterWord?_eq_some]
          constructor
          · rintro ⟨⟨piece, same, rfl⟩, bounded⟩
            exact ⟨piece, .last same, rfl, bounded⟩
          · rintro ⟨piece, ⟨same⟩ | ⟨_, _, _, ⟨⟩⟩, rfl, bounded⟩
            exact ⟨⟨piece, same, rfl⟩, bounded⟩
      | cons next others =>
          simp only [afterWords?_cons, afterWord?_eq_some, ih (List.cons_ne_nil _ _) small]
          constructor
          · rintro ⟨c, rest, ⟨piece, same, rfl⟩, blank, later, written, equal, bounded⟩
            have gap : ∀ d ∈ c :: rest.takeWhile isBlank, isBlank d = true :=
              List.forall_mem_cons.mpr ⟨blank, fun d => List.mem_takeWhile_imp⟩
            refine ⟨_, .more same (List.cons_ne_nil _ _) gap written, ?_, bounded⟩
            rw [List.append_assoc, ← equal, List.append_assoc, List.cons_append, trimLeft,
              List.takeWhile_append_dropWhile]
          · rintro ⟨_, ⟨⟩ | @⟨_, piece, gap, rest, _, same, nonempty, blank, written⟩, rfl, bounded⟩
            obtain ⟨c, gap, rfl⟩ := List.exists_cons_of_ne_nil nonempty
            obtain ⟨first, blank⟩ := List.forall_mem_cons.mp blank
            refine ⟨c, gap ++ (rest ++ behind), ⟨piece, same, by simp⟩, first, rest, written, ?_,
              bounded⟩
            rw [trimLeft, List.dropWhile_append_of_pos blank]
            exact written.trimLeft_eq_self small behind

theorem written_of_afterWords? {ws : List String} (known : ws ∈ compoundKeywords) {c : Char}
    {rest behind : List Char} (read : afterWords? ws (c :: rest) = some behind) :
    Written ws (c :: rest.take (rest.length - behind.length)) ∧
      rest.drop (rest.length - behind.length) = behind ∧ Bounded behind := by
  obtain ⟨words, small⟩ := smallWords_of_mem_compoundKeywords ws known
  obtain ⟨piece, written, equal, bounded⟩ := (afterWords?_eq_some words small).mp read
  obtain ⟨d, others, rfl, -⟩ := written.head? small
  rw [List.cons_append] at equal
  obtain ⟨rfl, rfl⟩ := List.cons.inj equal
  rw [List.length_append, Nat.add_sub_cancel, List.take_left, List.drop_left]
  exact ⟨written, rfl, bounded⟩

/-- A keyword of several words takes up a writing of it, which no word character follows. -/
theorem written_of_compoundRun? {c : Char} {rest : List Char} {length : Nat}
    (h : compoundRun? c rest = some length) :
    ∃ ws ∈ compoundKeywords, Written ws (c :: rest.take length) ∧ Bounded (rest.drop length) := by
  obtain ⟨behind, found, rfl⟩ := Option.map_eq_some_iff.mp h
  obtain ⟨ws, known, read⟩ := List.exists_of_findSome?_eq_some found
  obtain ⟨written, drop, bounded⟩ := written_of_afterWords? known read
  refine ⟨ws, known, written, ?_⟩
  rwa [drop]

end Token

end RecordFilter
