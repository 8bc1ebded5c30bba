import RecordFilter.Proofs.Grammar

/-!
# Numerals of literals

The literals of numbers have neither sign nor exponent.  Reading such a numeral gives exactly the
number it spells, digit for digit, and a number without a sign whose exponent is not positive is
written as a numeral that spells it.
-/

namespace RecordFilter

open Text Number

/-! ## Digits -/

def asciiDigits : List Char := ['0', '1', '2', '3', '4', '5', '6', '7', '8', '9']

theorem mem_asciiDigits {c : Char} (h : isAsciiDigit c = true) : c ∈ asciiDigits := by
  have bounds : 48 ≤ c.toNat ∧ c.toNat ≤ 57 := by
    simpa [isAsciiDigit, Char.le_def, UInt32.le_iff_toNat_le] using h
  have known : ∀ n, 48 ≤ n → n ≤ 57 → Char.ofNat n ∈ asciiDigits := by
    intro n low high
    obtain ⟨k, rfl⟩ := Nat.exists_eq_add_of_le low
    have : k < 10 := by omega
    clear low high h bounds
    revert k
    decide
  simpa using known c.toNat bounds.1 bounds.2

theorem all_digits {p : Char → Bool} (all : asciiDigits.all p = true) {c : Char}
    (digit : isAsciiDigit c = true) : p c = true :=
  List.all_eq_true.mp all c (mem_asciiDigits digit)

theorem isBlank_digit {c : Char} (digit : isAsciiDigit c = true) : isBlank c = false := by
  simpa using all_digits (p := (!isBlank ·)) (by decide) digit

theorem toLower_digit {c : Char} (digit : isAsciiDigit c = true) : c.toLower = c := by
  simpa using all_digits (p := fun c => c.toLower == c) (by decide) digit

theorem digitValue?_digit {c : Char} (digit : isAsciiDigit c = true) :
    digitValue? c = some (c.toNat - 48) := by
  simpa using all_digits (p := fun c => digitValue? c == some (c.toNat - 48)) (by decide) digit

theorem ne_of_digit {c d : Char} (digit : isAsciiDigit c = true) (other : isAsciiDigit d = false) :
    c ≠ d := by
  rintro rfl
  simp [digit] at other

theorem trimLeft_eq_self_of_head {text : List Char}
    (visible : ∀ c ∈ text.head?, isBlank c = false) : trimLeft text = text := by
  cases text with
  | nil => rfl
  | cons c rest => simp [trimLeft, visible c rfl]

theorem trim_eq_self_of_ends {text : List Char} (before : ∀ c ∈ text.head?, isBlank c = false)
    (behind : ∀ c ∈ text.getLast?, isBlank c = false) : trim text = text := by
  rw [← List.head?_reverse] at behind
  rw [trim, trimLeft_eq_self_of_head before, trimLeft_eq_self_of_head behind, List.reverse_reverse]

theorem trim_eq_self {text : List Char} (visible : ∀ c ∈ text, isBlank c = false) :
    trim text = text :=
  trim_eq_self_of_ends (fun c found => visible c (List.mem_of_mem_head? found))
    fun c found => visible c (List.mem_of_mem_getLast? found)

/-! ## Reading -/

theorem splitDigits_append {digits : List Char} (digital : ∀ c ∈ digits, isAsciiDigit c = true)
    (rest : List Char) (stops : ∀ c ∈ rest.head?, digitValue? c = none) :
    Decimal.splitDigits (digits ++ rest) = (digits.map fun c => c.toNat - 48, rest) := by
  induction digits with
  | nil =>
      cases rest with
      | nil => rfl
      | cons c rest => simp [Decimal.splitDigits, stops c rfl]
  | cons c digits ih =>
      have value := digitValue?_digit (digital c (by simp))
      have later := ih fun c hc => digital c (by simp [hc])
      simp [Decimal.splitDigits, value, later]

theorem ofDigitValues_map (digits : List Char) :
    ofDigitValues (digits.map fun c => c.toNat - 48) = Nat.ofDigitChars 10 digits 0 := by
  rw [ofDigitValues, List.foldl_map, Nat.ofDigitChars_eq_foldl]
  rfl

theorem splitSign_digit {c : Char} (digit : isAsciiDigit c = true) (rest : List Char) :
    Decimal.splitSign (c :: rest) = (false, c :: rest) := by
  have notMinus : c ≠ '-' := ne_of_digit digit (by decide)
  have notPlus : c ≠ '+' := ne_of_digit digit (by decide)
  unfold Decimal.splitSign
  split <;> simp_all

theorem readNonFinite?_digit {c : Char} {negative : Bool} (digit : isAsciiDigit c = true)
    (rest : List Char) : Decimal.readNonFinite? negative (c :: rest) = none := by
  have lower := toLower_digit digit
  have notI : c ≠ 'i' := ne_of_digit digit (by decide)
  have notS : c ≠ 's' := ne_of_digit digit (by decide)
  have notN : c ≠ 'n' := ne_of_digit digit (by decide)
  simp [Decimal.readNonFinite?, lower, notI, notS, notN]

theorem hasExponentMark_eq_false {text : List Char}
    (plain : ∀ c ∈ text, isAsciiDigit c = true ∨ c = '.') :
    Decimal.hasExponentMark text = false := by
  rw [Decimal.hasExponentMark, List.any_eq_false]
  intro c hc
  rcases plain c hc with digit | rfl
  · rw [toLower_digit digit]
    simpa using ne_of_digit digit (by decide)
  · decide

theorem readUnbounded?_spelled {text : List Char} {d : Decimal} (h : SpellsNumber text d)
    (negative : Bool) : Decimal.readUnbounded? negative text = some { d with negative } := by
  cases h with
  | whole nonempty digital =>
      have split := splitDigits_append digital [] (by simp)
      rw [List.append_nil] at split
      simp [Decimal.readUnbounded?, split, nonempty, Decimal.readExponent?, ofDigitValues_map]
  | @fractional digits places nonempty digital placed digitalPlaces =>
      have split := splitDigits_append digital ('.' :: places) (by simpa using by decide)
      have behind := splitDigits_append digitalPlaces [] (by simp)
      rw [List.append_nil] at behind
      simp [Decimal.readUnbounded?, split, behind, nonempty, Decimal.readExponent?,
        ← List.map_append, ofDigitValues_map]

theorem SpellsNumber.plain {text : List Char} {d : Decimal} (h : SpellsNumber text d) :
    ∀ c ∈ text, isAsciiDigit c = true ∨ c = '.' := by
  cases h with
  | whole nonempty digital => exact fun c hc => .inl (digital c hc)
  | fractional nonempty digital placed digitalPlaces =>
      intro c hc
      rcases List.mem_append.mp hc with hc | hc
      · exact .inl (digital c hc)
      · rcases List.mem_cons.mp hc with rfl | hc
        · exact .inr rfl
        · exact .inl (digitalPlaces c hc)

theorem SpellsNumber.head {text : List Char} {d : Decimal} (h : SpellsNumber text d) :
    ∃ c rest, text = c :: rest ∧ isAsciiDigit c = true := by
  cases h with
  | whole nonempty digital | fractional nonempty digital =>
      obtain ⟨c, rest, rfl⟩ := List.exists_cons_of_ne_nil nonempty
      exact ⟨c, _, rfl, digital c (by simp)⟩

theorem clean_eq_self {text : List Char}
    (plain : ∀ c ∈ text, isAsciiDigit c = true ∨ c = '.' ∨ c = '-') :
    (trim text).filter (· != '_') = text := by
  have visible : ∀ c ∈ text, isBlank c = false := by
    intro c hc
    rcases plain c hc with digit | rfl | rfl
    · exact isBlank_digit digit
    · decide
    · decide
  rw [trim_eq_self visible, List.filter_eq_self]
  intro c hc
  rcases plain c hc with digit | rfl | rfl
  · simpa using ne_of_digit digit (by decide)
  · decide
  · decide

theorem read?_signed {text body : List Char} {negative : Bool} {d : Decimal}
    (h : SpellsNumber body d) (clean : (trim text).filter (· != '_') = text)
    (split : Decimal.splitSign text = (negative, body)) :
    Decimal.read? text = some (.finite { d with negative }) := by
  have value := readUnbounded?_spelled h negative
  have unmarked := hasExponentMark_eq_false h.plain
  obtain ⟨c, rest, rfl, digit⟩ := h.head
  simp [Decimal.read?, clean, split, readNonFinite?_digit digit, Decimal.readFinite?, value,
    unmarked]

theorem read?_spelled {text : List Char} {d : Decimal} (h : SpellsNumber text d) :
    Decimal.read? text = some (.finite d) := by
  have clean := clean_eq_self fun c hc => (h.plain c hc).imp_right .inl
  have split : Decimal.splitSign text = (false, text) := by
    obtain ⟨c, rest, rfl, digit⟩ := h.head
    exact splitSign_digit digit rest
  have unsigned : { d with negative := false } = d := by cases h <;> rfl
  rw [read?_signed h clean split, unsigned]

theorem read?_minus {text : List Char} {d : Decimal} (h : SpellsNumber text d) :
    Decimal.read? ('-' :: text) = some (.finite { d with negative := true }) := by
  refine read?_signed h (clean_eq_self fun c hc => ?_) rfl
  rcases List.mem_cons.mp hc with rfl | hc
  · exact .inr (.inr rfl)
  · exact (h.plain c hc).imp_right .inl

/-! ## Writing -/

theorem isAsciiDigit_of_mem_digits {c : Char} {n : Nat} (h : c ∈ digits n) :
    isAsciiDigit c = true := by
  have digit : c.isDigit := Nat.isDigit_of_mem_toDigits (by decide) (by decide) h
  simpa [isAsciiDigit, Char.isDigit, Char.le_def] using digit

theorem isAsciiDigit_of_mem_zeros {c : Char} {n : Nat} (h : c ∈ zeros n) :
    isAsciiDigit c = true := by
  rw [List.eq_of_mem_replicate h]
  decide

theorem ofDigitChars_digits (n : Nat) : Nat.ofDigitChars 10 (digits n) 0 = n :=
  Nat.ofDigitChars_ten_toDigits

theorem spells_fractional {digits places : List Char} {n : Nat} {exponent : Int}
    (nonempty : digits ≠ []) (digital : ∀ c ∈ digits, isAsciiDigit c = true) (placed : places ≠ [])
    (digitalPlaces : ∀ c ∈ places, isAsciiDigit c = true)
    (value : Nat.ofDigitChars 10 (digits ++ places) 0 = n)
    (count : (places.length : Int) = -exponent) :
    SpellsNumber (digits ++ '.' :: places) ⟨false, n, exponent⟩ := by
  have spelled := SpellsNumber.fractional nonempty digital placed digitalPlaces
  rwa [value, count, Int.neg_neg] at spelled

theorem spells_pointed (digits : List Char) (exponent : Int) (nonempty : digits ≠ [])
    (digital : ∀ c ∈ digits, isAsciiDigit c = true) (whole : exponent ≤ 0) :
    SpellsNumber (Decimal.pointed digits (exponent + digits.length))
      ⟨false, Nat.ofDigitChars 10 digits 0, exponent⟩ := by
  have positive : 0 < digits.length := List.length_pos_iff.mpr nonempty
  rw [Decimal.pointed]
  by_cases below : exponent + digits.length ≤ 0
  · rw [if_pos below]
    have zero : ∀ c ∈ ['0'], isAsciiDigit c = true := List.all_eq_true.mp (by decide)
    refine spells_fractional (by simp) zero (by simp [nonempty]) ?_ ?_ ?_
    · intro c hc
      rcases List.mem_append.mp hc with hc | hc
      · exact isAsciiDigit_of_mem_zeros hc
      · exact digital c hc
    · simp [Nat.ofDigitChars_append, Nat.ofDigitChars_cons, zeros]
    · simp [zeros]
      omega
  rw [if_neg below]
  by_cases atEnd : (digits.length : Int) ≤ exponent + digits.length
  · have noPlaces : exponent = 0 := by omega
    subst noPlaces
    rw [if_pos atEnd]
    simpa [zeros] using SpellsNumber.whole nonempty digital
  · rw [if_neg atEnd]
    refine spells_fractional ?_ (fun c hc => digital c (List.mem_of_mem_take hc)) ?_
      (fun c hc => digital c (List.mem_of_mem_drop hc)) ?_ ?_
    · simp only [ne_eq, List.take_eq_nil_iff, nonempty, or_false]
      omega
    · simp only [ne_eq, List.drop_eq_nil_iff]
      omega
    · rw [List.take_append_drop]
    · simp only [List.length_drop]
      omega

/-- A number without a sign and with no power of ten to make up is written as a numeral that
denotes it. -/
theorem spells_positional {d : Decimal} (unsigned : d.negative = false) (whole : d.exponent ≤ 0) :
    SpellsNumber d.positionalChars d := by
  obtain ⟨negative, coefficient, exponent⟩ := d
  subst unsigned
  have spelled := spells_pointed (digits coefficient) exponent Nat.toDigits_ne_nil
    (fun c => isAsciiDigit_of_mem_digits) whole
  rw [ofDigitChars_digits] at spelled
  have kept : min exponent 0 = exponent := Int.min_eq_left whole
  simpa [Decimal.positionalChars, Decimal.withSign, kept] using spelled

end RecordFilter
