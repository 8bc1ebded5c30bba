import Mathlib.Tactic.SplitIfs
import RecordFilter.Proofs.DocumentSteps
import RecordFilter.Proofs.Numerals

/-!
# Numbers in documents

A number is written as digits without leading zeros, a fraction and an exponent, each of the last
two only if there is need for it.  The reader takes exactly these characters, as long as what
follows cannot belong to a number, so it finds a whole number where one was written and something
else where a floating-point number was.
-/

namespace RecordFilter

open Number Text

/-! ## Leading digits -/

theorem digits_ne_nil (n : Nat) : digits n ≠ [] := Nat.toDigits_ne_nil

theorem head?_digits {n : Nat} (positive : 0 < n) : (digits n).head? ≠ some '0' := by
  induction n using Nat.strongRecOn with
  | _ n ih =>
      unfold digits
      by_cases single : n < 10
      · rw [Nat.toDigits_of_lt_base single]
        have small : ∀ k < 10, 0 < k → [k.digitChar].head? ≠ some '0' := by decide
        exact small n single positive
      -- Without its last digit the number begins the same.
      · have big := Nat.le_of_not_lt single
        have shorter : (digits (n / 10)).head? ≠ some '0' :=
          ih (n / 10) (Nat.div_lt_self positive (by decide)) (Nat.div_pos big (by decide))
        rw [Nat.toDigits_of_base_le (by decide) big]
        intro zero
        obtain ⟨c, rest, shown⟩ := List.exists_cons_of_ne_nil (digits_ne_nil (n / 10))
        rw [digits] at shown
        rw [digits, shown] at shorter
        rw [shown] at zero
        exact shorter zero

theorem powerOfTen_le_of_digitCount {n : Nat} (positive : 0 < n) :
    powerOfTen (digitCount n - 1) ≤ n := by
  by_cases single : digitCount n ≤ 1
  · rw [Nat.sub_eq_zero_of_le single]
    exact positive
  · have fewer : n < powerOfTen (digitCount n - 1) → digitCount n ≤ digitCount n - 1 :=
      (Nat.length_toDigits_le_iff (by decide) (by omega)).mpr
    exact Nat.le_of_not_lt fun small => absurd (fewer small) (by omega)

/-! ## Shortest digits -/

namespace Binary64

theorem neighbours_ne_zero {count : Nat} {d e : Decimal} (nonzero : d.coefficient ≠ 0)
    (some : 0 < count) (near : e ∈ neighbours count d) : e.coefficient ≠ 0 := by
  have positive := Nat.pos_of_ne_zero nonzero
  have below : 0 < d.coefficient * powerOfTen (d.exponent - (d.leading + 1 - count)).toNat /
      powerOfTen (d.leading + 1 - count - d.exponent).toNat := by
    -- Of all digits one at least is kept.
    refine Nat.div_pos (Nat.le_trans ?_ (Nat.le_mul_of_pos_right _ (Nat.pow_pos (by decide))))
      (Nat.pow_pos (by decide))
    have dropped : (d.leading + 1 - count - d.exponent).toNat ≤ digitCount d.coefficient - 1 := by
      unfold Decimal.leading
      omega
    exact Nat.le_trans (Nat.pow_le_pow_right (by decide) dropped)
      (powerOfTen_le_of_digitCount positive)
  simp only [neighbours, List.mem_cons, List.not_mem_nil, or_false] at near
  rcases near with rfl | rfl
  · dsimp only
    unfold divideHalfEven
    dsimp only
    split_ifs <;> omega
  · dsimp only
    split_ifs <;> omega

theorem shortestFrom_ne_zero {fuel count : Nat} {x : Binary64} {d : Decimal}
    (nonzero : d.coefficient ≠ 0) (positive : 0 < count) :
    (shortestFrom fuel count x d).coefficient ≠ 0 := by
  have found (fallback : Decimal) (h : fallback.coefficient ≠ 0) {count : Nat}
      (positive : 0 < count) :
      (((neighbours count d).find? (ofDecimal · == x)).getD fallback).coefficient ≠ 0 := by
    cases near : (neighbours count d).find? (ofDecimal · == x) with
    | none => exact h
    | some e => exact neighbours_ne_zero (e := e) nonzero positive (List.mem_of_find?_eq_some near)
  induction fuel generalizing count with
  | zero =>
      rw [shortestFrom_zero]
      exact found d nonzero positive
  | succ fuel ih =>
      rw [shortestFrom_succ]
      exact found _ (ih (Nat.succ_pos count)) positive

theorem stripZeros_ne_zero {fuel : Nat} {d : Decimal} (nonzero : d.coefficient ≠ 0) :
    (stripZeros fuel d).coefficient ≠ 0 := by
  induction fuel generalizing d with
  | zero => exact nonzero
  | succ fuel ih =>
      unfold stripZeros
      split_ifs with ends
      · simp only [Bool.and_eq_true, beq_iff_eq, bne_iff_ne] at ends
        exact ih (by dsimp only; omega)
      · exact nonzero

theorem shortest_ne_zero {mantissa : Nat} (nonzero : mantissa ≠ 0) (exponent : Int) :
    (shortest mantissa exponent).coefficient ≠ 0 := by
  have exact' : (exactly false mantissa exponent).coefficient ≠ 0 := by
    have two : powerOfTwo exponent.toNat ≠ 0 := Nat.ne_of_gt (Nat.pow_pos (by decide))
    have five : Nat.pow 5 (-exponent).toNat ≠ 0 := Nat.ne_of_gt (Nat.pow_pos (by decide))
    exact Nat.mul_ne_zero (Nat.mul_ne_zero nonzero two) five
  exact stripZeros_ne_zero (shortestFrom_ne_zero exact' (by decide))

end Binary64

/-! ## The parts of a number -/

namespace Json

def IsDigits (text : List Char) : Prop := ∀ c ∈ text, isAsciiDigit c = true

structure IsWhole (text : List Char) : Prop where
  nonempty : text ≠ []
  digital : IsDigits text
  leading : text.head? = some '0' → text = ['0']

inductive IsFraction : List Char → Prop
  | none : IsFraction []
  | places {places : List Char} (nonempty : places ≠ []) (digital : IsDigits places) :
      IsFraction ('.' :: places)

inductive IsExponent : List Char → Prop
  | none : IsExponent []
  | power {mark : Char} {digits : List Char} (sign : mark = '+' ∨ mark = '-')
      (nonempty : digits ≠ []) (digital : IsDigits digits) : IsExponent ('e' :: mark :: digits)

/-- What follows cannot belong to a number. -/
def Stops (rest : List Char) : Prop :=
  ∀ c ∈ rest.head?, isAsciiDigit c = false ∧ c ≠ '.' ∧ c ≠ 'e' ∧ c ≠ 'E'

theorem digitRun_append {digits rest : List Char} (digital : IsDigits digits)
    (stops : ∀ c ∈ rest.head?, isAsciiDigit c = false) : digitRun (digits ++ rest) = digits := by
  have none : rest.takeWhile isAsciiDigit = [] := by
    cases rest with
    | nil => rfl
    | cons c rest => exact List.takeWhile_cons_of_neg (by simp [stops c rfl])
  rw [digitRun, List.takeWhile_append_of_pos digital, none, List.append_nil]

theorem wholeDigits_append {whole rest : List Char} (h : IsWhole whole)
    (stops : ∀ c ∈ rest.head?, isAsciiDigit c = false) : wholeDigits (whole ++ rest) = whole := by
  unfold wholeDigits
  split
  · next zero =>
      obtain ⟨c, others, rfl⟩ := List.exists_cons_of_ne_nil h.nonempty
      cases zero
      exact (h.leading rfl).symm
  · exact digitRun_append h.digital stops

theorem fractionPart_append {fraction rest : List Char} (h : IsFraction fraction)
    (stops : ∀ c ∈ rest.head?, isAsciiDigit c = false ∧ c ≠ '.') :
    fractionPart (fraction ++ rest) = fraction := by
  cases h with
  | none =>
      rw [List.nil_append]
      unfold fractionPart
      split
      · exact absurd rfl (stops '.' rfl).2
      · rfl
  | places nonempty digital =>
      rw [List.cons_append, fractionPart, digitRun_append digital fun c h => (stops c h).1,
        if_neg (by simpa using nonempty)]

theorem exponentPart_append {exponent rest : List Char} (h : IsExponent exponent)
    (stops : Stops rest) : exponentPart (exponent ++ rest) = exponent := by
  cases h with
  | none =>
      rw [List.nil_append]
      cases rest with
      | nil => rfl
      | cons c rest =>
          obtain ⟨-, -, small, capital⟩ := stops c rfl
          rw [exponentPart, if_neg (by simp [small, capital])]
  | @power mark digits sign nonempty digital =>
      have signed : ((mark :: (digits ++ rest)).takeWhile fun c => c == '+' || c == '-').take 1 =
          [mark] := by
        rw [List.takeWhile_cons_of_pos (by simpa using sign)]
        rfl
      rw [List.cons_append, List.cons_append, exponentPart, if_pos (by decide), signed]
      change (if (digitRun (digits ++ rest)).isEmpty = true then []
        else 'e' :: [mark] ++ digitRun (digits ++ rest)) = _
      rw [digitRun_append digital fun c h => (stops c h).1, if_neg (by simpa using nonempty)]
      rfl

structure IsNumber (sign whole fraction exponent : List Char) : Prop where
  sign : sign = [] ∨ sign = ['-']
  whole : IsWhole whole
  fraction : IsFraction fraction
  exponent : IsExponent exponent

section

variable {sign whole fraction exponent rest : List Char}

theorem IsNumber.numberParts_eq (h : IsNumber sign whole fraction exponent) (stops : Stops rest) :
    numberParts (sign ++ (whole ++ (fraction ++ (exponent ++ rest)))) =
      (sign, whole, fraction ++ exponent) := by
  have behindFraction : ∀ c ∈ (exponent ++ rest).head?, isAsciiDigit c = false ∧ c ≠ '.' := by
    cases h.exponent with
    | none => exact fun c h => ⟨(stops c h).1, (stops c h).2.1⟩
    | power => simp; decide
  have behindWhole : ∀ c ∈ (fraction ++ (exponent ++ rest)).head?, isAsciiDigit c = false := by
    cases h.fraction with
    | none => exact fun c h => (behindFraction c h).1
    | places => simp; decide
  have minus : ((sign ++ (whole ++ (fraction ++ (exponent ++ rest)))).takeWhile (· == '-')).take 1 =
      sign := by
    obtain ⟨c, others, begins⟩ := List.exists_cons_of_ne_nil h.whole.nonempty
    have digit : isAsciiDigit c = true := h.whole.digital c (by simp [begins])
    have other : ¬ (c == '-') = true := by simpa using ne_of_digit digit (by decide)
    rcases h.sign with rfl | rfl
    · rw [List.nil_append, begins, List.cons_append,
        List.takeWhile_cons_of_neg (p := (· == '-')) other]
      rfl
    · rw [List.singleton_append, List.takeWhile_cons_of_pos (p := (· == '-')) rfl]
      rfl
  rw [numberParts]
  rw [minus, List.drop_left, wholeDigits_append h.whole behindWhole, List.drop_left,
    fractionPart_append h.fraction behindFraction, List.drop_left,
    exponentPart_append h.exponent stops]

theorem IsNumber.outcome_readNumber (h : IsNumber sign whole fraction exponent)
    (stops : Stops rest) :
    outcome (readNumber (sign ++ (whole ++ (fraction ++ (exponent ++ rest))))) =
      (numberOf (!sign.isEmpty) whole (fraction ++ exponent)).map fun number => (number, rest) := by
  have parts := h.numberParts_eq stops
  have begins : sign ++ (whole ++ (fraction ++ (exponent ++ rest))) ≠ [] := by
    simp [h.whole.nonempty]
  obtain ⟨c, behind, text⟩ := List.exists_cons_of_ne_nil begins
  have left : behind.drop (sign.length + whole.length + (fraction ++ exponent).length - 1) =
      rest := by
    have one : 0 < whole.length := List.length_pos_iff.mpr h.whole.nonempty
    have dropped : (c :: behind).drop (sign.length + whole.length + (fraction ++ exponent).length) =
        rest := by
      rw [← text, List.length_append, ← List.append_assoc, ← List.append_assoc, ← List.append_assoc,
        List.drop_left' (by simp [Nat.add_assoc])]
    obtain ⟨n, count⟩ := Nat.exists_eq_add_one_of_ne_zero
      (n := sign.length + whole.length + (fraction ++ exponent).length) (by omega)
    rw [count, List.drop_succ_cons] at dropped
    rw [count, Nat.add_sub_cancel, dropped]
  rw [text] at parts ⊢
  rw [readNumber, parts]
  dsimp only
  rw [if_neg (by simpa using h.whole.nonempty)]
  cases numberOf (!sign.isEmpty) whole (fraction ++ exponent) with
  | error => rfl
  | ok number => exact congrArg (fun r => Except.ok (number, r)) left

theorem IsNumber.begins (h : IsNumber sign whole fraction exponent) (rest : List Char) :
    BeginsNumber (sign ++ (whole ++ rest)) := by
  obtain ⟨c, others, begins⟩ := List.exists_cons_of_ne_nil h.whole.nonempty
  have digit : isAsciiDigit c = true := h.whole.digital c (by simp [begins])
  rw [begins]
  rcases h.sign with rfl | rfl
  · exact ⟨c, rfl, .inl digit⟩
  · exact ⟨'-', rfl, .inr ⟨rfl, c, rfl, digit⟩⟩

theorem IsNumber.chars (h : IsNumber sign whole fraction exponent) :
    ∀ c ∈ sign ++ (whole ++ (fraction ++ exponent)),
      isAsciiDigit c = true ∨ c ∈ ['-', '+', '.', 'e'] := by
  simp only [List.mem_append]
  rintro c (mem | mem | mem | mem)
  · rcases h.sign with rfl | rfl
    · cases mem
    · rw [List.mem_singleton.mp mem]
      exact .inr (by decide)
  · exact .inl (h.whole.digital c mem)
  · cases h.fraction with
    | none => cases mem
    | places nonempty digital =>
        rcases List.mem_cons.mp mem with rfl | mem
        · exact .inr (by decide)
        · exact .inl (digital c mem)
  · cases h.exponent with
    | none => cases mem
    | power sign nonempty digital =>
        simp only [List.mem_cons] at mem
        rcases mem with rfl | rfl | mem
        · exact .inr (by decide)
        · rcases sign with rfl | rfl <;> exact .inr (by decide)
        · exact .inl (digital c mem)

end

def IsNumberText (text : List Char) : Prop :=
  ∃ sign whole fraction exponent, IsNumber sign whole fraction exponent ∧
    text = sign ++ (whole ++ (fraction ++ exponent))

/-! ## Whole numbers -/

theorem isWhole_of_head? {text : List Char} (nonempty : text ≠ []) (digital : IsDigits text)
    (leading : text.head? ≠ some '0') : IsWhole text :=
  ⟨nonempty, digital, fun zero => absurd zero leading⟩

theorem isDigits_digits (n : Nat) : IsDigits (digits n) := fun _ => isAsciiDigit_of_mem_digits

theorem isWhole_digits (n : Nat) : IsWhole (digits n) := by
  cases n with
  | zero => exact ⟨by decide, by unfold IsDigits; decide, fun _ => rfl⟩
  | succ n =>
      exact isWhole_of_head? (digits_ne_nil _) (isDigits_digits _) (head?_digits (Nat.succ_pos n))

theorem numberOf_digits (negative : Bool) {n : Nat} (bounded : n < integerBound) :
    numberOf negative (digits n) [] = .ok (.int (Decimal.signed negative n)) := by
  have fits (count : Nat) (positive : 0 < count) (below : n < powerOfTen count) :
      (digits n).length ≤ count := (Nat.length_toDigits_le_iff (by decide) positive).mpr below
  have short : (digits n).length ≤ digitLimit := fits digitLimit (by decide) bounded
  rw [numberOf, if_pos List.isEmpty_nil, if_neg (Nat.not_lt.mpr short), ofDigitValues_map,
    ofDigitChars_digits]

theorem isNumberText_signedDigits (n : Int) : IsNumberText (signedDigits n) := by
  unfold signedDigits
  split
  · exact ⟨['-'], digits n.natAbs, [], [], ⟨.inr rfl, isWhole_digits _, .none, .none⟩, by simp⟩
  · exact ⟨[], digits n.natAbs, [], [], ⟨.inl rfl, isWhole_digits _, .none, .none⟩, by simp⟩

theorem outcome_readNumber_signedDigits {n : Int} (bounded : n.natAbs < integerBound)
    {rest : List Char} (stops : Stops rest) :
    outcome (readNumber (signedDigits n ++ rest)) = .ok (.int n, rest) := by
  have read (sign : List Char) (signed : sign = [] ∨ sign = ['-']) :
      outcome (readNumber (sign ++ (digits n.natAbs ++ rest))) =
        .ok (.int (Decimal.signed (!sign.isEmpty) n.natAbs), rest) := by
    have number : IsNumber sign (digits n.natAbs) [] [] := ⟨signed, isWhole_digits _, .none, .none⟩
    have := number.outcome_readNumber stops
    rw [List.append_nil, numberOf_digits _ bounded] at this
    exact this
  unfold signedDigits
  by_cases negative : n < 0
  · have same : Decimal.signed true n.natAbs = n := by change -(n.natAbs : Int) = n; omega
    have minus := read ['-'] (.inr rfl)
    rw [List.isEmpty_cons, Bool.not_false, same] at minus
    rw [if_pos negative]
    exact minus
  · have same : Decimal.signed false n.natAbs = n := by change (n.natAbs : Int) = n; omega
    have plain := read [] (.inl rfl)
    rw [List.isEmpty_nil, Bool.not_true, same] at plain
    rw [if_neg negative]
    exact plain

/-! ## Floating-point numbers -/

def IsFloat (text : List Char) : Prop :=
  ∃ whole fraction exponent, IsNumber [] whole fraction exponent ∧
    fraction ++ exponent ≠ [] ∧ text = whole ++ (fraction ++ exponent)

theorem IsFloat.of_point {whole exponent : List Char} (places : List Char) (h : IsWhole whole)
    (nonempty : places ≠ []) (digital : IsDigits places) (power : IsExponent exponent) :
    IsFloat (whole ++ '.' :: (places ++ exponent)) :=
  ⟨whole, '.' :: places, exponent, ⟨.inl rfl, h, .places nonempty digital, power⟩, by simp, rfl⟩

theorem isDigits_zeros (n : Nat) : IsDigits (zeros n) := fun _ => isAsciiDigit_of_mem_zeros

theorem IsDigits.append {xs ys : List Char} (left : IsDigits xs) (right : IsDigits ys) :
    IsDigits (xs ++ ys) := fun c mem => (List.mem_append.mp mem).elim (left c) (right c)

theorem isFloat_split (n : Nat) {place : Nat} (positive : 0 < place) (inside : place < digitCount n)
    {exponent : List Char} (power : IsExponent exponent) :
    IsFloat ((digits n).take place ++ '.' :: ((digits n).drop place ++ exponent)) := by
  have long : 1 < (digits n).length := Nat.lt_of_le_of_lt positive inside
  have nonzero : 0 < n := Nat.pos_of_ne_zero fun zero => by simp [zero, digits] at long
  have whole : IsWhole ((digits n).take place) := by
    refine isWhole_of_head? ?_ (fun c mem => isDigits_digits n c (List.mem_of_mem_take mem)) ?_
    · simp [Nat.ne_of_gt positive, digits_ne_nil]
    · rw [List.head?_take, if_neg (Nat.ne_of_gt positive)]
      exact head?_digits nonzero
  have behind : (digits n).drop place ≠ [] := fun none =>
    absurd (List.drop_eq_nil_iff.mp none) (Nat.not_le.mpr inside)
  exact .of_point _ whole behind
    (fun c mem => isDigits_digits n c (List.mem_of_mem_drop mem)) power

theorem isFloat_digitsText {n : Nat} {place : Int} (zero : n = 0 → place = 1) :
    IsFloat (Binary64.digitsText (digits n) place) := by
  have counted : 0 < (digits n).length := List.length_pos_iff.mpr (digits_ne_nil n)
  have inside (k : Nat) (more : k < (digits n).length) : k < digitCount n := more
  unfold Binary64.digitsText
  by_cases plain : Binary64.isPlain place = true
  · rw [if_pos plain, Decimal.pointed]
    by_cases left : place ≤ 0
    -- The point stands in front of all digits, behind all of them, or between two.
    · have float := IsFloat.of_point (zeros (-place).toNat ++ digits n) (isWhole_digits 0)
        (by simp [digits_ne_nil]) ((isDigits_zeros _).append (isDigits_digits n)) .none
      rw [if_pos left, if_neg (by omega), List.append_nil]
      rwa [List.append_nil] at float
    rw [if_neg left]
    by_cases right : (digits n).length ≤ place
    · have whole : IsWhole (digits n ++ zeros (place - (digits n).length).toNat) := by
        by_cases some : n = 0
        · rw [some, zero some]
          exact isWhole_digits 0
        · refine isWhole_of_head? (by simp [digits_ne_nil])
            ((isDigits_digits n).append (isDigits_zeros _)) ?_
          have leading := head?_digits (Nat.pos_of_ne_zero some)
          obtain ⟨c, others, shown⟩ := List.exists_cons_of_ne_nil (digits_ne_nil n)
          rw [shown] at leading ⊢
          exact leading
      rw [if_pos right, if_pos right]
      exact .of_point ['0'] whole (by decide) (by unfold IsDigits; decide) .none
    · have float := isFloat_split n (by omega)
        (inside place.toNat (by omega)) .none
      rw [if_neg right, if_neg right, List.append_nil]
      rwa [List.append_nil] at float
  -- With a power, the point stands behind the first digit.
  · rw [if_neg plain]
    have power : IsExponent ('e' :: (if place - 1 < 0 then '-' else '+') ::
        paddedDigits 2 (place - 1).natAbs) := by
      refine .power ?_ (by simp [paddedDigits, digits_ne_nil])
        ((isDigits_zeros _).append (isDigits_digits _))
      split <;> simp
    by_cases single : (digits n).length = 1
    · rw [if_pos single]
      exact ⟨digits n, [], _, ⟨.inl rfl, isWhole_digits n, .none, power⟩, by simp, rfl⟩
    · rw [if_neg single, Decimal.pointed, if_neg (by decide), if_neg (by omega),
        List.append_assoc]
      exact isFloat_split n Nat.one_pos (inside 1 (by omega)) power

theorem text_finite (negative : Bool) (mantissa : Nat) (exponent : Int) :
    ∃ body, IsFloat body ∧ (Binary64.finite negative mantissa exponent).text.toList =
      Decimal.withSign negative body := by
  rw [Binary64.text, String.toList_ofList]
  refine ⟨_, ?_, rfl⟩
  by_cases zero : mantissa = 0
  · rw [if_pos zero]
    exact isFloat_digitsText fun _ => rfl
  · rw [if_neg zero]
    exact isFloat_digitsText fun none => absurd none (Binary64.shortest_ne_zero zero exponent)

def ofNumber (text : List Char) : Json :=
  let (sign, whole, tail) := numberParts text
  (numberOf (!sign.isEmpty) whole tail).toOption.getD .null

theorem numberOf_float (negative : Bool) (whole : List Char) {tail : List Char}
    (float : tail ≠ []) : ∃ j, numberOf negative whole tail = .ok j := by
  rw [numberOf, if_neg (by simpa using float)]
  cases Decimal.readUnbounded? negative (whole ++ tail) with
  | none => exact ⟨_, rfl⟩
  | some => exact ⟨_, rfl⟩

theorem IsFloat.withSign {body : List Char} (h : IsFloat body) (negative : Bool) :
    ∃ sign whole fraction exponent, IsNumber sign whole fraction exponent ∧
      fraction ++ exponent ≠ [] ∧
      Decimal.withSign negative body = sign ++ (whole ++ (fraction ++ exponent)) := by
  obtain ⟨whole, fraction, exponent, number, float, rfl⟩ := h
  cases negative with
  | false => exact ⟨[], whole, fraction, exponent, number, float, rfl⟩
  | true => exact ⟨['-'], whole, fraction, exponent, { number with sign := .inr rfl }, float, rfl⟩

theorem IsFloat.isNumberText {body : List Char} (h : IsFloat body) (negative : Bool) :
    IsNumberText (Decimal.withSign negative body) := by
  obtain ⟨sign, whole, fraction, exponent, number, -, text⟩ := h.withSign negative
  exact ⟨sign, whole, fraction, exponent, number, text⟩

theorem IsFloat.outcome_readNumber {body rest : List Char} (h : IsFloat body) (negative : Bool)
    (stops : Stops rest) :
    outcome (readNumber (Decimal.withSign negative body ++ rest)) =
      .ok (ofNumber (Decimal.withSign negative body), rest) := by
  obtain ⟨sign, whole, fraction, exponent, number, float, text⟩ := h.withSign negative
  obtain ⟨j, read⟩ := numberOf_float (!sign.isEmpty) whole float
  have alone := number.numberParts_eq (by simp [Stops] : Stops [])
  rw [List.append_nil] at alone
  rw [text, ofNumber, alone]
  dsimp only
  rw [List.append_assoc, List.append_assoc, List.append_assoc, number.outcome_readNumber stops,
    read]
  rfl

end Json

end RecordFilter
