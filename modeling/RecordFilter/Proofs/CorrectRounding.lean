import Mathlib.Data.Int.Log
import Mathlib.Data.Nat.Cast.Field
import Mathlib.Data.Rat.Floor
import Mathlib.Tactic.FieldSimp
import RecordFilter.Proofs.DecimalValue

/-!
# Arithmetic is rounded correctly

Sums, differences, products and quotients of decimal numbers are those of the rational numbers that
they denote, rounded once: to the nearest number that ends at the last place kept, and to the even
one of two that are equally near.  In particular a result depends on the values of the operands
only, not on the digits and exponents they are written with, and a number that can be kept as it is
is not changed.

What is computed is not always the exact result.  A summand far behind the digits of the other one
is replaced by a speck, and a quotient is cut off.  Both stay strictly between the same two
neighbours on a grid that is fine enough, and rounding cannot tell numbers apart there.
-/

namespace RecordFilter

open Number

namespace Decimal

/-! ## Rounding to whole numbers -/

def halfEven (x : ℚ) : ℤ :=
  if 1 < 2 * Int.fract x ∨ (2 * Int.fract x = 1 ∧ ¬ Even ⌊x⌋) then ⌊x⌋ + 1 else ⌊x⌋

theorem halfEven_intCast (n : ℤ) : halfEven n = n := by
  simp [halfEven]

theorem halfEven_of_cell {x : ℚ} {k : ℤ} (below : k < 2 * x) (above : 2 * x < k + 1) :
    halfEven x = (k + 1) / 2 := by
  rcases Int.even_or_odd' k with ⟨n, rfl | rfl⟩
  · push_cast at below above
    have floor : ⌊x⌋ = n := Int.floor_eq_iff.mpr ⟨by linarith, by linarith⟩
    have low : 2 * Int.fract x < 1 := by
      rw [Int.fract, floor]
      linarith
    rw [halfEven, if_neg (by rintro (high | ⟨tie, -⟩) <;> linarith), floor]
    omega
  · push_cast at below above
    have floor : ⌊x⌋ = n := Int.floor_eq_iff.mpr ⟨by linarith, by linarith⟩
    have high : 1 < 2 * Int.fract x := by
      rw [Int.fract, floor]
      linarith
    rw [halfEven, if_pos (.inl high), floor]
    omega

theorem divideHalfEven_eq (n : ℕ) {d : ℕ} (positive : 0 < d) :
    (divideHalfEven n d : ℤ) = halfEven (n / d) := by
  have scale : (0 : ℚ) < d := by exact_mod_cast positive
  have floor : ⌊(n / d : ℚ)⌋ = (n / d : ℕ) := by
    rw [Rat.floor_natCast_div_natCast]
    rfl
  have fract : 2 * Int.fract (n / d : ℚ) = (2 * (n % d) : ℕ) / d := by
    rw [Int.fract_div_natCast_eq_div_natCast_mod]
    push_cast
    ring
  have above : 1 < 2 * Int.fract (n / d : ℚ) ↔ d < 2 * (n % d) := by
    rw [fract, one_lt_div scale, Nat.cast_lt]
  have tie : 2 * Int.fract (n / d : ℚ) = 1 ↔ 2 * (n % d) = d := by
    rw [fract, div_eq_one_iff_eq scale.ne', Nat.cast_inj]
  have odd : ¬ Even ((n / d : ℕ) : ℤ) ↔ n / d % 2 = 1 := by
    rw [Int.even_coe_nat, Nat.even_iff]
    omega
  simp only [halfEven, divideHalfEven, floor, above, tie, odd, gt_iff_lt, Bool.or_eq_true,
    decide_eq_true_eq, Bool.and_eq_true, beq_iff_eq]
  split_ifs <;> simp

theorem dropDigits_eq (coefficient places : ℕ) :
    (dropDigits coefficient places : ℤ) = halfEven (coefficient / 10 ^ places) := by
  have power : 0 < powerOfTen places := Nat.pow_pos (by decide)
  have cast : ((powerOfTen places : ℕ) : ℚ) = 10 ^ places := by simp [powerOfTen]
  rw [← cast, ← divideHalfEven_eq _ power, dropDigits]
  split_ifs with short
  · -- Not even half a unit of the last place is left.
    have small : coefficient < 10 ^ (places - 1) := by
      have bound := (digitCount_le_iff (n := coefficient) (k := places - 1) (by
        have : 0 < digitCount coefficient := Nat.length_toDigits_pos
        omega)).mp (by omega)
      exact bound
    have split : powerOfTen places = 10 * 10 ^ (places - 1) := by
      rw [powerOfTen, Nat.pow_eq, ← Nat.pow_succ']
      congr 1
      omega
    have none : coefficient / powerOfTen places = 0 := Nat.div_eq_of_lt (by omega)
    have whole : coefficient % powerOfTen places = coefficient := Nat.mod_eq_of_lt (by omega)
    simp [divideHalfEven, none, whole]
    omega
  · rfl

/-! ## Rounding to the digits that are kept -/

def lastPlace (x : ℚ) : ℤ := max (Int.log 10 x + 1 - precision) leastExponent

def nearest (x : ℚ) : ℚ := halfEven (x / 10 ^ lastPlace x) * 10 ^ lastPlace x

def rounded? (q : ℚ) : Option ℚ :=
  if 10 ^ (maxExponent + 1) ≤ nearest |q| then none
  else some (if q < 0 then -nearest |q| else nearest |q|)

theorem log_magnitude {d : Decimal} (nonzero : d.isZero = false) :
    Int.log 10 d.magnitude = d.leading := by
  obtain ⟨below, above⟩ := magnitude_bounds nonzero
  have positive := magnitude_pos nonzero
  refine le_antisymm ?_ ?_
  · have := (Int.lt_zpow_iff_log_lt (b := 10) (by norm_num) positive).mp (by exact_mod_cast above)
    omega
  · exact (Int.zpow_le_iff_le_log (b := 10) (by norm_num) positive).mp (by exact_mod_cast below)

theorem lastPlace_magnitude {d : Decimal} (nonzero : d.isZero = false) :
    lastPlace d.magnitude = d.roundedExponent := by
  rw [lastPlace, log_magnitude nonzero, leading, roundedExponent]
  congr 1
  omega

@[simp] theorem nearest_zero : nearest 0 = 0 := by
  have zero : halfEven 0 = 0 := by simpa using halfEven_intCast 0
  simp [nearest, zero]

theorem nearest_of_short {d : Decimal} (nonzero : d.isZero = false)
    (short : d.roundedExponent ≤ d.exponent) : nearest d.magnitude = d.magnitude := by
  have scale : (10 : ℚ) ^ d.roundedExponent ≠ 0 := by positivity
  rw [nearest, lastPlace_magnitude nonzero, magnitude_coefficientAt short,
    mul_div_cancel_right₀ _ scale]
  have whole := halfEven_intCast (d.coefficientAt d.roundedExponent)
  rw [Int.cast_natCast] at whole
  rw [whole, Int.cast_natCast]

def keptDigits (d : Decimal) : Nat :=
  dropDigits d.coefficient (d.roundedExponent - d.exponent).toNat

theorem nearest_of_long {d : Decimal} (nonzero : d.isZero = false)
    (long : d.exponent < d.roundedExponent) :
    nearest d.magnitude = d.keptDigits * 10 ^ d.roundedExponent := by
  obtain ⟨places, rest⟩ := Int.eq_ofNat_of_zero_le (Int.sub_nonneg_of_le long.le)
  have split : d.roundedExponent = places + d.exponent := by omega
  have quotient : d.magnitude / 10 ^ d.roundedExponent = d.coefficient / 10 ^ places := by
    rw [magnitude, split, zpow_add₀ (by norm_num), zpow_natCast]
    field_simp
  have dropped := dropDigits_eq d.coefficient places
  rw [nearest, lastPlace_magnitude nonzero, quotient, ← dropped, keptDigits, rest,
    Int.toNat_natCast, Int.cast_natCast]

theorem divideHalfEven_bounds (n d : ℕ) :
    n / d ≤ divideHalfEven n d ∧ divideHalfEven n d ≤ n / d + 1 := by
  unfold divideHalfEven
  dsimp only
  split_ifs <;> omega

theorem keptDigits_le (d : Decimal) : d.keptDigits ≤ 10 ^ precision := by
  have above : d.coefficient < 10 ^ digitCount d.coefficient :=
    (digitCount_le_iff Nat.length_toDigits_pos).mp (Nat.le_refl _)
  unfold keptDigits dropDigits
  split_ifs
  · exact Nat.zero_le _
  · generalize same : (d.roundedExponent - d.exponent).toNat = places
    have enough : digitCount d.coefficient ≤ precision + places := by
      unfold roundedExponent at same
      omega
    have bound : d.coefficient < 10 ^ precision * 10 ^ places := by
      rw [← Nat.pow_add]
      exact above.trans_le (Nat.pow_le_pow_right (by decide) enough)
    have quotient : d.coefficient / powerOfTen places < 10 ^ precision :=
      Nat.div_lt_of_lt_mul (by rwa [mul_comm] at bound)
    have := (divideHalfEven_bounds d.coefficient (powerOfTen places)).2
    omega

theorem keptDigits_pos {d : Decimal}
    (long : d.exponent < d.roundedExponent) (normal : d.roundedExponent ≠ leastExponent) :
    0 < d.keptDigits := by
  have positive : 0 < digitCount d.coefficient := Nat.length_toDigits_pos
  have place : d.roundedExponent = d.exponent + digitCount d.coefficient - precision := by
    unfold roundedExponent at normal ⊢
    omega
  generalize same : (d.roundedExponent - d.exponent).toNat = places
  have count : digitCount d.coefficient = places + precision := by omega
  have big : 10 ^ places ≤ d.coefficient := by
    by_contra small
    have := (digitCount_le_iff (n := d.coefficient) (k := places) (by omega)).mpr (by omega)
    simp [precision] at count
    omega
  have quotient : 0 < d.coefficient / powerOfTen places :=
    Nat.div_pos big (Nat.pow_pos (by decide))
  have := (divideHalfEven_bounds d.coefficient (powerOfTen places)).1
  rw [keptDigits, same, dropDigits, if_neg (by omega)]
  omega

theorem leading_gt_iff {d : Decimal} (small : d.isZero = true → d.exponent ≤ maxExponent) :
    maxExponent < d.leading ↔ (10 : ℚ) ^ (maxExponent + 1) ≤ d.magnitude := by
  cases zero : d.isZero with
  | true =>
      have none : d.coefficient = 0 := by simpa [isZero] using zero
      have single : digitCount 0 = 1 := rfl
      have low := small zero
      refine iff_of_false ?_ ?_
      · rw [leading, none, single]
        omega
      · rw [magnitude_zero zero, not_le]
        positivity
  | false =>
      have place := Int.zpow_le_iff_le_log (b := 10) (x := maxExponent + 1) (by norm_num)
        (magnitude_pos zero)
      rw [log_magnitude zero, Nat.cast_ofNat] at place
      rw [place]
      omega

theorem round?_eq {d : Decimal} (nonzero : d.isZero = false) :
    ∃ r : Decimal, d.round? = (if maxExponent < r.leading then none else some r) ∧
      r.negative = d.negative ∧ r.magnitude = nearest d.magnitude ∧
      (r.isZero = true → r.exponent ≤ maxExponent) := by
  by_cases long : d.exponent < d.roundedExponent
  · rw [nearest_of_long nonzero long]
    by_cases carried : precision < digitCount d.keptDigits
    · -- All digits were nines, so that a one and zeros are left.
      have power : d.keptDigits = 10 ^ precision := by
        refine le_antisymm d.keptDigits_le ?_
        by_contra small
        have := (digitCount_le_iff (n := d.keptDigits) (k := precision) (by decide)).mpr (by omega)
        omega
      refine ⟨⟨d.negative, d.keptDigits / 10, d.roundedExponent + 1⟩, ?_, rfl, ?_, ?_⟩
      · rw [round?, nonzero, if_neg Bool.false_ne_true]
        dsimp only
        rw [if_pos long, ← keptDigits, if_pos carried]
      · have tenth : d.keptDigits = d.keptDigits / 10 * 10 := by
          rw [power]
          decide
        rw [magnitude, zpow_add_one₀ (by norm_num)]
        nth_rewrite 2 [tenth]
        push_cast
        ring
      · intro zero
        have none : d.keptDigits / 10 = 0 := by simpa only [isZero, beq_iff_eq] using zero
        rw [power] at none
        exact absurd none (by decide)
    · refine ⟨⟨d.negative, d.keptDigits, d.roundedExponent⟩, ?_, rfl, rfl, ?_⟩
      · rw [round?, nonzero, if_neg Bool.false_ne_true]
        dsimp only
        rw [if_pos long, ← keptDigits, if_neg carried]
      · intro zero
        have none : d.keptDigits = 0 := by simpa [isZero] using zero
        by_cases normal : d.roundedExponent = leastExponent
        · simp [normal, leastExponent, maxExponent, precision]
        · have := keptDigits_pos long normal
          omega
  · refine ⟨d, ?_, rfl, (nearest_of_short nonzero (by omega)).symm, by simp [nonzero]⟩
    rw [round?, nonzero, if_neg Bool.false_ne_true]
    dsimp only
    rw [if_neg long]

theorem abs_toRat (d : Decimal) : |d.toRat| = d.magnitude := by
  have positive : 0 ≤ d.magnitude := by
    unfold magnitude
    positivity
  unfold toRat
  split_ifs
  · rw [abs_neg, abs_of_nonneg positive]
  · exact abs_of_nonneg positive

theorem toRat_round? (d : Decimal) : d.round?.map toRat = rounded? d.toRat := by
  cases zero : d.isZero with
  | true =>
      obtain ⟨r, result, none⟩ := round?_of_isZero zero
      have finite : ¬ (10 : ℚ) ^ (maxExponent + 1) ≤ 0 := by
        rw [not_le]
        positivity
      rw [result, toRat_of_isZero zero, Option.map_some, toRat_of_isZero none, rounded?, abs_zero,
        nearest_zero, if_neg finite, if_neg (lt_irrefl 0)]
  | false =>
      obtain ⟨r, result, sign, size, small⟩ := round?_eq zero
      have negative : d.toRat < 0 ↔ d.negative = true := by
        cases sign : d.negative with
        | true => simpa using toRat_neg zero sign
        | false => simpa using (toRat_pos zero sign).le
      rw [result, rounded?, abs_toRat, ← size]
      simp only [leading_gt_iff small, negative]
      split_ifs with large minus
      · rfl
      · rw [Option.map_some, toRat, sign, if_pos minus]
      · rw [Option.map_some, toRat, sign, if_neg minus]

theorem rounded?_neg (q : ℚ) : rounded? (-q) = (rounded? q).map (- ·) := by
  unfold rounded?
  rw [abs_neg]
  rcases lt_trichotomy q 0 with less | rfl | greater
  · rw [if_neg (show ¬ -q < 0 by linarith), if_pos less]
    split_ifs <;> simp
  · simp
    split_ifs <;> simp
  · rw [if_pos (show -q < 0 by linarith), if_neg (show ¬ q < 0 by linarith)]
    split_ifs <;> simp

/-! ## What rounding cannot tell apart -/

theorem zpow_eq_grid {place power : ℤ} (above : place < power) :
    ∃ n : ℕ, 0 < n ∧ (10 : ℚ) ^ power = 2 * n * (5 * 10 ^ place) := by
  obtain ⟨n, rest⟩ := Int.eq_ofNat_of_zero_le (show 0 ≤ power - place - 1 by omega)
  have split : power = n + (place + 1) := by omega
  refine ⟨10 ^ n, by positivity, ?_⟩
  rw [split, zpow_add₀ (by norm_num), zpow_add_one₀ (by norm_num), zpow_natCast]
  push_cast
  ring

/-- The numbers strictly between two neighbours on the grid of fives at a place. -/
def InCell (place cell : ℤ) (x : ℚ) : Prop :=
  cell * (5 * 10 ^ place) < x ∧ x < (cell + 1) * (5 * 10 ^ place)

theorem log_le_of_cell {x y : ℚ} {place cell : ℤ} (positive : 0 < cell) (hx : InCell place cell x)
    (hy : InCell place cell y) : Int.log 10 x ≤ Int.log 10 y := by
  have scale : (0 : ℚ) < 5 * 10 ^ place := by positivity
  have first : (1 : ℚ) ≤ cell := by exact_mod_cast positive
  have xPositive : 0 < x := by nlinarith [hx.1]
  have yPositive : 0 < y := by nlinarith [hy.1]
  have leading : (10 : ℚ) ^ Int.log 10 x ≤ x := by
    exact_mod_cast Int.zpow_log_le_self (b := 10) (by norm_num) xPositive
  suffices reached : (10 : ℚ) ^ Int.log 10 x ≤ cell * (5 * 10 ^ place) by
    exact (Int.zpow_le_iff_le_log (b := 10) (by norm_num) yPositive).mp
      (by exact_mod_cast reached.trans hy.1.le)
  by_cases above : place < Int.log 10 x
  · obtain ⟨n, -, point⟩ := zpow_eq_grid above
    rw [point] at leading ⊢
    have fewer : (2 * n : ℚ) < cell + 1 := lt_of_mul_lt_mul_right (leading.trans_lt hx.2) scale.le
    have whole : 2 * (n : ℤ) < cell + 1 := by exact_mod_cast fewer
    have : (2 * n : ℚ) ≤ cell := by exact_mod_cast Int.lt_add_one_iff.mp whole
    gcongr
  · have : (10 : ℚ) ^ Int.log 10 x ≤ 10 ^ place :=
      zpow_le_zpow_right₀ (by norm_num) (by omega)
    nlinarith

theorem nearest_of_cell {x y : ℚ} {place cell : ℤ} (positive : 0 < cell)
    (hx : InCell place cell x) (hy : InCell place cell y) (room : place < lastPlace x) :
    nearest x = nearest y := by
  have scale : (0 : ℚ) < 5 * 10 ^ place := by positivity
  have same : lastPlace x = lastPlace y := by
    rw [lastPlace, lastPlace,
      le_antisymm (log_le_of_cell positive hx hy) (log_le_of_cell positive hy hx)]
  obtain ⟨n, some, unit⟩ := zpow_eq_grid room
  have count : (0 : ℚ) < n := by exact_mod_cast some
  have low : (cell / n : ℤ) * (n : ℤ) ≤ cell := Int.ediv_mul_le _ (by omega)
  have high : cell + 1 ≤ (cell / n + 1 : ℤ) * (n : ℤ) := Int.lt_ediv_add_one_mul_self _ (by omega)
  have halves {z : ℚ} (hz : InCell place cell z) :
      halfEven (z / 10 ^ lastPlace x) = (cell / n + 1) / 2 := by
    have double : 2 * (z / 10 ^ lastPlace x) = z / (n * (5 * 10 ^ place)) := by
      rw [unit]
      field_simp
    refine halfEven_of_cell ?_ ?_
    · rw [double, lt_div_iff₀ (by positivity), ← mul_assoc]
      refine lt_of_le_of_lt ?_ hz.1
      gcongr
      exact_mod_cast low
    · rw [double, div_lt_iff₀ (by positivity), ← mul_assoc]
      refine hz.2.trans_le ?_
      gcongr
      exact_mod_cast high
  rw [nearest, nearest, ← same, halves hx, halves hy]

theorem rounded?_of_cell {x y : ℚ} {place cell : ℤ} (positive : 0 < cell)
    (hx : InCell place cell x) (hy : InCell place cell y) (room : place < lastPlace x) :
    rounded? x = rounded? y := by
  have scale : (0 : ℚ) < 5 * 10 ^ place := by positivity
  have first : (1 : ℚ) ≤ cell := by exact_mod_cast positive
  have xPositive : 0 < x := by nlinarith [hx.1]
  have yPositive : 0 < y := by nlinarith [hy.1]
  rw [rounded?, rounded?, abs_of_pos xPositive, abs_of_pos yPositive, if_neg xPositive.not_gt,
    if_neg yPositive.not_gt, nearest_of_cell positive hx hy room]

theorem lt_lastPlace {x : ℚ} {place : ℤ} (large : (10 : ℚ) ^ (place + precision) ≤ x) :
    place < lastPlace x := by
  have positive : 0 < x := lt_of_lt_of_le (by positivity) large
  have leading := (Int.zpow_le_iff_le_log (b := 10) (x := place + precision) (by norm_num)
    positive).mp (by exact_mod_cast large)
  rw [lastPlace]
  omega

/-! ## Sums -/

theorem toRat_signedAt {d : Decimal} {exponent : ℤ} (below : exponent ≤ d.exponent) :
    d.toRat = d.signedAt exponent * 10 ^ exponent := by
  rw [toRat, magnitude_coefficientAt below, signedAt, signed]
  split_ifs <;> simp

theorem toRat_addAligned (a b : Decimal) : (addAligned a b).toRat = a.toRat + b.toRat := by
  rw [toRat_signedAt (min_le_left a.exponent b.exponent),
    toRat_signedAt (min_le_right a.exponent b.exponent), ← add_mul, ← Int.cast_add, addAligned]
  generalize a.signedAt (min a.exponent b.exponent) + b.signedAt (min a.exponent b.exponent) = sum
  rw [toRat, magnitude]
  rcases lt_trichotomy sum 0 with less | rfl | greater
  · have size : ((sum.natAbs : ℕ) : ℚ) = -sum := by
      rw [Nat.cast_natAbs, abs_of_neg less, Int.cast_neg]
    simp [less.ne, less, size]
  · simp
  · have size : ((sum.natAbs : ℕ) : ℚ) = sum := by rw [Nat.cast_natAbs, abs_of_pos greater]
    simp [greater.ne', greater.not_gt, size]

@[simp] theorem toRat_opposite (d : Decimal) : d.opposite.toRat = -d.toRat := by
  cases sign : d.negative <;> simp [toRat, opposite, magnitude, sign]

theorem toRat_stickyZero {large zeroSummand : Decimal} (zero : zeroSummand.isZero = true) :
    (stickyZero large zeroSummand).toRat = 0 :=
  toRat_of_isZero zero

/-- Far behind the digits of a positive number, what is added to it counts by its sign only. -/
theorem rounded?_add_sign {large x y : ℚ} {place cell : ℤ} (several : 1 < cell)
    (grid : large = cell * (5 * 10 ^ place)) (high : (10 : ℚ) ^ (place + precision + 1) ≤ large)
    (smallX : |x| ≤ 10 ^ place) (smallY : |y| ≤ 10 ^ place)
    (signs : 0 < x ∧ 0 < y ∨ x < 0 ∧ y < 0) :
    rounded? (large + x) = rounded? (large + y) := by
  have scale : (0 : ℚ) < 10 ^ place := by positivity
  have room : place < lastPlace (large + x) := by
    have split : (10 : ℚ) ^ (place + precision) = 10 ^ precision * 10 ^ place := by
      rw [add_comm, zpow_add₀ (by norm_num), zpow_natCast]
    rw [zpow_add_one₀ (by norm_num), split] at high
    refine lt_lastPlace ?_
    rw [split]
    norm_num [precision] at high ⊢
    linarith [(abs_le.mp smallX).1]
  rcases signs with ⟨plusX, plusY⟩ | ⟨minusX, minusY⟩
  · have inside {z : ℚ} (plus : 0 < z) (small : |z| ≤ 10 ^ place) :
        InCell place cell (large + z) := by
      rw [grid]
      constructor <;> linarith [le_of_abs_le small]
    exact rounded?_of_cell (by omega) (inside plusX smallX) (inside plusY smallY) room
  · have inside {z : ℚ} (minus : z < 0) (small : |z| ≤ 10 ^ place) :
        InCell place (cell - 1) (large + z) := by
      rw [grid]
      constructor <;> push_cast <;> linarith [neg_le_of_abs_le small]
    exact rounded?_of_cell (by omega) (inside minusX smallX) (inside minusY smallY) room

theorem magnitude_eq_grid {d : Decimal} (nonzero : d.isZero = false) {place : ℤ}
    (above : place < d.exponent) :
    ∃ cell : ℤ, 1 < cell ∧ d.magnitude = cell * (5 * 10 ^ place) := by
  obtain ⟨n, some, point⟩ := zpow_eq_grid above
  have positive : 0 < d.coefficient := by simpa [isZero, Nat.pos_iff_ne_zero] using nonzero
  refine ⟨(d.coefficient * (2 * n) : ℕ), ?_, ?_⟩
  · have := Nat.mul_pos positive some
    push_cast
    nlinarith
  · rw [magnitude, point]
    push_cast
    ring

theorem pos_or_neg_of_negative {d e : Decimal} (nonzeroD : d.isZero = false)
    (nonzeroE : e.isZero = false) (same : d.negative = e.negative) :
    0 < d.toRat ∧ 0 < e.toRat ∨ d.toRat < 0 ∧ e.toRat < 0 := by
  cases minus : e.negative with
  | false => exact .inl ⟨toRat_pos nonzeroD (same.trans minus), toRat_pos nonzeroE minus⟩
  | true => exact .inr ⟨toRat_neg nonzeroD (same.trans minus), toRat_neg nonzeroE minus⟩

/-- The speck that replaces a summand is not told apart from it. -/
theorem rounded?_sticky {large small : Decimal} (nonzeroLarge : large.isZero = false)
    (nonzeroSmall : small.isZero = false) :
    rounded? (large.toRat + (sticky large small).toRat) = rounded? (large.toRat + small.toRat) := by
  unfold sticky
  generalize same :
    large.exponent + min (-1) ((digitCount large.coefficient : Int) - precision - 2) = place
  dsimp only
  split_ifs with tiny
  · generalize unit : Decimal.mk small.negative 1 place = speck
    have size : |speck.toRat| ≤ 10 ^ place := by
      rw [abs_toRat, ← unit]
      simp [magnitude]
    have limit : |small.toRat| ≤ 10 ^ place := by
      rw [abs_toRat]
      exact (magnitude_bounds nonzeroSmall).2.le.trans
        (zpow_le_zpow_right₀ (by norm_num) (by omega))
    have signs := pos_or_neg_of_negative (d := speck) (by simp [← unit, isZero]) nonzeroSmall
      (by rw [← unit])
    have high : (10 : ℚ) ^ (place + precision + 1) ≤ large.magnitude :=
      (zpow_le_zpow_right₀ (by norm_num) (by rw [leading]; omega)).trans
        (magnitude_bounds nonzeroLarge).1
    obtain ⟨cell, several, grid⟩ :=
      magnitude_eq_grid nonzeroLarge (show place < large.exponent by omega)
    cases minus : large.negative with
    | false =>
        rw [toRat, minus, if_neg Bool.false_ne_true]
        exact rounded?_add_sign several grid high size limit signs
    | true =>
        have mirrored := rounded?_add_sign (x := -speck.toRat) (y := -small.toRat) several grid high
          (by rwa [abs_neg]) (by rwa [abs_neg]) (by simpa [or_comm] using signs)
        have turn (x : ℚ) : -large.magnitude + x = -(large.magnitude + -x) := by ring
        rw [toRat, minus, if_pos rfl, turn, turn, rounded?_neg, rounded?_neg, mirrored]
  · rfl

/-- Addition is rounded correctly. -/
theorem toRat_add? (a b : Decimal) : (a.add? b).map toRat = rounded? (a.toRat + b.toRat) := by
  rw [add?, toRat_round?]
  cases zeroA : a.isZero <;> cases zeroB : b.isZero
  · simp only [Bool.and_self, Bool.false_eq_true, if_false]
    split_ifs
    · rw [toRat_addAligned, add_comm, rounded?_sticky zeroB zeroA, add_comm]
    · rw [toRat_addAligned, rounded?_sticky zeroA zeroB]
  · simp [toRat_addAligned, toRat_stickyZero zeroB, toRat_of_isZero zeroB]
  · simp [toRat_addAligned, toRat_stickyZero zeroA, toRat_of_isZero zeroA]
  · simp [toRat_addAligned]

theorem toRat_subtract? (a b : Decimal) :
    (a.subtract? b).map toRat = rounded? (a.toRat - b.toRat) := by
  rw [subtract?, toRat_add?, toRat_opposite, sub_eq_add_neg]

theorem toRat_negate? (d : Decimal) : d.negate?.map toRat = rounded? (-d.toRat) := by
  unfold negate?
  split_ifs with zero
  · rw [toRat_round?, toRat_of_isZero zero, neg_zero, toRat_of_isZero]
    exact zero
  · rw [toRat_round?, toRat_opposite]

/-! ## Products and quotients -/

theorem toRat_multiply? (a b : Decimal) :
    (a.multiply? b).map toRat = rounded? (a.toRat * b.toRat) := by
  rw [multiply?, toRat_round?]
  congr 1
  have size : (a.coefficient * b.coefficient : ℚ) * 10 ^ (a.exponent + b.exponent) =
      a.coefficient * 10 ^ a.exponent * (b.coefficient * 10 ^ b.exponent) := by
    rw [zpow_add₀ (by norm_num)]
    ring
  cases signA : a.negative <;> cases signB : b.negative <;>
    simp [toRat, signA, signB, magnitude, size]

theorem toRat_div (a b : Decimal) :
    a.toRat / b.toRat =
      if a.negative != b.negative then -(a.magnitude / b.magnitude)
      else a.magnitude / b.magnitude := by
  cases signA : a.negative <;> cases signB : b.negative <;>
    simp [toRat, signA, signB, neg_div, div_neg]

theorem rounded?_signed {x y : ℚ} (same : rounded? x = rounded? y) (negative : Bool) :
    rounded? (if negative then -x else x) = rounded? (if negative then -y else y) := by
  cases negative with
  | false => exact same
  | true => simp [rounded?_neg, same]

theorem shortenTo_value (fuel : ℕ) (wanted exponent : ℤ) (coefficient : ℕ) :
    ((shortenTo fuel wanted exponent coefficient).1 : ℚ) *
      10 ^ (shortenTo fuel wanted exponent coefficient).2 = coefficient * 10 ^ exponent := by
  induction fuel generalizing exponent coefficient with
  | zero => rfl
  | succ fuel ih =>
      rw [shortenTo]
      split_ifs with zero
      · rw [Bool.and_eq_true, beq_iff_eq] at zero
        have tenth : coefficient = coefficient / 10 * 10 := by omega
        rw [ih, zpow_add_one₀ (by norm_num)]
        nth_rewrite 2 [tenth]
        push_cast
        ring
      · rfl

theorem powerOfTen_div (shift : ℤ) :
    (powerOfTen shift.toNat : ℚ) / powerOfTen (-shift).toNat = 10 ^ shift := by
  rcases Int.eq_nat_or_neg shift with ⟨n, rfl | rfl⟩ <;> simp [powerOfTen]

theorem magnitude_div (a b : Decimal) (shift : ℤ) :
    a.magnitude / b.magnitude =
      (a.coefficient * powerOfTen shift.toNat : ℕ) /
        (b.coefficient * powerOfTen (-shift).toNat : ℕ) *
        10 ^ (a.exponent - b.exponent - shift) := by
  have scale : (10 : ℚ) ^ shift ≠ 0 := by positivity
  rw [zpow_sub₀ (by norm_num), zpow_sub₀ (by norm_num), Nat.cast_mul, Nat.cast_mul,
    mul_div_mul_comm, powerOfTen_div, magnitude, magnitude]
  field_simp

theorem quotient_digits {a b : Decimal} (nonzeroA : a.isZero = false) (nonzeroB : b.isZero = false)
    {shift : ℤ}
    (enough : (digitCount b.coefficient : ℤ) - digitCount a.coefficient + precision + 1 = shift) :
    (10 : ℚ) ^ (a.exponent - b.exponent - shift + precision) ≤ a.magnitude / b.magnitude := by
  have low := (magnitude_bounds nonzeroA).1
  have high := (magnitude_bounds nonzeroB).2.le
  have place : a.exponent - b.exponent - shift + precision = a.leading - (b.leading + 1) := by
    unfold leading
    omega
  rw [place, zpow_sub₀ (by norm_num)]
  exact div_le_div₀ ((by positivity : (0 : ℚ) ≤ _).trans low) low (magnitude_pos nonzeroB) high

theorem inCell_of_fives {cell : ℕ} {x : ℚ} (place : ℤ) (low : (cell * 5 : ℕ) < x)
    (high : x < ((cell + 1) * 5 : ℕ)) : InCell place cell (x * 10 ^ place) := by
  have scale : (0 : ℚ) < 10 ^ place := by positivity
  push_cast at low high
  constructor <;> rw [← mul_assoc] <;> push_cast <;> gcongr

theorem quotient_inCell {n d : ℕ} (positive : 0 < d) (inexact : n % d ≠ 0) (place : ℤ) :
    InCell place (n / d / 5 : ℕ) (n / d * 10 ^ place) := by
  have divisor : (0 : ℚ) < d := by exact_mod_cast positive
  refine inCell_of_fives place ?_ ?_
  · have below : n / d / 5 * 5 * d < n := calc
      n / d / 5 * 5 * d ≤ n / d * d := Nat.mul_le_mul_right d (Nat.div_mul_le_self _ 5)
      _ < n := by
        have whole := Nat.div_add_mod' n d
        omega
    rw [lt_div_iff₀ divisor]
    exact_mod_cast below
  · have above : n < (n / d / 5 + 1) * 5 * d := Nat.lt_mul_of_div_lt (by omega) positive
    rw [div_lt_iff₀ divisor]
    exact_mod_cast above

theorem sticky_inCell (quotient : ℕ) (place : ℤ) : InCell place (quotient / 5 : ℕ)
    ((if quotient % 5 = 0 then quotient + 1 else quotient : ℕ) * 10 ^ place) := by
  refine inCell_of_fives place ?_ ?_ <;>
  · rw [Nat.cast_lt]
    split_ifs <;> omega

/-- Division by a nonzero number is rounded correctly. -/
theorem toRat_divide? {a b : Decimal} (nonzero : b.isZero = false) :
    (a.divide? b).map toRat = rounded? (a.toRat / b.toRat) := by
  rw [divide?, nonzero, if_neg Bool.false_ne_true]
  dsimp only
  by_cases zero : a.isZero = true
  · rw [if_pos zero, toRat_round?, toRat_of_isZero zero, zero_div, toRat_of_isZero rfl]
  rw [if_neg zero]
  rw [Bool.not_eq_true] at zero
  generalize enough :
    (digitCount b.coefficient : ℤ) - digitCount a.coefficient + precision + 1 = shift
  have value := magnitude_div a b shift
  have digits := quotient_digits zero nonzero enough
  have positive : 0 < b.coefficient * powerOfTen (-shift).toNat := by
    have : 0 < b.coefficient := by simpa [isZero, Nat.pos_iff_ne_zero] using nonzero
    exact Nat.mul_pos this (Nat.pow_pos (by decide))
  generalize a.coefficient * powerOfTen shift.toNat = numerator at value ⊢
  generalize b.coefficient * powerOfTen (-shift).toNat = denominator at value positive ⊢
  by_cases inexact : numerator % denominator ≠ 0
  · have exact := quotient_inCell positive inexact (a.exponent - b.exponent - shift)
    have shown := sticky_inCell (numerator / denominator) (a.exponent - b.exponent - shift)
    have room := lt_lastPlace digits
    rw [← value] at exact
    have cell : 0 < ((numerator / denominator / 5 : ℕ) : ℤ) := by
      have scale : (0 : ℚ) < 10 ^ (a.exponent - b.exponent - shift) := by positivity
      rw [value, add_comm, zpow_add₀ (by norm_num), mul_le_mul_iff_left₀ scale, zpow_natCast,
        le_div_iff₀ (by exact_mod_cast positive)] at digits
      have many : 10 ^ precision ≤ numerator / denominator :=
        (Nat.le_div_iff_mul_le positive).mpr (by exact_mod_cast digits)
      rw [precision] at many
      omega
    simp only [if_pos inexact, beq_iff_eq]
    rw [toRat_round?, toRat_div]
    exact rounded?_signed (rounded?_of_cell cell exact shown room).symm _
  · have whole : ((numerator / denominator : ℕ) : ℚ) = numerator / denominator :=
      Nat.cast_div (Nat.dvd_of_mod_eq_zero (not_not.mp inexact)) (by exact_mod_cast positive.ne')
    rw [if_neg inexact, toRat_round?, toRat_div, value, ← whole, ← shortenTo_value]
    rfl

/-! ## Numbers that are kept -/

def survives (d : Decimal) : Bool := d.round?.any (·.sameValue d)

theorem survives_iff {d : Decimal} : d.survives = true ↔ rounded? d.toRat = some d.toRat := by
  rw [← toRat_round?, survives, Option.any_eq_true, Option.map_eq_some_iff]
  simp [sameValue_iff]

theorem toRat_ofInt (n : ℤ) : (ofInt n).toRat = n := by
  rcases lt_or_ge n 0 with negative | positive
  · simp [toRat, ofInt, magnitude, negative, abs_of_neg]
  · simp [toRat, ofInt, magnitude, positive.not_gt, abs_of_nonneg, positive]

theorem survives_ofInt {n : ℤ} (short : n.natAbs < 10 ^ precision) : (ofInt n).survives = true := by
  rw [survives]
  cases zero : (ofInt n).isZero with
  | true =>
      obtain ⟨r, rounded, none⟩ := round?_of_isZero zero
      rw [rounded, Option.any_some, sameValue_iff, toRat_of_isZero none, toRat_of_isZero zero]
  | false =>
      have few : digitCount (ofInt n).coefficient ≤ precision :=
        (digitCount_le_iff (by decide)).mpr short
      have kept : ¬ (ofInt n).exponent < (ofInt n).roundedExponent := by
        simp only [roundedExponent, leastExponent, show (ofInt n).exponent = 0 from rfl]
        omega
      have finite : ¬ maxExponent < (ofInt n).leading := by
        simp only [leading, maxExponent, show (ofInt n).exponent = 0 from rfl]
        simp only [precision] at few
        omega
      rw [round?, zero, if_neg Bool.false_ne_true]
      dsimp only
      rw [if_neg kept, if_neg finite, Option.any_some, sameValue_iff]

end Decimal

end RecordFilter
