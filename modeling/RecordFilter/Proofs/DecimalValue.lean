import Mathlib.Algebra.Order.Field.Power
import Mathlib.Data.Nat.Digits.Lemmas
import Mathlib.Data.Rat.Cast.Order
import Mathlib.Order.Compare
import Mathlib.Tactic.Linarith
import RecordFilter.Number.Decimal

/-!
# The value of a decimal number

A decimal number denotes a rational number.  Comparing two of them by their leading digits, and by
their coefficients over a common exponent where these stand at one place, finds the order of the
rational numbers, so that numbers of one value cannot be told apart by comparing.
-/

namespace RecordFilter

open Number

namespace Decimal

def magnitude (d : Decimal) : ℚ := d.coefficient * 10 ^ d.exponent

def toRat (d : Decimal) : ℚ := if d.negative then -d.magnitude else d.magnitude

/-! ## Magnitudes -/

theorem magnitude_pos {d : Decimal} (nonzero : d.isZero = false) : 0 < d.magnitude := by
  have positive : 0 < d.coefficient := by
    simpa [isZero, Nat.pos_iff_ne_zero] using nonzero
  unfold magnitude
  positivity

theorem magnitude_zero {d : Decimal} (zero : d.isZero = true) : d.magnitude = 0 := by
  have none : d.coefficient = 0 := by simpa [isZero] using zero
  simp [magnitude, none]

theorem magnitude_coefficientAt {d : Decimal} {exponent : Int} (below : exponent ≤ d.exponent) :
    d.magnitude = d.coefficientAt exponent * 10 ^ exponent := by
  obtain ⟨shift, rest⟩ := Int.eq_ofNat_of_zero_le (Int.sub_nonneg_of_le below)
  have split : d.exponent = shift + exponent := by omega
  have power : (powerOfTen shift : ℚ) = 10 ^ (shift : Int) := by simp [powerOfTen]
  rw [magnitude, coefficientAt, rest, Int.toNat_natCast, Nat.cast_mul, power, split,
    zpow_add₀ (by norm_num), mul_assoc]

theorem digitCount_le_iff {n k : Nat} (positive : 0 < k) : digitCount n ≤ k ↔ n < 10 ^ k :=
  Nat.length_toDigits_le_iff (by decide) positive

theorem magnitude_bounds {d : Decimal} (nonzero : d.isZero = false) :
    (10 : ℚ) ^ d.leading ≤ d.magnitude ∧ d.magnitude < 10 ^ (d.leading + 1) := by
  have positive : 0 < digitCount d.coefficient := Nat.length_toDigits_pos
  have above : d.coefficient < 10 ^ digitCount d.coefficient :=
    (digitCount_le_iff positive).mp (Nat.le_refl _)
  have below : 10 ^ (digitCount d.coefficient - 1) ≤ d.coefficient := by
    by_contra small
    by_cases single : digitCount d.coefficient = 1
    · rw [single] at small
      have zero : d.coefficient = 0 := by simpa using small
      simp [isZero, zero] at nonzero
    · have fewer := (digitCount_le_iff (n := d.coefficient)
        (k := digitCount d.coefficient - 1) (by omega)).mpr (by omega)
      omega
  have scale : (0 : ℚ) < 10 ^ d.exponent := by positivity
  constructor
  · have split : d.leading = (digitCount d.coefficient - 1 : Nat) + d.exponent := by
      unfold leading
      omega
    rw [split, zpow_add₀ (by norm_num), zpow_natCast, magnitude]
    gcongr
    exact_mod_cast below
  · have split : d.leading + 1 = (digitCount d.coefficient : Nat) + d.exponent := by
      unfold leading
      omega
    rw [split, zpow_add₀ (by norm_num), zpow_natCast, magnitude]
    gcongr
    exact_mod_cast above

theorem compareMagnitudes_eq {a b : Decimal} (nonzeroA : a.isZero = false)
    (nonzeroB : b.isZero = false) :
    compareMagnitudes a b = compare a.magnitude b.magnitude := by
  -- Leading digits at different places decide since the numbers lie between different powers.
  have apart {a b : Decimal} (ha : a.isZero = false) (hb : b.isZero = false)
      (less : a.leading < b.leading) : a.magnitude < b.magnitude := by
    calc a.magnitude < 10 ^ (a.leading + 1) := (magnitude_bounds ha).2
      _ ≤ 10 ^ b.leading := zpow_le_zpow_right₀ (by norm_num) (by omega)
      _ ≤ b.magnitude := (magnitude_bounds hb).1
  unfold compareMagnitudes
  dsimp only
  split
  · have scale : (0 : ℚ) < 10 ^ min a.exponent b.exponent := by positivity
    rw [magnitude_coefficientAt (min_le_left a.exponent b.exponent),
      magnitude_coefficientAt (min_le_right a.exponent b.exponent)]
    rcases lt_trichotomy (a.coefficientAt (min a.exponent b.exponent))
      (b.coefficientAt (min a.exponent b.exponent)) with less | same | greater
    · rw [compare_lt_iff_lt.mpr less, Eq.comm, compare_lt_iff_lt]
      gcongr
    · rw [same, compare_eq_iff_eq.mpr rfl, compare_eq_iff_eq.mpr rfl]
    · rw [compare_gt_iff_gt.mpr greater, Eq.comm, compare_gt_iff_gt]
      gcongr
  · next differ =>
      rcases lt_or_gt_of_ne differ with less | greater
      · rw [compare_lt_iff_lt.mpr less, compare_lt_iff_lt.mpr (apart nonzeroA nonzeroB less)]
      · rw [compare_gt_iff_gt.mpr greater, compare_gt_iff_gt.mpr (apart nonzeroB nonzeroA greater)]

/-! ## Values -/

theorem toRat_of_isZero {d : Decimal} (zero : d.isZero = true) : d.toRat = 0 := by
  simp [toRat, magnitude_zero zero]

theorem toRat_pos {d : Decimal} (nonzero : d.isZero = false) (plus : d.negative = false) :
    0 < d.toRat := by
  simpa [toRat, plus] using magnitude_pos nonzero

theorem toRat_neg {d : Decimal} (nonzero : d.isZero = false) (minus : d.negative = true) :
    d.toRat < 0 := by
  simpa [toRat, minus] using magnitude_pos nonzero

theorem toRat_lt_of_signum_lt {a b : Decimal} (less : a.signum < b.signum) : a.toRat < b.toRat := by
  unfold signum at less
  cases zeroA : a.isZero <;> cases zeroB : b.isZero <;> cases signA : a.negative <;>
    cases signB : b.negative <;> simp [zeroA, zeroB, signA, signB] at less
  · exact (toRat_neg zeroA signA).trans (toRat_pos zeroB signB)
  · rw [toRat_of_isZero zeroB]
    exact toRat_neg zeroA signA
  · rw [toRat_of_isZero zeroB]
    exact toRat_neg zeroA signA
  · rw [toRat_of_isZero zeroA]
    exact toRat_pos zeroB signB
  · rw [toRat_of_isZero zeroA]
    exact toRat_pos zeroB signB

theorem signum_eq_zero_iff {d : Decimal} : d.signum = 0 ↔ d.isZero = true := by
  unfold signum
  split_ifs with zero minus <;> simp [zero]

theorem sign_of_signum_eq {a b : Decimal} (same : a.signum = b.signum) (nonzero : a.signum ≠ 0) :
    a.isZero = false ∧ b.isZero = false ∧ a.negative = b.negative := by
  have nonzeroB : b.signum ≠ 0 := same ▸ nonzero
  rw [Ne, signum_eq_zero_iff, Bool.not_eq_true] at nonzero nonzeroB
  refine ⟨nonzero, nonzeroB, ?_⟩
  cases signA : a.negative <;> cases signB : b.negative <;>
    simp [signum, nonzero, nonzeroB, signA, signB] at same ⊢

/-- The order of decimal numbers is that of the rational numbers that they denote. -/
theorem compare_eq (a b : Decimal) : a.compare b = compare a.toRat b.toRat := by
  unfold Decimal.compare
  split_ifs with same zero minus
  · rw [toRat_of_isZero (signum_eq_zero_iff.mp zero),
      toRat_of_isZero (signum_eq_zero_iff.mp (same ▸ zero)), compare_eq_iff_eq.mpr rfl]
  · obtain ⟨nonzeroA, nonzeroB, signs⟩ := sign_of_signum_eq same zero
    rw [compareMagnitudes_eq nonzeroB nonzeroA, toRat, toRat, ← signs, if_pos minus, if_pos minus]
    rcases lt_trichotomy a.magnitude b.magnitude with less | equal | greater
    · rw [compare_gt_iff_gt.mpr less, compare_gt_iff_gt.mpr (neg_lt_neg less)]
    · rw [equal, compare_eq_iff_eq.mpr rfl, compare_eq_iff_eq.mpr rfl]
    · rw [compare_lt_iff_lt.mpr greater, compare_lt_iff_lt.mpr (neg_lt_neg greater)]
  · obtain ⟨nonzeroA, nonzeroB, signs⟩ := sign_of_signum_eq same zero
    rw [compareMagnitudes_eq nonzeroA nonzeroB, toRat, toRat, ← signs, if_neg minus, if_neg minus]
  · rcases lt_or_gt_of_ne same with less | greater
    · rw [compare_lt_iff_lt.mpr less, compare_lt_iff_lt.mpr (toRat_lt_of_signum_lt less)]
    · rw [compare_gt_iff_gt.mpr greater, compare_gt_iff_gt.mpr (toRat_lt_of_signum_lt greater)]

theorem sameValue_iff {a b : Decimal} : a.sameValue b = true ↔ a.toRat = b.toRat := by
  rw [sameValue, compare_eq, beq_iff_eq, compare_eq_iff_eq]

theorem toRat_eq_zero_iff {d : Decimal} : d.toRat = 0 ↔ d.isZero = true := by
  refine ⟨fun none => ?_, toRat_of_isZero⟩
  by_contra nonzero
  rw [Bool.not_eq_true] at nonzero
  cases sign : d.negative with
  | true => exact (toRat_neg nonzero sign).ne none
  | false => exact (toRat_pos nonzero sign).ne' none

theorem toRat_nonpos {d : Decimal} (minus : d.negative = true) : d.toRat ≤ 0 := by
  cases zero : d.isZero with
  | true => exact (toRat_of_isZero zero).le
  | false => exact (toRat_neg zero minus).le

/-! ## Rounding -/

theorem round?_negative {d r : Decimal} (h : d.round? = some r) : r.negative = d.negative := by
  unfold round? at h
  dsimp only at h
  split_ifs at h <;> cases h <;> rfl

theorem round?_of_isZero {d : Decimal} (zero : d.isZero = true) :
    ∃ r, d.round? = some r ∧ r.isZero = true := by
  rw [round?, if_pos zero]
  exact ⟨_, rfl, zero⟩

theorem negate?_of_isZero {d : Decimal} (zero : d.isZero = true) :
    ∃ r, d.negate? = some r ∧ r.isZero = true := by
  rw [negate?, if_pos zero]
  exact round?_of_isZero zero

theorem isZero_of_negate? {d r : Decimal} (h : d.negate? = some r) (zero : d.isZero = true) :
    r.isZero = true := by
  obtain ⟨r', same, zero'⟩ := negate?_of_isZero zero
  cases h.symm.trans same
  exact zero'

theorem negate?_nonpos {d r : Decimal} (plus : d.negative = false) (h : d.negate? = some r) :
    r.toRat ≤ 0 := by
  cases zero : d.isZero with
  | true => exact (toRat_of_isZero (isZero_of_negate? h zero)).le
  | false =>
      rw [negate?, zero, if_neg Bool.false_ne_true] at h
      have minus : r.negative = true := by simp [round?_negative h, opposite, plus]
      exact toRat_nonpos minus

end Decimal

end RecordFilter
