import RecordFilter.Number.Digits

/-!
# Decimal numbers

A decimal number keeps the digits and the exponent it was written with, so that
`1.50` and `1.5` are two numbers of one value.  Order and equality of values are exact.
Arithmetic follows the General Decimal Arithmetic with twenty-eight digits: a
result that needs more is rounded, a half to the even neighbour, and a result whose
exponent grows past `maxExponent` is no number at all.
-/

namespace RecordFilter

open Number

/-- The number `(-1)^negative * coefficient * 10^exponent`. -/
structure Decimal where
  negative : Bool
  coefficient : Nat
  exponent : Int
  deriving DecidableEq, Repr, Inhabited

inductive NonFinite
  | notANumber
  | infinity (negative : Bool)
  deriving DecidableEq, Repr

namespace Decimal

def ofInt (n : Int) : Decimal := ⟨n < 0, n.natAbs, 0⟩

def isZero (d : Decimal) : Bool := d.coefficient == 0

/-- The exponent of the most significant digit. -/
def leading (d : Decimal) : Int := d.exponent + digitCount d.coefficient - 1

def coefficientAt (d : Decimal) (exponent : Int) : Nat :=
  d.coefficient * powerOfTen (d.exponent - exponent).toNat

def signed (negative : Bool) (n : Nat) : Int := if negative then -(n : Int) else n

def signedAt (d : Decimal) (exponent : Int) : Int := signed d.negative (d.coefficientAt exponent)

/-! ## Order -/

/-- Compares two nonzero numbers without their signs; the leading digits decide unless they stand
at one place. -/
def compareMagnitudes (a b : Decimal) : Ordering :=
  if a.leading = b.leading then
    let exponent := min a.exponent b.exponent
    compare (a.coefficientAt exponent) (b.coefficientAt exponent)
  else compare a.leading b.leading

def signum (d : Decimal) : Int := if d.isZero then 0 else if d.negative then -1 else 1

protected def compare (a b : Decimal) : Ordering :=
  if a.signum = b.signum then
    if a.signum = 0 then .eq
    else if a.negative then compareMagnitudes b a
    else compareMagnitudes a b
  else compare a.signum b.signum

def sameValue (a b : Decimal) : Bool := a.compare b == .eq

/-! ## Rounding -/

def precision : Nat := 28

def maxExponent : Int := 999999

/-- The least exponent a result can have, that of the last digit of a number next to zero. -/
def leastExponent : Int := -999999 - (precision - 1)

def dropDigits (coefficient places : Nat) : Nat :=
  if digitCount coefficient < places then 0 else divideHalfEven coefficient (powerOfTen places)

def roundedExponent (d : Decimal) : Int :=
  max (d.exponent + digitCount d.coefficient - precision) leastExponent

/-- Rounds an exact result to `precision` digits; there is none if it overflows. -/
def round? (d : Decimal) : Option Decimal :=
  if d.isZero then
    some { d with exponent := min (max d.exponent leastExponent) maxExponent }
  else
    let exponent := d.roundedExponent
    let rounded : Decimal :=
      if d.exponent < exponent then
        let coefficient := dropDigits d.coefficient (exponent - d.exponent).toNat
        if digitCount coefficient > precision then ⟨d.negative, coefficient / 10, exponent + 1⟩
        else ⟨d.negative, coefficient, exponent⟩
      else d
    if rounded.leading > maxExponent then none else some rounded

/-! ## Arithmetic -/

/-- Stands for a nonzero number that is too small to change the digits kept of `large`, except by
the direction of rounding. -/
def sticky (large small : Decimal) : Decimal :=
  let floor := large.exponent +
    min (-1) ((digitCount large.coefficient : Int) - precision - 2)
  if small.leading < floor then ⟨small.negative, 1, floor⟩ else small

/-- A zero with an exponent no smaller than the digits kept of the other summand need. -/
def stickyZero (large zeroSummand : Decimal) : Decimal :=
  { zeroSummand with exponent := max zeroSummand.exponent (large.exponent - precision - 1) }

def addAligned (a b : Decimal) : Decimal :=
  let exponent := min a.exponent b.exponent
  let sum := a.signedAt exponent + b.signedAt exponent
  ⟨if sum = 0 then a.negative && b.negative else sum < 0, sum.natAbs, exponent⟩

def add? (a b : Decimal) : Option Decimal :=
  let sum :=
    if a.isZero && b.isZero then addAligned a b
    else if a.isZero then addAligned (stickyZero b a) b
    else if b.isZero then addAligned a (stickyZero a b)
    else if a.exponent < b.exponent then addAligned (sticky b a) b
    else addAligned a (sticky a b)
  sum.round?

def opposite (d : Decimal) : Decimal := { d with negative := !d.negative }

def subtract? (a b : Decimal) : Option Decimal := a.add? b.opposite

def multiply? (a b : Decimal) : Option Decimal :=
  round? ⟨a.negative != b.negative, a.coefficient * b.coefficient, a.exponent + b.exponent⟩

def shortenTo (fuel : Nat) (wanted exponent : Int) (coefficient : Nat) : Nat × Int :=
  match fuel with
  | 0 => (coefficient, exponent)
  | fuel + 1 =>
      if exponent < wanted && coefficient % 10 == 0 then
        shortenTo fuel wanted (exponent + 1) (coefficient / 10)
      else (coefficient, exponent)

/-- The quotient by a nonzero divisor, computed to one digit more than is kept; a digit that ends an
inexact quotient is never one at which rounding could mistake it for a half. -/
def divide? (a b : Decimal) : Option Decimal :=
  if b.isZero then none
  else
    let negative := a.negative != b.negative
    let wanted := a.exponent - b.exponent
    if a.isZero then round? ⟨negative, 0, wanted⟩
    else
      let shift : Int := (digitCount b.coefficient : Int) - digitCount a.coefficient + precision + 1
      let numerator := a.coefficient * powerOfTen shift.toNat
      let denominator := b.coefficient * powerOfTen (-shift).toNat
      let quotient := numerator / denominator
      let exponent := wanted - shift
      if numerator % denominator ≠ 0 then
        round? ⟨negative, if quotient % 5 == 0 then quotient + 1 else quotient, exponent⟩
      else
        let (coefficient, exponent) := shortenTo (digitCount quotient) wanted exponent quotient
        round? ⟨negative, coefficient, exponent⟩

/-- The number with the other sign, rounded like every result; zero loses its sign. -/
def negate? (d : Decimal) : Option Decimal :=
  if d.isZero then round? { d with negative := false } else d.opposite.round?

end Decimal

end RecordFilter
