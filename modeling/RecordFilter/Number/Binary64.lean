import RecordFilter.Number.Numeral

/-!
# Binary floating-point numbers

Records may hold floating-point numbers of sixty-four bits.  They are kept exactly, as a mantissa
times a power of two.  A number is written with the fewest digits that read back as the same number,
and among those with the digits nearest to it.
-/

namespace RecordFilter

open Number

/-- The number `(-1)^negative * mantissa * 2^exponent`, or none. -/
inductive Binary64
  | finite (negative : Bool) (mantissa : Nat) (exponent : Int)
  | nonFinite (x : NonFinite)
  deriving DecidableEq, Repr

namespace Binary64

def mantissaBits : Nat := 53

def leastExponent : Int := -1074

def greatestExponent : Int := 971

/-- The power of two by which a quotient is divided so that its whole part has at most
`mantissaBits` bits, and exactly so many unless the number is next to zero. -/
def scaleOf (numerator denominator : Nat) : Int :=
  let guess := max ((numerator.log2 : Int) - denominator.log2 - mantissaBits) leastExponent
  let whole := numerator * powerOfTwo (-guess).toNat / (denominator * powerOfTwo guess.toNat)
  if whole < powerOfTwo mantissaBits then guess else guess + 1

def ofQuotient (negative : Bool) (numerator denominator : Nat) : Binary64 :=
  if numerator = 0 then finite negative 0 leastExponent
  else
    let scale := scaleOf numerator denominator
    let mantissa :=
      divideHalfEven (numerator * powerOfTwo (-scale).toNat)
        (denominator * powerOfTwo scale.toNat)
    let (mantissa, scale) :=
      if mantissa = powerOfTwo mantissaBits then (powerOfTwo (mantissaBits - 1), scale + 1)
      else (mantissa, scale)
    if scale > greatestExponent then nonFinite (.infinity negative)
    else finite negative mantissa scale

def ofDecimal (d : Decimal) : Binary64 :=
  if d.isZero || d.leading < -400 then finite d.negative 0 leastExponent
  else if d.leading > 310 then nonFinite (.infinity d.negative)
  else
    ofQuotient d.negative (d.coefficient * powerOfTen d.exponent.toNat)
      (powerOfTen (-d.exponent).toNat)

def ofNumeral : Numeral → Binary64
  | .finite d => ofDecimal d
  | .nonFinite x => nonFinite x
  | .signaling => nonFinite .notANumber

def exactly (negative : Bool) (mantissa : Nat) (exponent : Int) : Decimal :=
  ⟨negative, mantissa * powerOfTwo exponent.toNat * Nat.pow 5 (-exponent).toNat, min exponent 0⟩

/-! ## The fewest digits -/

/-- The two numbers of `count` digits next to a positive number, the nearer one first; a tie goes to
the one that ends in an even digit. -/
def neighbours (count : Nat) (d : Decimal) : List Decimal :=
  let exponent := d.leading + 1 - count
  let unit := powerOfTen (exponent - d.exponent).toNat
  let coefficient := d.coefficient * powerOfTen (d.exponent - exponent).toNat
  let below := coefficient / unit
  let first := divideHalfEven coefficient unit
  [⟨false, first, exponent⟩, ⟨false, if first = below then below + 1 else below, exponent⟩]

/-- A number of at least `count` digits that reads back as `x`, tried up to `count + fuel`. -/
def shortestFrom (fuel count : Nat) (x : Binary64) (d : Decimal) : Decimal :=
  ((neighbours count d).find? (ofDecimal · == x)).getD <|
    match fuel with
    | 0 => d
    | fuel + 1 => shortestFrom fuel (count + 1) x d

theorem shortestFrom_zero (count : Nat) (x : Binary64) (d : Decimal) :
    shortestFrom 0 count x d = ((neighbours count d).find? (ofDecimal · == x)).getD d := rfl

theorem shortestFrom_succ (fuel count : Nat) (x : Binary64) (d : Decimal) :
    shortestFrom (fuel + 1) count x d =
      ((neighbours count d).find? (ofDecimal · == x)).getD (shortestFrom fuel (count + 1) x d) :=
  rfl

/-- A digit string without zeros at its end; the exponent makes up for them. -/
def stripZeros : Nat → Decimal → Decimal
  | 0, d => d
  | fuel + 1, d =>
      if d.coefficient % 10 == 0 && d.coefficient != 0 then
        stripZeros fuel ⟨d.negative, d.coefficient / 10, d.exponent + 1⟩
      else d

/-- The shortest decimal number that reads back as the positive number `mantissa * 2^exponent`. -/
def shortest (mantissa : Nat) (exponent : Int) : Decimal :=
  let found := shortestFrom 17 1 (finite false mantissa exponent) (exactly false mantissa exponent)
  stripZeros (digitCount found.coefficient) found

/-! ## Text -/

/-- Plain notation ends where the decimal point would stand more than sixteen places to the right or
more than three zeros to the left of the digits. -/
def isPlain (place : Int) : Bool := -4 < place && place ≤ 16

def digitsText (digits : List Char) (place : Int) : List Char :=
  if isPlain place then
    Decimal.pointed digits place ++ (if digits.length ≤ place then ['.', '0'] else [])
  else
    let power := place - 1
    let mark := if power < 0 then '-' else '+'
    (if digits.length = 1 then digits else Decimal.pointed digits 1) ++
      'e' :: mark :: paddedDigits 2 power.natAbs

def text : Binary64 → String
  | finite negative mantissa exponent =>
      let d := if mantissa = 0 then ⟨false, 0, 0⟩ else shortest mantissa exponent
      let digits := digits d.coefficient
      String.ofList (Decimal.withSign negative (digitsText digits (d.exponent + digits.length)))
  | nonFinite .notANumber => "nan"
  | nonFinite (.infinity false) => "inf"
  | nonFinite (.infinity true) => "-inf"

def fixedText (d : Decimal) : String :=
  let places := 6
  let coefficient := divideHalfEven (d.coefficient * powerOfTen (d.exponent + places).toNat)
    (powerOfTen (-(d.exponent + places)).toNat)
  (Decimal.mk d.negative coefficient (-6)).positional

def toNumeral : Binary64 → Numeral
  | finite negative mantissa exponent =>
      if mantissa = 0 then .finite ⟨negative, 0, -1⟩
      else
        let d := shortest mantissa exponent
        let place := d.exponent + digitCount d.coefficient
        if isPlain place && d.exponent ≥ 0 then
          .finite ⟨negative, d.coefficient * powerOfTen (d.exponent + 1).toNat, -1⟩
        else .finite { d with negative := negative }
  | nonFinite x => .nonFinite x

def exactNumeral : Binary64 → Numeral
  | finite negative mantissa exponent =>
      if mantissa = 0 then .finite ⟨negative, 0, 0⟩
      else
        let d := exactly negative mantissa exponent
        let (coefficient, exponent) :=
          Decimal.shortenTo (digitCount d.coefficient) 0 d.exponent d.coefficient
        .finite ⟨negative, coefficient, exponent⟩
  | nonFinite x => .nonFinite x

end Binary64

end RecordFilter
