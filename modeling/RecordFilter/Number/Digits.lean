/-!
# Decimal digits of natural numbers

Numbers are written in base ten without leading zeros, zero as a single digit.  Here are the powers
that numbers are scaled by, too.
-/

namespace RecordFilter.Number

def powerOfTwo (n : Nat) : Nat := Nat.pow 2 n

def powerOfTen (n : Nat) : Nat := Nat.pow 10 n

def digits (n : Nat) : List Char := Nat.toDigits 10 n

def digitCount (n : Nat) : Nat := (digits n).length

def ofDigitValues (values : List Nat) : Nat := values.foldl (fun n value => 10 * n + value) 0

def zeros (n : Nat) : List Char := List.replicate n '0'

def paddedDigits (width n : Nat) : List Char :=
  zeros (width - digitCount n) ++ digits n

def signedDigits (n : Int) : List Char :=
  if n < 0 then '-' :: digits n.natAbs else digits n.natAbs

/-- Digits in groups of three, separated by commas from the right. -/
def groupedDigits (n : Nat) : List Char :=
  let rec group : List Char → List Char
    | a :: b :: c :: d :: rest => a :: b :: c :: ',' :: group (d :: rest)
    | rest => rest
  (group (digits n).reverse).reverse

/-- The quotient of two numbers rounded to the nearest, a half to the even neighbour. -/
def divideHalfEven (numerator denominator : Nat) : Nat :=
  let quotient := numerator / denominator
  let twice := 2 * (numerator % denominator)
  if twice > denominator || (twice == denominator && quotient % 2 == 1) then quotient + 1
  else quotient

end RecordFilter.Number
