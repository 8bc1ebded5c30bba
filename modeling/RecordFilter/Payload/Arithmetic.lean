import RecordFilter.Payload.Compare

/-!
# Arithmetic on payloads

Whole numbers are added, subtracted and multiplied exactly; as soon as a decimal number takes part,
and in every division, the arithmetic is decimal.  A result that does not exist is Null, and so is
that of a signaling number, but a division asks first whether the divisor is zero.
Floating-point numbers, and operands that are no numbers at all, occur only in constants built by
hand and in records that do not keep to their declared kinds; a floating-point number does not go
with a decimal one.
-/

namespace RecordFilter

inductive Arithmetic
  | add | subtract | multiply | divide
  deriving DecidableEq, Repr

namespace Numeral

def opposite : Numeral → Numeral
  | finite d => finite d.opposite
  | signaling => signaling
  | nonFinite .notANumber => nonFinite .notANumber
  | nonFinite (.infinity negative) => nonFinite (.infinity (!negative))

/-- The sum of two numbers that are not both finite; two opposite infinities have none. -/
def addNonFinite? : Numeral → Numeral → Option NonFinite
  | signaling, _ | _, signaling => none
  | nonFinite .notANumber, _ | _, nonFinite .notANumber => some .notANumber
  | nonFinite (.infinity a), nonFinite (.infinity b) => if a == b then some (.infinity a) else none
  | nonFinite x, finite _ | finite _, nonFinite x => some x
  | finite _, finite _ => none

def multiplyNonFinite? : Numeral → Numeral → Option NonFinite
  | signaling, _ | _, signaling => none
  | nonFinite .notANumber, _ | _, nonFinite .notANumber => some .notANumber
  | nonFinite (.infinity a), nonFinite (.infinity b) => some (.infinity (a != b))
  | nonFinite (.infinity a), finite d | finite d, nonFinite (.infinity a) =>
      if d.isZero then none else some (.infinity (a != d.negative))
  | finite _, finite _ => none

def divideNonFinite? : Numeral → Numeral → Option Numeral
  | signaling, _ | _, signaling => none
  | nonFinite .notANumber, _ | _, nonFinite .notANumber => some (nonFinite .notANumber)
  | nonFinite (.infinity a), finite d => some (nonFinite (.infinity (a != d.negative)))
  | finite d, nonFinite (.infinity b) =>
      some (finite ⟨d.negative != b, 0, Decimal.leastExponent⟩)
  | nonFinite _, nonFinite _ | finite _, finite _ => none

end Numeral

namespace Arithmetic

def symbol : Arithmetic → String
  | add => "+"
  | subtract => "-"
  | multiply => "*"
  | divide => "/"

def ofResult (result : Option Decimal) : Payload := (result.map Payload.decimal).getD .null

def onIntegers (op : Arithmetic) (m n : Int) : Payload :=
  match op with
  | add => .int (m + n)
  | subtract => .int (m - n)
  | multiply => .int (m * n)
  | divide => ofResult ((Decimal.ofInt m).divide? (.ofInt n))

def onDecimals (op : Arithmetic) (d e : Decimal) : Option Decimal :=
  match op with
  | add => d.add? e
  | subtract => d.subtract? e
  | multiply => d.multiply? e
  | divide => d.divide? e

def onNonFinite (op : Arithmetic) (x y : Numeral) : Option Numeral :=
  match op with
  | add => (x.addNonFinite? y).map Numeral.nonFinite
  | subtract => (x.addNonFinite? y.opposite).map Numeral.nonFinite
  | multiply => (x.multiplyNonFinite? y).map Numeral.nonFinite
  | divide => x.divideNonFinite? y

/-- Decimal arithmetic; what is not a finite number goes through it like one. -/
def onNumerals (op : Arithmetic) (x y : Numeral) : Payload :=
  match x, y with
  | .finite d, .finite e => ofResult (op.onDecimals d e)
  | x, y =>
      match op.onNonFinite x y with
      | some (.finite d) => .decimal d
      | some (.nonFinite z) => .irregular z
      | some .signaling => .signaling
      | none => .null

def exactly (op : Arithmetic) (d e : Decimal) : Decimal :=
  match op with
  | add => d.addAligned e
  | subtract => d.addAligned e.opposite
  | multiply | divide =>
      ⟨d.negative != e.negative, d.coefficient * e.coefficient, d.exponent + e.exponent⟩

/-- Floating-point arithmetic: the exact result, rounded once. -/
def onFloats (op : Arithmetic) (x y : Numeral) : Payload :=
  match x, y with
  | .finite d, .finite e => .float (.ofDecimal (op.exactly d e))
  | x, y => .float (.ofNumeral ((op.onNonFinite x y).getD (.nonFinite .notANumber)))

/-- The whole number that a payload is, truth values counting as one and zero. -/
def integer? : Payload → Option Int
  | .bool b => some (if b then 1 else 0)
  | .int n => some n
  | _ => none

def decimal? : Payload → Option Numeral
  | .decimal d => some (.finite d)
  | .irregular x => some (.nonFinite x)
  | .signaling => some .signaling
  | p => (integer? p).map fun n => .finite (.ofInt n)

def floatValue? (p : Payload) : Except Fault (Option Numeral) :=
  match p, integer? p with
  | .float (.finite negative mantissa exponent), _ =>
      .ok (some (.finite (Binary64.exactly negative mantissa exponent)))
  | .float (.nonFinite x), _ => .ok (some (.nonFinite x))
  | _, some n =>
      match Binary64.ofDecimal (.ofInt n) with
      | .finite negative mantissa exponent =>
          .ok (some (.finite (Binary64.exactly negative mantissa exponent)))
      | .nonFinite _ => .error .tooLargeForFloat
  | _, none => .ok none

def isSequence : Payload → Bool
  | .text _ | .tuple _ | .list _ => true
  | _ => false

def undefined (op : Arithmetic) (left right : String) : Except Fault Payload :=
  .error (.operands (.undefinedBinary op.symbol left right))

/-- A quotient, the dividend of which is turned into a decimal number first. -/
def quotient (dividend : Numeral) (q : Payload) : Except Fault Payload :=
  match decimal? q with
  | some divisor => .ok (divide.onNumerals dividend divisor)
  | none => divide.undefined "decimal.Decimal" q.qualifiedTypeName

def divideBy (p q : Payload) : Except Fault Payload :=
  match p, decimal? p with
  | _, some dividend => quotient dividend q
  | .text s, _ =>
      match Decimal.read? s.toList with
      | some dividend => quotient dividend q
      | none => .ok .null
  | .float x, _ => quotient x.exactNumeral q
  | p, _ => .error (.operands (.notDecimal p.qualifiedTypeName))

def onOthers (op : Arithmetic) (p q : Payload) : Except Fault Payload :=
  match op, p, q with
  | add, .text s, .text t => .ok (.text (s ++ t))
  | add, .tuple xs, .tuple ys => .ok (.tuple (xs ++ ys))
  | add, p, q =>
      if isSequence p then .error (.operands (.concatenation p.typeName q.qualifiedTypeName))
      else op.undefined p.qualifiedTypeName q.qualifiedTypeName
  | multiply, p, q =>
      match p, q, integer? p, integer? q with
      | .text s, _, _, some n | _, .text s, some n, _ =>
          .ok (.text (String.join (List.replicate n.toNat s)))
      | .tuple xs, _, _, some n | _, .tuple xs, some n, _ =>
          .ok (.tuple (List.replicate n.toNat xs).flatten)
      | p, q, _, _ =>
          if isSequence p then .error (.operands (.repetition q.qualifiedTypeName))
          else if isSequence q then .error (.operands (.repetition p.qualifiedTypeName))
          else op.undefined p.qualifiedTypeName q.qualifiedTypeName
  | op, p, q => op.undefined p.qualifiedTypeName q.qualifiedTypeName

def isFloat : Payload → Bool
  | .float _ => true
  | _ => false

/-- What two operands give that are not both whole or decimal numbers. -/
def onFloatsOrOthers (op : Arithmetic) (p q : Payload) : Except Fault Payload := do
  if isFloat p || isFloat q then
    match ← floatValue? p, ← floatValue? q with
    | some x, some y => return op.onFloats x y
    | _, _ => op.onOthers p q
  else op.onOthers p q

def isZero (p : Payload) : Bool := p.same (.int 0)

/-- The result of an operation.  Null on either side, or a division by zero, gives Null. -/
def apply (op : Arithmetic) (p q : Payload) : Except Fault Payload :=
  if p.isNull || q.isNull then .ok .null
  else if op == divide then
    if q.isSignaling then .error .undefinedComparison
    else if isZero q then .ok .null
    else divideBy p q
  else
    match integer? p, integer? q with
    | some m, some n => .ok (op.onIntegers m n)
    | _, _ =>
        match decimal? p, decimal? q with
        | some x, some y => .ok (op.onNumerals x y)
        | _, _ => op.onFloatsOrOthers p q

end Arithmetic

namespace Payload

def negate (p : Payload) : Except Fault Payload :=
  match p with
  | null => .ok null
  | decimal d => .ok (Arithmetic.ofResult d.negate?)
  | signaling => .ok null
  | irregular .notANumber => .ok (irregular .notANumber)
  | irregular (.infinity negative) => .ok (irregular (.infinity (!negative)))
  | float (.finite negative mantissa exponent) =>
      .ok (float (.finite (!negative) mantissa exponent))
  | float (.nonFinite (.infinity negative)) => .ok (float (.nonFinite (.infinity (!negative))))
  | float (.nonFinite .notANumber) => .ok (float (.nonFinite .notANumber))
  | p =>
      match Arithmetic.integer? p with
      | some n => .ok (int (-n))
      | none => .error (.operands (.undefinedNegation p.qualifiedTypeName))

def length (p : Payload) : Except Fault Nat :=
  match p with
  | text s => .ok s.length
  | list items | tuple items | set _ items => .ok items.length
  | record fields => .ok fields.length
  | mapping entries => .ok entries.length
  | p => .error (.operands (.withoutLength p.qualifiedTypeName))

end Payload

end RecordFilter
