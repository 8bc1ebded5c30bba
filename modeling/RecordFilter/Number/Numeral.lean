import RecordFilter.Number.Decimal
import RecordFilter.Text.Blank
import RecordFilter.Text.Digit

/-!
# Decimal numbers as text

There are two ways to write a decimal number.  The scientific text shows the digits and the
exponent as they are, with an exponent mark when the plain form would hide some of
them or begin with a long run of zeros.  The positional text never has an exponent mark.

Reading accepts signs, a fraction, an exponent mark, the digits of any script,
underscores anywhere, blanks at both ends, and the names of what is no finite
number.
-/

namespace RecordFilter

open Number Text

/-- What the text of a number can denote.  A signaling number is no number, and cannot be compared
with one either. -/
inductive Numeral
  | finite (d : Decimal)
  | nonFinite (x : NonFinite)
  | signaling
  deriving DecidableEq, Repr

namespace NonFinite

def text : NonFinite → String
  | notANumber => "NaN"
  | infinity false => "Infinity"
  | infinity true => "-Infinity"

end NonFinite

def signalingText : String := "sNaN"

namespace Decimal

def pointed (digits : List Char) (place : Int) : List Char :=
  if place ≤ 0 then '0' :: '.' :: zeros (-place).toNat ++ digits
  else if digits.length ≤ place then digits ++ zeros (place - digits.length).toNat
  else digits.take place.toNat ++ '.' :: digits.drop place.toNat

def withSign (negative : Bool) (text : List Char) : List Char :=
  if negative then '-' :: text else text

def scientificChars (d : Decimal) : List Char :=
  let digits := digits d.coefficient
  let place := d.exponent + digits.length
  withSign d.negative <|
    if d.exponent ≤ 0 && place > -6 then pointed digits place
    else
      let power := place - 1
      let mark := if power < 0 then '-' else '+'
      pointed digits 1 ++ 'E' :: mark :: Number.digits power.natAbs

def positionalChars (d : Decimal) : List Char :=
  let exponent := if d.isZero then min d.exponent 0 else d.exponent
  let digits := digits d.coefficient
  withSign d.negative (pointed digits (exponent + digits.length))

def scientific (d : Decimal) : String := String.ofList d.scientificChars

def positional (d : Decimal) : String := String.ofList d.positionalChars

/-! ## Reading -/

def greatestLeading : Int := 999999999999999999

def smallestExponent : Int := -1999999999999999997

/-- A number with an exponent mark can be read only if its leading digit and its exponent stay
within these limits; without one, no text is long enough to pass them. -/
def withinLimits (d : Decimal) : Bool :=
  smallestExponent ≤ d.exponent &&
    (if d.isZero then d.exponent else d.leading) ≤ greatestLeading

def splitSign : List Char → Bool × List Char
  | '-' :: rest => (true, rest)
  | '+' :: rest => (false, rest)
  | text => (false, text)

def splitDigits : List Char → List Nat × List Char
  | [] => ([], [])
  | c :: rest =>
      match digitValue? c with
      | some value =>
          let (values, behind) := splitDigits rest
          (value :: values, behind)
      | none => ([], c :: rest)

def readExponent? : List Char → Option Int
  | [] => some 0
  | mark :: rest =>
      if mark.toLower == 'e' then
        let (negative, text) := splitSign rest
        match splitDigits text with
        | (value :: values, []) => some (signed negative (ofDigitValues (value :: values)))
        | _ => none
      else none

def readUnbounded? (negative : Bool) (text : List Char) : Option Decimal :=
  let (whole, behind) := splitDigits text
  let (fraction, tail) :=
    match behind with
    | '.' :: rest => splitDigits rest
    | _ => ([], behind)
  if whole.isEmpty && fraction.isEmpty then none
  else do
    let exponent ← readExponent? tail
    return ⟨negative, ofDigitValues (whole ++ fraction), exponent - fraction.length⟩

def hasExponentMark (text : List Char) : Bool := text.any (·.toLower == 'e')

def readFinite? (negative : Bool) (text : List Char) : Option Decimal :=
  (readUnbounded? negative text).filter fun d => !hasExponentMark text || d.withinLimits

def readNonFinite? (negative : Bool) (text : List Char) : Option Numeral :=
  let lowered := text.map Char.toLower
  if lowered == "inf".toList || lowered == "infinity".toList then
    some (.nonFinite (.infinity negative))
  else
    let signals := lowered.head? == some 's'
    let name := if signals then lowered.tail else lowered
    if name.take 3 == "nan".toList && (name.drop 3).all isDigit then
      some (if signals then .signaling else .nonFinite .notANumber)
    else none

def read? (text : List Char) : Option Numeral :=
  let (negative, body) := splitSign ((trim text).filter (· != '_'))
  match readNonFinite? negative body with
  | some x => some x
  | none => (readFinite? negative body).map .finite

end Decimal

end RecordFilter
