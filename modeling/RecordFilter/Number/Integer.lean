import RecordFilter.Number.Numeral

/-!
# Whole numbers as text

A whole number has a sign, or none, and the digits of any script, which single underscores may
separate.  Blanks at both ends do not count.
-/

namespace RecordFilter.Number

open Text

def groupedValues? : List Char → Option (List Nat)
  | [] => none
  | c :: rest => do
      let value ← digitValue? c
      match rest with
      | [] => return [value]
      | '_' :: behind => return value :: (← groupedValues? behind)
      | d :: behind => return value :: (← groupedValues? (d :: behind))

def digitLimit : Nat := 4300

def readInteger? (text : List Char) : Option Int := do
  let (negative, body) := Decimal.splitSign (trim text)
  let values ← groupedValues? body
  if values.length ≤ digitLimit then return Decimal.signed negative (ofDigitValues values) else none

end RecordFilter.Number
