import RecordFilter.Number.Numeral
import RecordFilter.Toml.Basic

/-!
# Numbers and dates of configuration documents

Digits may be grouped by single underscores.  A whole number is written in base ten without
leading zeros, or in another base that its first two characters name.
-/

namespace RecordFilter.Toml

open Number Text

/-! ## Numbers -/

def digitTail (isDigit : Char → Bool) : List Char → List Char
  | '_' :: d :: rest => if isDigit d then '_' :: d :: digitTail isDigit rest else []
  | c :: rest => if isDigit c then c :: digitTail isDigit rest else []
  | [] => []

def digitRun (isDigit : Char → Bool) : List Char → List Char
  | c :: rest => if isDigit c then c :: digitTail isDigit rest else []
  | [] => []

def withoutUnderscores (text : List Char) : List Char := text.filter (· != '_')

def isDecimal (c : Char) : Bool := '0' ≤ c && c ≤ '9'

def digitOf (c : Char) : Nat :=
  if isDecimal c then c.toNat - 48 else c.toLower.toNat - 87

def base? (c : Char) : Option (Nat × (Char → Bool)) :=
  if c == 'x' then some (16, fun d => isDecimal d || ('a' ≤ d.toLower && d.toLower ≤ 'f'))
  else if c == 'o' then some (8, fun d => '0' ≤ d && d ≤ '7')
  else if c == 'b' then some (2, fun d => d == '0' || d == '1')
  else none

def readBased? : List Char → Option (Toml × Nat)
  | '0' :: letter :: rest => do
      let (base, isDigit) ← base? letter
      let run := digitRun isDigit rest
      if run.isEmpty then none
      else
        let n := (withoutUnderscores run).foldl (fun n d => base * n + digitOf d) 0
        return (.int n, run.length + 2)
  | _ => none

def wholePart : List Char → List Char
  | '0' :: _ => ['0']
  | text => digitRun isDecimal text

def fractionPart : List Char → List Char
  | '.' :: rest =>
      let run := digitRun isDecimal rest
      if run.isEmpty then [] else '.' :: run
  | _ => []

def signPart (text : List Char) : List Char :=
  text.head?.toList.filter fun c => c == '+' || c == '-'

def exponentPart : List Char → List Char
  | mark :: rest =>
      if mark == 'e' || mark == 'E' then
        let sign := signPart rest
        let run := digitRun isDecimal (rest.drop sign.length)
        if run.isEmpty then [] else mark :: sign ++ run
      else []
  | [] => []

def digitLimit : Nat := 4300

def readDecimal? (text : List Char) : Option (Except TomlFailure Toml × Nat) :=
  let sign := signPart text
  let whole := wholePart (text.drop sign.length)
  let behind := text.drop (sign.length + whole.length)
  let fraction := fractionPart behind
  let exponent := exponentPart (behind.drop fraction.length)
  let length := sign.length + whole.length + fraction.length + exponent.length
  let negative := sign == ['-']
  let digits := withoutUnderscores whole
  if whole.isEmpty then none
  else if fraction.isEmpty && exponent.isEmpty then
    if digits.length > digitLimit then some (.error (.tooManyDigits digits.length), length)
    else
      let n := ofDigitValues (digits.map digitOf)
      some (.ok (.int (Decimal.signed negative n)), length)
  else
    match Decimal.readUnbounded? negative (digits ++ withoutUnderscores (fraction ++ exponent)) with
    | some d => some (.ok (.float (.ofDecimal d)), length)
    | none => none

def specialNames : List (String × Binary64) :=
  [("inf", .nonFinite (.infinity false)), ("+inf", .nonFinite (.infinity false)),
    ("-inf", .nonFinite (.infinity true)), ("nan", .nonFinite .notANumber),
    ("+nan", .nonFinite .notANumber), ("-nan", .nonFinite .notANumber)]

def readSpecial? (text : List Char) : Option (Toml × Nat) :=
  (specialNames.find? fun (name, _) => name.toList.isPrefixOf text).map fun (name, x) =>
    (.float x, name.length)

/-! ## Dates and times -/

def readField? (count least greatest : Nat) (text : List Char) : Option (Nat × List Char) :=
  let taken := text.take count
  let value := ofDigitValues (taken.map digitOf)
  if taken.length = count && taken.all isDecimal && least ≤ value && value ≤ greatest then
    some (value, text.drop count)
  else none

def skipMark? (mark : Char) : List Char → Option (List Char)
  | c :: rest => if c == mark then some rest else none
  | [] => none

def readDate? (text : List Char) : Option (Date × List Char) := do
  let (year, text) ← readField? 4 0 9999 text
  let (month, text) ← readField? 2 1 12 (← skipMark? '-' text)
  let (day, text) ← readField? 2 1 31 (← skipMark? '-' text)
  return (⟨year, month, day⟩, text)

/-- The microseconds of a fraction of a second, whose further digits are dropped. -/
def readFraction (text : List Char) : Nat × List Char :=
  match text with
  | '.' :: rest =>
      let run := rest.takeWhile isDecimal
      if run.isEmpty then (0, text)
      else
        let kept := run.take 6
        (ofDigitValues (kept.map digitOf) * powerOfTen (6 - kept.length), rest.drop run.length)
  | text => (0, text)

structure TimeOfDay where
  hour : Nat
  minute : Nat
  second : Nat
  microsecond : Nat
  deriving DecidableEq, Repr

def readTime? (text : List Char) : Option (TimeOfDay × List Char) := do
  let (hour, text) ← readField? 2 0 23 text
  let (minute, text) ← readField? 2 0 59 (← skipMark? ':' text)
  let (second, text) ← readField? 2 0 59 (← skipMark? ':' text)
  let (microsecond, text) := readFraction text
  return (⟨hour, minute, second, microsecond⟩, text)

def readOffset (text : List Char) : Option Int × List Char :=
  match text with
  | c :: rest =>
      if c == 'Z' || c == 'z' then (some 0, rest)
      else if c == '+' || c == '-' then
        let offset := do
          let (hours, behind) ← readField? 2 0 23 rest
          let (minutes, behind) ← readField? 2 0 59 (← skipMark? ':' behind)
          return (Decimal.signed (c == '-') ((hours * 60 + minutes) * 60000000), behind)
        match offset with
        | some (offset, behind) => (some offset, behind)
        | none => (none, text)
      else (none, text)
  | [] => (none, [])

def startsTime (c : Char) : Bool := c == 'T' || c == 't' || c == ' '

/-- A date, or a date with a time and perhaps an offset; the date itself may not exist. -/
def readTimestamp? (text : List Char) : Option (Toml × List Char × Bool) := do
  let (day, behind) ← readDate? text
  let clock :=
    match behind with
    | c :: rest => if startsTime c then readTime? rest else none
    | [] => none
  match clock with
  | none => return (.date day, behind, day.isValid)
  | some (t, behind) =>
      let (offset, behind) := readOffset behind
      return (.timestamp ⟨⟨day, t.hour, t.minute, t.second, t.microsecond⟩, offset⟩, behind,
        day.isValid)

/-! ## Scalars -/

def readTruth? (text : List Char) : Option (Toml × Nat) :=
  if "true".toList.isPrefixOf text then some (.bool true, 4)
  else if "false".toList.isPrefixOf text then some (.bool false, 5)
  else none

/-- A truth value, a date, a time or a number at the front of a text, with its length. -/
def scalar? (text : List Char) : Option (Except TomlFailure Toml × Nat) :=
  match readTruth? text with
  | some (value, length) => some (.ok value, length)
  | none =>
      match readTimestamp? text with
      | some (value, behind, exists?) =>
          some (if exists? then .ok value else fail .date text, text.length - behind.length)
      | none =>
          match readTime? text with
          | some (t, behind) =>
              some (.ok (.time t.hour t.minute t.second t.microsecond), text.length - behind.length)
          | none =>
              match readBased? text, readDecimal? text, readSpecial? text with
              | some (value, length), _, _ => some (.ok value, length)
              | _, some (value, length), _ => some (value, length)
              | _, _, some (value, length) => some (.ok value, length)
              | none, none, none => none

def readScalar (text : List Char) : Reading Toml text.length :=
  match text with
  | [] => fail .value []
  | c :: rest =>
      match scalar? (c :: rest) with
      | some (value, length + 1) => return (Parsed.before (← value) rest).drop length
      | _ => fail .value (c :: rest)

end RecordFilter.Toml
