import RecordFilter.Json.Basic
import RecordFilter.Parsed
import RecordFilter.Text.Digit

/-!
# Reading documents of the object notation

Besides the standard notation the three names of what is no finite number are read.  The last
member of an object counts among those of one name, at the place of the first.  An error is
found at a place in the text, which is told by the number of characters from there to the end
until the reader of the whole text turns it into a line and a column.
-/

namespace RecordFilter

open Number Text

inductive JsonProblem
  | value
  | extraData
  | memberName
  | colon
  | comma
  | unclosedString
  | controlCharacter
  | escape
  | codeEscape
  | byteOrderMark
  deriving DecidableEq, Repr

namespace JsonProblem

def message : JsonProblem → String
  | value => "Expecting value"
  | extraData => "Extra data"
  | memberName => "Expecting property name enclosed in double quotes"
  | colon => "Expecting ':' delimiter"
  | comma => "Expecting ',' delimiter"
  | unclosedString => "Unterminated string starting at"
  | controlCharacter => "Invalid control character at"
  | escape => "Invalid \\escape"
  | codeEscape => "Invalid \\uXXXX escape"
  | byteOrderMark => "Unexpected UTF-8 BOM (decode using utf-8-sig)"

end JsonProblem

/-- Why a text is no document: a problem before the last `remaining` characters, or a whole number
of too many digits. -/
inductive JsonFailure
  | malformed (problem : JsonProblem) (remaining : Nat)
  | tooManyDigits (count : Nat)
  deriving DecidableEq, Repr

namespace Json

abbrev Reading (α : Type) (bound : Nat) := Except JsonFailure (Parsed Char α bound)

def fail {α : Type} (problem : JsonProblem) (text : List Char) : Except JsonFailure α :=
  .error (.malformed problem text.length)

def isSpace (c : Char) : Bool := c == ' ' || c == '\t' || c == '\n' || c == '\r'

def skipSpace (text : List Char) : Parsed Char Unit (text.length + 1) :=
  (Parsed.before () text).dropWhile isSpace

/-! ## Strings -/

def hexValue? (c : Char) : Option Nat :=
  if isAsciiDigit c then some (c.toNat - 48)
  else if 'a' ≤ c && c ≤ 'f' then some (c.toNat - 87)
  else if 'A' ≤ c && c ≤ 'F' then some (c.toNat - 55)
  else none

/-- A code of four hexadecimal digits, behind which the string has to go on. -/
def code? : (text : List Char) → Option (Parsed Char Nat text.length)
  | a :: b :: c :: d :: e :: rest => do
      let w ← hexValue? a
      let x ← hexValue? b
      let y ← hexValue? c
      let z ← hexValue? d
      return (Parsed.before (((w * 16 + x) * 16 + y) * 16 + z) (e :: rest)).past.past.past
  | _ => none

def isHighSurrogate (code : Nat) : Bool := 0xD800 ≤ code && code < 0xDC00

def isLowSurrogate (code : Nat) : Bool := 0xDC00 ≤ code && code < 0xE000

def joinSurrogates (high low : Nat) : Char :=
  Char.ofNat (0x10000 + (high - 0xD800) * 0x400 + (low - 0xDC00))

/-- The character of a code, or what stands for half a pair. -/
def charOfCode (code : Nat) : Char :=
  if isHighSurrogate code || isLowSurrogate code then half code else Char.ofNat code

def secondMark? {bound : Nat} (high : Parsed Char Nat bound) : Option (Parsed Char Nat bound) :=
  match high.past.next? with
  | some ('\\', backslash) =>
      match backslash.past.next? with
      | some ('u', mark) =>
          if isHighSurrogate high.result && 5 ≤ mark.rest.length then some mark else none
      | _ => none
  | _ => none

/-- The character of a code escape, from the mark `u` on; two codes may make up one character. -/
def readCode (text : List Char) : Reading Char text.length :=
  match text with
  | [] => fail .codeEscape []
  | c :: rest =>
      match code? rest with
      | none => fail .codeEscape (c :: rest)
      | some high =>
          match secondMark? high with
          | none => return (high.map charOfCode).past
          | some mark =>
              match code? mark.rest with
              | none => fail .codeEscape ('u' :: mark.rest)
              | some low =>
                  if isLowSurrogate low.result then
                    return (mark.followedBy joinSurrogates low.past).past
                  else return (high.map charOfCode).past

def simpleEscape? (c : Char) : Option Char :=
  if c == doubleQuote || c == '\\' || c == '/' then some c
  else if c == 'b' then some (Char.ofNat 8)
  else if c == 'f' then some (Char.ofNat 12)
  else if c == 'n' then some '\n'
  else if c == 'r' then some '\r'
  else if c == 't' then some '\t'
  else none

def readEscape (opening : Nat) : (text : List Char) → Reading Char text.length
  | [] => .error (.malformed .unclosedString opening)
  | c :: rest =>
      if c == 'u' then readCode (c :: rest)
      else
        match simpleEscape? c with
        | some d => .ok (.before d rest)
        | none => fail .escape ('\\' :: c :: rest)

def readString (opening : Nat) (text : List Char) : Reading (List Char) (text.length + 1) :=
  match text with
  | [] => .error (.malformed .unclosedString opening)
  | c :: rest =>
      if c == doubleQuote then .ok (Parsed.before [] rest).past
      else if c == '\\' then do
        let escaped ← readEscape opening rest
        let more ← readString opening escaped.rest
        return (escaped.followedBy (· :: ·) more).past.past
      else if c.toNat < 32 then fail .controlCharacter (c :: rest)
      else return ((← readString opening rest).map (c :: ·)).past
  termination_by text.length
  decreasing_by
    · exact Nat.lt_succ_of_lt escaped.short
    · exact Nat.lt_succ_self _

/-! ## Numbers -/

def digitRun (text : List Char) : List Char := text.takeWhile isAsciiDigit

def wholeDigits : List Char → List Char
  | '0' :: _ => ['0']
  | text => digitRun text

def fractionPart (text : List Char) : List Char :=
  match text with
  | '.' :: rest => if (digitRun rest).isEmpty then [] else '.' :: digitRun rest
  | _ => []

def exponentPart (text : List Char) : List Char :=
  match text with
  | mark :: rest =>
      if mark == 'e' || mark == 'E' then
        let sign := rest.takeWhile (fun c => c == '+' || c == '-') |>.take 1
        let digits := digitRun (rest.drop sign.length)
        if digits.isEmpty then [] else mark :: sign ++ digits
      else []
  | [] => []

/-- The longest number at the front of a text: its sign, its digits, and what makes it a
floating-point number. -/
def numberParts (text : List Char) : List Char × List Char × List Char :=
  let sign := text.takeWhile (· == '-') |>.take 1
  let afterSign := text.drop sign.length
  let whole := wholeDigits afterSign
  let afterWhole := afterSign.drop whole.length
  let fraction := fractionPart afterWhole
  let exponent := exponentPart (afterWhole.drop fraction.length)
  (sign, whole, fraction ++ exponent)

def digitLimit : Nat := 4300

def numberOf (negative : Bool) (whole tail : List Char) : Except JsonFailure Json :=
  if tail.isEmpty then
    if whole.length > digitLimit then .error (.tooManyDigits whole.length)
    else
      .ok (.int (Decimal.signed negative (ofDigitValues (whole.map fun c => c.toNat - 48))))
  else
    match Decimal.readUnbounded? negative (whole ++ tail) with
    | some d => .ok (.float (.ofDecimal d))
    | none => .ok .null

def readNumber (text : List Char) : Reading Json text.length :=
  match text with
  | [] => fail .value []
  | c :: rest =>
      let (sign, whole, tail) := numberParts (c :: rest)
      if whole.isEmpty then fail .value (c :: rest)
      else do
        let number ← numberOf (!sign.isEmpty) whole tail
        return (Parsed.before number rest).drop (sign.length + whole.length + tail.length - 1)

/-! ## Values -/

def names : List (String × Json) :=
  [("null", .null), ("true", .bool true), ("false", .bool false),
    ("NaN", .float (.nonFinite .notANumber)), ("Infinity", .float (.nonFinite (.infinity false))),
    ("-Infinity", .float (.nonFinite (.infinity true)))]

def readScalar (text : List Char) : Reading Json text.length :=
  match text with
  | [] => fail .value []
  | c :: rest =>
      match names.find? fun (name, _) => name.toList.isPrefixOf (c :: rest) with
      | some (name, value) => return (Parsed.before value rest).drop (name.length - 1)
      | none => readNumber (c :: rest)

def insertMember (members : List (String × Json)) (name : String) (value : Json) :
    List (String × Json) :=
  if members.any (·.1 == name) then
    members.map fun member => if member.1 == name then (name, value) else member
  else members ++ [(name, value)]

def distinctMembers (members : List (String × Json)) : List (String × Json) :=
  members.foldl (fun found member => insertMember found member.1 member.2) []

mutual

def readValue (text : List Char) : Reading Json text.length :=
  match text with
  | [] => fail .value []
  | c :: rest =>
      if c == doubleQuote then do
        return (← readString (rest.length + 1) rest).map fun chars => .string (String.ofList chars)
      else if c == '[' then
        let start := skipSpace rest
        match start.past.next? with
        | some (']', behind) => return behind.map fun _ => .array []
        | _ => do
            let items ← readItems start.rest
            return start.followedBy (fun _ items => .array items) items.past
      else if c.toNat = 123 then
        let start := skipSpace rest
        match start.past.next? with
        | none => fail .memberName []
        | some (d, behind) =>
            if d.toNat = 125 then return behind.map fun _ => .object []
            else do
              let members ← readMembers start.rest
              return start.followedBy (fun _ members => .object (distinctMembers members))
                members.past
      else readScalar (c :: rest)
  termination_by rank text.length 0
  decreasing_by all_goals exact rank_lt_of_shorter _ start.short (by decide)

def readItems (text : List Char) : Reading (List Json) text.length := do
  let item ← readValue text
  let item := item.dropWhile isSpace
  match item.past.next? with
  | some (']', behind) => return behind.map fun item => [item]
  | some (',', comma) => do
      let start := comma.dropWhile isSpace
      let items ← readItems start.rest
      return start.followedBy (· :: ·) items.past
  | _ => fail .comma item.rest
  termination_by rank text.length 1
  decreasing_by
    · exact rank_lt_of_lower _ (by decide)
    · exact rank_lt_of_shorter _ start.short (by decide)

def readMembers (text : List Char) : Reading (List (String × Json)) text.length :=
  match text with
  | [] => fail .memberName []
  | c :: rest =>
      if c == doubleQuote then do
        let name ← readString (rest.length + 1) rest
        let name := (name.map String.ofList).dropWhile isSpace
        match name.past.next? with
        | some (':', colon) => do
            let start := colon.dropWhile isSpace
            let value ← readValue start.rest
            let member := (start.followedBy Prod.mk value.past).dropWhile isSpace
            match member.past.next? with
            | none => fail .comma []
            | some (d, behind) =>
                if d.toNat = 125 then return behind.map fun member => [member]
                else if d == ',' then do
                  let next := behind.dropWhile isSpace
                  let members ← readMembers next.rest
                  return next.followedBy (· :: ·) members.past
                else fail .comma member.rest
        | _ => fail .colon name.rest
      else fail .memberName (c :: rest)
  termination_by rank text.length 0
  decreasing_by
    · exact rank_lt_of_shorter _ start.short (by decide)
    · exact rank_lt_of_shorter _ next.short (by decide)

end

def read (text : String) : Except JsonFailure Json := do
  let chars := text.toList
  if chars.head?.any (·.toNat == 0xFEFF) then fail .byteOrderMark chars
  let value ← readValue (skipSpace chars).rest
  let value := value.dropWhile isSpace
  if value.rest.isEmpty then return value.result else fail .extraData value.rest

/-- The line and the column of the place before the last `remaining` characters of a text. -/
def place (text : String) (remaining : Nat) : Nat × Nat :=
  let before := text.toList.take (text.length - remaining)
  (before.count '\n' + 1, (before.reverse.takeWhile (· != '\n')).length + 1)

end Json

end RecordFilter
