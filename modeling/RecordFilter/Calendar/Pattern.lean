import RecordFilter.Calendar.Iso
import RecordFilter.Text.Blank

/-!
# Dates and times by pattern

Besides the international form, a few fixed patterns of numbered fields and marks are read; a
field may leave out its leading zero.  For writing, a pattern is a text with directives, a percent
sign and a letter each, that stand for parts of the moment.
-/

namespace RecordFilter

open Number Text

/-! ## Reading -/

inductive DateField
  | year | month | day | hour | minute | second
  deriving DecidableEq, Repr

inductive PatternItem
  | field (f : DateField)
  | mark (c : Char)
  | blanks
  deriving DecidableEq, Repr

namespace DateField

/-- One way in which a field may be written: each character is given by the values its digit may
have, an ASCII digit if the first component holds. -/
def forms : DateField → List (List (Bool × Nat × Nat))
  | year => [[(false, 0, 9), (false, 0, 9), (false, 0, 9), (false, 0, 9)]]
  | month => [[(true, 1, 1), (true, 0, 2)], [(true, 0, 0), (true, 1, 9)], [(true, 1, 9)]]
  | day =>
      [[(true, 3, 3), (true, 0, 1)], [(true, 1, 2), (false, 0, 9)], [(true, 0, 0), (true, 1, 9)],
        [(true, 1, 9)]]
  | hour => [[(true, 2, 2), (true, 0, 3)], [(true, 0, 1), (false, 0, 9)], [(false, 0, 9)]]
  | minute => [[(true, 0, 5), (false, 0, 9)], [(false, 0, 9)]]
  | second =>
      [[(true, 6, 6), (true, 0, 1)], [(true, 0, 5), (false, 0, 9)], [(false, 0, 9)]]

/-- The digit values at the front of a text if they have a form, and what follows them. -/
def readForm? : List (Bool × Nat × Nat) → List Char → Option (List Nat × List Char)
  | [], text => some ([], text)
  | _ :: _, [] => none
  | (ascii, low, high) :: form, c :: rest =>
      match digitValue? c with
      | some value =>
          if (!ascii || isAsciiDigit c) && low ≤ value && value ≤ high then
            (readForm? form rest).map fun (values, behind) => (value :: values, behind)
          else none
      | none => none

/-- Every reading of a field at the front of a text, the preferred one first.  A day of one digit
may follow a space. -/
def readings (f : DateField) (text : List Char) : List (Nat × List Char) :=
  let plain := f.forms.filterMap fun form =>
    (readForm? form text).map fun (values, behind) => (ofDigitValues values, behind)
  match f, text with
  | day, ' ' :: rest =>
      plain ++ ((readForm? [(true, 1, 9)] rest).map
        fun (values, behind) => (ofDigitValues values, behind)).toList
  | _, _ => plain

end DateField

abbrev DatePattern := List PatternItem

namespace DatePattern

open PatternItem DateField

def known : List DatePattern := [
  [field year, mark '-', field month, mark '-', field day, blanks,
    field hour, mark ':', field minute, mark ':', field second],
  [field year, mark '/', field month, mark '/', field day],
  [field month, mark '/', field day, mark '/', field year],
  [field day, mark '.', field month, mark '.', field year]]

/-- Every way to read a pattern at the front of a text, the preferred one first. -/
def readings : DatePattern → List Char → List (List (DateField × Nat) × List Char)
  | [], text => [([], text)]
  | field f :: items, text =>
      (f.readings text).flatMap fun (value, behind) =>
        (readings items behind).map fun (values, rest) => ((f, value) :: values, rest)
  | mark c :: items, text =>
      match text with
      | d :: rest => if d == c then readings items rest else []
      | [] => []
  | blanks :: items, text =>
      match text with
      | c :: rest => if isBlank c then readings items (trimLeft rest) else []
      | [] => []

def valueOf (values : List (DateField × Nat)) (f : DateField) : Nat :=
  ((values.find? (·.1 == f)).map (·.2)).getD 0

def momentOf (values : List (DateField × Nat)) : Moment :=
  ⟨⟨valueOf values year, valueOf values month, valueOf values day⟩, valueOf values hour,
    valueOf values minute, valueOf values second, 0⟩

/-- The moment a text denotes in a pattern.  The preferred reading has to take the whole text and to
name a day of the calendar. -/
def read? (pattern : DatePattern) (text : List Char) : Option Moment :=
  match readings pattern text with
  | (values, []) :: _ =>
      let m := momentOf values
      if m.isValid then some m else none
  | _ => none

end DatePattern

/-! ## Writing -/

def monthNames : List String :=
  ["January", "February", "March", "April", "May", "June", "July", "August", "September", "October",
    "November", "December"]

def weekdayNames : List String :=
  ["Monday", "Tuesday", "Wednesday", "Thursday", "Friday", "Saturday", "Sunday"]

namespace Moment

def spacedDigits (n : Nat) : List Char := if n < 10 then ' ' :: digits n else digits n

def hourOfHalfDay (m : Moment) : Nat := if m.hour % 12 = 0 then 12 else m.hour % 12

def halfDay (m : Moment) : String := if m.hour < 12 then "AM" else "PM"

/-- The number of a week whose weeks begin on the weekday that is `start` days after Monday; the
days before the first of them lie in week zero. -/
def weekFrom (start : Nat) (m : Moment) : Nat :=
  (m.date.dayOfYear + 6 - (m.date.weekday + 7 - start) % 7) / 7

def directive? (m : Moment) (letter : Char) : Option (List Char) :=
  let d := m.date
  let two := paddedDigits 2
  let weekdayName := ((weekdayNames[d.weekday]?).getD "").toList
  let monthName := ((monthNames[d.month - 1]?).getD "").toList
  let shortDate := two d.month ++ '/' :: two d.day ++ '/' :: two (d.year % 100)
  let isoDate := digits d.year ++ '-' :: two d.month ++ '-' :: two d.day
  let clock := two m.hour ++ ':' :: two m.minute ++ ':' :: two m.second
  match letter with
  | 'Y' => some (digits d.year)
  | 'C' => some (digits (d.year / 100))
  | 'y' => some (two (d.year % 100))
  | 'G' => some (digits d.week.1)
  | 'g' => some (two (d.week.1 % 100))
  | 'm' => some (two d.month)
  | 'd' => some (two d.day)
  | 'e' => some (spacedDigits d.day)
  | 'j' => some (paddedDigits 3 d.dayOfYear)
  | 'H' => some (two m.hour)
  | 'I' => some (two m.hourOfHalfDay)
  | 'k' => some (spacedDigits m.hour)
  | 'l' => some (spacedDigits m.hourOfHalfDay)
  | 'M' => some (two m.minute)
  | 'S' => some (two m.second)
  | 'f' => some (paddedDigits 6 m.microsecond)
  | 'p' => some m.halfDay.toList
  | 'P' => some (m.halfDay.toList.map Char.toLower)
  | 'A' => some weekdayName
  | 'a' => some (weekdayName.take 3)
  | 'B' => some monthName
  | 'b' | 'h' => some (monthName.take 3)
  | 'u' => some (digits (d.weekday + 1))
  | 'w' => some (digits ((d.weekday + 1) % 7))
  | 'U' => some (two (weekFrom 6 m))
  | 'W' => some (two (weekFrom 0 m))
  | 'V' => some (two d.week.2)
  | 'D' | 'x' => some shortDate
  | 'F' => some isoDate
  | 'T' | 'X' => some clock
  | 'R' => some (two m.hour ++ ':' :: two m.minute)
  | 'r' =>
      some (two m.hourOfHalfDay ++ ':' :: two m.minute ++ ':' :: two m.second ++
        ' ' :: m.halfDay.toList)
  | 'c' =>
      some (weekdayName.take 3 ++ ' ' :: monthName.take 3 ++ ' ' :: spacedDigits d.day ++
        ' ' :: clock ++ ' ' :: digits d.year)
  | 'n' => some ['\n']
  | 't' => some ['\t']
  | '%' => some ['%']
  | _ => none

end Moment

namespace Timestamp

/-- What a directive stands for, those for the offset included; without an offset they stand for
nothing. -/
def directive? (t : Timestamp) (letter : Char) : Option (List Char) :=
  if letter == 'z' then
    some ((t.offset.map fun offset => (offsetText offset).filter (· != ':')).getD [])
  else if letter == 'Z' then
    some ((t.offset.map fun offset =>
      "UTC".toList ++ if offset = 0 then [] else offsetText offset).getD [])
  else t.moment.directive? letter

def formatChars (t : Timestamp) : List Char → List Char
  | '%' :: letter :: rest =>
      match t.directive? letter with
      | some text => text ++ formatChars t rest
      | none => '%' :: letter :: formatChars t rest
  | c :: rest => c :: formatChars t rest
  | [] => []

def format (t : Timestamp) (pattern : String) : String :=
  String.ofList (t.formatChars pattern.toList)

end Timestamp

end RecordFilter
