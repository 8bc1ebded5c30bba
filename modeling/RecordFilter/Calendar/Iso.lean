import RecordFilter.Calendar.Moment
import RecordFilter.Number.Digits
import RecordFilter.Text.Digit

/-!
# The international form of dates and times

A timestamp is written as a date, a separator and a time of day, with a fraction of a second only
where there is one, and with its offset.

Reading is far more liberal.  A date may name a week instead of a month, the marks between the
parts may be left out, and any character can stand between date and time.  A time may
stop after the hour or the minute; a fraction can follow wherever it stops, and digits beyond the
sixth are dropped.  An offset is read like a time.  Where a time may end, a character of code zero
ends it too.
-/

namespace RecordFilter

open Number Text

namespace Date

def text (d : Date) : List Char :=
  paddedDigits 4 d.year ++ '-' :: paddedDigits 2 d.month ++ '-' :: paddedDigits 2 d.day

end Date

/-! ## Writing -/

/-- Hours, minutes and seconds of a count of seconds, without the seconds if they may be left out
and are zero. -/
def offsetText (offset : Int) : List Char :=
  let sign := if offset < 0 then '-' else '+'
  let ticks := offset.natAbs
  let seconds := ticks / 1000000
  let fraction := ticks % 1000000
  sign :: paddedDigits 2 (seconds / 3600) ++ ':' :: paddedDigits 2 (seconds / 60 % 60) ++
    (if seconds % 60 = 0 && fraction = 0 then [] else ':' :: paddedDigits 2 (seconds % 60)) ++
    (if fraction = 0 then [] else '.' :: paddedDigits 6 fraction)

namespace Moment

def clockText (m : Moment) : List Char :=
  paddedDigits 2 m.hour ++ ':' :: paddedDigits 2 m.minute ++ ':' :: paddedDigits 2 m.second ++
    (if m.microsecond = 0 then [] else '.' :: paddedDigits 6 m.microsecond)

end Moment

namespace Timestamp

def text (separator : Char) (t : Timestamp) : List Char :=
  t.moment.date.text ++ separator :: t.moment.clockText ++ (t.offset.map offsetText).getD []

/-! ## Reading -/

def takeNumber? (count : Nat) (text : List Char) : Option (Nat × List Char) :=
  let taken := text.take count
  if taken.length = count && taken.all isAsciiDigit then
    some (ofDigitValues (taken.map fun c => c.toNat - 48), text.drop count)
  else none

def skipMark? (wanted : Bool) (mark : Char) (text : List Char) : Option (List Char) :=
  if wanted then
    match text with
    | c :: rest => if c == mark then some rest else none
    | [] => none
  else some text

/-- A date by year, month and day or by year, week and weekday; without a weekday it is the
Monday of the week. -/
def readDate? (text : List Char) : Option Date := do
  let (year, afterYear) ← takeNumber? 4 text
  let separated := afterYear.head? == some '-'
  let body := if separated then afterYear.tail else afterYear
  match body with
  | 'W' :: weekText => do
      let (week, afterWeek) ← takeNumber? 2 weekText
      if afterWeek.isEmpty then Date.ofWeek? year week 1
      else do
        let dayText ← skipMark? separated '-' afterWeek
        let (day, _) ← takeNumber? 1 dayText
        Date.ofWeek? year week day
  | _ => do
      let (month, afterMonth) ← takeNumber? 2 body
      let dayText ← skipMark? separated '-' afterMonth
      let (day, _) ← takeNumber? 2 dayText
      some ⟨year, month, day⟩

/-- How many characters the date takes.  Where a week may or may not be followed by a weekday, the
digits up to the next mark decide, since those of a time come in pairs. -/
def dateLength (text : List Char) : Nat :=
  let at? (i : Nat) (c : Char) : Bool := text[i]? == some c
  if text.length = 7 then 7
  else if at? 4 '-' then
    if at? 5 'W' then
      if at? 8 '-' then (if text[10]?.any isAsciiDigit then 8 else 10) else 8
    else 10
  else if at? 4 'W' then
    let digits := ((text.drop 7).takeWhile isAsciiDigit).length
    if digits ≤ 1 then 7 + digits else if digits % 2 = 1 then 7 else 8
  else 8

structure Clock where
  hour : Nat
  minute : Nat
  second : Nat
  microsecond : Nat
  deriving DecidableEq, Repr

def startsEnd : List Char → Bool
  | [] => true
  | c :: _ => c.toNat == 0

def readFraction? (text : List Char) : Option (Nat × Bool) :=
  let count := min 6 text.length
  (takeNumber? count text).map fun (value, behind) =>
    (value * powerOfTen (6 - count), startsEnd (behind.dropWhile isAsciiDigit))

/-- What a time says behind its hour or minute: nothing, or an ASCII character that is the last one,
or a fraction, or the next part. -/
inductive ClockTail
  | done (complete : Bool)
  | fraction (text : List Char)
  | more (text : List Char)

def clockTail? (separated : Bool) : List Char → Option ClockTail
  | [] => some (.done true)
  | [c] => if c.toNat < 128 then some (.done (startsEnd [c])) else none
  | c :: rest =>
      if separated && c == ':' then some (.more rest)
      else if c == '.' || c == ',' then some (.fraction rest)
      else if separated then none
      else some (.more (c :: rest))

/-- A time of day, and whether the text ends with it; behind it there may be a single ASCII
character, or anything behind six digits of a fraction. -/
def readClock? (text : List Char) : Option (Clock × Bool) := do
  let (hour, afterHour) ← takeNumber? 2 text
  let separated := afterHour.head? == some ':'
  match ← clockTail? separated afterHour with
  | .done complete => some (⟨hour, 0, 0, 0⟩, complete)
  | .fraction rest =>
      (readFraction? rest).map fun (fraction, complete) => (⟨hour, 0, 0, fraction⟩, complete)
  | .more minuteText => do
    let (minute, afterMinute) ← takeNumber? 2 minuteText
    match ← clockTail? separated afterMinute with
    | .done complete => some (⟨hour, minute, 0, 0⟩, complete)
    | .fraction rest =>
        (readFraction? rest).map fun (fraction, complete) => (⟨hour, minute, 0, fraction⟩, complete)
    | .more secondText => do
      let (second, afterSecond) ← takeNumber? 2 secondText
      match ← clockTail? separated afterSecond with
      | .done complete => some (⟨hour, minute, second, 0⟩, complete)
      | .fraction rest | .more rest =>
          (readFraction? rest).map fun (fraction, complete) =>
            (⟨hour, minute, second, fraction⟩, complete)

def startsZone (c : Char) : Bool := c == '+' || c == '-' || c == 'Z'

/-- The offset that an offset sign and what follows it stand for.  Without whole seconds there is
none, whatever fraction of a second is written. -/
def readZone? : List Char → Option Int
  | 'Z' :: rest => if startsEnd rest then some 0 else none
  | sign :: rest => do
      let (clock, complete) ← readClock? rest
      let seconds := clock.hour * 3600 + clock.minute * 60 + clock.second
      let ticks : Int := if seconds = 0 then 0 else seconds * 1000000 + clock.microsecond
      if complete && ticks < Moment.ticksPerDay then some (if sign == '-' then -ticks else ticks)
      else none
  | [] => none

def ofParts? (d : Date) (clock : Clock) (offset : Option Int) : Option Timestamp :=
  let m : Moment := ⟨d, clock.hour, clock.minute, clock.second, clock.microsecond⟩
  if m.isValid then some ⟨m, offset⟩ else none

def readIso? (text : List Char) : Option Timestamp := do
  if text.length < 7 then none
  else
    let length := dateLength text
    let d ← readDate? (text.take length)
    match text.drop length with
    | [] => ofParts? d ⟨0, 0, 0, 0⟩ none
    | _ :: time => do
        let (clock, complete) ← readClock? (time.takeWhile (!startsZone ·))
        match time.dropWhile (!startsZone ·) with
        | [] => if complete then ofParts? d clock none else none
        | zone => do
            let offset ← readZone? zone
            ofParts? d clock (some offset)

end Timestamp

end RecordFilter
