/-!
# Calendar dates

Dates of the Gregorian calendar, extended to the years before it was introduced.
The days are numbered from the first of January of year 1, which has number 1; a date is
valid if its year lies between 1 and 9999.
-/

namespace RecordFilter

structure Date where
  year : Nat
  month : Nat
  day : Nat
  deriving DecidableEq, Repr, Inhabited

namespace Date

def isLeap (year : Nat) : Bool := year % 4 == 0 && (year % 100 != 0 || year % 400 == 0)

def monthLengths (year : Nat) : List Nat :=
  [31, if isLeap year then 29 else 28, 31, 30, 31, 30, 31, 31, 30, 31, 30, 31]

def daysInMonth (year month : Nat) : Nat := (monthLengths year)[month - 1]?.getD 0

def isValid (d : Date) : Bool :=
  1 ≤ d.year && d.year ≤ 9999 && 1 ≤ d.month && d.month ≤ 12 &&
    1 ≤ d.day && d.day ≤ daysInMonth d.year d.month

def daysBeforeYear (year : Nat) : Nat :=
  let past := year - 1
  past * 365 + past / 4 - past / 100 + past / 400

def daysBeforeMonth (year month : Nat) : Nat := 
  ((monthLengths year).take (month - 1)).foldl (· + ·) 0

def dayOfYear (d : Date) : Nat := daysBeforeMonth d.year d.month + d.day

def dayNumber (d : Date) : Nat := daysBeforeYear d.year + d.dayOfYear

def weekday (d : Date) : Nat := (d.dayNumber + 6) % 7

def monthAndDay (month days : Nat) : List Nat → Nat × Nat
  | [] => (month, days + 1)
  | length :: rest =>
      if days < length then (month, days + 1) else monthAndDay (month + 1) (days - length) rest

def ofDayNumber (number : Nat) : Date :=
  let days := number - 1
  let inCycle := days % 146097
  let centuries := min 3 (inCycle / 36524)
  let inCentury := inCycle - centuries * 36524
  let inLeapCycle := inCentury % 1461
  let years := min 3 (inLeapCycle / 365)
  let year := days / 146097 * 400 + centuries * 100 + inCentury / 1461 * 4 + years + 1
  let (month, day) := monthAndDay 1 (inLeapCycle - years * 365) (monthLengths year)
  ⟨year, month, day⟩

/-- The number of the Monday that begins the first week of a year, the week of its first
Thursday. -/
def firstMonday (year : Nat) : Nat :=
  let newYear := daysBeforeYear year + 1
  let past := (newYear + 6) % 7
  if past > 3 then newYear + 7 - past else newYear - past

/-- A year has a week of number 53 if it begins or ends on a Thursday. -/
def hasLongYear (year : Nat) : Bool :=
  let start := weekday ⟨year, 1, 1⟩
  start == 3 || (start == 2 && isLeap year)

def ofWeek? (year week day : Nat) : Option Date :=
  if 1 ≤ year && year ≤ 9999 && 1 ≤ week && (week ≤ 52 || (week == 53 && hasLongYear year)) &&
      1 ≤ day && day ≤ 7 then
    some (ofDayNumber (firstMonday year + (week - 1) * 7 + (day - 1)))
  else none

def week (d : Date) : Nat × Nat :=
  let number := d.dayNumber
  let year :=
    if number < firstMonday d.year then d.year - 1
    else if firstMonday (d.year + 1) ≤ number then d.year + 1
    else d.year
  (year, (number - firstMonday year) / 7 + 1)

end Date

end RecordFilter
