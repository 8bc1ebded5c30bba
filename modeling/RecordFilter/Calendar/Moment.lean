import RecordFilter.Calendar.Date

/-!
# Moments and timestamps

A moment is a date with a time of day, without a place on Earth.  A timestamp is a moment that may
come with an offset from universal time; it denotes the moment in universal time, if the calendar
has it.
-/

namespace RecordFilter

structure Moment where
  date : Date
  hour : Nat
  minute : Nat
  second : Nat
  microsecond : Nat
  deriving DecidableEq, Repr, Inhabited

namespace Moment

def midnight (d : Date) : Moment := ⟨d, 0, 0, 0, 0⟩

def isValid (m : Moment) : Bool :=
  m.date.isValid && m.hour < 24 && m.minute < 60 && m.second < 60 && m.microsecond < 1000000

def ticksPerDay : Nat := 86400000000

def ticks (m : Moment) : Nat :=
  ((m.date.dayNumber * 24 + m.hour) * 60 + m.minute) * 60000000 + m.second * 1000000 + m.microsecond

def ofTicks (n : Nat) : Moment :=
  let rest := n % ticksPerDay
  ⟨.ofDayNumber (n / ticksPerDay), rest / 3600000000, rest / 60000000 % 60, rest / 1000000 % 60,
    rest % 1000000⟩

def firstTick : Nat := ticks ⟨⟨1, 1, 1⟩, 0, 0, 0, 0⟩

def lastTick : Nat := ticks ⟨⟨9999, 12, 31⟩, 23, 59, 59, 999999⟩

protected def compare (a b : Moment) : Ordering := compare a.ticks b.ticks

end Moment

structure Timestamp where
  moment : Moment
  offset : Option Int
  deriving DecidableEq, Repr, Inhabited

namespace Timestamp

def instant (t : Timestamp) : Int := (t.moment.ticks : Int) - t.offset.getD 0

/-- The moment in universal time; a timestamp without an offset is taken to be given in it.  There
is none if the year leaves the calendar. -/
def universal? (t : Timestamp) : Option Moment :=
  match t.offset with
  | none => some t.moment
  | some _ =>
      if Moment.firstTick ≤ t.instant ∧ t.instant ≤ Moment.lastTick then
        some (.ofTicks t.instant.toNat)
      else none

end Timestamp

end RecordFilter
