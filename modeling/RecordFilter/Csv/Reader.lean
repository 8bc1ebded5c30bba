/-!
# Reading tables of separated values

Cells are separated by commas and rows end with a line.  A cell between double quotes may hold
commas and ends of lines, and a quote written twice; whatever follows its closing quote belongs to
the cell as it stands.  A cell that is not closed extends to the end of the text.
-/

namespace RecordFilter.Csv

def cellLimit : Nat := 131072

inductive ReadError
  | cellTooLong
  deriving DecidableEq, Repr

namespace ReadError

def message : ReadError → String
  | cellTooLong => "field larger than field limit (" ++ toString cellLimit ++ ")"

end ReadError

inductive Phase
  | rowStart
  | afterReturn
  | cellStart
  | plain
  | quoted
  | quoteSeen
  deriving DecidableEq, Repr

/-- The cell and the row that are being read, both from the back, and the length of the cell. -/
structure State where
  phase : Phase
  cell : List Char
  length : Nat
  row : List String
  deriving DecidableEq, Repr

namespace State

def initial : State := ⟨.rowStart, [], 0, []⟩

def enter (s : State) (phase : Phase) : State := { s with phase := phase }

def add (s : State) (c : Char) (phase : Phase) : Except ReadError State :=
  if s.length < cellLimit then .ok ⟨phase, c :: s.cell, s.length + 1, s.row⟩
  else .error .cellTooLong

def save (s : State) : State :=
  ⟨.cellStart, [], 0, String.ofList s.cell.reverse :: s.row⟩

def finish (s : State) : List String :=
  match s.phase with
  | .rowStart | .afterReturn => []
  | _ => s.save.row.reverse

end State

def isNewline (c : Char) : Bool := c == '\n' || c == '\r'

def newlinePhase (c : Char) : Phase := if c == '\r' then .afterReturn else .rowStart

def stepUnquoted (s : State) (c : Char) : Except ReadError (State × Option (List String)) :=
  if isNewline c then .ok (State.initial.enter (newlinePhase c), some s.finish)
  else if c == ',' then .ok (s.save, none)
  else (s.add c .plain).map fun s => (s, none)

def step (s : State) (c : Char) : Except ReadError (State × Option (List String)) :=
  match s.phase with
  | .afterReturn | .rowStart | .cellStart =>
      if c == '"' then .ok (s.enter .quoted, none)
      else if c == '\n' && s.phase = .afterReturn then .ok (s.enter .rowStart, none)
      else stepUnquoted s c
  | .plain => stepUnquoted s c
  | .quoted =>
      if c == '"' then .ok (s.enter .quoteSeen, none)
      else (s.add c .quoted).map fun s => (s, none)
  | .quoteSeen =>
      if c == '"' then (s.add c .quoted).map fun s => (s, none) else stepUnquoted s c

def rowsFrom (s : State) : List Char → Except ReadError (List (List String))
  | [] =>
      match s.phase with
      | .rowStart | .afterReturn => .ok []
      | _ => .ok [s.finish]
  | c :: rest => do
      let (s, row) ← step s c
      let rows ← rowsFrom s rest
      return row.toList ++ rows

/-- The rows of a text; a blank line is a row without cells. -/
def rows (text : List Char) : Except ReadError (List (List String)) := rowsFrom .initial text

end RecordFilter.Csv
