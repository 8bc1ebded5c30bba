import RecordFilter.Csv.Writer
import RecordFilter.Records.Basic
import RecordFilter.Text.Utf8

/-!
# Writing records

Records are written as a table of separated values, with the text of each cell as text search sees
it.  A field that a record does not have gives an empty cell.
-/

namespace RecordFilter

def cellTexts : List (String × Payload) → Except Fault (List (String × String))
  | [] => .ok []
  | (name, p) :: cells => do
      let text ← p.displayed
      let texts ← cellTexts cells
      return (name, text) :: texts

def exportRow (columns : List String) (row : Row) : Except Fault (List String) := do
  let texts ← cellTexts row.entries
  return columns.map fun name => (texts.lookup name).getD ""

inductive ExportProblem
  | fault (f : Fault)
  | unencodable (e : Text.EncodeError)
  deriving DecidableEq, Repr

def lineBytes (cells : List String) : Except ExportProblem (List Nat) :=
  (Text.encodeWhole (Csv.lineText cells)).mapError .unencodable

def rowBytes (columns : List String) (row : Row) : Except ExportProblem (List Nat) := do
  let cells ← (exportRow columns row).mapError .fault
  lineBytes cells

/-- What was written of a table before a problem, if there was one. -/
structure Exported where
  bytes : List Nat
  problem : Option ExportProblem
  deriving DecidableEq, Repr

/-- Writes lines until there is a problem with one. -/
def exportLines : List (Except ExportProblem (List Nat)) → Exported
  | [] => ⟨[], none⟩
  | .error problem :: _ => ⟨[], some problem⟩
  | .ok bytes :: lines =>
      let rest := exportLines lines
      ⟨bytes ++ rest.bytes, rest.problem⟩

def exportTable (columns : List String) (rows : List Row) : Exported :=
  exportLines (lineBytes columns :: rows.map (rowBytes columns))

end RecordFilter
