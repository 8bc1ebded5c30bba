import RecordFilter.Csv.Reader
import RecordFilter.Json.Reader
import RecordFilter.Records.Basic
import RecordFilter.Resolver.Infer
import RecordFilter.Text.Lines
import RecordFilter.Text.Utf8

/-!
# Reading records

A file holds its records as a document, as a document on each line, or as a table of separated
values.  A document is a list of objects, or an object with such a list under the name `records`.
The columns are the names in the header of a table, or else those of all records in the order in
which they come up.
-/

namespace RecordFilter

open Text

inductive RecordProblem
  | malformed (problem : JsonProblem) (line column : Nat)
  | tooManyDigits (count : Nat)
  | separatedValues (e : Csv.ReadError)
  | notList
  | notObject (index : Nat) (typeName : String)
  deriving DecidableEq, Repr

namespace RecordProblem

def ofJson (text : String) : JsonFailure → RecordProblem
  | .malformed problem remaining =>
      let (line, column) := Json.place text remaining
      malformed problem line column
  | .tooManyDigits count => tooManyDigits count

end RecordProblem

def readDocument (text : String) : Except RecordProblem Json :=
  match Json.read text with
  | .ok document => .ok document
  | .error failure => .error (.ofJson text failure)

/-! ## Text of files -/

/-- The text of a file.  A mark of the order of bytes in front does not count, unless it is to be
kept; all lines end with a line feed. -/
def fileText (keepsMark : Bool) (bytes : List Nat) : Except Utf8Error (List Char) :=
  (decode (if keepsMark then bytes else withoutMark bytes)).map normalizeNewlines

/-! ## Objects -/

def rowsOfObjects (index : Nat) : List Json → Except RecordProblem (List Row)
  | [] => .ok []
  | .object members :: items => do
      let rows ← rowsOfObjects (index + 1) items
      return ⟨Json.memberPayloads members, []⟩ :: rows
  | item :: _ => .error (.notObject index item.payload.typeName)

def fieldNamesOf (rows : List Row) : List String := Schema.namesIn (rows.map (·.fields))

def tableOfObjects (format : RecordFormat) (items : List Json) :
    Except RecordProblem RecordTable := do
  let rows ← rowsOfObjects 0 items
  return ⟨format, fieldNamesOf rows, rows⟩

def recordsOf : Json → Except RecordProblem (List Json)
  | .array items => .ok items
  | .object members =>
      match members.lookup "records" with
      | some (.array items) => .ok items
      | _ => .error .notList
  | _ => .error .notList

def loadDocument (text : List Char) : Except RecordProblem RecordTable := do
  let document ← if isBlankText text then .ok (.array []) else readDocument (String.ofList text)
  let items ← recordsOf document
  tableOfObjects .json items

def loadLines (text : List Char) : Except RecordProblem RecordTable := do
  let lines := (splitLines text).filter (!isBlankText ·)
  let items ← lines.mapM fun line => readDocument (String.ofList line)
  tableOfObjects .jsonLines items

/-! ## Tables -/

/-- A row of cells under the names of a header.  Missing cells are Null, and of two cells under
one name the last counts. -/
def rowOfCells (header cells : List String) : Row :=
  let present := (header.zip cells).map fun (name, cell) => (name, Payload.text cell)
  let absent := (header.drop cells.length).map fun name => (name, Payload.null)
  ⟨distinctFields (present ++ absent), cells.drop header.length⟩

/-- A table from its header on; blank rows do not count. -/
def tableOfRows : List (List String) → RecordTable
  | [] => ⟨.csv, [], []⟩
  | header :: rows =>
      ⟨.csv, header, (rows.filter (!·.isEmpty)).map (rowOfCells header)⟩

def loadSeparated (text : List Char) : Except RecordProblem RecordTable :=
  match Csv.rows text with
  | .ok rows => .ok (tableOfRows rows)
  | .error e => .error (.separatedValues e)

def loadRecords : RecordFormat → List Char → Except RecordProblem RecordTable
  | .json => loadDocument
  | .jsonLines => loadLines
  | .csv => loadSeparated

namespace RecordTable

def schema (t : RecordTable) : Except Fault Schema :=
  Schema.infer (t.format = .csv) (t.rows.map Row.shown)

end RecordTable

end RecordFilter
