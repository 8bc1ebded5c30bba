import RecordFilter.Json.Basic
import RecordFilter.Payload.Text
import RecordFilter.Text.Letter

/-!
# Records of a file

A file of records has columns and rows.  A row of a table of separated values may have more cells
than the header has names; they are kept apart, and are shown under a name of their own.
-/

namespace RecordFilter

structure Row where
  fields : List (String × Payload)
  surplus : List String

namespace Row

def record (r : Row) : Payload := .record r.fields

def surplusName : String := "None"

def entries (r : Row) : List (String × Payload) :=
  if r.surplus.isEmpty then r.fields
  else r.fields ++ [(surplusName, .list (r.surplus.map Payload.text))]

def shown (r : Row) : Payload := .record r.entries

end Row

inductive RecordFormat
  | json
  | jsonLines
  | csv
  deriving DecidableEq, Repr

namespace RecordFormat

def name : RecordFormat → String
  | json => "json"
  | jsonLines => "jsonl"
  | csv => "csv"

def ofName? (name : String) : Option RecordFormat := [json, jsonLines, csv].find? (·.name == name)

def ofSuffix (suffix : String) : RecordFormat :=
  match Text.lower suffix with
  | ".jsonl" | ".ndjson" => jsonLines
  | ".csv" => csv
  | _ => json

end RecordFormat

structure RecordTable where
  format : RecordFormat
  columns : List String
  rows : List Row

/-! ## Documents as payloads -/

namespace Json

mutual

def payload : Json → Payload
  | null => .null
  | bool b => .bool b
  | int n => .int n
  | float x => .float x
  | string s => .text s
  | array items => .list (itemPayloads items)
  | object members => .record (memberPayloads members)

def itemPayloads : List Json → List Payload
  | [] => []
  | item :: items => payload item :: itemPayloads items

def memberPayloads : List (String × Json) → List (String × Payload)
  | [] => []
  | (name, item) :: members => (name, payload item) :: memberPayloads members

end

end Json

end RecordFilter
