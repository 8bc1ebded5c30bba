import RecordFilter.Json.Reader
import RecordFilter.Payload.Text

/-!
# Results of commands

A command gives data, or an error, together with warnings and with what it has written.  A result
is passed on as one document, whose members come in a fixed order.
-/

namespace RecordFilter

structure Artifact where
  type : String
  path : String
  pathIsRelative : Bool
  rowsWritten : Nat
  bytesWritten : Nat
  deriving DecidableEq, Repr

structure ErrorReport where
  type : String
  message : String
  hint : Option String
  details : Option (List (String × Json))

structure CommandResult where
  isOk : Bool
  command : String
  data : Payload
  artifacts : List Artifact
  warnings : List String
  profile : Option String
  columns : Option (List String)
  total : Option Int
  error : Option ErrorReport

/-! ## Documents -/

namespace Timestamp

def documentText (t : Timestamp) : String :=
  if t.offset = some 0 then
    String.ofList (Timestamp.text 'T' { t with offset := none } ++ ['Z'])
  else String.ofList (t.text 'T')

end Timestamp

namespace Payload

mutual

/-- A payload as part of a result.  What is no finite number becomes null. -/
def resultDocument : Payload → Json
  | null => .null
  | bool b => .bool b
  | int n => .int n
  | float x =>
      match x with
      | .nonFinite _ => .null
      | x => .float x
  | decimal d => .string d.scientific
  | irregular x => .string x.text
  | signaling => .string signalingText
  | text s => .string s
  | timestamp t => .string t.documentText
  | date d => .string (String.ofList d.text)
  | list items | tuple items | set _ items => .array (itemResults items)
  | record fields | object fields => .object (Json.distinctMembers (fieldResults fields))
  | mapping entries => .object (Json.distinctMembers (entryResults entries))
  | foreign s => .string s
  | value kind raw => .object [("kind", .string kind.name), ("raw", resultDocument raw)]

def itemResults : List Payload → List Json
  | [] => []
  | item :: items => resultDocument item :: itemResults items

def fieldResults : List (String × Payload) → List (String × Json)
  | [] => []
  | (name, item) :: fields => (name, resultDocument item) :: fieldResults fields

def entryResults : List (Payload × Payload) → List (String × Json)
  | [] => []
  | (key, item) :: entries =>
      (key.plainText.toOption.getD "", resultDocument item) :: entryResults entries

end

end Payload

namespace Json

def optional {α : Type} (document : α → Json) (a : Option α) : Json := (a.map document).getD .null

def strings (texts : List String) : Json := .array (texts.map Json.string)

end Json

namespace Artifact

def document (a : Artifact) : Json :=
  .object [("type", .string a.type), ("path", .string a.path),
    ("pathIsRelative", .bool a.pathIsRelative), ("rowsWritten", .int a.rowsWritten),
    ("bytesWritten", .int a.bytesWritten)]

end Artifact

namespace ErrorReport

def document (e : ErrorReport) : Json :=
  .object [("type", .string e.type), ("message", .string e.message),
    ("hint", .optional Json.string e.hint), ("details", .optional Json.object e.details)]

end ErrorReport

namespace CommandResult

/-- The document of a result; how long the command took is not measured. -/
def document (r : CommandResult) : Json :=
  let about : Json :=
    .object [("durationMs", .int 0), ("profile", .optional Json.string r.profile),
      ("columns", .optional Json.strings r.columns), ("total", .optional Json.int r.total)]
  .object [("ok", .bool r.isOk), ("command", .string r.command), ("data", r.data.resultDocument),
    ("artifacts", .array (r.artifacts.map Artifact.document)), ("warnings", .strings r.warnings),
    ("meta", about), ("error", .optional ErrorReport.document r.error)]

end CommandResult

end RecordFilter
