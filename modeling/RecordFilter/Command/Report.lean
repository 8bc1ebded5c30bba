import RecordFilter.Calendar.Pattern
import RecordFilter.Command.Failure
import RecordFilter.Command.Invocation
import RecordFilter.Command.Result
import RecordFilter.Layout.Block
import RecordFilter.Resolver.Infer

/-!
# Showing results

On a terminal a result is shown as a table, a panel or a line of text, and an error with a title
and a hint where there is one.  Errors and warnings go to the second of the two outputs.
-/

namespace RecordFilter

open Layout

structure Printed where
  output : String
  errors : String
  deriving DecidableEq, Repr

/-! ## Cells -/

namespace Payload

def isPlain : Payload → Bool
  | text _ | int _ | float _ => true
  | _ => false

def countText (what unit : String) (count : Nat) : String :=
  what ++ " (" ++ String.ofList (Number.groupedDigits count) ++ " " ++ unit ++ ")"

def cellText : Payload → Except Fault String
  | null => .ok ""
  | timestamp t => .ok (t.format "%Y-%m-%d %H:%M:%S")
  | list items =>
      if items.all isPlain then (items.mapM plainText).map (", ".intercalate ·)
      else .ok (countText "list" "items" items.length)
  | record fields => .ok (countText "object" "keys" fields.length)
  | mapping entries => .ok (countText "object" "keys" entries.length)
  | p => p.plainText

end Payload

/-! ## Data -/

namespace Report

abbrev Shown := Except Fault Block

def rowsTable (columns : List String) (rows : List Payload) : Shown :=
  match rows, rows.mapM Payload.fields? with
  | [], _ => .ok (table ["result"] [["No results"]])
  | rows, none => do
      let cells ← rows.mapM Payload.cellText
      return table ["value"] (cells.map ([·]))
  | _, some records => do
      let columns := if columns.isEmpty then Schema.namesIn records else columns
      let cells ← records.mapM fun fields =>
        columns.mapM fun name => ((fields.lookup name).getD .null).cellText
      return table columns cells

def fieldsTable (fields : List (String × Payload)) : Shown := do
  let rows ← fields.mapM fun (name, p) => do
    let text ← p.cellText
    return [name, text]
  return table ["field", "value"] rows

def entryText (fields : List (String × Payload)) (name : String) : Except Fault String :=
  match fields.lookup name with
  | some p => p.plainText
  | none => .ok ""

def memberTexts : Payload → Except Fault (List String)
  | .text s => .ok (s.toList.map fun c => String.ofList [c])
  | p => ((p.items?).getD []).mapM Payload.plainText

def isTrueEntry (fields : List (String × Payload)) (name : String) : Bool :=
  ((fields.lookup name).map (·.isTruthy)).getD false

def checkPanel (fields : List (String × Payload)) : Shown := do
  let normalized ← entryText fields "normalized"
  let names ← memberTexts ((fields.lookup "fields").getD .null)
  let body :=
    if names.isEmpty then normalized
    else normalized ++ "\nFields: " ++ ", ".intercalate names
  let title := if isTrueEntry fields "compiled" then "Compiled" else "Parsed"
  return panel (some title) body

def footer (shown : Nat) (total : Option Int) : Block :=
  match total with
  | some total =>
      if total > shown then
        paragraph ("Showing " ++ String.ofList (Number.groupedDigits shown) ++ " of " ++
          String.ofList (Number.groupedDigits total.toNat) ++ " matches")
      else []
  | none => []

def recordBlock (command : String) (fields : List (String × Payload)) : Shown :=
  match command with
  | "version" => (entryText fields "version").map paragraph
  | "config path" => (entryText fields "path").map paragraph
  | "config init" =>
      (entryText fields "path").map fun path => panel none ("Initialized config at " ++ path)
  | "check" => checkPanel fields
  | _ => fieldsTable fields

def dataBlock (r : CommandResult) : Shown :=
  match r.data with
  | .record fields => recordBlock r.command fields
  | .list rows => do
      let block ← rowsTable (r.columns.getD []) rows
      return block ++ footer rows.length r.total
  | .null => .ok (panel none "OK")
  | p => p.plainText.map (panel none)

/-! ## Errors -/

def errorTitle (typeName : String) : String :=
  let name := String.ofList (Text.trim typeName.toList)
  ((FailureType.ofName? name).map (·.title)).getD "Error"

/-- A number from a document; a truth value counts as one or zero. -/
def position? : Json → Option Int
  | .int n => some n
  | .bool b => some (if b then 1 else 0)
  | _ => none

def caretBlock (details : List (String × Json)) : Block :=
  match details.lookup "expression", (details.lookup "position").bind position? with
  | some (.string expression), some position =>
      let column := min position.toNat expression.length
      paragraph ("  " ++ expression ++ "\n  " ++ String.ofList (spaces column) ++ "^")
  | _, _ => []

def detailsPanel (details : List (String × Json)) : Shown :=
  if details.isEmpty then .ok []
  else ((Json.object details).indented 0).map (panel none)

def hintBlock (hint : Option String) : Block :=
  match hint with
  | none | some "" => []
  | some hint => paragraph ("Hint: " ++ hint)

def usageHint (command : String) : Block :=
  paragraph ("Hint: run `filterexpr " ++ command ++ " --help`")

def errorDetails (command : String) (verbosity : Nat) (e : ErrorReport) : Shown := do
  let hint := hintBlock e.hint
  let details := e.details.getD []
  match FailureType.ofName? e.type with
  | some .parse => return hint ++ caretBlock details
  | some .compile => return hint
  | some .usage =>
      let hint := if hint.isEmpty then usageHint command else hint
      if verbosity ≥ 1 then return hint ++ (← detailsPanel details) else return hint
  | _ => if verbosity ≥ 2 then return hint ++ (← detailsPanel details) else return hint

def errorBlock (quiet : Bool) (verbosity : Nat) (command : String) : Option ErrorReport → Shown
  | none => .ok (paragraph "Error")
  | some e => do
      let head := paragraph (errorTitle e.type ++ ": " ++ e.message)
      if quiet then return head else return head ++ (← errorDetails command verbosity e)

end Report

namespace CommandResult

def print (r : CommandResult) (form : OutputForm) (quiet : Bool) (verbosity : Nat) :
    Except Fault Printed :=
  match form with
  | .json => r.document.compact.map fun line => ⟨line ++ "\n", ""⟩
  | .table =>
      if r.isOk then (Report.dataBlock r).map fun block => ⟨blockText block, ""⟩
      else (Report.errorBlock quiet verbosity r.command r.error).map fun block =>
        ⟨"", blockText block⟩

def printWarnings (r : CommandResult) (form : OutputForm) (quiet : Bool) : String :=
  match form with
  | .json => ""
  | .table =>
      if quiet then ""
      else blockText (r.warnings.flatMap fun warning => paragraph ("Warning: " ++ warning))

end CommandResult

end RecordFilter
