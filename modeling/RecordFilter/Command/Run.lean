import RecordFilter.Command.Files
import RecordFilter.Search

/-!
# Running commands

A command is run in a workspace, with its settings and under a profile.  It ends with a status,
with what it prints, and with the workspace as it is then.
-/

namespace RecordFilter

structure Delivery where
  data : Payload
  artifacts : List Artifact
  columns : Option (List String)
  total : Option Int
  workspace : Workspace

/-- The warnings of a command, what it gives, and the workspace that it leaves if it fails. -/
structure Attempt where
  warnings : List String
  result : Except Failure Delivery
  remains : Workspace

namespace Attempt

def quietly (w : Workspace) (result : Except Failure Delivery) : Attempt := ⟨[], result, w⟩

end Attempt

namespace Delivery

def ofData (w : Workspace) (fields : List (String × Payload)) : Delivery :=
  ⟨.record fields, [], none, none, w⟩

end Delivery

/-! ## Settings of a session -/

def present (text : Option String) : Option String := text.filter (· != "")

def profileName (e : Environment) (settings : Settings) : String :=
  ((present settings.profile).orElse fun _ => present e.profile).getD Config.standardName

/-! ## Matches -/

/-- At most as many matches as the limit says; no limit and a limit of zero show them all. -/
def limited (limit : Option Nat) (rows : List Row) : List Row :=
  match limit with
  | none | some 0 => rows
  | some limit => rows.take limit

def limitOf (profile : Profile) (chosen : Option Int) : Except Failure (Option Nat) :=
  match chosen with
  | none => .ok profile.limit
  | some (.ofNat limit) => .ok (some limit)
  | some (.negSucc _) => .error .negativeLimit

def deliver (w : Workspace) (profile : Profile) (s : Selection) (columns : List String)
    (rows : List Row) : Except Failure Delivery := do
  let limit ← limitOf profile s.limit
  let shown := limited limit rows
  match s.csv with
  | none => return ⟨.list (shown.map Row.shown), [], some columns, some rows.length, w⟩
  | some file =>
      let (after, artifact) ← writeExport w file columns shown
      let data : Payload :=
        .record [("csv", .text artifact.path), ("rowsWritten", .int artifact.rowsWritten)]
      return ⟨data, [artifact], none, some rows.length, after⟩

/-- The workspace after matches were delivered, as far as they can be. -/
def afterDelivery (w : Workspace) (profile : Profile) (s : Selection) (columns : List String)
    (rows : List Row) : Workspace :=
  match limitOf profile s.limit, s.csv with
  | .ok limit, some file => afterExport w file columns (limited limit rows)
  | _, _ => w

/-! ## Commands -/

def version : String := "0.3.0"

def runVersion (w : Workspace) : Except Failure Delivery :=
  .ok (.ofData w [("version", .text version), ("pythonVersion", .text ""), ("platform", .text "")])

def runConfigPath (l : Libraries) (w : Workspace) : Except Failure Delivery :=
  .ok (.ofData w [("path", .text l.configPath.text), ("exists", .bool (w.isPresent l.configPath))])

def runConfigInit (l : Libraries) (w : Workspace) (force : Bool) : Attempt :=
  let isPresent := w.isPresent l.configPath
  if isPresent && !force then .quietly w (.error (.configPresent l.configPath))
  else
    let change := w.writeWithFolders l.configPath (Text.encode configTemplate.toList)
    .quietly change.after <| (change.result.mapError Failure.file).map fun after =>
      .ofData after [("path", .text l.configPath.text), ("created", .bool true),
        ("overwritten", .bool isPresent)]

def runConfigShow (w : Workspace) (name : String) (profile : Profile) : Except Failure Delivery :=
  let optional {α : Type} (payload : α → Payload) (a : Option α) : Payload :=
    (a.map payload).getD .null
  .ok (.ofData w [("profile", .text name),
    ("output", optional (fun form => .text form.name) profile.output),
    ("schema", optional (fun path => .text path.text) profile.schema),
    ("search_fields", optional (fun names => .list (names.map Payload.text)) profile.searchFields),
    ("limit", optional (fun limit => .int limit) profile.limit)])

def checkResolver (l : Libraries) (w : Workspace) (path : Option Path) :
    Except Failure (Option Resolver) :=
  match path with
  | none => .ok none
  | some path => (loadSchema l w path).map fun schema => some (schema.resolver .byName)

def runCheck (l : Libraries) (w : Workspace) (expression : String) (path : Option Path) :
    Except Failure Delivery := do
  let r ← checkResolver l w path
  let result ← (check expression r).mapError Failure.fault
  match result.error, result.expr with
  | some e, _ => throw (.filter e)
  | none, some tree =>
      let normalized ← (tree.print .standard).mapError Failure.print
      return .ofData w [("expression", .text expression), ("normalized", .text normalized),
        ("fields", .list (result.fields.map Payload.text)), ("compiled", .bool r.isSome)]
  | none, none => return .ofData w []

def queryFailure : QueryFailure → Failure
  | .filter e => .filter e
  | .fault f => .fault f

def filterMatches (l : Libraries) (e : Environment) (w : Workspace) (profile : Profile)
    (expression : String) (s : Selection) : Except Failure (RecordTable × List Row) := do
  let t ← loadTable e w s
  let r ← resolverFor l w (schemaPath e profile s.schema) t
  let p ← ((Filter.text expression).compile r).mapError queryFailure
  let rows ← (p.filter Row.record t.rows).mapError Failure.fault
  return (t, rows)

def emptyWarning : String := "Input contained no records."

def runFilter (l : Libraries) (e : Environment) (w : Workspace) (profile : Profile)
    (expression : String) (s : Selection) : Attempt :=
  match filterMatches l e w profile expression s with
  | .error failure => .quietly w (.error failure)
  | .ok (t, rows) =>
      ⟨if t.rows.isEmpty then [emptyWarning] else [], deliver w profile s t.columns rows,
        afterDelivery w profile s t.columns rows⟩

def searchBasis (l : Libraries) (e : Environment) (w : Workspace) (profile : Profile)
    (s : Selection) : Except Failure (RecordTable × Resolver) := do
  let t ← loadTable e w s
  let r ← resolverFor l w (schemaPath e profile s.schema) t
  return (t, r)

def searchFields (profile : Profile) (named : List String) : List String :=
  if named.isEmpty then profile.searchFields.getD [] else named

def unknownWarning (r : Resolver) (names : List String) : List String :=
  let unknown := names.filter fun name => (r.canonical? name).isNone
  if unknown.isEmpty then [] else ["Unknown search fields ignored: " ++ ", ".intercalate unknown]

def runSearch (l : Libraries) (e : Environment) (w : Workspace) (profile : Profile)
    (text : String) (named : List String) (s : Selection) : Attempt :=
  match searchBasis l e w profile s with
  | .error failure => .quietly w (.error failure)
  | .ok (t, r) =>
      let names := searchFields profile named
      let warnings := unknownWarning r names
      match searchText r (some text) names Row.record t.rows with
      | .error f => ⟨warnings, .error (.fault f), w⟩
      | .ok rows =>
          ⟨warnings, deliver w profile s t.columns rows, afterDelivery w profile s t.columns rows⟩

def runWith (l : Libraries) (e : Environment) (w : Workspace) (settings : Settings)
    (profile : Profile) : Command → Attempt
  | .version => .quietly w (runVersion w)
  | .configPath => .quietly w (runConfigPath l w)
  | .configInit force => runConfigInit l w force
  | .configShow => .quietly w (runConfigShow w (profileName e settings) profile)
  | .check expression schema => .quietly w (runCheck l w expression (schemaPath e profile schema))
  | .filter expression s => runFilter l e w profile expression s
  | .search text fields s => runSearch l e w profile text fields s

/-! ## The end of a command -/

structure Ending where
  status : Nat
  printed : Printed
  workspace : Workspace
  deriving DecidableEq, Repr

def successResult (settings : Settings) (label : String) (warnings : List String) (d : Delivery) :
    CommandResult :=
  ⟨true, label, d.data, d.artifacts, warnings, settings.profile, d.columns, d.total, none⟩

def failureResult (settings : Settings) (label : String) (warnings : List String)
    (failure : Failure) : CommandResult :=
  let details := failure.details settings.verbosity
  let report : ErrorReport :=
    ⟨failure.type.name, failure.message, none, if details.isEmpty then none else some details⟩
  ⟨false, label, .null, [], warnings, settings.profile, none, none, some report⟩

/-- A failure ends a command with its status; what cannot even be reported is a failure of the
program. -/
def finishFailure (l : Libraries) (settings : Settings) (form : OutputForm) (label : String)
    (w : Workspace) (warnings : List String) (failure : Failure) : Ending :=
  match l.print settings form (failureResult settings label warnings failure) with
  | .ok p => ⟨failure.type.exitCode, p, w⟩
  | .error _ => ⟨FailureType.internal.exitCode, ⟨"", ""⟩, w⟩

def finish (l : Libraries) (settings : Settings) (form : OutputForm) (label : String)
    (attempt : Attempt) : Ending :=
  match attempt.result with
  | .error failure => finishFailure l settings form label attempt.remains attempt.warnings failure
  | .ok d =>
      match l.print settings form (successResult settings label attempt.warnings d) with
      | .ok p => ⟨0, p, d.workspace⟩
      | .error failure =>
          finishFailure l settings form label d.workspace attempt.warnings failure

/-- Runs a command under its profile.  A new configuration file can be written whatever the old one
holds. -/
def runCommand (l : Libraries) (e : Environment) (w : Workspace) (settings : Settings)
    (command : Command) : Ending :=
  let label := command.name.label
  let form (profile : Profile) : OutputForm :=
    (settings.output.orElse fun _ => profile.output).getD .table
  match command, loadConfig l w with
  | .configInit _, _ =>
      finish l settings (form .empty) label (runWith l e w settings .empty command)
  | _, .error failure => finishFailure l settings (form .empty) label w [] failure
  | _, .ok config =>
      let profile := config.profile (profileName e settings)
      finish l settings (form profile) label (runWith l e w settings profile command)

end RecordFilter
