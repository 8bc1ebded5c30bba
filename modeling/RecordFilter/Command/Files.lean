import RecordFilter.Command.Libraries
import RecordFilter.Records.Export

/-!
# Files of commands

A command reads its configuration, a schema and records from files, and may write the records that
match.  Records come from the standard input unless an input is named.
-/

namespace RecordFilter

structure Environment where
  profile : Option String
  home : Option String
  standardInput : List Nat
  deriving DecidableEq, Repr

def readBytes (w : Workspace) (path : Path) : Except Failure (List Nat) :=
  (w.read path).mapError Failure.file

/-! ## Configuration -/

def configOfText (l : Libraries) (text : List Char) : Except Failure Config :=
  match Toml.read (String.ofList text) with
  | .error (.tooManyDigits count) => .error (.configDigits count)
  | .error (.malformed problem remaining) =>
      let place := Toml.placeText (Toml.withoutReturns text) remaining
      .error (.configText l.configPath problem place)
  | .ok entries => (l.readConfig entries).mapError (Failure.config l.configPath)

/-- The configuration of a workspace; it is empty if there is no file. -/
def loadConfig (l : Libraries) (w : Workspace) : Except Failure Config :=
  if w.isPresent l.configPath then do
    let bytes ← readBytes w l.configPath
    let text ← (Text.decode bytes).mapError (Failure.undecodable bytes)
    configOfText l text
  else .ok .empty

/-! ## Schemas -/

def loadSchema (l : Libraries) (w : Workspace) (path : Path) : Except Failure Schema := do
  let bytes ← readBytes w path
  let text ← (fileText true bytes).mapError (Failure.undecodable bytes)
  let document ← (readDocument (String.ofList text)).mapError Failure.schemaDocument
  (l.readSchema document).mapError (Failure.schema path)

def expandHome (home : Option String) (path : Path) : Path :=
  match home, path with
  | some home, ⟨false, "~" :: parts⟩ =>
      let base := Path.ofString home
      { base with parts := base.parts ++ parts }
  | _, path => path

def schemaPath (e : Environment) (profile : Profile) (chosen : Option String) : Option Path :=
  match chosen with
  | some path => some (.ofString path)
  | none => profile.schema.map (expandHome e.home)

/-! ## Records -/

def inputFile? (s : Selection) : Option String := s.input.filter (· != dash)

def sourceName (s : Selection) : String := (inputFile? s).getD "<stdin>"

def recordFormat (s : Selection) : RecordFormat :=
  match s.format, inputFile? s with
  | some format, _ => format
  | none, some file => .ofSuffix (Path.ofString file).suffix
  | none, none => .json

def inputText (e : Environment) (w : Workspace) (s : Selection) : Except Failure (List Char) :=
  match inputFile? s with
  | none => (fileText true e.standardInput).mapError (Failure.undecodable e.standardInput)
  | some file => do
      let bytes ← readBytes w (.ofString file)
      (fileText false bytes).mapError (Failure.undecodable (Text.withoutMark bytes))

def loadTable (e : Environment) (w : Workspace) (s : Selection) : Except Failure RecordTable := do
  let text ← inputText e w s
  (loadRecords (recordFormat s) text).mapError (Failure.records (sourceName s))

def resolverFor (l : Libraries) (w : Workspace) (path : Option Path) (t : RecordTable) :
    Except Failure Resolver := do
  let schema ←
    match path with
    | some path => loadSchema l w path
    | none => t.schema.mapError Failure.fault
  return schema.resolver .byName

namespace ExportProblem

def failure : ExportProblem → Failure
  | fault f => .fault f
  | unencodable e => .unencodable e

end ExportProblem

def writeExport (w : Workspace) (file : String) (columns : List String) (rows : List Row) :
    Except Failure (Workspace × Artifact) := do
  let path := Path.ofString file
  let exported := exportTable columns rows
  let after ← (w.writeWithFolders path exported.bytes).result.mapError Failure.file
  match exported.problem with
  | some problem => throw problem.failure
  | none =>
      let place ← (after.resolve path).mapError fun problem => Failure.file ⟨problem, path⟩
      let (reference, isRelative) := after.reference place
      return (after, ⟨"csv", reference, isRelative, rows.length, exported.bytes.length⟩)

/-- The workspace after rows were written to a file, as far as they can be, whether or not there was
a problem with one. -/
def afterExport (w : Workspace) (file : String) (columns : List String) (rows : List Row) :
    Workspace :=
  (w.writeWithFolders (.ofString file) (exportTable columns rows).bytes).after

end RecordFilter
