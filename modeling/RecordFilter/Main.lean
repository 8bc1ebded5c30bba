import RecordFilter.Command.Line

/-!
# The program

The files that a command line can refer to are brought into a workspace, the command runs in it,
and what it has changed is written back.
-/

namespace RecordFilter.Program

def stages (p : Path) : List Path :=
  (List.range (p.parts.length + 1)).map fun count => { p with parts := p.parts.take count }

def pathsOfArgument (argument : String) : List Path :=
  let (name, value) := splitAtEquals argument.toList
  Path.ofString (String.ofList name) ::
    (value.map fun value => Path.ofString (String.ofList value)).toList

def pathsOfConfig (home : Option String) (c : Config) : List Path :=
  (c.standard :: c.profiles.map (·.2)).filterMap fun profile =>
    profile.schema.map (expandHome home)

def observe (w : Workspace) (p : Path) : IO Workspace := do
  let here ← IO.currentDir
  let path := here / p.text
  match w.resolve p with
  | .error _ => return w
  | .ok place =>
      if ← path.isDir then return { w with folders := w.folders ++ [place] }
      else if ← path.pathExists then
        let bytes ← IO.FS.readBinFile path
        return w.putFile place (bytes.toList.map UInt8.toNat)
      else return w

def observeAll (w : Workspace) (paths : List Path) : IO Workspace :=
  (paths.flatMap stages).foldlM observe w

partial def readStream (stream : IO.FS.Stream) (found : ByteArray) : IO ByteArray := do
  let bytes ← stream.read 65536
  if bytes.isEmpty then return found else readStream stream (found ++ bytes)

def standardInput (line : CommandLine) : IO (List Nat) := do
  if line.readsStandardInput then
    let bytes ← readStream (← IO.getStdin) .empty
    return bytes.toList.map UInt8.toNat
  else return []

def bytesOf (content : List Nat) : ByteArray := ⟨(content.map UInt8.ofNat).toArray⟩

def save (before after : Workspace) : IO Unit := do
  for folder in after.folders do
    if !before.isFolderAt folder then IO.FS.createDirAll (Workspace.placeText folder)
  for (place, content) in after.files do
    if before.fileAt? place != some content then
      IO.FS.createDirAll (Workspace.placeText place.dropLast)
      IO.FS.writeBinFile (Workspace.placeText place) (bytesOf content)

def usageLine : String := "Usage: filterexpr [OPTIONS] COMMAND [ARGS]...\n"

def libraries : Libraries := Libraries.standard.toBytes

def run (args : List String) : IO UInt32 := do
  let here ← IO.currentDir
  let home ← IO.getEnv "HOME"
  let profile ← IO.getEnv "FILTEREXPR_PROFILE"
  let start : Workspace := ⟨(Path.splitAtSlashes here.toString.toList).map String.ofList, [], []⟩
  let paths := libraries.configPath :: standardLog :: args.flatMap pathsOfArgument
  let before ← observeAll start paths
  let config := ((loadConfig libraries before).toOption).getD .empty
  let before ← observeAll before (pathsOfConfig home config)
  match CommandLine.read before args with
  | .misused problem =>
      IO.eprint (usageLine ++ "Error: " ++ problem.message ++ "\n")
      return 2
  | .inquiry .help =>
      IO.print usageLine
      return 0
  | .inquiry .version =>
      IO.print versionLine
      return 0
  | .command settings command w =>
      let input ← standardInput (.command settings command w)
      let ending := runCommand libraries ⟨profile, home, input⟩ w settings command
      save before ending.workspace
      IO.print ending.printed.output
      IO.eprint ending.printed.errors
      return UInt32.ofNat ending.status

end RecordFilter.Program

def main (args : List String) : IO UInt32 := RecordFilter.Program.run args
