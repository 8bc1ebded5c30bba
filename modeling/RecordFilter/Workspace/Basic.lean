import RecordFilter.Text.Quoted
import RecordFilter.Workspace.Path

/-!
# Files and folders

A workspace is the part of a file system that a command can see: files with their bytes, folders,
and the folder the command runs in.  A place is given by the names on the way from the root.
Whatever has something in it is a folder.
-/

namespace RecordFilter

abbrev Place := List String

structure Workspace where
  location : Place
  folders : List Place
  files : List (Place × List Nat)
  deriving DecidableEq, Repr

inductive FileProblem
  | missing
  | notFolder
  | isFolder
  | isFile
  deriving DecidableEq, Repr

structure FileError where
  problem : FileProblem
  path : Path
  deriving DecidableEq, Repr

namespace FileError

def message (e : FileError) : String :=
  let quoted := Text.quote e.path.text
  match e.problem with
  | .missing => "File not found: " ++ e.path.text
  | .notFolder => "[Errno 20] Not a directory: " ++ quoted
  | .isFolder => "[Errno 21] Is a directory: " ++ quoted
  | .isFile => "[Errno 17] File exists: " ++ quoted

end FileError

namespace Workspace

def fileAt? (w : Workspace) (place : Place) : Option (List Nat) := w.files.lookup place

def isFolderAt (w : Workspace) (place : Place) : Bool :=
  place.isPrefixOf w.location || w.folders.any place.isPrefixOf ||
    w.files.any fun file => place.isPrefixOf file.1.dropLast

def walk (w : Workspace) (place : Place) : List String → Except FileProblem Place
  | [] => .ok place
  | name :: rest =>
      if (w.fileAt? place).isSome then .error .notFolder
      else if !w.isFolderAt place then .error .missing
      else if name == Path.above then
        w.walk (if place.length ≤ 1 then place else place.dropLast) rest
      else w.walk (place ++ [name]) rest

def resolve (w : Workspace) (p : Path) : Except FileProblem Place :=
  w.walk (if p.isAbsolute then [""] else w.location) p.parts

def isFolder (w : Workspace) (p : Path) : Bool :=
  match w.resolve p with
  | .ok place => w.isFolderAt place
  | .error _ => false

def isPresent (w : Workspace) (p : Path) : Bool :=
  match w.resolve p with
  | .ok place => (w.fileAt? place).isSome || w.isFolderAt place
  | .error _ => false

/-! ## Reading and writing -/

def read (w : Workspace) (p : Path) : Except FileError (List Nat) :=
  match w.resolve p with
  | .error problem => .error ⟨problem, p⟩
  | .ok place =>
      match w.fileAt? place with
      | some bytes => .ok bytes
      | none => .error ⟨if w.isFolderAt place then .isFolder else .missing, p⟩

def putFile (w : Workspace) (place : Place) (bytes : List Nat) : Workspace :=
  { w with files := w.files.filter (·.1 != place) ++ [(place, bytes)] }

/-- Gives a file its content, in a folder that is there. -/
def write (w : Workspace) (p : Path) (bytes : List Nat) : Except FileError Workspace :=
  match w.resolve p with
  | .error problem => .error ⟨problem, p⟩
  | .ok place =>
      if w.isFolderAt place then .error ⟨.isFolder, p⟩
      else if (w.fileAt? place).isNone && !w.isFolderAt place.dropLast then .error ⟨.missing, p⟩
      else .ok (w.putFile place bytes)

def makeFolder (w : Workspace) (p : Path) : Except FileError Workspace :=
  match w.resolve p with
  | .error problem => .error ⟨problem, p⟩
  | .ok place =>
      if w.isFolderAt place then .ok w
      else if (w.fileAt? place).isSome then .error ⟨.isFile, p⟩
      else if w.isFolderAt place.dropLast then .ok { w with folders := w.folders ++ [place] }
      else .error ⟨.missing, p⟩

/-- A workspace after something was done in it, as far as it could be done. -/
structure Change where
  after : Workspace
  problem : Option FileError

namespace Change

def of (w : Workspace) : Except FileError Workspace → Change
  | .ok after => ⟨after, none⟩
  | .error e => ⟨w, some e⟩

def andThen (c : Change) (next : Workspace → Except FileError Workspace) : Change :=
  match c.problem with
  | none => of c.after (next c.after)
  | some _ => c

def result (c : Change) : Except FileError Workspace :=
  match c.problem with
  | none => .ok c.after
  | some e => .error e

end Change

/-- Makes a folder and the folders on the way to it; `count` of the parts of its path are new at
most.  Folders that were made stay when a later one cannot be. -/
def makeFolders (count : Nat) (w : Workspace) (p : Path) : Change :=
  match w.makeFolder p, count with
  | .error ⟨.missing, _⟩, count + 1 => (makeFolders count w p.parent).andThen (·.makeFolder p)
  | result, _ => .of w result

def writeWithFolders (w : Workspace) (p : Path) (bytes : List Nat) : Change :=
  let folder := p.parent
  (makeFolders folder.parts.length w folder).andThen (·.write p bytes)

/-! ## Places as seen from the workspace -/

def placeText (place : Place) : String := "/".intercalate place

def wayTo : (start place : Place) → List String
  | a :: start, b :: place =>
      if a == b then wayTo start place
      else List.replicate (start.length + 1) Path.above ++ b :: place
  | start, place => List.replicate start.length Path.above ++ place

/-- The text of a place, seen from the folder one is in if the place is in it, and whether it is. -/
def reference (w : Workspace) (place : Place) : String × Bool :=
  if w.location.isPrefixOf place then (placeText (place.drop w.location.length), true)
  else (placeText place, false)

def changes (before after : Workspace) : List (List String × List Nat) :=
  (after.files.filter fun file => before.fileAt? file.1 != some file.2).map fun file =>
    (wayTo before.location file.1, file.2)

end Workspace

end RecordFilter
