/-!
# Paths

A path names a file or a folder by the folders on the way to it, from the root or from the folder
one is in.  Two dots stand for the folder above; a single dot stands for nothing.
-/

namespace RecordFilter

structure Path where
  isAbsolute : Bool
  parts : List String
  deriving DecidableEq, Repr

namespace Path

def splitAtSlashes : List Char → List (List Char)
  | [] => [[]]
  | c :: rest =>
      match splitAtSlashes rest with
      | [] => [[c]]
      | piece :: pieces => if c == '/' then [] :: piece :: pieces else (c :: piece) :: pieces

def isNamed (part : String) : Bool := part != "" && part != "."

def ofString (text : String) : Path :=
  let parts := (splitAtSlashes text.toList).map String.ofList
  ⟨text.toList.head? == some '/', parts.filter isNamed⟩

def above : String := ".."

def text (p : Path) : String :=
  let joined := "/".intercalate p.parts
  if p.isAbsolute then "/" ++ joined else if p.parts.isEmpty then "." else joined

def parent (p : Path) : Path := { p with parts := p.parts.dropLast }

/-- The last part from its last dot on, unless the dot begins or ends it. -/
def suffix (p : Path) : String :=
  let name := (p.parts.getLastD "").toList
  let tail := (name.reverse.takeWhile (· != '.')).reverse
  if tail.isEmpty || name.length ≤ tail.length + 1 then "" else String.ofList ('.' :: tail)

end Path

end RecordFilter
