import RecordFilter.Calendar.Moment
import RecordFilter.Number.Binary64
import RecordFilter.Parsed
import RecordFilter.Text.Quoted

/-!
# Configuration documents

A document is a table of named values, which may be tables themselves.  What is wrong with a
text that is no document is told together with the place in it.
-/

namespace RecordFilter

open Number Text

inductive Toml
  | string (s : String)
  | int (n : Int)
  | float (x : Binary64)
  | bool (b : Bool)
  | timestamp (t : Timestamp)
  | date (d : Date)
  | time (hour minute second microsecond : Nat)
  | array (items : List Toml)
  | table (entries : List (String × Toml))
  deriving Inhabited

inductive TomlProblem
  | statement
  | statementEnd
  | expected (mark : String)
  | invalidCharacter (c : Char)
  | illegalCharacter (c : Char)
  | declaredTwice (key : List String)
  | overwrite
  | tableEnd
  | tableArrayEnd
  | immutable (key : List String)
  | redefined (key : List String)
  | equalsSign
  | keyStart
  | unclosedArray
  | unclosedTable
  | duplicateKey (name : String)
  | backslash
  | hexValue
  | scalarValue
  | unclosedString
  | date
  | value
  deriving DecidableEq, Repr

namespace TomlProblem

def keyText (key : List String) : String :=
  "(" ++ ", ".intercalate (key.map quote) ++ (if key.length = 1 then ",)" else ")")

def message : TomlProblem → String
  | statement => "Invalid statement"
  | statementEnd => "Expected newline or end of document after a statement"
  | expected mark => "Expected " ++ quote mark
  | invalidCharacter c => "Found invalid character " ++ quote (String.ofList [c])
  | illegalCharacter c => "Illegal character " ++ quote (String.ofList [c])
  | declaredTwice key => "Cannot declare " ++ keyText key ++ " twice"
  | overwrite => "Cannot overwrite a value"
  | tableEnd => "Expected ']' at the end of a table declaration"
  | tableArrayEnd => "Expected ']]' at the end of an array declaration"
  | immutable key => "Cannot mutate immutable namespace " ++ keyText key
  | redefined key => "Cannot redefine namespace " ++ keyText key
  | equalsSign => "Expected '=' after a key in a key/value pair"
  | keyStart => "Invalid initial character for a key part"
  | unclosedArray => "Unclosed array"
  | unclosedTable => "Unclosed inline table"
  | duplicateKey name => "Duplicate inline table key " ++ quote name
  | backslash => "Unescaped '\\' in a string"
  | hexValue => "Invalid hex value"
  | scalarValue => "Escaped character is not a Unicode scalar value"
  | unclosedString => "Unterminated string"
  | date => "Invalid date or datetime"
  | value => "Invalid value"

end TomlProblem

inductive TomlFailure
  | malformed (problem : TomlProblem) (remaining : Nat)
  | tooManyDigits (count : Nat)
  deriving DecidableEq, Repr

namespace Toml

abbrev Reading (α : Type) (bound : Nat) := Except TomlFailure (Parsed Char α bound)

def fail {α : Type} (problem : TomlProblem) (text : List Char) : Except TomlFailure α :=
  .error (.malformed problem text.length)

def placeText (text : List Char) (remaining : Nat) : String :=
  if remaining = 0 then "end of document"
  else
    let before := text.take (text.length - remaining)
    "line " ++ toString (before.count '\n' + 1) ++ ", column " ++
      toString ((before.reverse.takeWhile (· != '\n')).length + 1)

/-! ## Blanks and characters -/

def isSpace (c : Char) : Bool := c == ' ' || c == '\t'

def isBlank (c : Char) : Bool := isSpace c || c == '\n'

def skipSpaces (text : List Char) : Parsed Char Unit (text.length + 1) :=
  (Parsed.before () text).dropWhile isSpace

def skipBlanks (text : List Char) : Parsed Char Unit (text.length + 1) :=
  (Parsed.before () text).dropWhile isBlank

def isControl (c : Char) : Bool := (c.toNat < 32 && c != '\t') || c.toNat = 127

def isControlInLine (c : Char) : Bool := isControl c && c != '\n'

def isBareKeyChar (c : Char) : Bool := c.isAlphanum || c == '-' || c == '_'

def startsKey (c : Char) : Bool := isBareKeyChar c || c == '"' || c == '\''

end Toml

end RecordFilter
