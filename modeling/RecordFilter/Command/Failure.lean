import RecordFilter.Command.Issue
import RecordFilter.Expr.Print
import RecordFilter.Query
import RecordFilter.Records.Load
import RecordFilter.Toml.Basic
import RecordFilter.Workspace.Basic

/-!
# Why a command fails

Every failure has a type, a message, and perhaps details.  Those that lie in what the command was
given end it with status 2, those of the system and of the program itself with status 1.
-/

namespace RecordFilter

open Text

inductive FailureType
  | usage | parse | compile | notFound | validation
  | permission | io | config | fileExists | internal
  deriving DecidableEq, Repr

namespace FailureType

def all : List FailureType :=
  [usage, parse, compile, notFound, validation, permission, io, config, fileExists, internal]

def name : FailureType → String
  | usage => "usage_error"
  | parse => "parse_error"
  | compile => "compile_error"
  | notFound => "not_found"
  | validation => "validation_error"
  | permission => "permission_denied"
  | io => "io_error"
  | config => "config_error"
  | fileExists => "file_exists"
  | internal => "internal_error"

def ofName? (name : String) : Option FailureType := all.find? (·.name == name)

def title : FailureType → String
  | usage => "Usage error"
  | parse => "Parse error"
  | compile => "Compile error"
  | notFound => "Not found"
  | validation => "Validation error"
  | permission => "Permission denied"
  | io => "I/O error"
  | config => "Configuration error"
  | fileExists => "File exists"
  | internal => "Internal error"

def exitCode : FailureType → Nat
  | io | internal => 1
  | _ => 2

end FailureType

inductive Failure
  | file (e : FileError)
  | undecodable (bytes : List Nat) (e : Utf8Error)
  | unencodable (e : EncodeError)
  | records (source : String) (problem : RecordProblem)
  | schemaDocument (problem : RecordProblem)
  | schema (path : Path) (issues : List Issue)
  | configDigits (count : Nat)
  | configText (path : Path) (problem : TomlProblem) (place : String)
  | config (path : Path) (issues : List Issue)
  | configPresent (path : Path)
  | filter (e : FilterError)
  | print (e : PrintError)
  | fault (f : Fault)
  | negativeLimit

/-! ## Faults of the program -/

structure Breakdown where
  typeName : String
  message : String
  shownArguments : String

namespace Breakdown

def ofMessage (typeName message : String) : Breakdown := ⟨typeName, message, quote message⟩

def shown (b : Breakdown) : String := b.typeName ++ "(" ++ b.shownArguments ++ ")"

def ofFault (f : Fault) : Breakdown :=
  match f with
  | .conversion _ => ofMessage "CoercionError" f.message
  | .operands _ => ofMessage "TypeError" f.message
  | .outsideCalendar | .tooLargeForFloat => ofMessage "OverflowError" f.message
  | .tooManyDigits => ofMessage "ValueError" f.message
  | .malformedNumeral | .undefinedComparison => ⟨"InvalidOperation", f.message, f.message⟩

def ofDigits (count : Nat) : Breakdown :=
  ofMessage "ValueError"
    ("Exceeds the limit (4300 digits) for integer string conversion: value has " ++
      toString count ++ " digits; use sys.set_int_max_str_digits() to increase the limit")

def reason : Utf8Problem → String
  | .startByte => "invalid start byte"
  | .continuationByte => "invalid continuation byte"
  | .endOfData => "unexpected end of data"

def quoteByte (mark : Char) (byte : Nat) : List Char :=
  let c := Char.ofNat byte
  if byte < 0x80 then Text.quoteChar mark c else ['\\', 'x'] ++ hexDigits 2 byte

def quoteBytes (bytes : List Nat) : String :=
  let mark := quoteMark (bytes.map Char.ofNat)
  String.ofList ('b' :: mark :: bytes.flatMap (quoteByte mark) ++ [mark])

def ofUndecodable (bytes : List Nat) (e : Utf8Error) : Breakdown :=
  let reason := reason e.problem
  let subject :=
    if e.stop = e.start + 1 then
      "byte 0x" ++ String.ofList (hexDigits 2 e.byte) ++ " in position " ++ toString e.start
    else "bytes in position " ++ toString e.start ++ "-" ++ toString (e.stop - 1)
  ⟨"UnicodeDecodeError", "'utf-8' codec can't decode " ++ subject ++ ": " ++ reason,
    ", ".intercalate
      [quote "utf-8", quoteBytes bytes, toString e.start, toString e.stop, quote reason]⟩

def ofUnencodable (e : EncodeError) : Breakdown :=
  let ⟨start, stop⟩ := e.halves
  let reason := "surrogates not allowed"
  let subject :=
    if stop = start + 1 then
      "character '" ++ String.ofList ((e.text[start]?.map escapeCode).getD []) ++
        "' in position " ++ toString start
    else "characters in position " ++ toString start ++ "-" ++ toString (stop - 1)
  ⟨"UnicodeEncodeError", "'utf-8' codec can't encode " ++ subject ++ ": " ++ reason,
    ", ".intercalate
      [quote "utf-8", quote (String.ofList e.text), toString start, toString stop, quote reason]⟩

end Breakdown

namespace Failure

def breakdown? : Failure → Option Breakdown
  | undecodable bytes e => some (.ofUndecodable bytes e)
  | unencodable e => some (.ofUnencodable e)
  | records _ (.tooManyDigits count) | schemaDocument (.tooManyDigits count)
  | configDigits count => some (.ofDigits count)
  | records _ (.separatedValues e) | schemaDocument (.separatedValues e) =>
      some (.ofMessage "Error" e.message)
  | filter ⟨.syntactic ⟨.malformedNumeral, _⟩, _⟩ => some (.ofFault .malformedNumeral)
  | print (.fault f) | fault f => some (.ofFault f)
  | print e => some (.ofMessage "ValueError" e.message)
  | _ => none

def type (failure : Failure) : FailureType :=
  if failure.breakdown?.isSome then .internal
  else
    match failure with
    | file ⟨.missing, _⟩ => .notFound
    | file _ => .io
    | records _ _ | schemaDocument _ | schema _ _ => .validation
    | configText _ _ _ | config _ _ => .config
    | configPresent _ => .fileExists
    | filter ⟨.syntactic _, _⟩ => .parse
    | filter ⟨.semantic _, _⟩ => .compile
    | negativeLimit => .usage
    | _ => .internal

def documentMessage (source : String) : RecordProblem → String
  | .malformed problem line column =>
      "Invalid JSON input: " ++ problem.message ++ " (line " ++ toString line ++ ", column " ++
        toString column ++ ")"
  | .notList => "Expected a JSON array of records in " ++ source ++ "."
  | .notObject index _ => "Record " ++ toString index ++ " in " ++ source ++ " is not an object."
  | .separatedValues e => e.message
  | .tooManyDigits count => (Breakdown.ofDigits count).message

def message (failure : Failure) : String :=
  match failure with
  | file e => e.message
  | undecodable bytes e => (Breakdown.ofUndecodable bytes e).message
  | unencodable e => (Breakdown.ofUnencodable e).message
  | records source problem => documentMessage source problem
  | schemaDocument problem => documentMessage "" problem
  | schema path _ => "Invalid schema file " ++ path.text
  | configDigits count => (Breakdown.ofDigits count).message
  | configText path problem place =>
      "Invalid TOML in config file " ++ path.text ++ ": " ++ problem.message ++
        " (at " ++ place ++ ")"
  | config path _ => "Invalid config file " ++ path.text
  | configPresent path =>
      "Config already exists: " ++ path.text ++ " (use --force to overwrite)"
  | filter e => e.message
  | print e => e.message
  | fault f => f.message
  | negativeLimit => "--limit must be >= 0."

def issuesDetail (issues : List Issue) : List (String × Json) :=
  [("errors", .array (issues.map Issue.document))]

def filterDetails (e : FilterError) : List (String × Json) :=
  let expression := (e.expression.map fun s => ("expression", Json.string s)).toList
  match e.problem with
  | .syntactic p => expression ++ [("position", .int p.position)]
  | .semantic _ => expression

/-- The details of a failure; those of the program itself are told only on request. -/
def details (verbosity : Nat) (failure : Failure) : List (String × Json) :=
  match failure.breakdown?, failure with
  | some b, _ => if verbosity ≥ 2 then [("exception", .string b.shown)] else []
  | none, records _ (.notObject index typeName) =>
      [("index", .int index), ("type", .string typeName)]
  | none, schema _ issues | none, config _ issues => issuesDetail issues
  | none, filter e => filterDetails e
  | _, _ => []

end Failure

end RecordFilter
