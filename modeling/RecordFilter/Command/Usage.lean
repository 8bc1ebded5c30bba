import RecordFilter.Text.Quoted
import RecordFilter.Text.Similar

/-!
# Options and their misuse

A command line is made of options and arguments.  An option has a long name or a letter or both, and
takes the next argument as its value or none.
-/

namespace RecordFilter

inductive CommandOption
  | output | json | quiet | verbose | profile | logFile | noLogFile | version | help
  | schema | format | limit | csv | field | force
  deriving DecidableEq, Repr

namespace CommandOption

def longName? : CommandOption → Option String
  | output => some "--output"
  | json => some "--json"
  | quiet => some "--quiet"
  | verbose => none
  | profile => some "--profile"
  | logFile => some "--log-file"
  | noLogFile => some "--no-log-file"
  | version => some "--version"
  | help => some "--help"
  | schema => some "--schema"
  | format => some "--format"
  | limit => some "--limit"
  | csv => some "--csv"
  | field => some "--field"
  | force => some "--force"

def letter? : CommandOption → Option Char
  | quiet => some 'q'
  | verbose => some 'v'
  | help => some 'h'
  | _ => none

def takesValue : CommandOption → Bool
  | output | profile | logFile | schema | format | limit | csv | field => true
  | _ => false

end CommandOption

inductive UsageProblem
  | unknownOption (name : String) (similar : List String)
  | unknownCommand (name : String) (similar : List String)
  | missingValue (option : String)
  | unexpectedValue (option : String)
  | notInteger (option value : String)
  | notChoice (option value : String) (choices : List String)
  | isFolder (parameter path : String)
  | missingArgument (name : String)
  | surplusArguments (arguments : List String)
  deriving DecidableEq, Repr

namespace UsageProblem

def suggestion : List String → String
  | [] => ""
  | [name] => " Did you mean " ++ Text.quote name ++ "?"
  | names => " (Did you mean one of: " ++ ", ".intercalate (names.map Text.quote) ++ "?)"

def invalidValue (parameter reason : String) : String :=
  "Invalid value for '" ++ parameter ++ "': " ++ reason

def message : UsageProblem → String
  | unknownOption name similar =>
      "No such option " ++ Text.quote name ++ "." ++ suggestion similar
  | unknownCommand name similar =>
      "No such command " ++ Text.quote name ++ "." ++ suggestion similar
  | missingValue option => "Option " ++ Text.quote option ++ " requires an argument."
  | unexpectedValue option => "Option " ++ Text.quote option ++ " does not take a value."
  | notInteger option value =>
      invalidValue option (Text.quote value ++ " is not a valid integer.")
  | notChoice option value choices =>
      invalidValue option
        (Text.quote value ++ " is not one of " ++ ", ".intercalate (choices.map Text.quote) ++ ".")
  | isFolder parameter path =>
      invalidValue parameter ("File " ++ Text.quote path ++ " is a directory.")
  | missingArgument name => "Missing argument '" ++ name ++ "'."
  | surplusArguments arguments =>
      "Got unexpected extra argument" ++ (if arguments.length = 1 then "" else "s") ++ " (" ++
        " ".intercalate arguments ++ ")"

end UsageProblem

end RecordFilter
