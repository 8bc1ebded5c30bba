import RecordFilter.Command.Arguments
import RecordFilter.Number.Integer
import RecordFilter.Records.Basic
import RecordFilter.Workspace.Basic

/-!
# Commands

A command line has settings for all commands, the name of a command, and the options and arguments
of the command.  Options are checked in the order in which they are first given, then the
arguments.  Asking for help or for the version goes before every check.
-/

namespace RecordFilter

inductive OutputForm
  | table
  | json
  deriving DecidableEq, Repr

namespace OutputForm

def name : OutputForm → String
  | table => "table"
  | json => "json"

def names : List String := [table, json].map name

def ofName? (name : String) : Option OutputForm := [table, json].find? (·.name == name)

end OutputForm

structure Settings where
  output : Option OutputForm
  quiet : Bool
  verbosity : Nat
  profile : Option String
  logFile : Option String
  keepsLog : Bool
  deriving DecidableEq, Repr

structure Selection where
  input : Option String
  format : Option RecordFormat
  schema : Option String
  limit : Option Int
  csv : Option String
  deriving DecidableEq, Repr

inductive Command
  | version
  | configPath
  | configInit (force : Bool)
  | configShow
  | check (expression : String) (schema : Option String)
  | filter (expression : String) (selection : Selection)
  | search (text : String) (fields : List String) (selection : Selection)
  deriving DecidableEq, Repr

inductive CommandName
  | version | configPath | configInit | configShow | check | filter | search
  deriving DecidableEq, Repr

namespace CommandName

def label : CommandName → String
  | version => "version"
  | configPath => "config path"
  | configInit => "config init"
  | configShow => "config show"
  | check => "check"
  | filter => "filter"
  | search => "search"

def options : CommandName → List CommandOption
  | version | configPath | configShow => [.json, .output, .help]
  | configInit => [.force, .json, .output, .help]
  | check => [.schema, .json, .output, .help]
  | filter => [.format, .schema, .limit, .csv, .json, .output, .help]
  | search => [.format, .field, .schema, .limit, .csv, .json, .output, .help]

def subject? : CommandName → Option String
  | check | filter => some "EXPRESSION"
  | search => some "TEXT"
  | _ => none

def readsRecords : CommandName → Bool
  | filter | search => true
  | _ => false

end CommandName

namespace Command

def name : Command → CommandName
  | version => .version
  | configPath => .configPath
  | configInit _ => .configInit
  | configShow => .configShow
  | check _ _ => .check
  | filter _ _ => .filter
  | search _ _ _ => .search

end Command

inductive Inquiry
  | help
  | version
  deriving DecidableEq, Repr

namespace Arguments

def inquiry? (a : Arguments) : Option Inquiry :=
  a.options.findSome? fun
    | .help => some .help
    | .version => some .version
    | _ => none

def output? (a : Arguments) : Option OutputForm := (a.value? .output).bind OutputForm.ofName?

end Arguments

/-! ## Checks -/

def formatNames : List String := "auto" :: [RecordFormat.json, .jsonLines, .csv].map (·.name)

def checkChoice (option value : String) (choices : List String) : Except UsageProblem Unit :=
  if choices.contains value then .ok () else .error (.notChoice option value choices)

def checkPath (w : Workspace) (parameter path : String) : Except UsageProblem Unit :=
  if path != "" && w.isFolder (.ofString path) then .error (.isFolder parameter path) else .ok ()

def checkValue (w : Workspace) (option : CommandOption) (value : String) :
    Except UsageProblem Unit :=
  let name := option.longName?.getD ""
  match option with
  | .output => checkChoice name value OutputForm.names
  | .format => checkChoice name value formatNames
  | .logFile | .schema | .csv => checkPath w name value
  | .limit =>
      match Number.readInteger? value.toList with
      | some _ => .ok ()
      | none => .error (.notInteger name value)
  | _ => .ok ()

def checkGiven (w : Workspace) (a : Arguments) : Except UsageProblem Unit :=
  a.options.forM fun option => checkValue w option ((a.value? option).getD "")

/-! ## Settings -/

def settingOptions : List CommandOption :=
  [.output, .json, .quiet, .verbose, .profile, .logFile, .noLogFile, .version, .help]

def settingsOf (a : Arguments) : Settings where
  output := if a.has .json then some .json else a.output?
  quiet := a.has .quiet
  verbosity := a.count .verbose
  profile := a.value? .profile
  logFile := (a.value? .logFile).filter (· != "")
  keepsLog := !a.has .noLogFile

/-- The front of a command line: an inquiry, or settings and what follows them. -/
inductive Front (α : Type)
  | inquiry (i : Inquiry)
  | opened (a : α) (rest : List String)

def readSettings (w : Workspace) (args : List String) : Except UsageProblem (Front Settings) := do
  let a ← readArguments settingOptions true args
  match a.inquiry? with
  | some i => return .inquiry i
  | none =>
      checkGiven w a
      return .opened (settingsOf a) a.positional

def readGroup (args : List String) : Except UsageProblem (Front Unit) := do
  let a ← readArguments [.help] true args
  match a.inquiry? with
  | some i => return .inquiry i
  | none => return .opened () a.positional

/-! ## Names of commands -/

inductive CommandEntry
  | command (name : CommandName)
  | config

def commandEntries : List (String × CommandEntry) :=
  [("check", .command .check), ("config", .config), ("filter", .command .filter),
    ("search", .command .search), ("version", .command .version)]

def configEntries : List (String × CommandName) :=
  [("init", .configInit), ("path", .configPath), ("show", .configShow)]

/-- Finds a name.  One that looks like an option is first tried as one. -/
def findEntry {α β : Type} (entries : List (String × α))
    (reread : List String → Except UsageProblem (Front β)) (name : String) (rest : List String) :
    Except UsageProblem (Inquiry ⊕ α) := do
  match entries.lookup name with
  | some entry => return .inr entry
  | none =>
      let unknown : UsageProblem :=
        .unknownCommand name (Text.suggestions name (entries.map (·.1)))
      if looksLikeOption name then
        match ← reread (name :: rest) with
        | .inquiry i => return .inl i
        | .opened _ _ => throw unknown
      else throw unknown

/-! ## Options and arguments of a command -/

def selectionOf (a : Arguments) (input : Option String) : Selection where
  input := input
  format := (a.value? .format).bind RecordFormat.ofName?
  schema := a.value? .schema
  limit := (a.value? .limit).bind fun value => Number.readInteger? value.toList
  csv := (a.value? .csv).filter (· != "")

/-- The form of output that a command asks for itself: of its options the one that is first given
last counts. -/
def outputChoice? (a : Arguments) : Option OutputForm :=
  (a.options.filterMap fun
    | .json => some .json
    | .output => a.output?
    | _ => none).getLast?

def inputName : String := "[INPUT]"

def dash : String := "-"

def commandOf (name : CommandName) (a : Arguments) (subject : String) (input : Option String) :
    Command :=
  match name with
  | .version => .version
  | .configPath => .configPath
  | .configInit => .configInit (a.has .force)
  | .configShow => .configShow
  | .check => .check subject (a.value? .schema)
  | .filter => .filter subject (selectionOf a input)
  | .search => .search subject (a.values .field) (selectionOf a input)

def readPositional (w : Workspace) (name : CommandName) (arguments : List String) :
    Except UsageProblem (String × Option String) := do
  let (subject, rest) ←
    match name.subject?, arguments with
    | none, arguments => pure ("", arguments)
    | some subject, [] => throw (.missingArgument subject)
    | some _, subject :: rest => pure (subject, rest)
  let (input, rest) :=
    if name.readsRecords then (rest.head?, rest.tail) else (none, rest)
  match input with
  | some path => if path == dash then pure () else checkPath w inputName path
  | none => pure ()
  if rest.isEmpty then return (subject, input) else throw (.surplusArguments rest)

def readCommand (w : Workspace) (name : CommandName) (args : List String) :
    Except UsageProblem (Inquiry ⊕ (Command × Option OutputForm)) := do
  let a ← readArguments name.options false args
  match a.inquiry? with
  | some i => return .inl i
  | none =>
      checkGiven w a
      let (subject, input) ← readPositional w name a.positional
      return .inr (commandOf name a subject input, outputChoice? a)

end RecordFilter
