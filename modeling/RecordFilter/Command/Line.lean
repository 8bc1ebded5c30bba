import RecordFilter.Command.Run

/-!
# Command lines

A command line is read step by step: settings, the name of a command, and what the command itself
is given. Before a command looks at its own options, the file for its log is opened.
-/

namespace RecordFilter

def standardLog : Path := ⟨false, ["logs", "filterexpr.log"]⟩

/-- Opens the file for the log; where that is not possible, there is no log. -/
def openLog (settings : Settings) (w : Workspace) : Workspace :=
  let path := (settings.logFile.map Path.ofString).getD standardLog
  if !settings.keepsLog || w.isPresent path then w
  else (w.writeWithFolders path []).after

inductive CommandLine
  | misused (problem : UsageProblem)
  | inquiry (i : Inquiry)
  | command (settings : Settings) (command : Command) (workspace : Workspace)

namespace CommandLine

def readNamed (w : Workspace) (settings : Settings) (name : CommandName) (args : List String) :
    CommandLine :=
  match readCommand w name args with
  | .error problem => misused problem
  | .ok (.inl i) => inquiry i
  | .ok (.inr (c, output)) =>
      command { settings with output := output.orElse fun _ => settings.output } c w

def readConfig (w : Workspace) (settings : Settings) (args : List String) : CommandLine :=
  match readGroup args with
  | .error problem => misused problem
  | .ok (.inquiry i) => inquiry i
  | .ok (.opened () []) => inquiry .help
  | .ok (.opened () (name :: rest)) =>
      match findEntry configEntries readGroup name rest with
      | .error problem => misused problem
      | .ok (.inl i) => inquiry i
      | .ok (.inr name) => readNamed w settings name rest

def read (w : Workspace) (args : List String) : CommandLine :=
  match readSettings w args with
  | .error problem => misused problem
  | .ok (.inquiry i) => inquiry i
  | .ok (.opened _ []) => inquiry .help
  | .ok (.opened settings (name :: rest)) =>
      match findEntry commandEntries (readSettings w) name rest with
      | .error problem => misused problem
      | .ok (.inl i) => inquiry i
      | .ok (.inr (.command name)) => readNamed (openLog settings w) settings name rest
      | .ok (.inr .config) => readConfig (openLog settings w) settings rest

def readsStandardInput : CommandLine → Bool
  | command _ (.filter _ s) _ | command _ (.search _ _ s) _ => (inputFile? s).isNone
  | _ => false

end CommandLine

def versionLine : String := "filterexpr, version " ++ version ++ "\n"

end RecordFilter
