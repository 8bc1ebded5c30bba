import RecordFilter.Command.Profile
import RecordFilter.Command.Report
import RecordFilter.Command.SchemaFile

/-!
# What commands leave to libraries

Where the configuration file is, what a configuration and a schema may hold, and what a result looks
like is not decided by the commands themselves.  They run with any such libraries, and the program
with those given here.
-/

namespace RecordFilter

structure Libraries where
  configPath : Path
  readConfig : List (String × Toml) → Checked Config
  readSchema : Json → Checked Schema
  print : Settings → OutputForm → CommandResult → Except Failure Printed

def printed (settings : Settings) (form : OutputForm) (r : CommandResult) : Except Fault Printed :=
  (r.print form settings.quiet settings.verbosity).map fun p =>
    { p with errors := p.errors ++ r.printWarnings form settings.quiet }

namespace Libraries

def standard : Libraries where
  configPath := ⟨false, ["config", "config.toml"]⟩
  readConfig := Config.ofEntries
  readSchema := Schema.ofDocument
  print settings form r := (printed settings form r).mapError Failure.fault

/-- Libraries that print to an output of bytes, which takes no half of a pair. -/
def toBytes (l : Libraries) : Libraries :=
  { l with
    print := fun settings form r => do
      let p ← l.print settings form r
      let _ ← (Text.encodeWhole p.output.toList).mapError Failure.unencodable
      return p }

end Libraries

end RecordFilter
