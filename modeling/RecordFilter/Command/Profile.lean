import RecordFilter.Command.Invocation
import RecordFilter.Command.Issue
import RecordFilter.Toml.Reader

/-!
# Profiles

The configuration file has a table for the default profile and tables for profiles with names.  A
profile gives the form of output, the schema, the fields to search and the limit where a command
line does not.
-/

namespace RecordFilter

structure Profile where
  output : Option OutputForm
  schema : Option Path
  searchFields : Option (List String)
  limit : Option Nat
  deriving DecidableEq, Repr

namespace Profile

def empty : Profile := ⟨none, none, none, none⟩

/-! ## Entries of a profile -/

def readOutput (location : List IssueStep) : Toml → Checked OutputForm
  | .string s =>
      match OutputForm.ofName? s with
      | some form => .ok form
      | none => .issue (.choice OutputForm.names) location
  | _ => .issue (.choice OutputForm.names) location

def readPath (location : List IssueStep) : Toml → Checked Path
  | .string s => .ok (.ofString s)
  | _ => .issue .path location

def readNames (location : List IssueStep) : Toml → Checked (List String)
  | .array items =>
      Checked.all <| items.zipIdx.map fun (item, i) =>
        match item with
        | .string s => .ok s
        | _ => .issue .text (location ++ [.item i])
  | _ => .issue .list location

def withoutZeroFraction (text : List Char) : List Char :=
  let whole := text.takeWhile (· != '.')
  match text.drop whole.length with
  | '.' :: zeros => if !zeros.isEmpty && zeros.all (· == '0') then whole else text
  | _ => text

def integerOfText? (s : String) : Option Int :=
  let text := withoutZeroFraction (Text.trim s.toList)
  if text.all Text.isAscii then Number.readInteger? text else none

def integerOfFloat (location : List IssueStep) : Binary64 → Checked Int
  | .finite negative mantissa exponent =>
      let scale := Number.powerOfTwo (-exponent).toNat
      let scaled := mantissa * Number.powerOfTwo exponent.toNat
      let magnitude := scaled / scale
      if scaled % scale ≠ 0 then .issue .fraction location
      else if magnitude < Number.powerOfTwo 63 then .ok (Decimal.signed negative magnitude)
      else .issue .integerSize location
  | .nonFinite _ => .issue .notFinite location

def readInteger (location : List IssueStep) : Toml → Checked Int
  | .int n => .ok n
  | .bool b => .ok (if b then 1 else 0)
  | .float x => integerOfFloat location x
  | .string s =>
      match integerOfText? s with
      | some n => .ok n
      | none => .issue .integerText location
  | _ => .issue .integer location

def readLimit (location : List IssueStep) (value : Toml) : Checked Nat := do
  match ← readInteger location value with
  | .ofNat n => return n
  | .negSucc _ => Checked.issue .negative location

/-! ## Profiles -/

def readEntry {α : Type} (location : List IssueStep) (entries : List (String × Toml))
    (name : String) (reader : List IssueStep → Toml → Checked α) : Checked (Option α) :=
  match entries.lookup name with
  | none => .ok none
  | some value => (reader (location ++ [.entry name]) value).map some

def entryNames : List String := ["output", "schema", "search_fields", "limit"]

def read (location : List IssueStep) : Toml → Checked Profile
  | .table entries =>
      let output := readEntry location entries "output" readOutput
      let schema := readEntry location entries "schema" readPath
      let names := readEntry location entries "search_fields" readNames
      let limit := readEntry location entries "limit" readLimit
      let profile :=
        Checked.both (fun f limit => f limit)
          (Checked.both (fun f names => f names) (Checked.both Profile.mk output schema) names)
          limit
      Checked.both (fun profile _ => profile) profile (checkNames location entryNames entries)
  | _ => .issue (.dictionaryOf "ProfileConfig") location

end Profile

/-! ## The configuration file -/

structure Config where
  standard : Profile
  profiles : List (String × Profile)
  deriving DecidableEq, Repr

namespace Config

def empty : Config := ⟨.empty, []⟩

def standardName : String := "default"

def readProfiles (location : List IssueStep) : Toml → Checked (List (String × Profile))
  | .table entries =>
      Checked.all <| entries.map fun (name, value) =>
        (Profile.read (location ++ [.entry name]) value).map (name, ·)
  | _ => .issue .dictionary location

def ofEntries (entries : List (String × Toml)) : Checked Config :=
  let standard := Profile.readEntry [] entries standardName Profile.read
  let profiles := Profile.readEntry [] entries "profiles" readProfiles
  let config :=
    Checked.both (fun standard profiles => Config.mk (standard.getD .empty) (profiles.getD []))
      standard profiles
  Checked.both (fun config _ => config) config (checkNames [] [standardName, "profiles"] entries)

/-- The profile of a name; one that the file does not know has no settings. -/
def profile (c : Config) (name : String) : Profile :=
  if name == standardName then c.standard else (c.profiles.lookup name).getD .empty

end Config

def configTemplate : String :=
  "# filterexpr configuration\n" ++
  "\n" ++
  "[default]\n" ++
  "# output = \"table\"\n" ++
  "# limit = 100\n" ++
  "\n" ++
  "# [profiles.example]\n" ++
  "# schema = \"schema.json\"\n" ++
  "# search_fields = [\"Name\"]\n"

end RecordFilter
