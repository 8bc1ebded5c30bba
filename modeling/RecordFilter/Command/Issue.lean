import RecordFilter.Json.Basic

/-!
# Issues with a configuration

A file that is well formed may still hold something else than what is asked for.  All issues with
it are reported, each with its place: names of entries, and numbers of items.
-/

namespace RecordFilter

inductive IssueKind
  | choice (choices : List String)
  | path
  | list
  | text
  | integer
  | integerText
  | integerSize
  | fraction
  | notFinite
  | negative
  | dictionary
  | dictionaryOf (name : String)
  | unknownEntry
  | missingEntry
  | kindName (names : List String)
  deriving DecidableEq, Repr

inductive IssueStep
  | entry (name : String)
  | item (index : Nat)
  deriving DecidableEq, Repr

structure Issue where
  kind : IssueKind
  location : List IssueStep
  deriving DecidableEq, Repr

namespace IssueKind

def name : IssueKind → String
  | choice _ => "literal_error"
  | path => "path_type"
  | list => "list_type"
  | text => "string_type"
  | integer => "int_type"
  | integerText => "int_parsing"
  | integerSize => "int_parsing_size"
  | fraction => "int_from_float"
  | notFinite => "finite_number"
  | negative => "greater_than_equal"
  | dictionary => "dict_type"
  | dictionaryOf _ => "model_type"
  | unknownEntry => "extra_forbidden"
  | missingEntry => "missing"
  | kindName _ => "enum"

def alternatives (names : List String) : String :=
  let quoted := names.map fun name => "'" ++ name ++ "'"
  match quoted.getLast? with
  | none => ""
  | some last =>
      if quoted.length = 1 then last else ", ".intercalate quoted.dropLast ++ " or " ++ last

def message : IssueKind → String
  | choice names | kindName names => "Input should be " ++ alternatives names
  | path => "Input is not a valid path for <class 'pathlib.Path'>"
  | list => "Input should be a valid list"
  | text => "Input should be a valid string"
  | integer => "Input should be a valid integer"
  | integerText => "Input should be a valid integer, unable to parse string as an integer"
  | integerSize => "Unable to parse input string as an integer, exceeded maximum size"
  | fraction => "Input should be a valid integer, got a number with a fractional part"
  | notFinite => "Input should be a finite number"
  | negative => "Input should be greater than or equal to 0"
  | dictionary => "Input should be a valid dictionary"
  | dictionaryOf name => "Input should be a valid dictionary or instance of " ++ name
  | unknownEntry => "Extra inputs are not permitted"
  | missingEntry => "Field required"

end IssueKind

namespace Issue

def stepDocument : IssueStep → Json
  | .entry name => .string name
  | .item index => .int index

def document (i : Issue) : Json :=
  .object [("type", .string i.kind.name), ("loc", .array (i.location.map stepDocument)),
    ("msg", .string i.kind.message)]

end Issue

/-! ## Checking with all issues -/

abbrev Checked (α : Type) := Except (List Issue) α

namespace Checked

def issue {α : Type} (kind : IssueKind) (location : List IssueStep) : Checked α :=
  .error [⟨kind, location⟩]

def issues {α : Type} : Checked α → List Issue
  | .ok _ => []
  | .error issues => issues

def both {α β γ : Type} (f : α → β → γ) : Checked α → Checked β → Checked γ
  | .ok a, .ok b => .ok (f a b)
  | a, b => .error (a.issues ++ b.issues)

def all {α : Type} : List (Checked α) → Checked (List α)
  | [] => .ok []
  | a :: rest => both List.cons a (all rest)

end Checked

def checkNames {α : Type} (location : List IssueStep) (known : List String)
    (entries : List (String × α)) : Checked Unit :=
  let unknown := (entries.map (·.1)).filter (!known.contains ·)
  if unknown.isEmpty then .ok ()
  else .error (unknown.map fun name => ⟨.unknownEntry, location ++ [.entry name]⟩)

end RecordFilter
