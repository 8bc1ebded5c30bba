import RecordFilter.Command.Issue
import RecordFilter.Resolver.Basic

/-!
# Schema files

A schema file is a document with one entry, `fields`, which gives the kind of each field by its
name.
-/

namespace RecordFilter

namespace Schema

def fieldsEntry : String := "fields"

def readKind (location : List IssueStep) : Json → Checked Kind
  | .string s =>
      match Kind.ofName? s with
      | some kind => .ok kind
      | none => .issue (.kindName (Kind.all.map (·.name))) location
  | _ => .issue (.kindName (Kind.all.map (·.name))) location

def readFields (location : List IssueStep) : Json → Checked (List (String × Kind))
  | .object members =>
      Checked.all <| members.map fun (name, value) =>
        (readKind (location ++ [.entry name]) value).map (name, ·)
  | _ => .issue .dictionary location

def ofDocument : Json → Checked Schema
  | .object members =>
      let location := [IssueStep.entry fieldsEntry]
      let fields : Checked (List (String × Kind)) :=
        match members.lookup fieldsEntry with
        | some value => readFields location value
        | none => .issue .missingEntry location
      Checked.both (fun fields _ => ofList fields) fields (checkNames [] [fieldsEntry] members)
  | _ => .issue (.dictionaryOf "SchemaFile") []

end Schema

end RecordFilter
