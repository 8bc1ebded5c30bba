import RecordFilter.Value

/-!
# Resolvers

A resolver is all that a filter knows about records: which fields there are, of which kind
they are, and how they are read.  Most resolvers come from a schema, a list of names with their
kinds, together with a way to look up a name in a record.  They find a field in any casing
and bring what they read to the declared kind.
-/

namespace RecordFilter

structure Resolver where
  fieldNames : List String
  kind? : String → Option Kind
  canonical? : String → Option String
  value : String → Payload → Except Fault Value
  read : String → Payload → Except Fault Payload

/-! ## Schemas -/

/-- Field names and their kinds; a name occurs once. -/
structure Schema where
  fields : List (String × Kind)
  deriving DecidableEq, Repr, Inhabited

namespace Schema

/-- Declares a field, in the place of an earlier one of the same name. -/
def insert (s : Schema) (name : String) (kind : Kind) : Schema :=
  if s.fields.any (·.1 == name) then
    ⟨s.fields.map fun field => if field.1 == name then (name, kind) else field⟩
  else ⟨s.fields ++ [(name, kind)]⟩

def ofList (fields : List (String × Kind)) : Schema :=
  fields.foldl (fun s field => s.insert field.1 field.2) ⟨[]⟩

def names (s : Schema) : List String := s.fields.map (·.1)

def declared? (s : Schema) (name : String) : Option Kind := s.fields.lookup name

/-- The declared name that is meant by a name: itself if it is declared, otherwise the first that
differs from it only in case. -/
def canonical? (s : Schema) (name : String) : Option String :=
  if (s.declared? name).isSome then some name
  else s.names.find? fun declared => Text.lower declared == Text.lower name

def kind? (s : Schema) (name : String) : Option Kind := (s.canonical? name).bind s.declared?

theorem canonical?_of_declared {s : Schema} {name : String} {kind : Kind}
    (declared : s.declared? name = some kind) : s.canonical? name = some name := by
  simp [canonical?, declared]

theorem kind?_of_declared {s : Schema} {name : String} {kind : Kind}
    (declared : s.declared? name = some kind) : s.kind? name = some kind := by
  simp [kind?, canonical?_of_declared declared, declared]

def text (s : Schema) : String :=
  ", ".intercalate (s.fields.map fun field => field.1 ++ ": " ++ field.2.name)

end Schema

/-! ## Ways to look up a field -/

inductive Lookup
  | byName
  | byAttribute
  deriving DecidableEq, Repr

namespace Lookup

def find? : Lookup → Payload → String → Option Payload
  | byName, .record fields, name => fields.lookup name
  | byName, .mapping entries, name => Payload.itemNamed? name entries
  | byAttribute, .object attributes, name => attributes.lookup name
  | _, _, _ => none

def resolverName : Lookup → String
  | byName => "DictResolver"
  | byAttribute => "AttributeResolver"

end Lookup

namespace Schema

def read (s : Schema) (lookup : Lookup) (name : String) (record : Payload) : Except Fault Payload :=
  match s.canonical? name with
  | none => .ok .null
  | some declared =>
      match s.declared? declared, lookup.find? record declared with
      | some kind, some p => p.normalize kind
      | _, _ => .ok .null

def value (s : Schema) (lookup : Lookup) (name : String) (record : Payload) : Except Fault Value :=
  match s.kind? name with
  | none => .ok .null
  | some kind => do
      let p ← s.read lookup name record
      if p.isNull then .ok .null
      else if kind == .collection then Value.ofCollection p
      else .ok ⟨kind, p⟩

def resolver (s : Schema) (lookup : Lookup) : Resolver where
  fieldNames := s.names
  kind? := s.kind?
  canonical? := s.canonical?
  value := s.value lookup
  read := s.read lookup

def resolverText (s : Schema) (lookup : Lookup) : String :=
  lookup.resolverName ++ "(\x7b" ++ s.text ++ "\x7d)"

end Schema

/-! ## Fields as they come -/

namespace Resolver

/-- A value as it stands in a record, whatever kind is declared for it. -/
def looseValue (name : String) (record : Payload) : Except Fault Value :=
  Value.ofPayload ((Lookup.byName.find? record name).getD .null)

/-- A resolver that knows fields by their exact names and takes values as they stand. -/
def loose (s : Schema) : Resolver where
  fieldNames := s.names
  kind? := s.declared?
  canonical? name := if (s.declared? name).isSome then some name else none
  value := looseValue
  read name record := (looseValue name record).map (·.raw)

end Resolver

end RecordFilter
