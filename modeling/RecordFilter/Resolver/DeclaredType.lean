import RecordFilter.Resolver.Basic

/-!
# Schemas from declared types

The attributes of a class are declared with types.  A field is of the kind that the values of its
type have.  A type that may also be Null counts as the type without that; other unions have no
kind, nor have types whose values are no payloads of a field.  A type with remarks is the same as
another only if that has the same remarks; a type is remarked on once, with all its remarks.
-/

namespace RecordFilter

inductive TypeName
  | int | bool | float | decimal | text | datetime | date
  | list | tuple | set | frozenset | dict | object | bytes | none | any | classVar
  | intSubclass | textSubclass | listSubclass
  deriving DecidableEq, Repr

namespace TypeName

def kind? : TypeName → Option Kind
  | bool => some .boolean
  | int | float | decimal | intSubclass => some .number
  | text | textSubclass => some .text
  | datetime | date => some .timestamp
  | list | tuple | set | frozenset | listSubclass => some .collection
  | dict | object | bytes | none | any | classVar => Option.none

end TypeName

inductive DeclaredType
  | named (name : TypeName)
  | generic (name : TypeName) (arguments : List DeclaredType)
  | optional (type : DeclaredType)
  | union (alternatives : List DeclaredType)
  | annotated (type : DeclaredType) (remarks : List String)
  | classVariable (type : DeclaredType)
  | literal

namespace DeclaredType

def isNone : DeclaredType → Bool
  | named .none => true
  | _ => false

mutual

def members : DeclaredType → List DeclaredType
  | named name => [named name]
  | generic name arguments => [generic name arguments]
  | optional type => members type ++ [named .none]
  | union types => membersOf types
  | annotated type remarks => [annotated type remarks]
  | classVariable type => [classVariable type]
  | literal => [literal]

def membersOf : List DeclaredType → List DeclaredType
  | [] => []
  | type :: types => members type ++ membersOf types

end

/-- A member of a union, with its kind and the members of other unions that are the same type. -/
structure Alternative where
  type : DeclaredType
  kind : Option Kind
  isSame : DeclaredType → Bool

/-- The kind of a union is that of its only alternative besides Null. -/
def unionKind? (alternatives : List Alternative) : Option Kind :=
  match alternatives.filter (!·.type.isNone) with
  | [] => none
  | first :: rest => if rest.all (first.isSame ·.type) then first.kind else none

/-- Unions are the same type if they have the same members. -/
def isSameUnion (alternatives : List Alternative) (other : DeclaredType) : Bool :=
  (alternatives.all fun alternative => other.members.any alternative.isSame) &&
    other.members.all fun member => alternatives.any (·.isSame member)

mutual

def alternatives : DeclaredType → List Alternative
  | named name => [⟨named name, name.kind?, fun
      | named other => name == other
      | _ => false⟩]
  | generic name arguments => [⟨generic name arguments, name.kind?, fun
      | generic other others => name == other && areSame arguments others
      | _ => false⟩]
  | optional type => alternatives type ++ [⟨named .none, none, isNone⟩]
  | union types => alternativesOf types
  | annotated type remarks => [⟨annotated type remarks, unionKind? (alternatives type), fun
      | annotated other others => remarks == others && isSameUnion (alternatives type) other
      | _ => false⟩]
  | classVariable type => [⟨classVariable type, none, fun
      | classVariable other => isSameUnion (alternatives type) other
      | _ => false⟩]
  | literal => [⟨literal, none, fun
      | literal => true
      | _ => false⟩]

def alternativesOf : List DeclaredType → List Alternative
  | [] => []
  | type :: types => alternatives type ++ alternativesOf types

def areSame : List DeclaredType → List DeclaredType → Bool
  | [], [] => true
  | type :: types, other :: others => isSameUnion (alternatives type) other && areSame types others
  | _, _ => false

end

def kind? (type : DeclaredType) : Option Kind := unionKind? type.alternatives

theorem kind?_optional (type : DeclaredType) : (optional type).kind? = type.kind? := by
  simp [kind?, alternatives, unionKind?, isNone]

theorem kind?_union_none (type : DeclaredType) :
    (union [type, named .none]).kind? = type.kind? := by
  simp [kind?, alternatives, alternativesOf, unionKind?, isNone]

theorem kind?_annotated (type : DeclaredType) (remarks : List String) :
    (annotated type remarks).kind? = type.kind? := by
  simp [kind?, alternatives, unionKind?, isNone]

mutual

def plain : DeclaredType → DeclaredType
  | named name => named name
  | generic name arguments => generic name (plainAll arguments)
  | optional type => optional (plain type)
  | union types => union (plainAll types)
  | annotated type _ => plain type
  | classVariable type => classVariable (plain type)
  | literal => literal

def plainAll : List DeclaredType → List DeclaredType
  | [] => []
  | type :: types => plain type :: plainAll types

end

end DeclaredType

namespace Schema

/-- The schema of declared attributes; those that begin with an underscore are private, and those
without a kind are left out. -/
def ofDeclaredTypes (attributes : List (String × DeclaredType)) : Schema :=
  ofList <| attributes.filterMap fun (name, type) =>
    if name.startsWith "_" then none else type.kind?.map fun kind => (name, kind)

/-- The schema of a class, of which only the types without remarks are known. -/
def ofClass (attributes : List (String × DeclaredType)) : Schema :=
  ofDeclaredTypes <| attributes.map fun (name, type) => (name, type.plain)

end Schema

end RecordFilter
