import RecordFilter.Kind
import RecordFilter.Calendar.Moment
import RecordFilter.Number.Binary64

/-!
# Payloads

A payload is a piece of data as a record holds it.  Records themselves are
payloads: associations of names with payloads, or objects with attributes.  An association whose
keys are not all texts is a `mapping`.  What is of none of these types is `foreign`, and known by
its text only.
-/

namespace RecordFilter

inductive Payload
  | null
  | bool (b : Bool)
  | int (n : Int)
  | float (x : Binary64)
  | decimal (d : Decimal)
  | irregular (x : NonFinite)
  | signaling
  | text (s : String)
  | timestamp (t : Timestamp)
  | date (d : Date)
  | list (items : List Payload)
  | tuple (items : List Payload)
  | set (isFrozen : Bool) (items : List Payload)
  | record (fields : List (String × Payload))
  | mapping (entries : List (Payload × Payload))
  | object (attributes : List (String × Payload))
  | foreign (shown : String)
  | value (kind : Kind) (raw : Payload)
  deriving Inhabited

namespace Payload

def isNull : Payload → Bool
  | null => true
  | _ => false

def isTrue : Payload → Bool
  | bool b => b
  | _ => false

/-- The kind a payload is of by itself; there is none for records, objects and the like. -/
def kind? : Payload → Option Kind
  | null => some .null
  | bool _ => some .boolean
  | int _ | float _ | decimal _ | irregular _ | signaling => some .number
  | text _ => some .text
  | timestamp _ | date _ => some .timestamp
  | list _ | tuple _ | set _ _ => some .collection
  | record _ | mapping _ | object _ | foreign _ | value _ _ => none

def items? : Payload → Option (List Payload)
  | list items | tuple items | set _ items => some items
  | _ => none

def fields? : Payload → Option (List (String × Payload))
  | record fields => some fields
  | _ => none

def isText : Payload → String → Bool
  | text s, t => s == t
  | _, _ => false

def itemNamed? (name : String) : List (Payload × Payload) → Option Payload
  | [] => none
  | (key, p) :: entries => if key.isText name then some p else itemNamed? name entries

def typeName : Payload → String
  | null => "NoneType"
  | bool _ => "bool"
  | int _ => "int"
  | float _ => "float"
  | decimal _ | irregular _ | signaling => "Decimal"
  | text _ => "str"
  | timestamp _ => "datetime"
  | date _ => "date"
  | list _ => "list"
  | tuple _ => "tuple"
  | set isFrozen _ => if isFrozen then "frozenset" else "set"
  | record _ | mapping _ => "dict"
  | object _ => "Obj"
  | foreign _ => "Opaque"
  | value _ _ => "Value"

def qualifiedTypeName : Payload → String
  | decimal _ | irregular _ | signaling => "decimal.Decimal"
  | timestamp _ => "datetime.datetime"
  | date _ => "datetime.date"
  | p => p.typeName

end Payload

/-- The last entry for a name counts, at the place of the first. -/
def insertField (fields : List (String × Payload)) (name : String) (p : Payload) :
    List (String × Payload) :=
  if fields.any (·.1 == name) then
    fields.map fun field => if field.1 == name then (name, p) else field
  else fields ++ [(name, p)]

def distinctFields (fields : List (String × Payload)) : List (String × Payload) :=
  fields.foldl (fun found field => insertField found field.1 field.2) []

end RecordFilter
