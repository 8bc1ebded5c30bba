/-!
# Kinds of values

Every operand of a filter has a kind.  Fields are declared with one; the kind
`null` is that of the literal `NULL` only.
-/

namespace RecordFilter

inductive Kind
  | null | boolean | number | text | timestamp | collection
  deriving DecidableEq, Repr, Inhabited

namespace Kind

def all : List Kind := [null, boolean, number, text, timestamp, collection]

def name : Kind → String
  | null => "null"
  | boolean => "boolean"
  | number => "number"
  | text => "text"
  | timestamp => "timestamp"
  | collection => "collection"

def ofName? (name : String) : Option Kind := all.find? (·.name == name)

theorem ofName?_name (k : Kind) : ofName? k.name = some k := by
  cases k <;> decide

def isOrdered : Kind → Bool
  | number | text | timestamp => true
  | _ => false

end Kind

end RecordFilter
