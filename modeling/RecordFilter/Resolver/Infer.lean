import RecordFilter.Resolver.Basic

/-!
# Schemas from sample records

Without a schema the kind of a field is that of its values, as far as they are not Null.  A field
whose values are of several kinds, or of none, is declared as text.  Where every value
is text, as in a table of plain text, a field can be read as numbers or timestamps if all
of its values can.
-/

namespace RecordFilter

namespace Schema

/-- Every text can be converted; a fault other than a failed conversion is reported. -/
def allConvert {α : Type} (convert : Payload → Except Fault α) : List Payload → Except Fault Bool
  | [] => .ok true
  | p :: rest =>
      match convert p with
      | .ok _ => allConvert convert rest
      | .error (.conversion _) => .ok false
      | .error fault => .error fault

def commonKind? : List Payload → Option Kind
  | [] => none
  | p :: rest => if rest.all (fun q => q.kind? == p.kind?) then p.kind? else none

def inferKind (parseText : Bool) (values : List Payload) : Except Fault Kind :=
  match commonKind? values with
  | none => .ok .text
  | some .text =>
      if parseText then do
        if ← allConvert Payload.toNumber values then return .number
        else if ← allConvert Payload.toMoment values then return .timestamp
        else return .text
      else .ok .text
  | some kind => .ok kind

def isUninformative (parseText : Bool) : Payload → Bool
  | .null => true
  | .text s => parseText && s.isEmpty
  | _ => false

def namesIn (records : List (List (String × Payload))) : List String :=
  (records.flatten.map (·.1)).eraseDups

def valuesOf (parseText : Bool) (records : List (List (String × Payload))) (name : String) :
    List Payload :=
  (records.flatten.filter (·.1 == name)).map (·.2) |>.filter (!isUninformative parseText ·)

/-- The fields of a sample; a key that is no text names its field by the text it has. -/
def sampleFields : Payload → Except Fault (List (String × Payload))
  | .record fields => .ok fields
  | .mapping entries =>
      entries.mapM fun entry => do
        let name ← entry.1.plainText
        return (name, entry.2)
  | _ => .ok []

/-- The schema of sample records; what is no record is passed over. -/
def infer (parseText : Bool) (samples : List Payload) : Except Fault Schema := do
  let records ← samples.mapM sampleFields
  let fields ← (namesIn records).mapM fun name => do
    let kind ← inferKind parseText (valuesOf parseText records name)
    return (name, kind)
  return ⟨fields⟩

end Schema

end RecordFilter
