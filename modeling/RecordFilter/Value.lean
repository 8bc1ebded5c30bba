import RecordFilter.Calendar.Pattern
import RecordFilter.Payload.Compare
import RecordFilter.Payload.Text
import RecordFilter.Text.Letter

/-!
# Values and their conversions

A value is a payload together with its kind; constants of a filter are values.  Payloads of fields
are brought to the declared kind by `normalize`, which turns whatever does not fit into Null, but
for a signaling number in the place of a truth value, which is a fault.  Constants are brought to
the kind of the other operand by `Value.coerce`, which fails instead.

Numbers are decimal numbers, or whole numbers as they are; timestamps are moments in universal time.
-/

namespace RecordFilter

open Text

structure Value where
  kind : Kind
  raw : Payload
  deriving Inhabited

namespace Value

def null : Value := ⟨.null, .null⟩

def isNull (v : Value) : Bool := v.kind == .null

end Value

/-! ## Conversions of payloads -/

def failed {α : Type} (e : ConversionError) : Except Fault α := .error (.conversion e)

def readMoment (s : String) : Except Fault Moment :=
  let text := trim s.toList
  match Timestamp.readIso? text with
  | some t =>
      match t.universal? with
      | some m => .ok m
      | none => .error .outsideCalendar
  | none =>
      match DatePattern.known.findSome? (·.read? text) with
      | some m => .ok m
      | none => failed (.textNotTimestamp s)

def trueWords : List String := ["true", "1", "yes"]

def falseWords : List String := ["false", "0", "no"]

def truthOfWord? (s : String) : Option Bool :=
  let word := String.ofList (lowerText (trim s.toList))
  if trueWords.contains word then some true
  else if falseWords.contains word then some false
  else none

namespace Payload

def ofMoment (m : Moment) : Payload := timestamp ⟨m, none⟩

def notFinite (p : Payload) : Except Fault Decimal := do
  let text ← p.shown
  failed (.numberNotFinite text)

def toNumber (p : Payload) : Except Fault Decimal :=
  match p with
  | bool b => .ok (.ofInt (if b then 1 else 0))
  | int n => .ok (.ofInt n)
  | decimal d => .ok d
  | irregular _ | signaling => p.notFinite
  | float x =>
      match x.toNumeral with
      | .finite d => .ok d
      | _ => p.notFinite
  | text s =>
      match Decimal.read? s.toList with
      | some (.finite d) => .ok d
      | some _ => p.notFinite
      | none => failed (.textNotNumber s)
  | p => failed (.typeNotNumber p.typeName)

def toMoment (p : Payload) : Except Fault Moment :=
  match p with
  | timestamp t =>
      match t.universal? with
      | some m => .ok m
      | none => .error .outsideCalendar
  | date d => .ok (.midnight d)
  | text s => readMoment s
  | p => failed (.typeNotTimestamp p.typeName)

def notTruth (p : Payload) : Except Fault Bool := do
  let text ← p.shown
  failed (.notBoolean text)

def toTruth (p : Payload) : Except Fault Bool :=
  match p with
  | bool b => .ok b
  | int n => if n = 0 then .ok false else if n = 1 then .ok true else p.notTruth
  | decimal d =>
      if d.sameValue (.ofInt 0) then .ok false
      else if d.sameValue (.ofInt 1) then .ok true
      else p.notTruth
  | signaling => .error .undefinedComparison
  | text s =>
      match truthOfWord? s with
      | some b => .ok b
      | none => p.notTruth
  | p => p.notTruth

def nullOnFailure (p : Except Fault Payload) : Except Fault Payload :=
  match p with
  | .error (.conversion _) => .ok null
  | p => p

def normalize (k : Kind) (p : Payload) : Except Fault Payload :=
  if p.isNull then .ok null
  else
    match k with
    | .number =>
        match p with
        | int n => .ok (int n)
        | p => nullOnFailure (p.toNumber.map decimal)
    | .text =>
        match p with
        | text s => .ok (text s)
        | p => p.displayed.map text
    | .timestamp => nullOnFailure (p.toMoment.map ofMoment)
    | .boolean => nullOnFailure (p.toTruth.map bool)
    | .collection => .ok (if p.items?.isSome then p else null)
    | .null => .ok null

/-- A payload that counts as true where any payload may stand for a truth value. -/
def isTruthy : Payload → Bool
  | null => false
  | bool b => b
  | int n => n != 0
  | float (.finite _ mantissa _) => mantissa != 0
  | decimal d => !d.isZero
  | text s => !s.isEmpty
  | list items | tuple items | set _ items => !items.isEmpty
  | record fields => !fields.isEmpty
  | mapping entries => !entries.isEmpty
  | _ => true

/-- What a payload holds when it is gone through one by one: a text its characters, a record its
names. -/
def members (p : Payload) : Except Fault (List Payload) :=
  match p with
  | list items | tuple items | set _ items => .ok items
  | text s => .ok (s.toList.map fun c => text (String.ofList [c]))
  | record fields => .ok (fields.map fun field => text field.1)
  | mapping entries => .ok (entries.map (·.1))
  | p => .error (.operands (.notIterable p.qualifiedTypeName))

end Payload

/-! ## Values -/

namespace Value

def ofNumber (p : Payload) : Except Fault Value := p.toNumber.map fun d => ⟨.number, .decimal d⟩

def ofTimestamp (p : Payload) : Except Fault Value :=
  p.toMoment.map fun m => ⟨.timestamp, .ofMoment m⟩

def ofText (p : Payload) : Except Fault Value := p.plainText.map fun s => ⟨.text, .text s⟩

def ofBoolean (p : Payload) : Value := ⟨.boolean, .bool p.isTruthy⟩

def ofCollection (p : Payload) : Except Fault Value :=
  p.members.map fun items => ⟨.collection, .tuple items⟩

def ofPayload (p : Payload) : Except Fault Value :=
  match p with
  | .value kind raw => .ok ⟨kind, raw⟩
  | p =>
      match p.kind? with
      | none => failed (.unsupportedType p.typeName)
      | some .null => .ok null
      | some .number => ofNumber p
      | some .timestamp => ofTimestamp p
      | some .collection => ofCollection p
      | some kind => .ok ⟨kind, p⟩

def undefinedConversion (v : Value) (target : Kind) : Except Fault Value := do
  let text ← v.raw.displayed
  failed (.undefined v.kind text target)

def coerce (v : Value) (target : Kind) : Except Fault Value :=
  if v.kind == target || v.isNull then .ok v
  else
    match target, v.kind with
    | .number, .boolean | .number, .text => ofNumber v.raw
    | .text, .collection => v.undefinedConversion target
    | .text, _ => v.raw.displayed.map fun s => ⟨.text, .text s⟩
    | .timestamp, .text =>
        match v.raw with
        | .text s => (readMoment s).map fun m => ⟨.timestamp, .ofMoment m⟩
        | _ => v.undefinedConversion target
    | .boolean, .number | .boolean, .text => v.raw.toTruth.map fun b => ⟨.boolean, .bool b⟩
    | target, _ => v.undefinedConversion target

end Value

end RecordFilter
