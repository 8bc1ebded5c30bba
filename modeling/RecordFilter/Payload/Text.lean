import RecordFilter.Calendar.Iso
import RecordFilter.Json.Basic
import RecordFilter.Payload.Compare

/-!
# Payloads as text

There are two texts of a payload.  `shown` appears in messages and makes types visible: texts are
quoted and decimal numbers and dates are named as such.  `displayed` is what wildcard
patterns and text search see: a text is itself, Null is empty, a collection is a list separated by
semicolons without its Nulls, and a record is a document with its names in order.  The keys of a
mapping have no order unless they are all texts or all numbers, and only texts, whole and
floating-point numbers, truth values and Null can be written as keys of a document.
-/

namespace RecordFilter

open Text

namespace Date

def shown (d : Date) : String :=
  "datetime.date(" ++ ", ".intercalate ([d.year, d.month, d.day].map toString) ++ ")"

end Date

namespace Timestamp

def shownOffset (offset : Int) : String :=
  let days := offset.fdiv Moment.ticksPerDay
  let rest := offset.fmod Moment.ticksPerDay
  let parts := [("days=", days), ("seconds=", rest / 1000000), ("microseconds=", rest % 1000000)]
  let shownParts := (parts.filter (·.2 != 0)).map fun part => part.1 ++ toString part.2
  if offset = 0 then "datetime.timezone.utc"
  else "datetime.timezone(datetime.timedelta(" ++ ", ".intercalate shownParts ++ "))"

def shown (t : Timestamp) : String :=
  let m := t.moment
  let tail :=
    if m.microsecond != 0 then [m.second, m.microsecond]
    else if m.second != 0 then [m.second]
    else []
  let numbers := [m.date.year, m.date.month, m.date.day, m.hour, m.minute] ++ tail
  let zone := (t.offset.map fun offset => ["tzinfo=" ++ shownOffset offset]).getD []
  "datetime.datetime(" ++ ", ".intercalate (numbers.map toString ++ zone) ++ ")"

end Timestamp

namespace Kind

def shown (k : Kind) : String :=
  "<ValueKind." ++ String.ofList (k.name.toList.map Char.toUpper) ++ ": '" ++ k.name ++ "'>"

end Kind

namespace Payload

def objectText : String := "<object>"

def braced (texts : List String) : String := "\x7b" ++ ", ".intercalate texts ++ "\x7d"

def setText (isFrozen : Bool) (texts : List String) : String :=
  if isFrozen then "frozenset(" ++ (if texts.isEmpty then "" else braced texts) ++ ")"
  else if texts.isEmpty then "set()" else braced texts

mutual

def shown : Payload → Except Fault String
  | null => .ok "None"
  | bool b => .ok (if b then "True" else "False")
  | int n => integerText n
  | float x => .ok x.text
  | decimal d => .ok ("Decimal('" ++ d.scientific ++ "')")
  | irregular x => .ok ("Decimal('" ++ x.text ++ "')")
  | signaling => .ok ("Decimal('" ++ signalingText ++ "')")
  | text s => .ok (quote s)
  | timestamp t => .ok t.shown
  | date d => .ok d.shown
  | list items => do
      let texts ← shownItems items
      return "[" ++ ", ".intercalate texts ++ "]"
  | tuple items => do
      let texts ← shownItems items
      return "(" ++ ", ".intercalate texts ++ (if texts.length = 1 then ",)" else ")")
  | set isFrozen items => do
      let texts ← shownItems items
      return setText isFrozen texts
  | record fields => do
      let texts ← shownFields fields
      return braced texts
  | mapping entries => do
      let texts ← shownEntries entries
      return braced texts
  | object _ => .ok objectText
  | foreign s => .ok s
  | value kind raw => do
      let text ← shown raw
      return "Value(kind=" ++ kind.shown ++ ", raw=" ++ text ++ ")"

def shownItems : List Payload → Except Fault (List String)
  | [] => .ok []
  | item :: items => do
      let text ← shown item
      let texts ← shownItems items
      return text :: texts

def shownFields : List (String × Payload) → Except Fault (List String)
  | [] => .ok []
  | (name, item) :: fields => do
      let text ← shown item
      let texts ← shownFields fields
      return (quote name ++ ": " ++ text) :: texts

def shownEntries : List (Payload × Payload) → Except Fault (List String)
  | [] => .ok []
  | (key, item) :: entries => do
      let name ← shown key
      let text ← shown item
      let texts ← shownEntries entries
      return (name ++ ": " ++ text) :: texts

end

/-! ## Keys of a document -/

mutual

def keyOrder : Payload → Payload → Except Fault (Option Ordering)
  | tuple xs, tuple ys => tupleOrder xs ys
  | date d, date e => .ok (some (compare (Moment.midnight d).ticks (Moment.midnight e).ticks))
  | set true _, set true _ => .ok none
  | p, q => Comparison.less.order p q
termination_by structural p => p

def tupleOrder : List Payload → List Payload → Except Fault (Option Ordering)
  | x :: xs, y :: ys => if same x y then tupleOrder xs ys else keyOrder x y
  | [], [] => .ok (some .eq)
  | [], _ :: _ => .ok (some .lt)
  | _ :: _, [] => .ok (some .gt)
termination_by structural xs => xs

end

def requireOrder : List Payload → Except Fault Unit
  | first :: second :: keys => do
      let _ ← keyOrder second first
      requireOrder (second :: keys)
  | _ => .ok ()

def isBefore (p q : Payload) : Bool :=
  match keyOrder p q with
  | .ok (some o) => o != .gt
  | _ => true

def keyText : Payload → Except Fault String
  | text s => .ok s
  | bool b => .ok (if b then "true" else "false")
  | int n => integerText n
  | float x => .ok (Json.floatText x)
  | null => .ok "null"
  | p => .error (.operands (.unwritableKey p.qualifiedTypeName))

/-- The members of a document with their names; the first that has none, or no document, ends
it. -/
def namedMembers : List (Payload × Except Fault Json) → Except Fault (List (String × Json))
  | [] => .ok []
  | (key, item) :: entries => do
      let name ← keyText key
      let j ← item
      let members ← namedMembers entries
      return (name, j) :: members

def sortedDocument (entries : List (Payload × Except Fault Json)) : Except Fault Json := do
  requireOrder (entries.map (·.1))
  let members ← namedMembers (entries.mergeSort fun a b => isBefore a.1 b.1)
  return .object members

mutual

def displayed : Payload → Except Fault String
  | null => .ok ""
  | bool b => .ok (if b then "true" else "false")
  | int n => integerText n
  | float x => .ok x.text
  | decimal d => .ok d.positional
  | irregular x => .ok x.text
  | signaling => .ok signalingText
  | text s => .ok s
  | timestamp t => .ok (String.ofList (t.text ' '))
  | date d => .ok (String.ofList d.text)
  | list items | tuple items | set _ items => do
      let texts ← displayedItems items
      return "; ".intercalate texts
  | record fields => do
      let j ← sortedDocument (fieldDocuments fields)
      j.compact
  | mapping entries => do
      let j ← sortedDocument (entryDocuments entries)
      j.compact
  | object _ => .ok objectText
  | foreign s => .ok s
  | value _ raw => displayed raw

def displayedItems : List Payload → Except Fault (List String)
  | [] => .ok []
  | item :: items => do
      if item.isNull then displayedItems items
      else
        let text ← displayed item
        let texts ← displayedItems items
        return text :: texts

/-- The document of a payload inside a record; what has no form of its own becomes a text. -/
def document : Payload → Except Fault Json
  | null => .ok .null
  | bool b => .ok (.bool b)
  | int n => do
      let _ ← integerText n
      return .int n
  | float x => .ok (.float x)
  | text s => .ok (.string s)
  | list items | tuple items => do
      let documents ← itemsDocument items
      return .array documents
  | record fields => sortedDocument (fieldDocuments fields)
  | mapping entries => sortedDocument (entryDocuments entries)
  | decimal d => .ok (.string d.scientific)
  | irregular x => .ok (.string x.text)
  | signaling => .ok (.string signalingText)
  | timestamp t => .ok (.string (String.ofList (t.text ' ')))
  | date d => .ok (.string (String.ofList d.text))
  | set isFrozen items => do
      let texts ← shownItems items
      return .string (setText isFrozen texts)
  | object _ => .ok (.string objectText)
  | foreign s => .ok (.string s)
  | value _ raw => do
      let text ← displayed raw
      return .string text

def itemsDocument : List Payload → Except Fault (List Json)
  | [] => .ok []
  | item :: items => do
      let j ← document item
      let rest ← itemsDocument items
      return j :: rest

def fieldDocuments : List (String × Payload) → List (Payload × Except Fault Json)
  | [] => []
  | (name, item) :: fields => (text name, document item) :: fieldDocuments fields

def entryDocuments : List (Payload × Payload) → List (Payload × Except Fault Json)
  | [] => []
  | (key, item) :: entries => (key, document item) :: entryDocuments entries

end

/-- The text a payload has where a text is asked for without regard to its kind. -/
def plainText (p : Payload) : Except Fault String :=
  match p with
  | decimal d => .ok d.scientific
  | irregular x => .ok x.text
  | signaling => .ok signalingText
  | text _ | timestamp _ | date _ | value _ _ => p.displayed
  | p => p.shown

end Payload

end RecordFilter
