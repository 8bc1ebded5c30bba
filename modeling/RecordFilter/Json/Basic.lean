import RecordFilter.Fault
import RecordFilter.Number.Binary64

/-!
# Documents of the object notation

Whole numbers are kept apart from floating-point numbers, and members of an object stay in
order.  A document is written on one line, or with an indentation that shows its depth.  Characters
beyond ASCII stand for themselves.
-/

namespace RecordFilter

open Number Text

inductive Json
  | null
  | bool (b : Bool)
  | int (n : Int)
  | float (x : Binary64)
  | string (s : String)
  | array (items : List Json)
  | object (members : List (String × Json))
  deriving Inhabited

def integerBound : Nat := Number.powerOfTen 4300

def integerText (n : Int) : Except Fault String :=
  if n.natAbs < integerBound then .ok (String.ofList (signedDigits n)) else .error .tooManyDigits

namespace Json

def quoteChar (c : Char) : List Char :=
  if c == doubleQuote || c == '\\' then ['\\', c]
  else if c == '\n' then ['\\', 'n']
  else if c == '\r' then ['\\', 'r']
  else if c == '\t' then ['\\', 't']
  else if c.toNat = 8 then ['\\', 'b']
  else if c.toNat = 12 then ['\\', 'f']
  else if c.toNat < 32 then ['\\', 'u'] ++ hexDigits 4 c.toNat
  else [c]

def quote (s : String) : String :=
  String.ofList (doubleQuote :: s.toList.flatMap quoteChar ++ [doubleQuote])

def floatText : Binary64 → String
  | .nonFinite .notANumber => "NaN"
  | .nonFinite (.infinity false) => "Infinity"
  | .nonFinite (.infinity true) => "-Infinity"
  | x => x.text

mutual

def compact : Json → Except Fault String
  | null => .ok "null"
  | bool b => .ok (if b then "true" else "false")
  | int n => integerText n
  | float x => .ok (floatText x)
  | string s => .ok (quote s)
  | array items => do
      let texts ← compactItems items
      return "[" ++ ", ".intercalate texts ++ "]"
  | object members => do
      let texts ← compactMembers members
      return "\x7b" ++ ", ".intercalate texts ++ "\x7d"

def compactItems : List Json → Except Fault (List String)
  | [] => .ok []
  | item :: items => do
      let text ← compact item
      let texts ← compactItems items
      return text :: texts

def compactMembers : List (String × Json) → Except Fault (List String)
  | [] => .ok []
  | (name, item) :: members => do
      let text ← compact item
      let texts ← compactMembers members
      return (quote name ++ ": " ++ text) :: texts

end

def block (depth : Nat) (opening closing : String) (lines : List String) : String :=
  if lines.isEmpty then opening ++ closing
  else
    let margin (d : Nat) : String := String.ofList (List.replicate (2 * d) ' ')
    opening ++ "\n" ++ ",\n".intercalate (lines.map (margin (depth + 1) ++ ·)) ++
      "\n" ++ margin depth ++ closing

mutual

def indented (depth : Nat) : Json → Except Fault String
  | array items => do
      let texts ← indentedItems (depth + 1) items
      return block depth "[" "]" texts
  | object members => do
      let texts ← indentedMembers (depth + 1) members
      return block depth "\x7b" "\x7d" texts
  | j => j.compact

def indentedItems (depth : Nat) : List Json → Except Fault (List String)
  | [] => .ok []
  | item :: items => do
      let text ← indented depth item
      let texts ← indentedItems depth items
      return text :: texts

def indentedMembers (depth : Nat) : List (String × Json) → Except Fault (List String)
  | [] => .ok []
  | (name, item) :: members => do
      let text ← indented depth item
      let texts ← indentedMembers depth members
      return (quote name ++ ": " ++ text) :: texts

end

end Json

end RecordFilter
