import RecordFilter.Resolver.Basic

/-!
# Text search

A record is found if the text of one of the searched fields contains the wanted text, both in lower
case.  Fields the resolver does not know are skipped, and a blank text finds every record.
-/

namespace RecordFilter

open Text

def occursIn (wanted : List Char) : List Char → Bool
  | [] => wanted.isEmpty
  | c :: rest => wanted.isPrefixOf (c :: rest) || occursIn wanted rest

def fieldContains (r : Resolver) (needle : List Char) (name : String) (record : Payload) :
    Except Fault Bool := do
  let p ← r.read name record
  if p.isNull then return false
  else
    let text ← p.displayed
    return occursIn needle (lowerText text.toList)

def anyFieldContains (r : Resolver) (needle : List Char) (record : Payload) :
    List String → Except Fault Bool
  | [] => .ok false
  | name :: names => do
      if ← fieldContains r needle name record then return true
      else anyFieldContains r needle record names

/-- The declared names of the fields to search; without a choice, all of them. -/
def searchedFields (r : Resolver) (chosen : List String) : List String :=
  (if chosen.isEmpty then r.fieldNames else chosen).filterMap r.canonical?

def found (r : Resolver) (needle : List Char) (names : List String) (record : Payload) :
    Except Fault Bool :=
  if record.isNull then .ok false else anyFieldContains r needle record names

def filterFound {α : Type} (r : Resolver) (needle : List Char) (names : List String)
    (record : α → Payload) : List α → Except Fault (List α)
  | [] => .ok []
  | item :: items => do
      let kept ← found r needle names (record item)
      let rest ← filterFound r needle names record items
      return if kept then item :: rest else rest

def searchText {α : Type} (r : Resolver) (wanted : Option String) (chosen : List String)
    (record : α → Payload) (items : List α) : Except Fault (List α) :=
  match wanted with
  | none => .ok items
  | some s =>
      if isBlankText s.toList then .ok items
      else filterFound r (lowerText s.toList) (searchedFields r chosen) record items

end RecordFilter
