/-!
# Halves of pairs

A document may escape the code of half a pair without the other half.  That is no character, and a
text that holds it cannot be written as bytes; otherwise it is a text like others.  The half is held
as one of the characters U+DD800 to U+DDFFF, which are assigned to nothing, at a fixed distance from
its code.  So a text that holds one of these characters itself is taken to hold a half and is not
written either, and a half comes behind every assigned character in the order of texts, not before
those beyond the first plane.
-/

namespace RecordFilter.Text

def halfDistance : Nat := 0xD0000

def half (code : Nat) : Char := Char.ofNat (code + halfDistance)

def isHalf (c : Char) : Bool := 0xDD800 ≤ c.toNat && c.toNat < 0xDE000

def codeOf (c : Char) : Nat := if isHalf c then c.toNat - halfDistance else c.toNat

structure HalfRun where
  start : Nat
  stop : Nat
  deriving DecidableEq, Repr

def halfRun? (text : List Char) : Option HalfRun :=
  let before := text.takeWhile (!isHalf ·)
  let halves := (text.dropWhile (!isHalf ·)).takeWhile isHalf
  if halves.isEmpty then none else some ⟨before.length, before.length + halves.length⟩

end RecordFilter.Text
