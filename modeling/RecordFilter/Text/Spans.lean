/-!
# Character classes as spans of code points

A class of characters is decided directly on ASCII and, beyond it, by a list of
closed spans of code points.  Tables are given in increasing order, so that a
reader can find a character in them; nothing depends on the order.
-/

namespace RecordFilter.Text

abbrev Spans := List (Nat × Nat)

def Spans.contains (spans : Spans) (c : Char) : Bool :=
  spans.any fun (first, last) => first ≤ c.toNat && c.toNat ≤ last

def isAscii (c : Char) : Bool := c.toNat < 128

end RecordFilter.Text
