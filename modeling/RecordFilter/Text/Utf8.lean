import RecordFilter.Text.Halves

/-!
# Text as bytes

A file holds the bytes of a text in UTF-8, from one to four for a character.  Decoding stops at
the first byte that cannot be right and tells the bytes of the character it broke off in.
-/

namespace RecordFilter.Text

inductive Utf8Problem
  | startByte
  | continuationByte
  | endOfData
  deriving DecidableEq, Repr

structure Utf8Error where
  problem : Utf8Problem
  byte : Nat
  start : Nat
  stop : Nat
  deriving DecidableEq, Repr

/-- A character whose first bytes were read: the value of their bits, and the number of bytes that
are still to come. -/
structure PartialChar where
  lead : Nat
  start : Nat
  bits : Nat
  missing : Nat
  deriving DecidableEq, Repr

namespace PartialChar

/-- The bytes that may follow; after the first one they exclude codes that need fewer bytes,
halves of a pair, and codes beyond the last character. -/
def allows (p : PartialChar) (position byte : Nat) : Bool :=
  let isSecond := position == p.start + 1
  let least :=
    if isSecond && p.lead = 0xE0 then 0xA0
    else if isSecond && p.lead = 0xF0 then 0x90
    else 0x80
  let greatest :=
    if isSecond && p.lead = 0xED then 0x9F
    else if isSecond && p.lead = 0xF4 then 0x8F
    else 0xBF
  least ≤ byte && byte ≤ greatest

def add (p : PartialChar) (byte : Nat) : PartialChar :=
  { p with bits := p.bits * 64 + byte % 64, missing := p.missing - 1 }

def error (p : PartialChar) (problem : Utf8Problem) (stop : Nat) : Utf8Error :=
  ⟨problem, p.lead, p.start, stop⟩

def ofLead? (start byte : Nat) : Option PartialChar :=
  if 0xC2 ≤ byte && byte ≤ 0xDF then some ⟨byte, start, byte - 0xC0, 1⟩
  else if 0xE0 ≤ byte && byte ≤ 0xEF then some ⟨byte, start, byte - 0xE0, 2⟩
  else if 0xF0 ≤ byte && byte ≤ 0xF4 then some ⟨byte, start, byte - 0xF0, 3⟩
  else none

end PartialChar

/-- The characters of the bytes from `position` on, the first of which may complete a character. -/
def decodeFrom (position : Nat) (pending : Option PartialChar) :
    List Nat → Except Utf8Error (List Char)
  | [] =>
      match pending with
      | some p => .error (p.error .endOfData position)
      | none => .ok []
  | byte :: rest =>
      match pending with
      | some p =>
          if p.allows position byte then
            let p := p.add byte
            if p.missing = 0 then (decodeFrom (position + 1) none rest).map (Char.ofNat p.bits :: ·)
            else decodeFrom (position + 1) (some p) rest
          else .error (p.error .continuationByte position)
      | none =>
          if byte < 0x80 then (decodeFrom (position + 1) none rest).map (Char.ofNat byte :: ·)
          else
            match PartialChar.ofLead? position byte with
            | some p => decodeFrom (position + 1) (some p) rest
            | none => .error ⟨.startByte, byte, position, position + 1⟩

def decode (bytes : List Nat) : Except Utf8Error (List Char) := decodeFrom 0 none bytes

def byteOrderMark : List Nat := [0xEF, 0xBB, 0xBF]

/-- The bytes without a mark of their order in front; nothing is left of a file that ends within the
mark. -/
def withoutMark (bytes : List Nat) : List Nat :=
  if byteOrderMark.isPrefixOf bytes || bytes.isPrefixOf byteOrderMark then bytes.drop 3 else bytes

/-! ## Encoding -/

def encodeChar (c : Char) : List Nat :=
  let n := c.toNat
  if n < 0x80 then [n]
  else if n < 0x800 then [0xC0 + n / 64, 0x80 + n % 64]
  else if n < 0x10000 then [0xE0 + n / 4096, 0x80 + n / 64 % 64, 0x80 + n % 64]
  else [0xF0 + n / 262144, 0x80 + n / 4096 % 64, 0x80 + n / 64 % 64, 0x80 + n % 64]

def encode (text : List Char) : List Nat := text.flatMap encodeChar

structure EncodeError where
  text : List Char
  halves : HalfRun
  deriving DecidableEq, Repr

def encodeWhole (text : List Char) : Except EncodeError (List Nat) :=
  match halfRun? text with
  | some halves => .error ⟨text, halves⟩
  | none => .ok (encode text)

end RecordFilter.Text
