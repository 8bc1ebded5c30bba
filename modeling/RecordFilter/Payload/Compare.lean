import RecordFilter.Fault
import RecordFilter.Payload.Basic

/-!
# Equality and order of payloads

Numbers are equal if their values are, whatever they are written as; a truth value counts as one
or zero.  Timestamps with an offset are equal if they are the same instant, and never equal
to one without.  It cannot be told whether a signaling number equals a number.  A member of a set
holds no list, no record, no set but a frozen one and no signaling number.
-/

namespace RecordFilter

namespace Payload

def isDecimal : Payload → Bool
  | decimal _ | irregular _ | signaling => true
  | _ => false

def isSignaling : Payload → Bool
  | signaling => true
  | _ => false

def numeral? : Payload → Option Numeral
  | bool b => some (.finite (.ofInt (if b then 1 else 0)))
  | int n => some (.finite (.ofInt n))
  | float (.finite negative mantissa exponent) =>
      some (.finite (Binary64.exactly negative mantissa exponent))
  | float (.nonFinite x) | irregular x => some (.nonFinite x)
  | decimal d => some (.finite d)
  | signaling => some .signaling
  | _ => none

end Payload

namespace Numeral

/-- The order of numbers, with the infinities at its ends; what is not a number has no place in
it. -/
def compare? : Numeral → Numeral → Option Ordering
  | .finite a, .finite b => some (a.compare b)
  | .signaling, _ | _, .signaling | .nonFinite .notANumber, _ | _, .nonFinite .notANumber => none
  | .nonFinite (.infinity a), .nonFinite (.infinity b) => some (compare b.toNat a.toNat)
  | .nonFinite (.infinity negative), .finite _ => some (if negative then .lt else .gt)
  | .finite _, .nonFinite (.infinity negative) => some (if negative then .gt else .lt)

def same (a b : Numeral) : Bool := a.compare? b == some .eq

end Numeral

namespace Timestamp

def same (a b : Timestamp) : Bool :=
  a.offset.isSome == b.offset.isSome && a.instant == b.instant

end Timestamp

namespace Payload

mutual

def same : Payload → Payload → Bool
  | null, null => true
  | text s, text t => s == t
  | timestamp t, timestamp u => t.same u
  | date d, date e => d == e
  | foreign s, foreign t => s == t
  | list xs, list ys => sameAll xs ys
  | tuple xs, tuple ys => sameAll xs ys
  | set _ xs, set _ ys => includedIn xs ys && ys.all (anySame xs)
  | record fields, record others =>
      agreeOn fields others && others.all fun field => anyField fields field.1 field.2
  | mapping entries, mapping others =>
      entriesIn entries others && others.all fun entry => anyEntry entries entry.1 entry.2
  | value k p, value l q => k == l && same p q
  | p, q =>
      match p.numeral?, q.numeral? with
      | some x, some y => x.same y
      | _, _ => false
termination_by structural p => p

def sameAll : List Payload → List Payload → Bool
  | [], [] => true
  | x :: xs, y :: ys => same x y && sameAll xs ys
  | _, _ => false
termination_by structural xs => xs

def includedIn : List Payload → List Payload → Bool
  | [], _ => true
  | x :: xs, ys => ys.any (fun y => same x y) && includedIn xs ys
termination_by structural xs => xs

def anySame : List Payload → Payload → Bool
  | [], _ => false
  | x :: xs, y => same x y || anySame xs y
termination_by structural xs => xs

def agreeOn : List (String × Payload) → List (String × Payload) → Bool
  | [], _ => true
  | (name, x) :: fields, others =>
      (match others.lookup name with
      | some y => same x y
      | none => false) && agreeOn fields others
termination_by structural xs => xs

def anyField : List (String × Payload) → String → Payload → Bool
  | [], _, _ => false
  | (name, x) :: fields, wanted, y => if wanted == name then same x y else anyField fields wanted y
termination_by structural xs => xs

def entriesIn : List (Payload × Payload) → List (Payload × Payload) → Bool
  | [], _ => true
  | (key, x) :: entries, others =>
      (others.any fun other => same key other.1 && same x other.2) && entriesIn entries others
termination_by structural xs => xs

def anyEntry : List (Payload × Payload) → Payload → Payload → Bool
  | [], _, _ => false
  | (key, x) :: entries, wanted, y => same key wanted && same x y || anyEntry entries wanted y
termination_by structural xs => xs

end

def unhashable? : Payload → Option OperandError
  | list _ => some (.unhashable "list")
  | set false _ => some (.unhashable "set")
  | record _ | mapping _ => some (.unhashable "dict")
  | signaling => some .unhashableNumber
  | tuple items => firstUnhashable items
  | value _ raw => unhashable? raw
  | _ => none
where
  firstUnhashable : List Payload → Option OperandError
    | [] => none
    | x :: xs => (unhashable? x).or (firstUnhashable xs)

/-- A payload can be looked up in a set of payloads.  A set can be, as what it would be frozen. -/
def isFindable : Payload → Bool
  | set _ _ => true
  | p => p.unhashable?.isNone

def isMember (members : List Payload) (p : Payload) : Bool :=
  p.isFindable && members.any (fun member => same member p)

end Payload

inductive Comparison
  | equal | notEqual | less | greater | atMost | atLeast
  deriving DecidableEq, Repr

namespace Comparison

def symbol : Comparison → String
  | equal => "=="
  | notEqual => "!="
  | less => "<"
  | greater => ">"
  | atMost => "<="
  | atLeast => ">="

def isEquality : Comparison → Bool
  | equal | notEqual => true
  | _ => false

def holds : Comparison → Ordering → Bool
  | equal, o => o == .eq
  | notEqual, o => o != .eq
  | less, o => o == .lt
  | greater, o => o == .gt
  | atMost, o => o != .gt
  | atLeast, o => o != .lt

/-- How two payloads are ordered, as needed for a comparison that is not an equality.  What is not
a number has no order, and it is a fault to ask for one where a decimal number takes part. -/
def order (c : Comparison) (p q : Payload) : Except Fault (Option Ordering) :=
  match p, q with
  | .text s, .text t => .ok (some (compare s t))
  | .timestamp t, .timestamp u =>
      if t.offset.isSome == u.offset.isSome then .ok (some (compare t.instant u.instant))
      else .error (.operands .unlikeTimestamps)
  | p, q =>
      match p.numeral?, q.numeral? with
      | some x, some y =>
          match x.compare? y with
          | some o => .ok (some o)
          | none =>
              if p.isDecimal || q.isDecimal then .error .undefinedComparison else .ok none
      | _, _ => .error (.operands (.unordered c.symbol p.qualifiedTypeName q.qualifiedTypeName))

/-- One of two payloads is a signaling number, and the other one a number too. -/
def meetsSignal (p q : Payload) : Bool :=
  (p.isSignaling && q.numeral?.isSome) || (q.isSignaling && p.numeral?.isSome)

def test (c : Comparison) (p q : Payload) : Except Fault Bool :=
  match c with
  | equal => if meetsSignal p q then .error .undefinedComparison else .ok (p.same q)
  | notEqual => if meetsSignal p q then .error .undefinedComparison else .ok (!p.same q)
  | c => (c.order p q).map fun o => o.any c.holds

end Comparison

end RecordFilter
