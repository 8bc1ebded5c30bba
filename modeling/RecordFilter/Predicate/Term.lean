import RecordFilter.Expr.Basic
import RecordFilter.Resolver.Basic
import RecordFilter.Wildcard

/-!
# Terms

A term is what an expression is compiled to: fields are resolved, constants have the kind that
their operator needs, patterns and sets of values are at hand.  Evaluating a term on a record
gives a payload.  Null is the result of an operation that has none; a comparison with Null is
false, and what is negated is the whole comparison.
-/

namespace RecordFilter

inductive Term
  | constant (v : Value)
  | field (name : String)
  | not (operand : Term)
  | negate (operand : Term)
  | both (left right : Term)
  | either (left right : Term)
  | state (test : StateTest) (operand : Term)
  | like (pattern : List Char) (isText : Bool) (operand : Term)
  | compare (c : Comparison) (left right : Term)
  | arithmetic (op : Arithmetic) (left right : Term)
  | member (negated : Bool) (members : List Payload) (operand : Term)
  | anyMember (negated : Bool) (members : List Payload) (operand : Term)
  | between (negated : Bool) (operand lower upper : Term)
  deriving Inhabited

/-! ## Operations on evaluated operands -/

namespace Payload

def testState (p : Payload) : StateTest → Except Fault Bool
  | .isNull => .ok p.isNull
  | .isNotNull => .ok (!p.isNull)
  | .isEmpty => if p.isNull then .ok false else p.length.map (· == 0)
  | .isNotEmpty => if p.isNull then .ok true else p.length.map (· != 0)

/-- The text a wildcard pattern is held against; a text operand has to be one. -/
def patternText (isText : Bool) (p : Payload) : Except Fault String :=
  match isText, p with
  | true, text s => .ok s
  | true, p => .error (.operands (.notText p.qualifiedTypeName))
  | false, p => p.displayed

def isLike (pattern : List Char) (isText : Bool) (p : Payload) : Except Fault Bool :=
  if p.isNull then .ok false
  else (p.patternText isText).map fun s => matchesPattern pattern s.toList

/-- An element of a collection brought to the kind it has by itself. -/
def normalizeElement (p : Payload) : Except Fault Payload :=
  match p.kind? with
  | none | some .null | some .collection => .ok p
  | some kind => p.normalize kind

def anyIsMember (members : List Payload) : List Payload → Except Fault Bool
  | [] => .ok false
  | item :: items => do
      let element ← item.normalizeElement
      if element.isMember members then return true else anyIsMember members items

end Payload

namespace Comparison

/-- A comparison of two payloads of which neither is Null; an inequality is the negation of an
equality. -/
def testNonNull (c : Comparison) (p q : Payload) : Except Fault Bool :=
  if p.isNull || q.isNull then .ok (c == notEqual) else c.test p q

end Comparison

namespace Payload

def isWithin (p lower upper : Payload) : Except Fault Bool :=
  if lower.isNull || upper.isNull then .ok false
  else do
    if ← Comparison.atMost.test lower p then Comparison.atMost.test p upper else return false

end Payload

namespace Term

def constant? : Term → Option Value
  | constant v => some v
  | _ => none

/-- The payload of a term on a record whose fields are read by `read`.  The right operand of a
connective is not evaluated if the left one decides, nor that of a comparison if the left
one is Null. -/
def eval (read : String → Payload → Except Fault Payload) (record : Payload) :
    Term → Except Fault Payload
  | constant v => .ok v.raw
  | field name => read name record
  | not operand => do
      let p ← eval read record operand
      return .bool (!p.isTrue)
  | negate operand => do
      let p ← eval read record operand
      p.negate
  | both left right => do
      let p ← eval read record left
      if p.isTrue then
        let q ← eval read record right
        return .bool q.isTrue
      else return .bool false
  | either left right => do
      let p ← eval read record left
      if p.isTrue then return .bool true
      else
        let q ← eval read record right
        return .bool q.isTrue
  | state test operand => do
      let p ← eval read record operand
      let result ← p.testState test
      return .bool result
  | like pattern isText operand => do
      let p ← eval read record operand
      let result ← p.isLike pattern isText
      return .bool result
  | compare c left right => do
      let p ← eval read record left
      if p.isNull then return .bool (c == .notEqual)
      else
        let q ← eval read record right
        let result ← c.testNonNull p q
        return .bool result
  | arithmetic op left right => do
      let p ← eval read record left
      let q ← eval read record right
      op.apply p q
  | member negated members operand => do
      let p ← eval read record operand
      let found := !p.isNull && p.isMember members
      return .bool (found != negated)
  | anyMember negated members operand => do
      let p ← eval read record operand
      if p.isNull then return .bool negated
      else
        let items ← p.members
        let found ← Payload.anyIsMember members items
        return .bool (found != negated)
  | between negated operand lower upper => do
      let p ← eval read record operand
      if p.isNull then return .bool negated
      else
        let low ← eval read record lower
        let high ← eval read record upper
        let found ← p.isWithin low high
        return .bool (found != negated)

end Term

end RecordFilter
