import RecordFilter.Predicate.Compile
import RecordFilter.Proofs.Kinds

/-!
# An interpreter of expressions

The interpreter walks through an expression for every record anew.  It keeps nothing from one
record to the next: fields are looked up by the names in the expression, constants are evaluated
and converted where they are met, values of a list are compared one by one, and what Null does is
said at each operator.  It is what a compiled filter has to agree with.
-/

namespace RecordFilter

/-! ## Values of a list -/

namespace Payload

def isOneOf (target : Kind) (p : Payload) : List Value → Except Fault Bool
  | [] => .ok false
  | v :: values => do
      let w ← v.coerce target
      if w.raw.same p then return true else isOneOf target p values

/-- An element of a collection equals one of the values of a list, or the timestamp that one of
them reads as. -/
def isElementOf (element : Payload) : List Value → Except Fault Bool
  | [] => .ok false
  | v :: values => do
      let candidates ← elementPayloads v
      if candidates.any fun q => q.same element then return true else isElementOf element values

/-- One of the elements equals one of the values.  What no set can hold, such as a tuple of lists,
does not count. -/
def anyIsElementOf (values : List Value) : List Payload → Except Fault Bool
  | [] => .ok false
  | item :: items => do
      let element ← item.normalizeElement
      let found ← element.isElementOf values
      if element.isFindable && found then return true else anyIsElementOf values items

def brought (target k : Kind) (operand : Except Fault Payload) : Except Fault Payload := do
  let p ← operand
  if p.isNull then return .null
  else
    let v ← (⟨k, p⟩ : Value).coerce target
    return v.raw

end Payload

namespace Expr

/-! ## Kinds of expressions -/

def isClosed (e : Expr) : Bool := e.nodes.all fun node => node.fieldName?.isNone

def kind (s : Schema) : Expr → Kind
  | const v => v.kind
  | field name => (s.kind? name).getD .null
  | unary .negate _ | unary .plus _ | binary (.arithmetic _) _ _ => .number
  | _ => .boolean

/-- The kind that two operands are compared at.  A constant gives way, of two constants the right
one. -/
def kindOfBoth (s : Schema) (left right : Expr) : Kind :=
  if right.isClosed || !left.isClosed then left.kind s else right.kind s

/-! ## Evaluation -/

section

variable (s : Schema) (lookup : Lookup) (record : Payload)

open Payload

mutual

def interpret : Expr → Except Fault Payload
  | const v => .ok v.raw
  | field name => s.read lookup name record
  | unary .not operand => do
      let p ← interpret operand
      return .bool (!p.isTrue)
  | unary .plus operand => interpret operand
  | unary .negate operand => do
      let p ← interpret operand
      if p.isNull then return .null else p.negate
  | binary .and left right => do
      let p ← interpret left
      if p.isTrue then
        let q ← interpret right
        return .bool q.isTrue
      else return .bool false
  | binary .or left right => do
      let p ← interpret left
      if p.isTrue then return .bool true
      else
        let q ← interpret right
        return .bool q.isTrue
  | binary (.compare c) left right => do
      let k := kindOfBoth s left right
      let p ← brought k (left.kind s) (interpret left)
      if p.isNull then return .bool (c == .notEqual)
      else
        let q ← brought k (right.kind s) (interpret right)
        if q.isNull then return .bool (c == .notEqual)
        else
          let result ← c.test p q
          return .bool result
  | binary (.arithmetic op) left right => do
      let p ← brought .number (left.kind s) (interpret left)
      let q ← brought .number (right.kind s) (interpret right)
      return op.onNumbers p q
  | binary .like left right => do
      let p ← interpret left
      if p.isNull then return .bool false
      else
        let pattern ← interpret right
        let wildcards ← pattern.displayed
        let text ← p.displayed
        return .bool (matchesPattern wildcards.toList text.toList)
  | state .isNull operand => do
      let p ← interpret operand
      return .bool p.isNull
  | state .isNotNull operand => do
      let p ← interpret operand
      return .bool (!p.isNull)
  | state .isEmpty operand => do
      let p ← interpret operand
      if p.isNull then return .bool false
      else
        let length ← p.length
        return .bool (length == 0)
  | state .isNotEmpty operand => do
      let p ← interpret operand
      if p.isNull then return .bool true
      else
        let length ← p.length
        return .bool (length != 0)
  | among negated operand first others => do
      let p ← interpret operand
      if p.isNull then return .bool negated
      else
        let q ← interpret first
        let values ← interpretAll others
        let found ←
          if operand.kind s = .collection then do
            let items ← p.members
            anyIsElementOf (⟨first.kind s, q⟩ :: values) items
          else isOneOf (operand.kind s) p (⟨first.kind s, q⟩ :: values)
        return .bool (found != negated)
  | between negated operand lower upper => do
      let p ← interpret operand
      if p.isNull then return .bool negated
      else
        let low ← brought (operand.kind s) (lower.kind s) (interpret lower)
        let high ← brought (operand.kind s) (upper.kind s) (interpret upper)
        if low.isNull || high.isNull then return .bool negated
        else
          let above ← Comparison.atMost.test low p
          if above then
            let below ← Comparison.atMost.test p high
            return .bool (below != negated)
          else return .bool negated
  | incomplete _ _ | unknown _ => .ok .null

def interpretAll : List Expr → Except Fault (List Value)
  | [] => .ok []
  | e :: es => do
      let p ← interpret e
      let values ← interpretAll es
      return ⟨e.kind s, p⟩ :: values

end

@[simp] theorem interpret_const (v : Value) : (const v).interpret s lookup record = .ok v.raw := by
  rw [interpret]

@[simp] theorem interpret_field (name : String) :
    (field name).interpret s lookup record = s.read lookup name record := by rw [interpret]

end

end Expr

end RecordFilter
