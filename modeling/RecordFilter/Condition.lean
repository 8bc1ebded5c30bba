import RecordFilter.Expr.Print
import RecordFilter.Query

/-!
# Conditions

Conditions are filters built by hand, from comparisons of a field with payloads.  They are
combined by `and`, `or` and `not`, written as text, and compiled like the text they stand for.
-/

namespace RecordFilter

inductive ConditionError
  | nullLiteral
  | noListValues (method : String)
  | noConditions (method : String)
  | filter (e : FilterError)
  | fault (f : Fault)
  deriving DecidableEq, Repr

namespace ConditionError

def message : ConditionError → String
  | nullLiteral => "None is not a valid filter literal; use is_null()/is_not_null()."
  | noListValues method => method ++ "() requires at least one value"
  | noConditions method => method ++ "() requires at least one condition"
  | filter e => e.message
  | fault f => f.message

end ConditionError

structure Condition where
  expr : Expr

namespace Condition

abbrev Building (α : Type) := Except ConditionError α

def orFault {α : Type} (result : Except Fault α) : Building α :=
  match result with
  | .ok a => .ok a
  | .error f => .error (.fault f)

def literal (p : Payload) : Building Expr :=
  if p.isNull then .error .nullLiteral
  else (orFault (Value.ofPayload p)).map Expr.const

def compare (op : BinaryOp) (name : String) (p : Payload) : Building Condition := do
  let right ← literal p
  return ⟨.binary op (.field name) right⟩

def like (before after name : String) (p : Payload) : Building Condition := do
  let text ← orFault p.plainText
  return ⟨.binary .like (.field name) (.const ⟨.text, .text (before ++ text ++ after)⟩)⟩

def opposite (c : Condition) : Condition := ⟨.unary .not c.expr⟩

def both (a b : Condition) : Condition := ⟨.binary .and a.expr b.expr⟩

def either (a b : Condition) : Condition := ⟨.binary .or a.expr b.expr⟩

def among (negated : Bool) (name : String) (values : Payload) : Building Condition := do
  let payloads ← orFault values.members
  match ← payloads.mapM literal with
  | first :: others => return ⟨.among negated (.field name) first others⟩
  | [] => .error (.noListValues (if negated then "not_in_list" else "in_list"))

def between (negated : Bool) (name : String) (low high : Payload) : Building Condition := do
  let lower ← literal low
  let upper ← literal high
  return ⟨.between negated (.field name) lower upper⟩

def state (test : StateTest) (name : String) : Condition := ⟨.state test (.field name)⟩

def raw (text : String) : Building Condition :=
  match parseExpression text with
  | .ok e => .ok ⟨e⟩
  | .error e => .error (.filter e)

def combine (op : BinaryOp) (method : String) : List Condition → Building Condition
  | [] => .error (.noConditions method)
  | c :: others => .ok (others.foldl (fun left right => ⟨.binary op left.expr right.expr⟩) c)

/-! ## Text and use -/

def print (c : Condition) (style : LiteralStyle) : Printing := c.expr.print style

def text (c : Condition) : Printing := c.print .standard

def shown (c : Condition) : Printing := do
  let s ← c.text
  return "Filter(" ++ Text.quote s ++ ")"

inductive UseError
  | print (e : PrintError)
  | query (e : QueryFailure)

def compile (c : Condition) (r : Resolver) : Except UseError Predicate :=
  match c.text with
  | .error e => .error (.print e)
  | .ok s =>
      match withText none (compileTo r (some s) c.expr) with
      | .ok p => .ok p
      | .error e => .error (.query e)

end Condition

end RecordFilter
