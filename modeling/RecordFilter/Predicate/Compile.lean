import RecordFilter.Predicate.CompileError
import RecordFilter.Predicate.Term

/-!
# Compiling expressions

An expression is compiled from the leaves up to a term and its kind.  A constant operand is
converted to the kind of the operand it meets, and a term whose operands are all constants is
evaluated at once.  Whatever does not fit is reported, so that a compiled filter has only operands
of fitting kinds.
-/

namespace RecordFilter

abbrev Compiling (α : Type) := Except CompileFailure α

structure Node where
  kind : Kind
  term : Term
  deriving Inhabited

namespace Node

def ofValue (v : Value) : Node := ⟨v.kind, .constant v⟩

def constant? (n : Node) : Option Value := n.term.constant?

def isConstant (n : Node) : Bool := n.constant?.isSome

def isNullConstant (n : Node) : Bool := n.constant?.any Value.isNull

end Node

def reject {α : Type} (e : CompileError) : Compiling α := .error (.rejected e)

def orFault {α : Type} (result : Except Fault α) : Compiling α :=
  match result with
  | .ok a => .ok a
  | .error f => .error (.fault f)

def evalClosed (t : Term) : Except Fault Payload := t.eval (fun _ _ => .ok .null) .null

/-- Evaluates a term at once if its operands are constants. -/
def fold (n : Node) (operands : List Node) : Compiling Node :=
  if operands.all Node.isConstant then do
    let raw ← orFault (evalClosed n.term)
    return .ofValue ⟨if raw.isNull && n.kind != .boolean then .null else n.kind, raw⟩
  else .ok n

def booleanNode (t : Term) : Node := ⟨.boolean, t⟩

def label : Expr → Compiling String
  | .field name => .ok ("[" ++ name ++ "]")
  | .const v =>
      if v.isNull then .ok "NULL"
      else do
        let text ← orFault v.raw.displayed
        return Text.quote text
  | _ => .ok "expression"

/-- Brings a constant operand to the kind of the operand it meets. -/
def align (operator : String) (target other : Node) (otherExpr : Expr) : Compiling Node :=
  if other.kind == target.kind then .ok other
  else
    match other.constant? with
    | some v =>
        if v.kind == .boolean then reject (.booleanConstant operator target.kind)
        else
          match v.coerce target.kind with
          | .ok converted => .ok (.ofValue converted)
          | .error (.conversion reason) => do
              let text ← label otherExpr
              reject (.constantDoesNotFit text operator target.kind reason)
          | .error f => .error (.fault f)
    | none => reject (.kindsDiffer operator target.kind other.kind)

/-! ## Operators -/

def compileField (r : Resolver) (name : String) : Compiling Node :=
  match r.canonical? name with
  | none => reject (.unknownField name)
  | some declared =>
      match r.kind? declared with
      | none | some .null => reject (.fieldWithoutKind name)
      | some kind => .ok ⟨kind, .field declared⟩

def compileUnary (op : UnaryOp) (operandExpr : Expr) (operand : Node) : Compiling Node :=
  match op with
  | .not =>
      if operand.kind == .boolean then fold (booleanNode (.not operand.term)) [operand]
      else do reject (.negationOf operand.kind (← label operandExpr))
  | .plus =>
      if operand.kind == .number then .ok operand
      else do reject (.signOf op.symbol operand.kind (← label operandExpr))
  | .negate =>
      if operand.kind == .number then fold ⟨.number, .negate operand.term⟩ [operand]
      else do reject (.signOf op.symbol operand.kind (← label operandExpr))

def compileConnective (op : BinaryOp) (term : Term) (left right : Node) : Compiling Node :=
  if left.kind == .boolean && right.kind == .boolean then fold (booleanNode term) [left, right]
  else reject (.connectiveOf op.symbol left.kind right.kind)

def compileState (test : StateTest) (operandExpr : Expr) (operand : Node) : Compiling Node :=
  let needsLength := test == .isEmpty || test == .isNotEmpty
  let hasLength := operand.kind == .text || operand.kind == .collection || operand.isNullConstant
  if needsLength && !hasLength then do
    reject (.emptinessOf test.symbol operand.kind (← label operandExpr))
  else fold (booleanNode (.state test operand.term)) [operand]

def compileLike (left right : Node) (rightExpr : Expr) : Compiling Node :=
  match right.constant? with
  | some ⟨.text, raw⟩ => do
      let pattern ← orFault raw.displayed
      fold (booleanNode (.like pattern.toList (left.kind == .text) left.term)) [left]
  | _ => do reject (.patternNotConstant (← label rightExpr))

/-- Both operands of a comparison at one kind.  Of two constants the right one is converted. -/
def alignBoth (operator : String) (left right : Node) (leftExpr rightExpr : Expr) :
    Compiling (Node × Node) :=
  if right.isConstant || !left.isConstant then do
    return (left, ← align operator left right rightExpr)
  else do
    return (← align operator right left leftExpr, right)

def compileComparison (c : Comparison) (left right : Node) (leftExpr rightExpr : Expr) :
    Compiling Node := do
  if left.isNullConstant || right.isNullConstant then reject (.comparisonWithNull c.symbol)
  let (left, right) ← alignBoth c.symbol left right leftExpr rightExpr
  if left.kind == .collection then reject (.comparisonOfCollections c.symbol)
  if !left.kind.isOrdered && !c.isEquality then reject (.orderOf c.symbol left.kind)
  fold (booleanNode (.compare c left.term right.term)) [left, right]

/-- A constant divisor must not be zero.  Of a signaling number that cannot be told. -/
def requireDivisor (op : Arithmetic) (right : Node) : Compiling Unit :=
  match op, right.constant? with
  | .divide, some v =>
      if v.raw.isSignaling then .error (.fault .undefinedComparison)
      else if Arithmetic.isZero v.raw then reject .divisionByZero
      else .ok ()
  | _, _ => .ok ()

def compileArithmetic (op : Arithmetic) (left right : Node) (leftExpr rightExpr : Expr) :
    Compiling Node := do
  if left.isNullConstant || right.isNullConstant then reject (.arithmeticOnNull op.symbol)
  if left.kind != .number && right.kind != .number then
    reject (.arithmeticOn op.symbol left.kind right.kind)
  let (left, right) ←
    if left.kind == .number then do
      pure (left, ← align op.symbol left right rightExpr)
    else do
      pure (← align op.symbol right left leftExpr, right)
  requireDivisor op right
  fold ⟨.number, .arithmetic op left.term right.term⟩ [left, right]

def compileBinary (op : BinaryOp) (left right : Node) (leftExpr rightExpr : Expr) :
    Compiling Node :=
  match op with
  | .and => compileConnective op (.both left.term right.term) left right
  | .or => compileConnective op (.either left.term right.term) left right
  | .like => compileLike left right rightExpr
  | .compare c => compileComparison c left right leftExpr rightExpr
  | .arithmetic op => compileArithmetic op left right leftExpr rightExpr

/-! ## Membership and ranges -/

def amongSymbol (negated : Bool) : String := if negated then "not in" else "in"

def betweenSymbol (negated : Bool) : String := if negated then "not between" else "between"

def requireHashable (p : Payload) : Compiling Payload :=
  match p.unhashable? with
  | some e => .error (.fault (.operands e))
  | none => .ok p

/-- The payloads that a constant matches in a collection: itself and, for a text that reads as a
timestamp, that. -/
def elementPayloads (v : Value) : Except Fault (List Payload) :=
  match v.kind, v.raw with
  | .text, .text s =>
      match readMoment s with
      | .ok m => .ok [v.raw, .ofMoment m]
      | .error (.conversion _) => .ok [v.raw]
      | .error f => .error f
  | _, raw => .ok [raw]

/-- The payloads that one value of a list stands for. -/
def compileMember (negated : Bool) (left value : Node) (valueExpr : Expr) :
    Compiling (List Payload) :=
  match value.constant? with
  | none => do reject (.valueNotConstant (amongSymbol negated) (← label valueExpr))
  | some v =>
      if v.isNull then reject (.nullValue (amongSymbol negated))
      else if left.kind == .collection then do
        let payloads ← orFault (elementPayloads v)
        payloads.mapM requireHashable
      else do
        let aligned ← align (amongSymbol negated) left value valueExpr
        let p ← orFault (evalClosed aligned.term)
        return [← requireHashable p]

def compileAmong (negated : Bool) (left : Node) (members : List Payload) : Compiling Node :=
  if left.kind == .collection then
    fold (booleanNode (.anyMember negated members left.term)) [left]
  else fold (booleanNode (.member negated members left.term)) [left]

def requireRange (negated : Bool) (left : Node) (leftExpr : Expr) : Compiling Unit :=
  match left.kind with
  | .number | .timestamp => .ok ()
  | .text => do reject (.rangeOfText (betweenSymbol negated) (← label leftExpr))
  | kind => reject (.rangeOf (betweenSymbol negated) kind)

def compileBound (negated : Bool) (left bound : Node) (boundExpr : Expr) : Compiling Node :=
  if bound.isNullConstant then reject (.nullBound (betweenSymbol negated))
  else align (betweenSymbol negated) left bound boundExpr

/-! ## Expressions -/

mutual

def compileExpr (r : Resolver) : Expr → Compiling Node
  | .const v => .ok (.ofValue v)
  | .field name => compileField r name
  | .unary op operand => do
      let node ← compileExpr r operand
      compileUnary op operand node
  | .binary op left right => do
      let leftNode ← compileExpr r left
      let rightNode ← compileExpr r right
      compileBinary op leftNode rightNode left right
  | .state test operand => do
      let node ← compileExpr r operand
      compileState test operand node
  | .among negated operand first others => do
      let left ← compileExpr r operand
      if left.isNullConstant then reject (.membershipOfNull (amongSymbol negated))
      let firstNode ← compileExpr r first
      let firstPayloads ← compileMember negated left firstNode first
      let otherPayloads ← compileMembers r negated left others
      compileAmong negated left (firstPayloads ++ otherPayloads)
  | .between negated operand lower upper => do
      let left ← compileExpr r operand
      requireRange negated left operand
      let lowerNode ← compileExpr r lower
      let low ← compileBound negated left lowerNode lower
      let upperNode ← compileExpr r upper
      let high ← compileBound negated left upperNode upper
      fold (booleanNode (.between negated left.term low.term high.term)) [left, low, high]
  | .incomplete op left => do
      let _ ← compileExpr r left
      reject (.missingOperand op.symbol)
  | .unknown name => reject (.unknownNode name)

def compileMembers (r : Resolver) (negated : Bool) (left : Node) :
    List Expr → Compiling (List Payload)
  | [] => .ok []
  | value :: values => do
      let node ← compileExpr r value
      let payloads ← compileMember negated left node value
      let rest ← compileMembers r negated left values
      return payloads ++ rest

end

@[simp] theorem compileExpr_const (r : Resolver) (v : Value) :
    compileExpr r (.const v) = .ok (.ofValue v) := by rw [compileExpr]

@[simp] theorem compileExpr_field (r : Resolver) (name : String) :
    compileExpr r (.field name) = compileField r name := by rw [compileExpr]

def compileFilter (r : Resolver) (e : Expr) : Compiling Term := do
  let node ← compileExpr r e
  if node.kind == .boolean then return node.term
  else reject (.notBoolean node.kind)

end RecordFilter
