import RecordFilter.Payload.Arithmetic
import RecordFilter.Value

/-!
# Expressions

An expression is a tree of constants, field references and operators.  The operand lists of the
node kinds are part of the type: a membership test has at least one value, and a test such as `is
null` has no right operand.  Two kinds of node are no part of the language: a binary operator that
lost its right operand, and a node that is not known at all.  Programs that build trees by hand
may produce them, and compiling reports them.
-/

namespace RecordFilter

inductive UnaryOp
  | not | negate | plus
  deriving DecidableEq, Repr

inductive BinaryOp
  | and
  | or
  | compare (c : Comparison)
  | arithmetic (op : Arithmetic)
  | like
  deriving DecidableEq, Repr

inductive StateTest
  | isNull | isNotNull | isEmpty | isNotEmpty
  deriving DecidableEq, Repr

namespace UnaryOp

def symbol : UnaryOp → String
  | not => "!"
  | negate => "-"
  | plus => "+"

end UnaryOp

namespace BinaryOp

def symbol : BinaryOp → String
  | and => "&&"
  | or => "||"
  | compare c => c.symbol
  | arithmetic op => op.symbol
  | like => "like"

end BinaryOp

namespace StateTest

def symbol : StateTest → String
  | isNull => "is null"
  | isNotNull => "is not null"
  | isEmpty => "is empty"
  | isNotEmpty => "is not empty"

end StateTest

inductive Expr
  | const (v : Value)
  | field (name : String)
  | unary (op : UnaryOp) (operand : Expr)
  | binary (op : BinaryOp) (left right : Expr)
  | state (test : StateTest) (operand : Expr)
  | among (negated : Bool) (operand first : Expr) (others : List Expr)
  | between (negated : Bool) (operand lower upper : Expr)
  | incomplete (op : BinaryOp) (left : Expr)
  | unknown (name : String)
  deriving Inhabited

namespace Expr

mutual

/-- All nodes of a tree, each before the nodes below it and these from left to right. -/
def nodes : Expr → List Expr
  | const v => [const v]
  | field name => [field name]
  | unary op operand => unary op operand :: nodes operand
  | binary op left right => binary op left right :: (nodes left ++ nodes right)
  | state test operand => state test operand :: nodes operand
  | among negated operand first others =>
      among negated operand first others :: (nodes operand ++ (nodes first ++ nodesOf others))
  | between negated operand lower upper =>
      between negated operand lower upper :: (nodes operand ++ (nodes lower ++ nodes upper))
  | incomplete op left => incomplete op left :: nodes left
  | unknown name => [unknown name]

def nodesOf : List Expr → List Expr
  | [] => []
  | e :: rest => nodes e ++ nodesOf rest

end

theorem mem_nodes_self (e : Expr) : e ∈ e.nodes := by
  cases e <;> simp [nodes]

section

variable {negated : Bool} {operand left right lower upper first : Expr} {others : List Expr}

theorem nodes_subset_unary {op : UnaryOp} : operand.nodes ⊆ (unary op operand).nodes :=
  fun _ => List.mem_cons_of_mem _

theorem nodes_subset_left {op : BinaryOp} : left.nodes ⊆ (binary op left right).nodes :=
  fun _ found => List.mem_cons_of_mem _ (List.mem_append_left _ found)

theorem nodes_subset_right {op : BinaryOp} : right.nodes ⊆ (binary op left right).nodes :=
  fun _ found => List.mem_cons_of_mem _ (List.mem_append_right _ found)

theorem nodes_subset_state {test : StateTest} : operand.nodes ⊆ (state test operand).nodes :=
  fun _ => List.mem_cons_of_mem _

theorem nodes_subset_among : operand.nodes ⊆ (among negated operand first others).nodes :=
  fun _ found => List.mem_cons_of_mem _ (List.mem_append_left _ found)

theorem nodes_subset_values :
    nodesOf (first :: others) ⊆ (among negated operand first others).nodes :=
  fun _ found => List.mem_cons_of_mem _ (List.mem_append_right _ found)

theorem nodes_subset_between : operand.nodes ⊆ (between negated operand lower upper).nodes :=
  fun _ found => List.mem_cons_of_mem _ (List.mem_append_left _ found)

theorem nodes_subset_lower : lower.nodes ⊆ (between negated operand lower upper).nodes :=
  fun _ found => List.mem_cons_of_mem _ (List.mem_append_right _ (List.mem_append_left _ found))

theorem nodes_subset_upper : upper.nodes ⊆ (between negated operand lower upper).nodes :=
  fun _ found => List.mem_cons_of_mem _ (List.mem_append_right _ (List.mem_append_right _ found))

end

def fieldName? : Expr → Option String
  | field name => some name
  | _ => none

/-- The fields a tree refers to, in the order in which they first occur. -/
def fieldNames (e : Expr) : List String :=
  (e.nodes.filterMap fieldName?).eraseDups

def isNullConst : Expr → Bool
  | const v => v.isNull
  | _ => false

end Expr

/-! ## Building trees from loose parts -/

/-- Why an operator and its operands make no node. -/
inductive ShapeError
  | unexpectedOperand (test : StateTest)
  | missingOperand (op : BinaryOp)
  | noValues
  deriving DecidableEq, Repr

namespace ShapeError

def message : ShapeError → String
  | unexpectedOperand test => "'" ++ test.symbol ++ "' takes no right operand"
  | missingOperand op => "'" ++ op.symbol ++ "' requires a right operand"
  | noValues => "IN requires at least one value"

end ShapeError

namespace Expr

def binary? (op : BinaryOp) (left : Expr) : Option Expr → Except ShapeError Expr
  | some right => .ok (binary op left right)
  | none => .error (.missingOperand op)

def state? (test : StateTest) (operand : Expr) : Option Expr → Except ShapeError Expr
  | some _ => .error (.unexpectedOperand test)
  | none => .ok (state test operand)

def among? (negated : Bool) (operand : Expr) : List Expr → Except ShapeError Expr
  | first :: others => .ok (among negated operand first others)
  | [] => .error .noValues

end Expr

end RecordFilter
