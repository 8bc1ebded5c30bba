import RecordFilter.Expr.Basic

/-!
# Walks through trees

A walk goes through a tree with a stack of the trees that are still to come.  It takes the tree on
top, gives its node, and puts the trees right below that node in its place.
-/

namespace RecordFilter

namespace Expr

def children : Expr → List Expr
  | const _ | field _ | unknown _ => []
  | unary _ operand | state _ operand | incomplete _ operand => [operand]
  | binary _ left right => [left, right]
  | among _ operand first others => operand :: first :: others
  | between _ operand lower upper => [operand, lower, upper]

theorem nodes_eq (e : Expr) : e.nodes = e :: nodesOf e.children := by
  cases e <;> simp [nodes, nodesOf, children]

theorem nodesOf_append (es others : List Expr) :
    nodesOf (es ++ others) = nodesOf es ++ nodesOf others := by
  induction es with
  | nil => rfl
  | cons e es ih => simp only [List.cons_append, nodesOf, ih, List.append_assoc]

def walkFrom : List Expr → List Expr
  | [] => []
  | e :: stack => e :: walkFrom (e.children ++ stack)
  termination_by stack => (nodesOf stack).length
  decreasing_by
    rw [nodesOf, nodesOf_append, nodes_eq, List.cons_append]
    exact Nat.lt_succ_self _

def walk (e : Expr) : List Expr := walkFrom [e]

theorem walkFrom_eq (stack : List Expr) : walkFrom stack = nodesOf stack := by
  induction stack using walkFrom.induct with
  | case1 => rw [walkFrom, nodesOf]
  | case2 e stack ih => rw [walkFrom, ih, nodesOf, nodesOf_append, nodes_eq, List.cons_append]

theorem walk_eq (e : Expr) : e.walk = e.nodes := by
  rw [walk, walkFrom_eq, nodesOf, nodesOf, List.append_nil]

end Expr

end RecordFilter
