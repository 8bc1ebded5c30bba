import RecordFilter.Predicate.Compile

/-!
# Predicates

A predicate is a filter ready for use: it accepts a record or not.
-/

namespace RecordFilter

structure Predicate where
  term : Term
  source : Expr
  expression : Option String
  resolver : Resolver

namespace Predicate

def accepts (p : Predicate) (record : Payload) : Except Fault Bool :=
  (p.term.eval p.resolver.read record).map Payload.isTrue

def filter {α : Type} (p : Predicate) (record : α → Payload) : List α → Except Fault (List α)
  | [] => .ok []
  | item :: items => do
      let accepted ← p.accepts (record item)
      let rest ← p.filter record items
      return if accepted then item :: rest else rest

def shown (p : Predicate) : String :=
  "Predicate(" ++ (p.expression.map Text.quote).getD "None" ++ ")"

end Predicate

def compileTo (r : Resolver) (expression : Option String) (e : Expr) : Compiling Predicate :=
  (compileFilter r e).map fun term => ⟨term, e, expression, r⟩

end RecordFilter
