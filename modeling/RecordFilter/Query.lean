import RecordFilter.Expr.Parse
import RecordFilter.Predicate.Basic

/-!
# Filters as text

The text of a filter is parsed and compiled in one go.  An error names the text it was found in.
`check` reports errors as results.
-/

namespace RecordFilter

inductive FilterProblem
  | syntactic (e : ParseError)
  | semantic (e : CompileError)
  deriving DecidableEq, Repr

structure FilterError where
  problem : FilterProblem
  expression : Option String
  deriving DecidableEq, Repr

namespace FilterProblem

def message : FilterProblem → String
  | syntactic e => e.message
  | semantic e => e.message

end FilterProblem

namespace FilterError

def message (e : FilterError) : String := e.problem.message

def text (e : FilterError) : String :=
  match e.expression with
  | some expression => e.message ++ " (in filter " ++ Text.quote expression ++ ")"
  | none => e.message

end FilterError

inductive QueryFailure
  | filter (e : FilterError)
  | fault (f : Fault)
  deriving DecidableEq, Repr

def withText {α : Type} (expression : Option String) (result : Compiling α) :
    Except QueryFailure α :=
  match result with
  | .ok a => .ok a
  | .error (.rejected e) => .error (.filter ⟨.semantic e, expression⟩)
  | .error (.fault f) => .error (.fault f)

def parseExpression (text : String) : Except FilterError Expr :=
  match parse text with
  | .ok e => .ok e
  | .error e => .error ⟨.syntactic e, some text⟩

inductive Filter
  | text (s : String)
  | tree (e : Expr)

namespace Filter

def expression? : Filter → Option String
  | text s => some s
  | tree _ => none

def expr : Filter → Except FilterError Expr
  | text s => parseExpression s
  | tree e => .ok e

def compile (f : Filter) (r : Resolver) : Except QueryFailure Predicate :=
  match f.expr with
  | .ok e => withText f.expression? (compileTo r f.expression? e)
  | .error e => .error (.filter e)

def evaluate (f : Filter) (r : Resolver) (record : Payload) : Except QueryFailure Bool := do
  let p ← f.compile r
  match p.accepts record with
  | .ok b => return b
  | .error fault => .error (.fault fault)

end Filter

/-- The items whose records match a filter; a blank filter matches all. -/
def filterRecords {α : Type} (expression : Option String) (r : Resolver) (record : α → Payload)
    (items : List α) : Except QueryFailure (List α) :=
  match expression with
  | none => .ok items
  | some s =>
      if Text.isBlankText s.toList then .ok items
      else do
        let p ← (Filter.text s).compile r
        match p.filter record items with
        | .ok kept => return kept
        | .error fault => .error (.fault fault)

/-! ## Checking -/

structure CheckResult where
  expression : String
  expr : Option Expr
  error : Option FilterError
  fields : List String

namespace CheckResult

def isOk (c : CheckResult) : Bool := c.error.isNone

end CheckResult

/-- Parses a filter and, with a resolver, compiles it. -/
def check (s : String) (r : Option Resolver) : Except Fault CheckResult :=
  let rejected (e : FilterError) : CheckResult := ⟨s, none, some e, []⟩
  match parseExpression s with
  | .error e => .ok (rejected e)
  | .ok e =>
      let accepted : CheckResult := ⟨s, some e, none, e.fieldNames⟩
      match r with
      | none => .ok accepted
      | some r =>
          match withText (some s) (compileFilter r e) with
          | .ok _ => .ok accepted
          | .error (.filter error) => .ok (rejected error)
          | .error (.fault f) => .error f

end RecordFilter
