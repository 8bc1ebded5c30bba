import RecordFilter.Calendar.Pattern
import RecordFilter.Expr.Basic

/-!
# Expressions as text

A tree is written as a filter that parses to a tree of the same meaning.  Parentheses stand only
where an operand binds less tightly than its place asks for; the right operand of an operator that
associates to the left asks for more than the left one.  Not every tree can be written: the
language has no escape for an apostrophe in a text or a closing bracket in a field name, and no
literal for a collection.
-/

namespace RecordFilter

structure LiteralStyle where
  dateFormat : String
  trueText : String
  falseText : String
  deriving DecidableEq, Repr

namespace LiteralStyle

def standard : LiteralStyle := ⟨"%Y-%m-%d %H:%M:%S", "1", "0"⟩

end LiteralStyle

inductive PrintError
  | apostropheInText (text : String)
  | bracketInName (name : String)
  | noLiteral (kind : Kind)
  | unknownNode (name : String)
  | fault (f : Fault)
  deriving DecidableEq, Repr

namespace PrintError

def message : PrintError → String
  | apostropheInText text =>
      "Text literals cannot contain a single quote (no escape syntax): " ++ Text.quote text
  | bracketInName name => "Field names cannot contain ']': " ++ Text.quote name
  | noLiteral kind => kind.name ++ " values cannot be written as literals"
  | unknownNode name => "Cannot render " ++ name
  | fault f => f.message

end PrintError

abbrev Printing := Except PrintError String

/-! ## Literals -/

def textLiteral (s : String) : Printing :=
  if s.toList.contains Text.apostrophe then .error (.apostropheInText s) else .ok ("'" ++ s ++ "'")

/-- A number without an exponent; numbers that are not decimal get six places. -/
def numberLiteral (p : Payload) : Printing :=
  let binary (x : Binary64) : Printing :=
    match x with
    | .finite negative mantissa exponent =>
        .ok (Binary64.fixedText (Binary64.exactly negative mantissa exponent))
    | x => .ok x.text
  match p with
  | .decimal d => .ok d.positional
  | .irregular x => .ok x.text
  | .signaling => .ok signalingText
  | .float x => binary x
  | p =>
      match Arithmetic.integer? p with
      | some n =>
          match Binary64.ofDecimal (.ofInt n) with
          | .nonFinite _ => .error (.fault .tooLargeForFloat)
          | x => binary x
      | none => .error (.noLiteral .number)

def momentLiteral (style : LiteralStyle) (p : Payload) : Printing :=
  match p with
  | .timestamp t => textLiteral (t.format style.dateFormat)
  | .date d => textLiteral (Timestamp.format ⟨.midnight d, none⟩ style.dateFormat)
  | _ => .error (.noLiteral .timestamp)

def literalText (style : LiteralStyle) (v : Value) : Printing :=
  match v.kind with
  | .null => .ok "NULL"
  | .boolean => .ok (if v.raw.isTruthy then style.trueText else style.falseText)
  | .number => numberLiteral v.raw
  | .timestamp => momentLiteral style v.raw
  | .text =>
      match v.raw with
      | .text s => textLiteral s
      | _ => .error (.noLiteral .text)
  | .collection => .error (.noLiteral .collection)

/-! ## Precedence -/

def comparisonLevel : Nat := 3

def sumLevel : Nat := 4

def signLevel : Nat := 6

def primaryLevel : Nat := 7

/-- The level of an operator that associates to the left. -/
def BinaryOp.level? : BinaryOp → Option Nat
  | .or => some 1
  | .and => some 2
  | .arithmetic .add | .arithmetic .subtract => some sumLevel
  | .arithmetic .multiply | .arithmetic .divide => some 5
  | .compare _ | .like => none

namespace Expr

def level : Expr → Nat
  | const _ | field _ => primaryLevel
  | unary .not (binary .like _ _) | unary .not (incomplete .like _) => comparisonLevel
  | unary _ _ => signLevel
  | binary op _ _ | incomplete op _ => op.level?.getD comparisonLevel
  | _ => comparisonLevel

def parenthesized (minimum : Nat) (e : Expr) (text : String) : String :=
  if minimum ≤ e.level then text else "(" ++ text ++ ")"

def fieldText (name : String) : Printing :=
  if name.toList.contains ']' then .error (.bracketInName name) else .ok ("[" ++ name ++ "]")

def operandLevels (op : BinaryOp) : Nat × Nat :=
  match op.level? with
  | some level => (level, level + 1)
  | none => (sumLevel, sumLevel)

mutual

def print (style : LiteralStyle) : Expr → Printing
  | const v => literalText style v
  | field name => fieldText name
  | unary .not (binary .like left right) => do
      let l ← print style left
      let r ← print style right
      return parenthesized sumLevel left l ++ " not like " ++ parenthesized sumLevel right r
  | unary op operand => do
      let text ← print style operand
      return op.symbol ++ parenthesized signLevel operand text
  | binary op left right => do
      let l ← print style left
      let r ← print style right
      let (leftLevel, rightLevel) := operandLevels op
      return parenthesized leftLevel left l ++ " " ++ op.symbol ++ " " ++
        parenthesized rightLevel right r
  | state test operand => do
      let text ← print style operand
      return parenthesized sumLevel operand text ++ " " ++ test.symbol
  | among negated operand first others => do
      let firstText ← print style first
      let otherTexts ← printAll style others
      let text ← print style operand
      return parenthesized sumLevel operand text ++ (if negated then " not in " else " in ") ++
        "\x7b" ++ ", ".intercalate (parenthesized sumLevel first firstText :: otherTexts) ++ "\x7d"
  | between negated operand lower upper => do
      let text ← print style operand
      let low ← print style lower
      let high ← print style upper
      return parenthesized sumLevel operand text ++
        (if negated then " not between " else " between ") ++
        parenthesized sumLevel lower low ++ " and " ++ parenthesized sumLevel upper high
  | incomplete op left => do
      let text ← print style left
      return parenthesized sumLevel left text ++ " " ++ op.symbol
  | unknown name => .error (.unknownNode name)

def printAll (style : LiteralStyle) : List Expr → Except PrintError (List String)
  | [] => .ok []
  | e :: rest => do
      let text ← print style e
      let texts ← printAll style rest
      return parenthesized sumLevel e text :: texts

end

@[simp] theorem print_const (style : LiteralStyle) (v : Value) :
    (const v).print style = literalText style v := by rw [print]

@[simp] theorem print_field (style : LiteralStyle) (name : String) :
    (field name).print style = fieldText name := by rw [print]

end Expr

end RecordFilter
