import RecordFilter.Fault

/-!
# Why a filter does not compile

Operators are told by the symbols they are written with, operands by their kinds or by a
label: the name of a field, the text of a constant.
-/

namespace RecordFilter

inductive CompileError
  | unknownField (name : String)
  | fieldWithoutKind (name : String)
  | negationOf (kind : Kind) (label : String)
  | signOf (operator : String) (kind : Kind) (label : String)
  | connectiveOf (operator : String) (left right : Kind)
  | emptinessOf (operator : String) (kind : Kind) (label : String)
  | patternNotConstant (label : String)
  | booleanConstant (operator : String) (target : Kind)
  | constantDoesNotFit (label operator : String) (target : Kind) (reason : ConversionError)
  | kindsDiffer (operator : String) (target other : Kind)
  | comparisonWithNull (operator : String)
  | comparisonOfCollections (operator : String)
  | orderOf (operator : String) (kind : Kind)
  | arithmeticOnNull (operator : String)
  | arithmeticOn (operator : String) (left right : Kind)
  | divisionByZero
  | membershipOfNull (operator : String)
  | valueNotConstant (operator label : String)
  | nullValue (operator : String)
  | rangeOfText (operator label : String)
  | rangeOf (operator : String) (kind : Kind)
  | nullBound (operator : String)
  | missingOperand (operator : String)
  | unknownNode (name : String)
  | notBoolean (kind : Kind)
  deriving DecidableEq, Repr

namespace CompileError

def message : CompileError → String
  | unknownField name => "Unknown field '" ++ name ++ "'"
  | fieldWithoutKind name => "Field '" ++ name ++ "' has no usable kind"
  | negationOf kind label =>
      "Operator '!' requires a boolean operand, got " ++ kind.name ++ " (" ++ label ++ ")"
  | signOf operator kind label =>
      "Operator '" ++ operator ++ "' requires a number operand, got " ++ kind.name ++
        " (" ++ label ++ ")"
  | connectiveOf operator left right =>
      "Operator '" ++ operator ++ "' requires boolean operands, got " ++ left.name ++
        " and " ++ right.name
  | emptinessOf operator kind label =>
      "Operator '" ++ operator ++ "' applies only to text or collection values, got " ++
        kind.name ++ " (" ++ label ++ ")"
  | patternNotConstant label => "Operator 'like' requires a text constant pattern, got " ++ label
  | booleanConstant operator target =>
      "Cannot use a boolean constant with '" ++ operator ++ "' against a " ++ target.name ++
        " value"
  | constantDoesNotFit label operator target reason =>
      "Cannot use " ++ label ++ " with '" ++ operator ++ "' against a " ++ target.name ++
        " value: " ++ reason.message
  | kindsDiffer operator target other =>
      "Operator '" ++ operator ++ "' cannot combine " ++ target.name ++ " and " ++ other.name
  | comparisonWithNull operator =>
      "Cannot compare with NULL using '" ++ operator ++ "'; use IS NULL or IS NOT NULL"
  | comparisonOfCollections operator =>
      "Operator '" ++ operator ++ "' is not supported for collection values"
  | orderOf operator kind =>
      "Operator '" ++ operator ++ "' is not supported for " ++ kind.name ++ " values"
  | arithmeticOnNull operator => "Operator '" ++ operator ++ "' cannot be applied to NULL"
  | arithmeticOn operator left right =>
      "Operator '" ++ operator ++ "' is not supported for " ++ left.name ++ " and " ++
        right.name ++ " values"
  | divisionByZero => "Division by zero"
  | membershipOfNull operator =>
      "Cannot test NULL with '" ++ operator ++ "'; use IS NULL or IS NOT NULL"
  | valueNotConstant operator label =>
      "Values of '" ++ operator ++ "' must be constants, got " ++ label
  | nullValue operator =>
      "NULL is not allowed in '" ++ operator ++ "'; use IS NULL or IS NOT NULL"
  | rangeOfText operator label =>
      "Operator '" ++ operator ++ "' is not supported for text operand " ++ label
  | rangeOf operator kind =>
      "Operator '" ++ operator ++ "' requires a number or timestamp operand, got " ++ kind.name
  | nullBound operator => "Bounds of '" ++ operator ++ "' cannot be NULL"
  | missingOperand operator => "Operator '" ++ operator ++ "' requires a right operand"
  | unknownNode name => "Unsupported expression node: " ++ name
  | notBoolean kind => "Filter must evaluate to a boolean, got " ++ kind.name

end CompileError

inductive CompileFailure
  | rejected (e : CompileError)
  | fault (f : Fault)
  deriving DecidableEq, Repr

end RecordFilter
