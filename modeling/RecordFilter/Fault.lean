import RecordFilter.Kind
import RecordFilter.Text.Quoted

/-!
# What can go wrong with a value

A conversion that is not defined, or whose source does not fit, is a conversion error; a field that
cannot be converted is read as Null.  The remaining faults are not caught: a
timestamp may leave the calendar, a whole number may be too long to be written out, the keys of a
mapping may have no order or no text in a document, a signaling number cannot be compared, and
records that do not keep to their declared kinds can bring operands together that have no
common operation.
-/

namespace RecordFilter

open Text

inductive ConversionError
  | textNotNumber (text : String)
  | typeNotNumber (typeName : String)
  | numberNotFinite (shown : String)
  | textNotTimestamp (text : String)
  | typeNotTimestamp (typeName : String)
  | notBoolean (shown : String)
  | unsupportedType (typeName : String)
  | undefined (source : Kind) (text : String) (target : Kind)
  deriving DecidableEq, Repr

namespace ConversionError

def message : ConversionError → String
  | textNotNumber text => "Cannot convert text " ++ quote text ++ " to number"
  | typeNotNumber typeName => "Cannot convert " ++ typeName ++ " to number"
  | numberNotFinite shown => "Number must be finite, got " ++ shown
  | textNotTimestamp text => "Cannot convert text " ++ quote text ++ " to timestamp"
  | typeNotTimestamp typeName => "Cannot convert " ++ typeName ++ " to timestamp"
  | notBoolean shown => "Cannot convert " ++ shown ++ " to boolean"
  | unsupportedType typeName => "Unsupported value type: " ++ typeName
  | undefined source text target =>
      "Cannot convert " ++ source.name ++ " " ++ quote text ++ " to " ++ target.name

end ConversionError

inductive OperandError
  | unordered (operator left right : String)
  | unlikeTimestamps
  | concatenation (left right : String)
  | repetition (right : String)
  | undefinedBinary (operator left right : String)
  | undefinedNegation (operand : String)
  | withoutLength (operand : String)
  | notText (operand : String)
  | notIterable (operand : String)
  | unhashable (operand : String)
  | unhashableNumber
  | unwritableKey (key : String)
  | notDecimal (operand : String)
  deriving DecidableEq, Repr

namespace OperandError

def message : OperandError → String
  | unordered operator left right =>
      "'" ++ operator ++ "' not supported between instances of '" ++ left ++
        "' and '" ++ right ++ "'"
  | unlikeTimestamps => "can't compare offset-naive and offset-aware datetimes"
  | concatenation left right =>
      "can only concatenate " ++ left ++ " (not \"" ++ right ++ "\") to " ++ left
  | repetition right => "can't multiply sequence by non-int of type '" ++ right ++ "'"
  | undefinedBinary operator left right =>
      "unsupported operand type(s) for " ++ operator ++ ": '" ++ left ++ "' and '" ++ right ++ "'"
  | undefinedNegation operand => "bad operand type for unary -: '" ++ operand ++ "'"
  | withoutLength operand => "object of type '" ++ operand ++ "' has no len()"
  | notText operand => "expected string or bytes-like object, got '" ++ operand ++ "'"
  | notIterable operand => "'" ++ operand ++ "' object is not iterable"
  | unhashable operand => "unhashable type: '" ++ operand ++ "'"
  | unhashableNumber => "Cannot hash a signaling NaN value"
  | unwritableKey key => "keys must be str, int, float, bool or None, not " ++ key
  | notDecimal operand => "conversion from " ++ operand ++ " to Decimal is not supported"

end OperandError

inductive Fault
  | conversion (e : ConversionError)
  | operands (e : OperandError)
  | outsideCalendar
  | tooManyDigits
  | tooLargeForFloat
  | malformedNumeral
  | undefinedComparison
  deriving DecidableEq, Repr

namespace Fault

def message : Fault → String
  | conversion e => e.message
  | operands e => e.message
  | outsideCalendar => "date value out of range"
  | tooManyDigits =>
      "Exceeds the limit (4300 digits) for integer string conversion; " ++
        "use sys.set_int_max_str_digits() to increase the limit"
  | tooLargeForFloat => "int too large to convert to float"
  | malformedNumeral => "[<class 'decimal.ConversionSyntax'>]"
  | undefinedComparison => "[<class 'decimal.InvalidOperation'>]"

end Fault

end RecordFilter
