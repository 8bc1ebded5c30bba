import RecordFilter.Text.Quoted
import RecordFilter.Token.Basic

/-!
# Why a filter does not parse

Each problem is found at a token, whose position is kept with it.
-/

namespace RecordFilter

inductive ParseProblem
  | empty
  | unclosedField
  | unclosedText
  | unknownCharacter (text : String)
  | looseAnd
  | looseOr
  | chainedComparison (symbol : String)
  | unexpected (text : String)
  | unexpectedEnd
  | bareWord (word : String)
  | blankField
  | openParenthesis (found : Option String)
  | noValueList (operator : String) (found : Option String)
  | emptyValueList (operator : String)
  | openValueList (operator : String) (found : Option String)
  | rangeWithoutAnd (operator found : String)
  | bareIs
  | malformedNumeral
  | notLiteral (text : String)
  deriving DecidableEq, Repr

structure ParseError where
  problem : ParseProblem
  position : Nat
  deriving DecidableEq, Repr

namespace ParseError

def foundText : Option String → String
  | some text => "'" ++ text ++ "'"
  | none => "end of expression"

def isUnclosed (e : ParseError) : Bool :=
  e.problem == .unclosedField || e.problem == .unclosedText

def message (e : ParseError) : String :=
  let at' := " at position " ++ toString e.position
  match e.problem with
  | .empty => "Empty filter expression"
  | .unclosedField => "Unterminated field reference starting" ++ at'
  | .unclosedText => "Unterminated string literal starting" ++ at'
  | .unknownCharacter text => "Unknown character '" ++ text ++ "'" ++ at'
  | .looseAnd => "Unexpected 'and'" ++ at' ++ ". Hint: Use '&&' to combine conditions"
  | .looseOr => "Unexpected 'or'" ++ at' ++ ". Hint: Use '||' to combine conditions"
  | .chainedComparison symbol =>
      "Unexpected '" ++ symbol ++ "'" ++ at' ++
        ". Chained comparisons are not supported; combine them with '&&'"
  | .unexpected text => "Unexpected token '" ++ text ++ "'" ++ at'
  | .unexpectedEnd => "Unexpected end of expression"
  | .bareWord word =>
      "Unknown token '" ++ word ++ "'" ++ at' ++
        ". Hint: Field names must be bracketed: [" ++ word ++ "]"
  | .blankField => "Empty field reference" ++ at'
  | .openParenthesis found =>
      "Unbalanced parentheses: expected ')'" ++ at' ++ ", got " ++ foundText found
  | .noValueList operator found =>
      "Expected '\x7b' after '" ++ operator ++ "'" ++ at' ++ ", got " ++ foundText found
  | .emptyValueList operator => "Empty value list for '" ++ operator ++ "'" ++ at'
  | .openValueList operator found =>
      "Expected '\x7d' to close '" ++ operator ++ "' list" ++ at' ++ ", got " ++ foundText found
  | .rangeWithoutAnd operator found =>
      "Expected 'and' in '" ++ operator ++ "'" ++ at' ++ ", got '" ++ found ++ "'"
  | .bareIs => "Expected NULL, NOT NULL, EMPTY or NOT EMPTY after 'is'" ++ at'
  | .malformedNumeral => "[<class 'decimal.ConversionSyntax'>]"
  | .notLiteral text => "Unknown token '" ++ text ++ "'"

end ParseError

end RecordFilter
