import RecordFilter.Text.Blank
import RecordFilter.Text.Letter

/-!
# Tokens of filter expressions

A token is a piece of the text of a filter with its place in it.  Field references stand in square
brackets and texts between apostrophes.  A keyword may have several words.
-/

namespace RecordFilter

open Text

inductive TokenKind
  | field
  | text
  | number
  | keyword
  | symbol
  | punctuation
  | null
  | word
  | invalid
  | finish
  deriving DecidableEq, Repr, Inhabited

structure Token where
  kind : TokenKind
  text : String
  position : Nat
  deriving DecidableEq, Repr, Inhabited

namespace Token

/-- A keyword in lower case with single spaces between its words; empty for any other token. -/
def keyword (t : Token) : String :=
  if t.kind = .keyword then
    " ".intercalate ((words (lowerText t.text.toList)).map String.ofList)
  else ""

def isSymbol (t : Token) (text : String) : Bool := t.kind == .symbol && t.text == text

def isPunctuation (t : Token) (text : String) : Bool := t.kind == .punctuation && t.text == text

end Token

end RecordFilter
