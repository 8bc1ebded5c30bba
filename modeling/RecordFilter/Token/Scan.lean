import RecordFilter.Text.Digit
import RecordFilter.Text.Quoted
import RecordFilter.Text.WordChar
import RecordFilter.Token.Basic

/-!
# Scanning

A filter is cut into tokens from left to right.  Scanning never fails: what begins no token becomes
an invalid token, either a single character or, for a field reference or a text that is not
closed, everything up to the end.  The last token is always the end of the text.
-/

namespace RecordFilter

open Text

namespace Token

/-! ## Lexemes

A lexeme is described by its first character and the number of characters that follow it. -/

def closedSpan? (closing : Char) (text : List Char) : Option Nat :=
  (text.findIdx? (· == closing)).map (· + 1)

def delimited (kind : TokenKind) (closing : Char) (rest : List Char) : TokenKind × Nat :=
  match closedSpan? closing rest with
  | some length => (kind, length)
  | none => (.invalid, rest.length)

def digitRun (text : List Char) : Nat := (text.takeWhile isAsciiDigit).length

def numeralRun (rest : List Char) : Nat :=
  let whole := digitRun rest
  match rest.drop whole with
  | '.' :: fraction => if digitRun fraction = 0 then whole else whole + 1 + digitRun fraction
  | _ => whole

def doubleSymbols : List (Char × Char) :=
  [('|', '|'), ('&', '&'), ('=', '='), ('!', '='), ('<', '='), ('>', '=')]

def singleSymbols : List Char := ['=', '<', '>', '+', '-', '*', '/', '!']

def punctuationMarks : List Char := ['(', ')', Char.ofNat 123, Char.ofNat 125, ',']

def startsDouble (c : Char) (rest : List Char) : Bool :=
  match rest with
  | d :: _ => doubleSymbols.contains (c, d)
  | [] => false

/-- Keywords of several words, the longer ones first where one begins like another. -/
def compoundKeywords : List (List String) :=
  [["is", "not", "empty"], ["is", "not", "null"], ["is", "empty"], ["is", "null"],
    ["not", "between"], ["not", "like"], ["not", "in"]]

def simpleKeywords : List String := ["like", "in", "between", "and", "is", "not", "empty"]

/-- What follows a word at the front of a text; letters are compared without regard to case. -/
def afterWord? : List Char → List Char → Option (List Char)
  | [], text => some text
  | _ :: _, [] => none
  | letter :: word, c :: rest => if sameLetter letter c then afterWord? word rest else none

def afterWords? : List String → List Char → Option (List Char)
  | [], text => some text
  | [word], text =>
      match afterWord? word.toList text with
      | some rest => if rest.head?.any isWordChar then none else some rest
      | none => none
  | word :: others, text =>
      match afterWord? word.toList text with
      | some (c :: rest) => if isBlank c then afterWords? others (trimLeft rest) else none
      | _ => none

def compoundRun? (c : Char) (rest : List Char) : Option Nat :=
  (compoundKeywords.findSome? (afterWords? · (c :: rest))).map
    fun behind => rest.length - behind.length

def wordKind (word : List Char) : TokenKind :=
  let lowered := String.ofList (lowerText word)
  if lowered == "null" then .null
  else if simpleKeywords.contains lowered then .keyword
  else .word

def wordLexeme (c : Char) (rest : List Char) : TokenKind × Nat :=
  match compoundRun? c rest with
  | some length => (.keyword, length)
  | none =>
      let word := rest.takeWhile isWordChar
      (wordKind (c :: word), word.length)

/-- The token that begins with a character which is not blank, and how many of the characters that
follow belong to it. -/
def lexeme (c : Char) (rest : List Char) : TokenKind × Nat :=
  if c == '[' then delimited .field ']' rest
  else if c == apostrophe then delimited .text apostrophe rest
  else if isAsciiDigit c then (.number, numeralRun rest)
  else if startsDouble c rest then (.symbol, 1)
  else if singleSymbols.contains c then (.symbol, 0)
  else if punctuationMarks.contains c then (.punctuation, 0)
  else if isWordChar c then wordLexeme c rest
  else (.invalid, 0)

/-! ## Token lists -/

def scanFrom (position : Nat) : List Char → List Token
  | [] => [⟨.finish, "", position⟩]
  | c :: rest =>
      if isBlank c then scanFrom (position + 1) rest
      else
        let (kind, length) := lexeme c rest
        ⟨kind, String.ofList (c :: rest.take length), position⟩ ::
          scanFrom (position + 1 + length) (rest.drop length)
  termination_by text => text.length

def scan (text : String) : List Token := scanFrom 0 text.toList

end Token

end RecordFilter
