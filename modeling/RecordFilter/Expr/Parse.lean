import RecordFilter.Expr.Basic
import RecordFilter.Expr.ParseError
import RecordFilter.Parsed
import RecordFilter.Token.Scan

/-!
# Parsing

The grammar has four tiers of operators that associate to the left, and between the two tiers of
logic and the two of arithmetic the comparisons, of which there can be only one at a
place:

    Disjunction := Conjunction ("||" Conjunction)*
    Conjunction := Comparison ("&&" Comparison)*
    Comparison  := Sum Tail?
    Sum         := Product (("+" | "-") Product)*
    Product     := Signed (("*" | "/") Signed)*
    Signed      := ("!" | "-" | "+") Signed | Primary
    Primary     := number | text | field | NULL | "(" Disjunction ")"

A comparison with the literal `NULL` by an equality sign is the test for Null, and `not like` is the
negation of `like`.

Tokens behind the first end of text are never looked at.  Every function gets the tokens up to it,
together with that end, which takes part in messages only.
-/

namespace RecordFilter

/-! ## Classes of tokens -/

inductive Tier
  | disjunction | conjunction | sum | product
  deriving DecidableEq, Repr

namespace Tier

def operator? (tier : Tier) (t : Token) : Option BinaryOp :=
  match tier with
  | disjunction => if t.isSymbol "||" then some .or else none
  | conjunction => if t.isSymbol "&&" then some .and else none
  | sum =>
      if t.isSymbol "+" then some (.arithmetic .add)
      else if t.isSymbol "-" then some (.arithmetic .subtract)
      else none
  | product =>
      if t.isSymbol "*" then some (.arithmetic .multiply)
      else if t.isSymbol "/" then some (.arithmetic .divide)
      else none

/-- Tiers that bind less tightly are on a higher level; there is room between them for the calls
that read a tier and for comparisons. -/
def level : Tier → Nat
  | disjunction => 10
  | conjunction => 8
  | sum => 5
  | product => 3

theorem level_lt (tier : Tier) : tier.level < 16 := by cases tier <;> decide

end Tier

inductive Tail
  | compare (c : Comparison)
  | among (negated : Bool)
  | like (negated : Bool)
  | between (negated : Bool)
  | state (test : StateTest)
  | bareIs
  deriving DecidableEq, Repr

namespace Token

def comparison? (t : Token) : Option Comparison :=
  if t.kind = .symbol then
    match t.text with
    | "==" | "=" => some .equal
    | "!=" => some .notEqual
    | "<" => some .less
    | ">" => some .greater
    | "<=" => some .atMost
    | ">=" => some .atLeast
    | _ => none
  else none

def tail? (t : Token) : Option Tail :=
  match t.comparison? with
  | some c => some (.compare c)
  | none =>
      match t.keyword with
      | "in" => some (.among false)
      | "not in" => some (.among true)
      | "like" => some (.like false)
      | "not like" => some (.like true)
      | "between" => some (.between false)
      | "not between" => some (.between true)
      | "is null" => some (.state .isNull)
      | "is not null" => some (.state .isNotNull)
      | "is empty" => some (.state .isEmpty)
      | "is not empty" => some (.state .isNotEmpty)
      | "is" => some .bareIs
      | _ => none

def sign? (t : Token) : Option UnaryOp :=
  if t.isSymbol "!" then some .not
  else if t.isSymbol "-" then some .negate
  else if t.isSymbol "+" then some .plus
  else none

def inner (t : Token) : String := String.ofList (t.text.toList.tail.dropLast)

def invalidProblem (t : Token) : ParseProblem :=
  match t.text.toList with
  | c :: _ =>
      if c == '[' then .unclosedField
      else if c == Text.apostrophe then .unclosedText
      else .unknownCharacter t.text
  | [] => .unknownCharacter t.text

def fail {α : Type} (t : Token) (problem : ParseProblem) : Except ParseError α :=
  .error ⟨problem, t.position⟩

def found (t : Token) : Option String := if t.kind = .finish then none else some t.text

def literal (t : Token) : Except ParseError Value :=
  match t.kind with
  | .text => .ok ⟨.text, .text t.inner⟩
  | .number =>
      match Decimal.read? t.text.toList with
      | some (.finite d) => .ok ⟨.number, .decimal d⟩
      | some (.nonFinite x) => .ok ⟨.number, .irregular x⟩
      | some .signaling => .ok ⟨.number, .signaling⟩
      | none => t.fail .malformedNumeral
  | .null => .ok .null
  | _ => t.fail (.notLiteral t.text)

def operandProblem (t : Token) : ParseProblem :=
  match t.kind with
  | .finish => .unexpectedEnd
  | .invalid => t.invalidProblem
  | .word => .bareWord t.text
  | _ => .unexpected t.text

def trailingProblem (t : Token) : ParseProblem :=
  if t.kind = .invalid then t.invalidProblem
  else if t.keyword == "and" then .looseAnd
  else if t.kind = .word && Text.lower t.text == "or" then .looseOr
  else if t.comparison?.isSome then .chainedComparison t.text
  else .unexpected t.text

end Token

namespace Expr

/-- A comparison, or the test for Null where an equality is written against it. -/
def comparison (c : Comparison) (left right : Expr) : Expr :=
  if right.isNullConst then
    match c with
    | .equal => state .isNull left
    | .notEqual => state .isNotNull left
    | c => binary (.compare c) left right
  else binary (.compare c) left right

def likeness (negated : Bool) (left right : Expr) : Expr :=
  let match' := binary .like left right
  if negated then unary .not match' else match'

end Expr

/-! ## The parser -/

abbrev Parsing (α : Type) (bound : Nat) := Except ParseError (Parsed Token α bound)

def current (finish : Token) (tokens : List Token) : Token := tokens.head?.getD finish

def expectMark (finish : Token) (mark : String) (problem : Option String → ParseProblem) :
    (tokens : List Token) → Parsing Unit tokens.length
  | [] => finish.fail (problem finish.found)
  | t :: rest =>
      if t.isPunctuation mark then .ok (.before () rest)
      else t.fail (problem t.found)

def expectAnd (finish : Token) (operator : String) :
    (tokens : List Token) → Parsing Unit tokens.length
  | [] => finish.fail (.rangeWithoutAnd operator finish.text)
  | t :: rest =>
      if t.keyword == "and" then .ok (.before () rest)
      else t.fail (.rangeWithoutAnd operator t.text)

def refuseEmpty (operator : String) : List Token → Except ParseError Unit
  | [] => .ok ()
  | t :: _ => if t.isPunctuation "\x7d" then t.fail (.emptyValueList operator) else .ok ()

def fieldReference (t : Token) : Except ParseError Expr :=
  if Text.isBlankText t.inner.toList then t.fail .blankField else .ok (.field t.inner)

mutual

def parseTier (finish : Token) (tier : Tier) (tokens : List Token) :
    Parsing Expr tokens.length := do
  let first ← parseOperand finish tier tokens
  return first.andThen (← parseChain finish tier first.result first.rest)
  termination_by rank tokens.length (tier.level + 1)
  decreasing_by
    · exact rank_lt_of_lower _ (Nat.lt_succ_self _)
    · exact rank_lt_of_shorter _ first.short (by decide)

def parseOperand (finish : Token) (tier : Tier) (tokens : List Token) :
    Parsing Expr tokens.length :=
  match tier with
  | .disjunction => parseTier finish .conjunction tokens
  | .conjunction => parseComparison finish tokens
  | .sum => parseTier finish .product tokens
  | .product => parseSigned finish tokens
  termination_by rank tokens.length tier.level
  decreasing_by all_goals exact rank_lt_of_lower _ (by decide)

def parseChain (finish : Token) (tier : Tier) (left : Expr) (tokens : List Token) :
    Parsing Expr (tokens.length + 1) :=
  match tokens with
  | [] => .ok (.before left [])
  | t :: rest =>
      match tier.operator? t with
      | none => .ok (.before left (t :: rest))
      | some op => do
          let right ← parseOperand finish tier rest
          let chain ← parseChain finish tier (.binary op left right.result) right.rest
          return (right.andThen chain).past.past
  termination_by rank tokens.length 0
  decreasing_by
    · exact rank_lt_of_shorter _ (Nat.lt_succ_self _) tier.level_lt
    · exact rank_lt_of_shorter _ (Nat.lt_succ_of_lt right.short) (by decide)

def parseComparison (finish : Token) (tokens : List Token) : Parsing Expr tokens.length := do
  let left ← parseTier finish .sum tokens
  return left.andThen (← parseTail finish left.result left.rest)
  termination_by rank tokens.length 7
  decreasing_by
    · exact rank_lt_of_lower _ (by decide)
    · exact rank_lt_of_shorter _ left.short (by decide)

def parseTail (finish : Token) (left : Expr) (tokens : List Token) :
    Parsing Expr (tokens.length + 1) :=
  match tokens with
  | [] => .ok (.before left [])
  | t :: rest =>
      match t.tail? with
      | none => .ok (.before left (t :: rest))
      | some (.compare c) => do
          let right ← parseTier finish .sum rest
          return (right.map (.comparison c left)).past.past
      | some (.like negated) => do
          let right ← parseTier finish .sum rest
          return (right.map (.likeness negated left)).past.past
      | some (.between negated) => do
          let lower ← parseTier finish .sum rest
          let lower := lower.skip (← expectAnd finish t.text lower.rest).past
          let upper ← parseTier finish .sum lower.rest
          return (lower.followedBy (.between negated left) upper.past).past.past
      | some (.among negated) => do
          let mark ← expectMark finish "\x7b" (.noValueList t.text) rest
          refuseEmpty t.text mark.rest
          let first := mark.andThen (← parseTier finish .sum mark.rest).past
          let others ← parseItems finish first.rest
          let e := first.followedBy (.among negated left) others
          let e := e.skip (← expectMark finish "\x7d" (.openValueList t.text) e.rest).past
          return e.past.past
      | some (.state test) => .ok (Parsed.before (.state test left) rest).past
      | some .bareIs => t.fail .bareIs
  termination_by rank tokens.length 0
  decreasing_by
    · exact rank_lt_of_shorter _ (Nat.lt_succ_self _) (by decide)
    · exact rank_lt_of_shorter _ (Nat.lt_succ_self _) (by decide)
    · exact rank_lt_of_shorter _ (Nat.lt_succ_self _) (by decide)
    · exact rank_lt_of_shorter _ (Nat.lt_succ_of_lt lower.short) (by decide)
    · exact rank_lt_of_shorter _ (Nat.lt_succ_of_lt mark.short) (by decide)
    · exact rank_lt_of_shorter _ (Nat.lt_succ_of_lt first.short) (by decide)

def parseItems (finish : Token) (tokens : List Token) :
    Parsing (List Expr) (tokens.length + 1) :=
  match tokens with
  | [] => .ok (.before [] [])
  | t :: rest =>
      if t.isPunctuation "," then do
        let item ← parseTier finish .sum rest
        let items ← parseItems finish item.rest
        return (item.followedBy (· :: ·) items).past.past
      else .ok (.before [] (t :: rest))
  termination_by rank tokens.length 0
  decreasing_by
    · exact rank_lt_of_shorter _ (Nat.lt_succ_self _) (by decide)
    · exact rank_lt_of_shorter _ (Nat.lt_succ_of_lt item.short) (by decide)

def parseSigned (finish : Token) (tokens : List Token) : Parsing Expr tokens.length :=
  match tokens with
  | [] => finish.fail finish.operandProblem
  | t :: rest =>
      match t.sign? with
      | some op => do
          let operand ← parseSigned finish rest
          return (operand.map (.unary op)).past
      | none => parsePrimary finish t rest
  termination_by rank tokens.length 2
  decreasing_by
    · exact rank_lt_of_shorter _ (Nat.lt_succ_self _) (by decide)
    · exact rank_lt_of_lower _ (by decide)

def parsePrimary (finish t : Token) (rest : List Token) : Parsing Expr (rest.length + 1) :=
  if t.isPunctuation "(" then do
    let e ← parseTier finish .disjunction rest
    return (e.skip (← expectMark finish ")" .openParenthesis e.rest).past).past
  else if t.kind = .field then do
    return .before (← fieldReference t) rest
  else if t.kind = .number ∨ t.kind = .text ∨ t.kind = .null then do
    return .before (.const (← t.literal)) rest
  else t.fail t.operandProblem
  termination_by rank (rest.length + 1) 1
  decreasing_by exact rank_lt_of_shorter _ (Nat.lt_succ_self _) (by decide)

end

def parseBefore (finish : Token) (tokens : List Token) : Except ParseError Expr :=
  if tokens.isEmpty then .error ⟨.empty, 0⟩
  else do
    let e ← parseTier finish .disjunction tokens
    match e.rest with
    | [] => return e.result
    | t :: _ => t.fail t.trailingProblem

/-- The end of text of a token list that has none, behind its last token. -/
def impliedFinish (tokens : List Token) : Token :=
  match tokens.getLast? with
  | some t => ⟨.finish, "", t.position + t.text.length⟩
  | none => ⟨.finish, "", 0⟩

def isFinish (t : Token) : Bool := t.kind == .finish

def parseTokens (tokens : List Token) : Except ParseError Expr :=
  parseBefore ((tokens.find? isFinish).getD (impliedFinish tokens))
    (tokens.takeWhile (!isFinish ·))

def parse (text : String) : Except ParseError Expr := parseTokens (Token.scan text)

end RecordFilter
