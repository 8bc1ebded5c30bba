import RecordFilter.Expr.Parse

/-!
# Parsing with a cursor

A list of tokens need not come from a text.  It may lack an end of text, and there may be tokens
behind one.  The parser of any list at all moves a cursor over it and never looks at what is left as
a list.  That it comes to an end is no matter of its form: where it does not, it gives nothing.
-/

namespace RecordFilter

/-- The tokens that a cursor is moved over, and where it goes when it moves on from a place. -/
structure TokenTape where
  tokens : List Token
  next? : Nat → Option Nat

/-- Reading with the cursor at a place: what is read, or an error, and where the cursor is then.
There is nothing if the reading does not end or the cursor has left the tokens. -/
abbrev TapeReading (α : Type) := ExceptT ParseError (StateT Nat Option) α

def TapeReading.runAt {α : Type} (x : TapeReading α) (place : Nat) :
    Option (Except ParseError α × Nat) :=
  x.run.run place

namespace TokenTape

section

variable (tape : TokenTape)

def current : TapeReading Token := do
  tape.tokens[← get]?

def advance : TapeReading Unit := do
  set (← tape.next? (← get))

def skip (wanted : Token → Bool) (problem : Token → ParseProblem) : TapeReading Unit := do
  let t ← tape.current
  if wanted t then tape.advance
  else ofExcept (t.fail (problem t))

def skipMark (mark : String) (problem : Option String → ParseProblem) : TapeReading Unit :=
  tape.skip (·.isPunctuation mark) fun t => problem t.found

def skipAnd (operator : String) : TapeReading Unit :=
  tape.skip (·.keyword == "and") fun t => .rangeWithoutAnd operator t.text

def refuseEmpty (operator : String) : TapeReading Unit := do
  let t ← tape.current
  if t.isPunctuation "\x7d" then ofExcept (t.fail (.emptyValueList operator))

end

mutual

def readTier (tape : TokenTape) (tier : Tier) : TapeReading Expr := do
  let first ← tape |>.readOperand tier
  tape |>.readChain tier first
  partial_fixpoint

def readOperand (tape : TokenTape) (tier : Tier) : TapeReading Expr :=
  match tier with
  | .disjunction => tape |>.readTier .conjunction
  | .conjunction => tape |>.readComparison
  | .sum => tape |>.readTier .product
  | .product => tape |>.readSigned
  partial_fixpoint

def readChain (tape : TokenTape) (tier : Tier) (left : Expr) : TapeReading Expr := do
  let t ← tape.current
  match tier.operator? t with
  | none => return left
  | some op =>
      tape.advance
      let right ← tape |>.readOperand tier
      tape |>.readChain tier (.binary op left right)
  partial_fixpoint

def readComparison (tape : TokenTape) : TapeReading Expr := do
  let left ← tape |>.readTier .sum
  tape |>.readTail left
  partial_fixpoint

def readTail (tape : TokenTape) (left : Expr) : TapeReading Expr := do
  let t ← tape.current
  match t.tail? with
  | none => return left
  | some (.compare c) =>
      tape.advance
      return .comparison c left (← tape |>.readTier .sum)
  | some (.like negated) =>
      tape.advance
      return .likeness negated left (← tape |>.readTier .sum)
  | some (.between negated) =>
      tape.advance
      let lower ← tape |>.readTier .sum
      tape.skipAnd t.text
      return .between negated left lower (← tape |>.readTier .sum)
  | some (.among negated) =>
      tape.advance
      tape.skipMark "\x7b" (.noValueList t.text)
      tape.refuseEmpty t.text
      let first ← tape |>.readTier .sum
      let others ← tape |>.readItems
      tape.skipMark "\x7d" (.openValueList t.text)
      return .among negated left first others
  | some (.state test) =>
      tape.advance
      return .state test left
  | some .bareIs => ofExcept (t.fail .bareIs)
  partial_fixpoint

def readItems (tape : TokenTape) : TapeReading (List Expr) := do
  let t ← tape.current
  if t.isPunctuation "," then
    tape.advance
    let item ← tape |>.readTier .sum
    let items ← tape |>.readItems
    return item :: items
  else return []
  partial_fixpoint

def readSigned (tape : TokenTape) : TapeReading Expr := do
  let t ← tape.current
  match t.sign? with
  | some op =>
      tape.advance
      return .unary op (← tape |>.readSigned)
  | none => tape |>.readPrimary
  partial_fixpoint

def readPrimary (tape : TokenTape) : TapeReading Expr := do
  let t ← tape.current
  if t.isPunctuation "(" then
    tape.advance
    let e ← tape |>.readTier .disjunction
    tape.skipMark ")" .openParenthesis
    return e
  else if t.kind = .field then
    tape.advance
    ofExcept (fieldReference t)
  else if t.kind = .number ∨ t.kind = .text ∨ t.kind = .null then
    tape.advance
    return .const (← ofExcept t.literal)
  else ofExcept (t.fail t.operandProblem)
  partial_fixpoint

end

def readAll (tape : TokenTape) : TapeReading Expr := do
  let first ← tape.current
  if isFinish first then throw ⟨.empty, 0⟩
  else
    let e ← tape.readTier .disjunction
    let t ← tape.current
    if isFinish t then return e
    else ofExcept (t.fail t.trailingProblem)

def closed (tokens : List Token) : List Token :=
  if tokens.getLast?.any isFinish then tokens else tokens ++ [impliedFinish tokens]

/-- The tape of a list of tokens; at its end the cursor stays where it is. -/
def ofTokens (tokens : List Token) : TokenTape where
  tokens := closed tokens
  next? place := some (if place + 1 < (closed tokens).length then place + 1 else place)

end TokenTape

/-- Parses a list of tokens, and tells where the cursor is in the end. -/
def parseByCursor (tokens : List Token) : Option (Except ParseError Expr × Nat) :=
  (TokenTape.ofTokens tokens).readAll.runAt 0

end RecordFilter
