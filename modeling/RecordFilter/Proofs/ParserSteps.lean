import RecordFilter.Proofs.Grammar
import RecordFilter.Proofs.Outcomes

/-!
# What the parser does, step by step

The functions of the parser return what they read together with a bound on what is left.  The
bound only serves to show that they end.  Here is each function without it: an equation for its
outcome in terms of the outcomes of the functions that it calls.
-/

namespace RecordFilter

def outcome {α : Type} {bound : Nat} (p : Parsing α bound) : Except ParseError (α × List Token) :=
  p.map fun parsed => (parsed.result, parsed.rest)

theorem outcome_bind {α β : Type} {m n : Nat} {p : Parsing α m}
    {next : Parsed Token α m → Parsing β n}
    {step : α × List Token → Except ParseError (β × List Token)}
    (h : ∀ q : Parsed Token α m, outcome (next q) = step (q.result, q.rest)) :
    outcome (p >>= next) = outcome p >>= step := by
  cases p with
  | error => rfl
  | ok q => exact h q

theorem outcome_check {α β : Type} {n : Nat} {check : Except ParseError α}
    {next : α → Parsing β n} {step : α → Except ParseError (β × List Token)}
    (h : ∀ a, outcome (next a) = step a) :
    outcome (check >>= next) = check >>= step := by
  cases check with
  | error => rfl
  | ok a => exact h a

section

variable (finish : Token)

/-! ## Tiers -/

theorem outcome_parseTier (tier : Tier) (tokens : List Token) :
    outcome (parseTier finish tier tokens) = (do
      let (left, rest) ← outcome (parseOperand finish tier tokens)
      outcome (parseChain finish tier left rest)) := by
  rw [parseTier]
  refine outcome_bind fun left => ?_
  exact outcome_bind (fun chain => rfl) |>.trans (bind_pure _)

theorem outcome_parseChain_nil (tier : Tier) (left : Expr) :
    outcome (parseChain finish tier left []) = .ok (left, []) := by
  rw [parseChain]
  rfl

theorem outcome_parseChain_stop {tier : Tier} {t : Token} (stops : tier.operator? t = none)
    (left : Expr) (rest : List Token) :
    outcome (parseChain finish tier left (t :: rest)) = .ok (left, t :: rest) := by
  rw [parseChain]
  simp only [stops]
  rfl

theorem outcome_parseChain_cons {tier : Tier} {t : Token} {op : BinaryOp}
    (operator : tier.operator? t = some op) (left : Expr) (rest : List Token) :
    outcome (parseChain finish tier left (t :: rest)) = (do
      let (right, behind) ← outcome (parseOperand finish tier rest)
      outcome (parseChain finish tier (.binary op left right) behind)) := by
  rw [parseChain]
  simp only [operator]
  refine outcome_bind fun right => ?_
  exact outcome_bind (fun chain => rfl) |>.trans (bind_pure _)

/-! ## Comparisons -/

theorem outcome_parseComparison (tokens : List Token) :
    outcome (parseComparison finish tokens) = (do
      let (left, rest) ← outcome (parseTier finish .sum tokens)
      outcome (parseTail finish left rest)) := by
  rw [parseComparison]
  refine outcome_bind fun left => ?_
  exact outcome_bind (fun tail => rfl) |>.trans (bind_pure _)

theorem outcome_parseTail_nil (left : Expr) :
    outcome (parseTail finish left []) = .ok (left, []) := by
  rw [parseTail]
  rfl

def tailOutcome (left : Expr) (t : Token) (rest : List Token) :
    Option Tail → Except ParseError (Expr × List Token)
  | none => .ok (left, t :: rest)
  | some (.compare c) => do
      let (right, behind) ← outcome (parseTier finish .sum rest)
      return (.comparison c left right, behind)
  | some (.like negated) => do
      let (right, behind) ← outcome (parseTier finish .sum rest)
      return (.likeness negated left right, behind)
  | some (.between negated) => do
      let (lower, behind) ← outcome (parseTier finish .sum rest)
      let (_, behind) ← outcome (expectAnd finish t.text behind)
      let (upper, behind) ← outcome (parseTier finish .sum behind)
      return (.between negated left lower upper, behind)
  | some (.among negated) => do
      let (_, inside) ← outcome (expectMark finish "\x7b" (.noValueList t.text) rest)
      refuseEmpty t.text inside
      let (first, behind) ← outcome (parseTier finish .sum inside)
      let (others, behind) ← outcome (parseItems finish behind)
      let (_, behind) ← outcome (expectMark finish "\x7d" (.openValueList t.text) behind)
      return (.among negated left first others, behind)
  | some (.state test) => .ok (.state test left, rest)
  | some .bareIs => t.fail .bareIs

theorem outcome_parseTail_cons (left : Expr) (t : Token) (rest : List Token) :
    outcome (parseTail finish left (t :: rest)) = tailOutcome finish left t rest t.tail? := by
  rw [parseTail]
  cases t.tail? with
  | none => rfl
  | some tail =>
      cases tail with
      | compare c | like negated => exact outcome_bind fun right => rfl
      | state test | bareIs => rfl
      | between negated =>
          exact outcome_bind fun lower => outcome_bind fun mark => outcome_bind fun upper => rfl
      | among negated =>
          exact outcome_bind fun mark => outcome_check fun _ => outcome_bind fun first =>
            outcome_bind fun others => outcome_bind fun closing => rfl

theorem outcome_parseTail_stop {t : Token} (stops : t.tail? = none) (left : Expr)
    (rest : List Token) : outcome (parseTail finish left (t :: rest)) = .ok (left, t :: rest) := by
  rw [outcome_parseTail_cons, stops, tailOutcome]

theorem outcome_parseItems_nil : outcome (parseItems finish []) = .ok ([], []) := by
  rw [parseItems]
  rfl

theorem outcome_parseItems_stop {t : Token} (stops : ¬ t.isPunctuation ",") (rest : List Token) :
    outcome (parseItems finish (t :: rest)) = .ok ([], t :: rest) := by
  rw [parseItems, if_neg stops]
  rfl

theorem outcome_parseItems_cons {t : Token} (comma : t.isPunctuation ",") (rest : List Token) :
    outcome (parseItems finish (t :: rest)) = (do
      let (item, behind) ← outcome (parseTier finish .sum rest)
      let (items, behind) ← outcome (parseItems finish behind)
      return (item :: items, behind)) := by
  rw [parseItems, if_pos comma]
  exact outcome_bind fun item => outcome_bind fun items => rfl

/-! ## Operands -/

theorem outcome_parseSigned_nil :
    outcome (parseSigned finish []) = finish.fail finish.operandProblem := by
  rw [parseSigned]
  rfl

theorem outcome_parseSigned_sign {t : Token} {op : UnaryOp} (sign : t.sign? = some op)
    (rest : List Token) :
    outcome (parseSigned finish (t :: rest)) = (do
      let (operand, behind) ← outcome (parseSigned finish rest)
      return (.unary op operand, behind)) := by
  rw [parseSigned]
  simp only [sign]
  exact outcome_bind fun operand => rfl

theorem outcome_parseSigned_primary {t : Token} (sign : t.sign? = none) (rest : List Token) :
    outcome (parseSigned finish (t :: rest)) = outcome (parsePrimary finish t rest) := by
  rw [parseSigned]
  simp only [sign]

theorem outcome_parsePrimary (t : Token) (rest : List Token) :
    outcome (parsePrimary finish t rest) =
      if t.isPunctuation "(" then do
        let (e, behind) ← outcome (parseTier finish .disjunction rest)
        let (_, behind) ← outcome (expectMark finish ")" .openParenthesis behind)
        return (e, behind)
      else if t.kind = .field then (fieldReference t).map (·, rest)
      else if t.kind = .number ∨ t.kind = .text ∨ t.kind = .null then
        t.literal.map fun v => (.const v, rest)
      else t.fail t.operandProblem := by
  rw [parsePrimary]
  by_cases opens : t.isPunctuation "("
  · rw [if_pos opens, if_pos opens]
    exact outcome_bind fun e => outcome_bind fun mark => rfl
  rw [if_neg opens, if_neg opens]
  by_cases isField : t.kind = .field
  · rw [if_pos isField, if_pos isField]
    cases fieldReference t <;> rfl
  rw [if_neg isField, if_neg isField]
  by_cases isLiteral : t.kind = .number ∨ t.kind = .text ∨ t.kind = .null
  · rw [if_pos isLiteral, if_pos isLiteral]
    cases t.literal <;> rfl
  · rw [if_neg isLiteral, if_neg isLiteral]
    rfl

section

variable {t : Token} (sign : t.sign? = none)

include sign

theorem outcome_parseSigned_parenthesis (opens : t.isPunctuation "(") (rest : List Token) :
    outcome (parseSigned finish (t :: rest)) = (do
      let (e, behind) ← outcome (parseTier finish .disjunction rest)
      let (_, behind) ← outcome (expectMark finish ")" .openParenthesis behind)
      return (e, behind)) := by
  rw [outcome_parseSigned_primary finish sign, outcome_parsePrimary, if_pos opens]

theorem outcome_parseSigned_field (isField : t.kind = .field) (rest : List Token) :
    outcome (parseSigned finish (t :: rest)) = (fieldReference t).map (·, rest) := by
  have opens : ¬ t.isPunctuation "(" := by simp [Token.isPunctuation, isField]
  rw [outcome_parseSigned_primary finish sign, outcome_parsePrimary, if_neg opens, if_pos isField]

theorem outcome_parseSigned_literal (isLiteral : t.kind = .number ∨ t.kind = .text ∨ t.kind = .null)
    (rest : List Token) :
    outcome (parseSigned finish (t :: rest)) = t.literal.map fun v => (.const v, rest) := by
  have opens : ¬ t.isPunctuation "(" := by
    rcases isLiteral with kind | kind | kind <;> simp [Token.isPunctuation, kind]
  have isField : t.kind ≠ .field := by
    rcases isLiteral with kind | kind | kind <;> simp [kind]
  rw [outcome_parseSigned_primary finish sign, outcome_parsePrimary, if_neg opens, if_neg isField,
    if_pos isLiteral]

theorem outcome_parseSigned_fail (opens : ¬ t.isPunctuation "(") (isField : t.kind ≠ .field)
    (isLiteral : ¬ (t.kind = .number ∨ t.kind = .text ∨ t.kind = .null)) (rest : List Token) :
    outcome (parseSigned finish (t :: rest)) = t.fail t.operandProblem := by
  rw [outcome_parseSigned_primary finish sign, outcome_parsePrimary, if_neg opens, if_neg isField,
    if_neg isLiteral]

end

/-! ## Marks -/

theorem outcome_expectMark_cons {mark : String} {problem : Option String → ParseProblem} {t : Token}
    (expected : t.isPunctuation mark) (rest : List Token) :
    outcome (expectMark finish mark problem (t :: rest)) = .ok ((), rest) := by
  rw [expectMark, if_pos expected]
  rfl

theorem outcome_expectMark_fail {mark : String} {problem : Option String → ParseProblem} {t : Token}
    (other : ¬ t.isPunctuation mark) (rest : List Token) :
    outcome (expectMark finish mark problem (t :: rest)) = t.fail (problem t.found) := by
  rw [expectMark, if_neg other]
  rfl

theorem outcome_expectAnd_cons {operator : String} {t : Token} (expected : t.keyword = "and")
    (rest : List Token) :
    outcome (expectAnd finish operator (t :: rest)) = .ok ((), rest) := by
  rw [expectAnd, if_pos (beq_iff_eq.mpr expected)]
  rfl

theorem outcome_expectAnd_fail {operator : String} {t : Token} (other : t.keyword ≠ "and")
    (rest : List Token) :
    outcome (expectAnd finish operator (t :: rest)) =
      t.fail (.rangeWithoutAnd operator t.text) := by
  rw [expectAnd, if_neg (by simpa using other)]
  rfl

end

theorem refuseEmpty_fail {operator : String} {t : Token} (closes : t.isPunctuation "\x7d")
    (rest : List Token) : refuseEmpty operator (t :: rest) = t.fail (.emptyValueList operator) := by
  rw [refuseEmpty, if_pos closes]

theorem refuseEmpty_cons {operator : String} {t : Token} (other : ¬ t.isPunctuation "\x7d")
    (rest : List Token) : refuseEmpty operator (t :: rest) = .ok () := by
  rw [refuseEmpty, if_neg other]

end RecordFilter
