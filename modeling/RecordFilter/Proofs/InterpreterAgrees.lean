import RecordFilter.Proofs.KindSoundness
import RecordFilter.Proofs.Membership

/-!
# Compiled filters agree with the interpreter

What the compiler does once, the interpreter does for every record: constants are folded to what
evaluating them gives each time, converted constants are what converting them gives each time, and
a set of values holds what comparing with each of them finds.  Each step of the compiler keeps to
this, and so a predicate accepts exactly the records for which the interpreter finds the truth
value true.
-/

namespace RecordFilter

/-! ## Terms and expressions without fields -/

namespace Term

def isClosed : Term → Bool
  | constant _ => true
  | field _ => false
  | not t | negate t | state _ t | like _ _ t | member _ _ t | anyMember _ _ t => isClosed t
  | both l r | either l r | compare _ l r | arithmetic _ l r => isClosed l && isClosed r
  | between _ t lower upper => isClosed t && isClosed lower && isClosed upper

theorem eval_of_isClosed {t : Term} (closed : t.isClosed = true)
    (read : String → Payload → Except Fault Payload) (record : Payload) :
    t.eval read record = evalClosed t := by
  unfold evalClosed
  induction t with
  | constant v => rfl
  | field name => cases closed
  | not t ih | negate t ih | state test t ih | like pattern isText t ih
  | member negated members t ih | anyMember negated members t ih => simp only [eval, ih closed]
  | both l r ihLeft ihRight | either l r ihLeft ihRight | compare c l r ihLeft ihRight
  | arithmetic op l r ihLeft ihRight =>
      simp only [isClosed, Bool.and_eq_true] at closed
      simp only [eval, ihLeft closed.1, ihRight closed.2]
  | between negated t lower upper ih ihLower ihUpper =>
      simp only [isClosed, Bool.and_eq_true] at closed
      simp only [eval, ih closed.1.1, ihLower closed.1.2, ihUpper closed.2]

end Term

theorem Node.isClosed_of_isConstant {n : Node} (constant : n.isConstant = true) :
    n.term.isClosed = true := by
  obtain ⟨v, same⟩ := isConstant_iff.mp constant
  rw [same]
  rfl

namespace Expr

@[simp] theorem isClosed_const (v : Value) : (const v).isClosed = true := rfl

@[simp] theorem isClosed_field (name : String) : (field name).isClosed = false := rfl

@[simp] theorem isClosed_unary (op : UnaryOp) (operand : Expr) :
    (unary op operand).isClosed = operand.isClosed := by
  simp [isClosed, nodes, fieldName?]

@[simp] theorem isClosed_binary (op : BinaryOp) (left right : Expr) :
    (binary op left right).isClosed = (left.isClosed && right.isClosed) := by
  simp [isClosed, nodes, fieldName?]

@[simp] theorem isClosed_state (test : StateTest) (operand : Expr) :
    (state test operand).isClosed = operand.isClosed := by
  simp [isClosed, nodes, fieldName?]

theorem nodesOf_all (es : List Expr) (p : Expr → Bool) :
    (nodesOf es).all p = es.all fun e => e.nodes.all p := by
  induction es with
  | nil => rfl
  | cons e es ih => simp [nodesOf, ih]

@[simp] theorem isClosed_among (negated : Bool) (operand first : Expr) (others : List Expr) :
    (among negated operand first others).isClosed =
      (operand.isClosed && (first.isClosed && others.all isClosed)) := by
  simp only [isClosed, nodes, List.all_cons, List.all_append, nodesOf_all]
  rfl

@[simp] theorem isClosed_between (negated : Bool) (operand lower upper : Expr) :
    (between negated operand lower upper).isClosed =
      (operand.isClosed && (lower.isClosed && upper.isClosed)) := by
  simp [isClosed, nodes, fieldName?]

end Expr

/-! ## Agreement -/

section

variable {s : Schema} {lookup : Lookup}

/-- A node stands for an expression: its kind is that of the expression unless it is Null, it is a
constant if the expression has no fields, and it gives on every record what the interpreter
finds. -/
structure Agrees (s : Schema) (lookup : Lookup) (e : Expr) (n : Node) : Prop where
  kind : n.isNullConstant = false → n.kind = e.kind s
  constant : n.isConstant = e.isClosed
  eval : ∀ record, n.term.eval (s.read lookup) record = e.interpret s lookup record

theorem fold_eval {n m : Node} {operands : List Node} (h : fold n operands = .ok m)
    (closed : n.term.isClosed = operands.all fun operand => operand.term.isClosed)
    (read : String → Payload → Except Fault Payload) (record : Payload) :
    m.term.eval read record = n.term.eval read record := by
  rcases fold_eq_ok h with ⟨-, rfl⟩ | ⟨all, raw, evaluated, rfl⟩
  · rfl
  · -- The payload was found without a record, but it is the same on all of them.
    have termClosed : n.term.isClosed = true := by
      rw [closed, List.all_eq_true]
      intro operand found
      exact Node.isClosed_of_isConstant (List.all_eq_true.mp all operand found)
    rw [Term.eval_of_isClosed termClosed, evaluated]
    rfl

theorem fold_agrees {e : Expr} {n m : Node} {operands : List Node}
    (h : fold n operands = .ok m) (kind : n.kind = e.kind s) (operator : n.isConstant = false)
    (constants : operands.all Node.isConstant = e.isClosed)
    (closed : n.term.isClosed = operands.all fun operand => operand.term.isClosed)
    (eval : ∀ record, n.term.eval (s.read lookup) record = e.interpret s lookup record) :
    Agrees s lookup e m := by
  have eval (record : Payload) :
      m.term.eval (s.read lookup) record = e.interpret s lookup record := by
    rw [fold_eval h closed, eval]
  rcases fold_eq_ok h with ⟨none, rfl⟩ | ⟨all, raw, -, rfl⟩
  · exact ⟨fun _ => kind, by rw [operator, ← constants, none], eval⟩
  · refine ⟨fun some => ?_, by rw [← constants, all]; rfl, eval⟩
    rw [← kind]
    change (if raw.isNull && n.kind != .boolean then Kind.null else n.kind) = n.kind
    split_ifs with null
    · simp [Node.isNullConstant, Node.constant?, Node.ofValue, Term.constant?, Value.isNull, null]
        at some
    · rfl

/-! ## Fields -/

theorem Schema.isSome_declared? {name declared : String} (h : s.canonical? name = some declared) :
    (s.declared? declared).isSome = true := by
  unfold canonical? at h
  split_ifs at h with self
  · cases h
    exact self
  · obtain ⟨field, listed, rfl⟩ := List.mem_map.mp (List.mem_of_find?_eq_some h)
    exact List.lookup_isSome_iff.mpr ⟨field, listed, beq_self_eq_true field.1⟩

theorem Schema.canonical?_idem {name declared : String} (h : s.canonical? name = some declared) :
    s.canonical? declared = some declared := by
  rw [canonical?, if_pos (isSome_declared? h)]

theorem compileField_agrees {name : String} {node : Node}
    (h : compileField (s.resolver lookup) name = .ok node) :
    Agrees s lookup (.field name) node := by
  obtain ⟨declared, kind, known, found, -, rfl⟩ := compileField_eq_ok h
  change s.canonical? name = some declared at known
  change s.kind? declared = some kind at found
  have self := Schema.canonical?_idem known
  refine ⟨fun _ => ?_, rfl, fun record => ?_⟩
  · simp only [Schema.kind?, self, Option.bind_some] at found
    simp [Expr.kind, Schema.kind?, known, found]
  · simp only [Term.eval, Expr.interpret_field, Schema.read, known, self]

/-! ## Operands -/

open Payload in
theorem brought_self (k : Kind) (operand : Except Fault Payload) :
    brought k k operand = operand := by
  cases operand with
  | error f => rfl
  | ok p =>
      unfold brought
      rw [ok_bind]
      split_ifs with null
      · rw [isNull_iff.mp null]
        rfl
      · simp [Value.coerce]

/-- What a constant is converted to once is what the interpreter brings it to each time. -/
theorem align_agrees {operator : String} {kinds : String → Option Kind}
    {target other aligned : Node} {e : Expr} (agrees : Agrees s lookup e other)
    (sound : other.Sound kinds) (some : other.isNullConstant = false)
    (h : align operator target other e = .ok aligned) :
    aligned.isConstant = e.isClosed ∧ ∀ record, aligned.term.eval (s.read lookup) record =
      Payload.brought target.kind (e.kind s) (e.interpret s lookup record) := by
  have kind := agrees.kind some
  rcases align_eq_ok h with ⟨same, rfl⟩ | ⟨differ, v, converted, constant, defined, rfl⟩
  · refine ⟨agrees.constant, fun record => ?_⟩
    rw [← kind, same, brought_self, agrees.eval]
  · refine ⟨?_, fun record => ?_⟩
    · rw [← agrees.constant, Node.isConstant_iff.mpr ⟨v, constant⟩]
      rfl
    · have given := agrees.eval record
      rw [constant] at given
      obtain ⟨valueKind, fits⟩ := sound.constant constant
      have present : v.isNull = false := by rw [← Node.isNullConstant_eq constant, some]
      have present := fits.isNull (by simpa [Value.isNull, valueKind] using present)
      rw [← given, ← kind, ← valueKind]
      simp [Term.eval, Node.ofValue, Payload.brought, present, defined]

/-! ## Operators -/

theorem compileUnary_agrees {op : UnaryOp} {e : Expr} {operand node : Node}
    (agrees : Agrees s lookup e operand) (h : compileUnary op e operand = .ok node) :
    Agrees s lookup (.unary op e) node := by
  cases op with
  | not =>
      obtain ⟨-, folded⟩ := compileNot_eq_ok h
      refine fold_agrees folded rfl rfl (by simp [agrees.constant])
        (by simp [booleanNode, Term.isClosed]) fun record => ?_
      simp only [booleanNode, Term.eval, Expr.interpret, agrees.eval]
  | negate =>
      obtain ⟨-, folded⟩ := compileNegate_eq_ok h
      refine fold_agrees folded rfl rfl (by simp [agrees.constant]) (by simp [Term.isClosed])
        fun record => ?_
      simp only [Term.eval, Expr.interpret, agrees.eval]
      refine bind_congr fun p => ?_
      split_ifs with null
      · rw [Payload.isNull_iff.mp null]
        rfl
      · rfl
  | plus =>
      obtain ⟨number, rfl⟩ := compilePlus_eq_ok h
      exact ⟨fun _ => number, by simp [agrees.constant], agrees.eval⟩

theorem compileState_agrees {test : StateTest} {e : Expr} {operand node : Node}
    (agrees : Agrees s lookup e operand) (h : compileState test e operand = .ok node) :
    Agrees s lookup (.state test e) node := by
  obtain ⟨-, folded⟩ := compileState_eq_ok h
  refine fold_agrees folded rfl rfl (by simp [agrees.constant])
    (by simp [booleanNode, Term.isClosed]) fun record => ?_
  simp only [booleanNode, Term.eval, agrees.eval]
  cases test with
  | isNull | isNotNull => simp only [Expr.interpret, Payload.testState, ok_bind]
  | isEmpty | isNotEmpty =>
      rw [Expr.interpret]
      refine bind_congr fun p => ?_
      rw [Payload.testState]
      split_ifs
      · rfl
      · cases p.length <;> rfl

section

variable {leftExpr rightExpr : Expr} {left right : Node}
  (agreesLeft : Agrees s lookup leftExpr left) (agreesRight : Agrees s lookup rightExpr right)

include agreesLeft agreesRight

theorem compileBoth_agrees {node : Node}
    (h : compileConnective .and (.both left.term right.term) left right = .ok node) :
    Agrees s lookup (.binary .and leftExpr rightExpr) node := by
  obtain ⟨-, -, folded⟩ := compileConnective_eq_ok h
  refine fold_agrees folded rfl rfl (by simp [agreesLeft.constant, agreesRight.constant])
    (by simp [booleanNode, Term.isClosed]) fun record => ?_
  simp only [booleanNode, Term.eval, Expr.interpret, agreesLeft.eval, agreesRight.eval]

theorem compileEither_agrees {node : Node}
    (h : compileConnective .or (.either left.term right.term) left right = .ok node) :
    Agrees s lookup (.binary .or leftExpr rightExpr) node := by
  obtain ⟨-, -, folded⟩ := compileConnective_eq_ok h
  refine fold_agrees folded rfl rfl (by simp [agreesLeft.constant, agreesRight.constant])
    (by simp [booleanNode, Term.isClosed]) fun record => ?_
  simp only [booleanNode, Term.eval, Expr.interpret, agreesLeft.eval, agreesRight.eval]

variable {kinds : String → Option Kind} (soundLeft : left.Sound kinds)
  (soundRight : right.Sound kinds)

include soundLeft soundRight

theorem alignBoth_agrees {operator : String} {l r : Node}
    (someLeft : left.isNullConstant = false) (someRight : right.isNullConstant = false)
    (h : alignBoth operator left right leftExpr rightExpr = .ok (l, r)) :
    l.isConstant = leftExpr.isClosed ∧ r.isConstant = rightExpr.isClosed ∧
    (∀ record, l.term.eval (s.read lookup) record =
      Payload.brought (leftExpr.kindOfBoth s rightExpr) (leftExpr.kind s)
        (leftExpr.interpret s lookup record)) ∧
    ∀ record, r.term.eval (s.read lookup) record =
      Payload.brought (leftExpr.kindOfBoth s rightExpr) (rightExpr.kind s)
        (rightExpr.interpret s lookup record) := by
  unfold Expr.kindOfBoth
  rcases alignBoth_eq_ok h with ⟨byLeft, rfl, aligned⟩ | ⟨byRight, rfl, aligned⟩
  · obtain ⟨constant, eval⟩ := align_agrees agreesRight soundRight someRight aligned
    rw [agreesLeft.constant, agreesRight.constant] at byLeft
    rw [agreesLeft.kind someLeft] at eval
    rw [if_pos byLeft]
    exact ⟨agreesLeft.constant, constant, fun record => by rw [brought_self, agreesLeft.eval], eval⟩
  · obtain ⟨constant, eval⟩ := align_agrees agreesLeft soundLeft someLeft aligned
    rw [agreesLeft.constant, agreesRight.constant] at byRight
    rw [agreesRight.kind someRight] at eval
    rw [if_neg (by simp [byRight])]
    exact ⟨constant, agreesRight.constant, eval,
      fun record => by rw [brought_self, agreesRight.eval]⟩

theorem compileComparison_agrees {c : Comparison} {node : Node}
    (h : compileComparison c left right leftExpr rightExpr = .ok node) :
    Agrees s lookup (.binary (.compare c) leftExpr rightExpr) node := by
  obtain ⟨someLeft, someRight, l, r, aligned, -, -, folded⟩ := compileComparison_eq_ok h
  obtain ⟨constL, constR, evalL, evalR⟩ := alignBoth_agrees agreesLeft agreesRight soundLeft
    soundRight someLeft someRight aligned
  refine fold_agrees folded rfl rfl (by simp [constL, constR])
    (by simp [booleanNode, Term.isClosed]) fun record => ?_
  simp only [booleanNode, Term.eval, Expr.interpret, evalL, evalR]
  refine bind_congr fun p => ?_
  split_ifs with nullLeft
  · rfl
  · refine bind_congr fun q => ?_
    simp only [Comparison.testNonNull, nullLeft, Bool.false_or]
    split_ifs <;> rfl

theorem arithmeticOperands_agree {operator : String} {l r : Node}
    (someLeft : left.isNullConstant = false) (someRight : right.isNullConstant = false)
    (aligned : (left.kind = .number ∧ l = left ∧ align operator left right rightExpr = .ok r) ∨
      (left.kind ≠ .number ∧ right.kind = .number ∧ r = right ∧
        align operator right left leftExpr = .ok l)) :
    l.isConstant = leftExpr.isClosed ∧ r.isConstant = rightExpr.isClosed ∧
    (∀ record, l.term.eval (s.read lookup) record =
      Payload.brought .number (leftExpr.kind s) (leftExpr.interpret s lookup record)) ∧
    ∀ record, r.term.eval (s.read lookup) record =
      Payload.brought .number (rightExpr.kind s) (rightExpr.interpret s lookup record) := by
  rcases aligned with ⟨number, rfl, aligned⟩ | ⟨-, number, rfl, aligned⟩
  · obtain ⟨constant, eval⟩ := align_agrees agreesRight soundRight someRight aligned
    rw [number] at eval
    rw [← agreesLeft.kind someLeft, number]
    exact ⟨agreesLeft.constant, constant, fun record => by rw [brought_self, agreesLeft.eval], eval⟩
  · obtain ⟨constant, eval⟩ := align_agrees agreesLeft soundLeft someLeft aligned
    rw [number] at eval
    rw [← agreesRight.kind someRight, number]
    exact ⟨constant, agreesRight.constant, eval,
      fun record => by rw [brought_self, agreesRight.eval]⟩

theorem compileArithmetic_agrees {op : Arithmetic} {node : Node}
    (keeps : Term.KeepsKinds kinds (s.read lookup))
    (h : compileArithmetic op left right leftExpr rightExpr = .ok node) :
    Agrees s lookup (.binary (.arithmetic op) leftExpr rightExpr) node := by
  obtain ⟨someLeft, someRight, l, r, aligned, folded⟩ := compileArithmetic_eq_ok h
  obtain ⟨numberL, numberR⟩ :=
    arithmeticOperands_sound soundLeft soundRight someLeft someRight aligned
  obtain ⟨constL, constR, evalL, evalR⟩ := arithmeticOperands_agree agreesLeft agreesRight soundLeft
    soundRight someLeft someRight aligned
  refine fold_agrees folded rfl rfl (by simp [constL, constR]) (by simp [Term.isClosed])
    fun record => ?_
  simp only [Term.eval, Expr.interpret, ← evalL, ← evalR]
  cases givenL : l.term.eval (s.read lookup) record with
  | error f => rfl
  | ok p =>
      cases givenR : r.term.eval (s.read lookup) record with
      | error f => rfl
      | ok q => exact op.apply_eq (numberL.eval_fits keeps givenL) (numberR.eval_fits keeps givenR)

omit soundRight in
theorem compileLike_agrees {node : Node} (keeps : Term.KeepsKinds kinds (s.read lookup))
    (h : compileLike left right rightExpr = .ok node) :
    Agrees s lookup (.binary .like leftExpr rightExpr) node := by
  obtain ⟨raw, pattern, constant, displayed, folded⟩ := compileLike_eq_ok h
  have closed : rightExpr.isClosed = true := by
    rw [← agreesRight.constant, Node.isConstant_iff.mpr ⟨_, constant⟩]
  refine fold_agrees folded rfl rfl (by simp [agreesLeft.constant, closed])
    (by simp [booleanNode, Term.isClosed]) fun record => ?_
  have given : rightExpr.interpret s lookup record = .ok raw := by
    rw [← agreesRight.eval, constant]
    rfl
  simp only [booleanNode, Term.eval, Expr.interpret, ← agreesLeft.eval, given, ok_bind, displayed]
  cases evaluated : left.term.eval (s.read lookup) record with
  | error f => rfl
  | ok p =>
      have fits := Term.HasKind.eval_fits soundLeft keeps evaluated
      simp only [ok_bind, Payload.isLike]
      split_ifs with null
      · rfl
      · rw [(fits.fits (by simpa using null)).patternText]
        cases p.displayed <;> rfl

theorem compileBinary_agrees {op : BinaryOp} {node : Node}
    (keeps : Term.KeepsKinds kinds (s.read lookup))
    (h : compileBinary op left right leftExpr rightExpr = .ok node) :
    Agrees s lookup (.binary op leftExpr rightExpr) node := by
  cases op with
  | and => exact compileBoth_agrees agreesLeft agreesRight h
  | or => exact compileEither_agrees agreesLeft agreesRight h
  | like => exact compileLike_agrees agreesLeft agreesRight soundLeft keeps h
  | compare c => exact compileComparison_agrees agreesLeft agreesRight soundLeft soundRight h
  | arithmetic op =>
      exact compileArithmetic_agrees agreesLeft agreesRight soundLeft soundRight keeps h

end

/-! ## Membership -/

/-- A set of payloads stands for a list of values. -/
structure ValuesAgree (k : Kind) (values : List Value) (members : List Payload) : Prop where
  elements : k = .collection → ∀ element : Payload,
    element.isElementOf values = .ok (members.any fun m => m.same element)
  single : k ≠ .collection → ∀ p : Payload,
    p.isOneOf k values = .ok (members.any fun m => m.same p)

theorem ValuesAgree.nil (k : Kind) : ValuesAgree k [] [] where
  elements _ _ := rfl
  single _ _ := rfl

theorem alignedValue_eq {kinds : String → Option Kind} {operator : String}
    {left value aligned : Node} {e : Expr} {v : Value} {q : Payload} (sound : value.Sound kinds)
    (constant : value.term = .constant v) (h : align operator left value e = .ok aligned)
    (evaluated : evalClosed aligned.term = .ok q) :
    ∃ w, v.coerce left.kind = .ok w ∧ w.raw = q := by
  rcases align_eq_ok h with ⟨same, rfl⟩ | ⟨-, v', converted, constant', defined, rfl⟩
  · rw [constant] at evaluated
    cases evaluated
    exact ⟨v, by simp [Value.coerce, (sound.constant constant).1, same], rfl⟩
  · rw [constant] at constant'
    cases constant'
    cases evaluated
    exact ⟨converted, defined, rfl⟩

theorem compileMember_agrees {negated : Bool} {kinds : String → Option Kind} {left value : Node}
    {e : Expr} {payloads : List Payload} (agrees : Agrees s lookup e value)
    (sound : value.Sound kinds) (h : compileMember negated left value e = .ok payloads) :
    e.isClosed = true ∧ ∃ raw, (∀ record, e.interpret s lookup record = .ok raw) ∧
      ∀ values members, ValuesAgree left.kind values members →
        ValuesAgree left.kind (⟨e.kind s, raw⟩ :: values) (payloads ++ members) := by
  obtain ⟨v, constant, some, alternatives, -⟩ := compileMember_eq_ok h
  have given : ∀ record, e.interpret s lookup record = .ok v.raw := by
    intro record
    rw [← agrees.eval, constant]
    rfl
  have same : (⟨e.kind s, v.raw⟩ : Value) = v := by
    have present : value.isNullConstant = false := by rw [Node.isNullConstant_eq constant, some]
    rw [← agrees.kind present, ← (sound.constant constant).1]
  rw [← agrees.constant, Node.isConstant_iff.mpr ⟨v, constant⟩]
  refine ⟨rfl, v.raw, given, fun values members others => ?_⟩
  rw [same]
  refine ⟨fun collection element => ?_, fun single p => ?_⟩
  · rcases alternatives with ⟨-, matched⟩ | ⟨single, -⟩
    · rw [Payload.isElementOf_cons matched (others.elements collection element), List.any_append]
    · exact absurd collection single
  · rcases alternatives with ⟨collection, -⟩ | ⟨-, aligned, q, aligns, evaluated, rfl⟩
    · exact absurd collection single
    · obtain ⟨w, converted, rfl⟩ := alignedValue_eq sound constant aligns evaluated
      rw [Payload.isOneOf_cons converted (others.single single p)]
      rfl

theorem compileAmong_agrees {negated : Bool} {left node : Node} {operand first : Expr}
    {others : List Expr} {members : List Payload} {raw : Payload} {values : List Value}
    {kinds : String → Option Kind} (agrees : Agrees s lookup operand left)
    (sound : left.Sound kinds) (keeps : Term.KeepsKinds kinds (s.read lookup))
    (some : left.isNullConstant = false)
    (closed : (first.isClosed && others.all Expr.isClosed) = true)
    (givenFirst : ∀ record, first.interpret s lookup record = .ok raw)
    (givenOthers : ∀ record, Expr.interpretAll s lookup record others = .ok values)
    (valuesAgree : ValuesAgree left.kind (⟨first.kind s, raw⟩ :: values) members)
    (h : compileAmong negated left members = .ok node) :
    Agrees s lookup (.among negated operand first others) node := by
  have kind := agrees.kind some
  unfold compileAmong at h
  split_ifs at h with collection
  · rw [beq_iff_eq] at collection
    refine fold_agrees h rfl rfl (by simp [agrees.constant, closed])
      (by simp [booleanNode, Term.isClosed]) fun record => ?_
    simp only [booleanNode, Term.eval, Expr.interpret, agrees.eval, givenFirst, givenOthers,
      ← kind, collection, if_true, ok_bind]
    refine bind_congr fun p => ?_
    split_ifs
    · rfl
    · simp only [Payload.anyIsElementOf_eq (valuesAgree.elements collection)]
  · have single : left.kind ≠ .collection := by simpa using collection
    refine fold_agrees h rfl rfl (by simp [agrees.constant, closed])
      (by simp [booleanNode, Term.isClosed]) fun record => ?_
    simp only [booleanNode, Term.eval, Expr.interpret, ← agrees.eval, givenFirst, givenOthers,
      ← kind, single, if_false, ok_bind, valuesAgree.single single]
    cases evaluated : left.term.eval (s.read lookup) record with
    | error f => rfl
    | ok p =>
        have fits := Term.HasKind.eval_fits sound keeps evaluated
        simp only [ok_bind]
        split_ifs with null
        · simp [null]
        · rw [(fits.fits (by simpa using null)).isMember_eq_any single]
          simp [null]

/-! ## Ranges -/

theorem compileBetween_agrees {operator : String} {negated : Bool} {kinds : String → Option Kind}
    {left lowerNode low upperNode high node : Node} {operand lower upper : Expr}
    (agrees : Agrees s lookup operand left) (agreesLower : Agrees s lookup lower lowerNode)
    (agreesUpper : Agrees s lookup upper upperNode)
    (ranged : left.kind = .number ∨ left.kind = .timestamp)
    (sound : left.Sound kinds) (soundLower : lowerNode.Sound kinds)
    (soundUpper : upperNode.Sound kinds) (someLower : lowerNode.isNullConstant = false)
    (someUpper : upperNode.isNullConstant = false)
    (alignedLower : align operator left lowerNode lower = .ok low)
    (alignedUpper : align operator left upperNode upper = .ok high)
    (h : fold (booleanNode (.between negated left.term low.term high.term)) [left, low, high] =
      .ok node) : Agrees s lookup (.between negated operand lower upper) node := by
  have some : left.isNullConstant = false := by
    rw [Bool.eq_false_iff, Ne, sound.null_iff]
    rcases ranged with kind | kind <;> simp [kind]
  obtain ⟨constLow, evalLow⟩ := align_agrees agreesLower soundLower someLower alignedLower
  obtain ⟨constHigh, evalHigh⟩ := align_agrees agreesUpper soundUpper someUpper alignedUpper
  refine fold_agrees h rfl rfl (by simp [agrees.constant, constLow, constHigh])
    (by simp [booleanNode, Term.isClosed, Bool.and_assoc]) fun record => ?_
  simp only [booleanNode, Term.eval, Expr.interpret, agrees.eval, evalLow, evalHigh,
    agrees.kind some]
  refine bind_congr fun p => ?_
  split_ifs
  · rfl
  · refine bind_congr fun q => bind_congr fun r => ?_
    unfold Payload.isWithin
    split_ifs
    · cases negated <;> rfl
    · cases Comparison.atMost.test q p with
      | error f => rfl
      | ok above =>
          cases above with
          | false => cases negated <;> rfl
          | true => rfl

end

/-! ## Expressions -/

section

variable {s : Schema} {lookup : Lookup}

mutual

/-- Whatever an expression is compiled to stands for the expression. -/
theorem compileExpr_agrees {e : Expr} {node : Node} (constants : e.ConstantsFit)
    (h : compileExpr (s.resolver lookup) e = .ok node) : Agrees s lookup e node := by
  cases e with
  | const v =>
      obtain rfl := compileConst_eq_ok h
      exact ⟨fun _ => rfl, rfl, fun record => (Expr.interpret_const s lookup record v).symm⟩
  | field name => exact compileField_agrees (by rwa [compileExpr_field] at h)
  | unary op operand =>
      obtain ⟨inner, compiled, h⟩ := compileUnaryExpr_eq_ok h
      exact compileUnary_agrees (compileExpr_agrees constants.unary compiled) h
  | binary op left right =>
      obtain ⟨leftNode, rightNode, compiledLeft, compiledRight, h⟩ := compileBinaryExpr_eq_ok h
      obtain ⟨constantsLeft, constantsRight⟩ := constants.binary
      exact compileBinary_agrees (compileExpr_agrees constantsLeft compiledLeft)
        (compileExpr_agrees constantsRight compiledRight)
        (compileExpr_sound constantsLeft compiledLeft)
        (compileExpr_sound constantsRight compiledRight) (s.keepsKinds lookup) h
  | state test operand =>
      obtain ⟨inner, compiled, h⟩ := compileStateExpr_eq_ok h
      exact compileState_agrees (compileExpr_agrees constants.state compiled) h
  | among negated operand first others =>
      obtain ⟨left, firstNode, payloads, rest, compiled, some, compiledFirst, member, members, h⟩ :=
        compileAmongExpr_eq_ok h
      -- The values are constants, so what the interpreter finds for them depends on no record, and
      -- the set that was made of them once stands for all its comparisons.
      obtain ⟨constantsOperand, constantsValues⟩ := constants.among
      obtain ⟨closedFirst, raw, givenFirst, extend⟩ := compileMember_agrees
        (compileExpr_agrees constantsValues.cons.1 compiledFirst)
        (compileExpr_sound constantsValues.cons.1 compiledFirst) member
      obtain ⟨closed, values, given, agree⟩ := compileMembers_agree constantsValues.cons.2 members
      exact compileAmong_agrees (compileExpr_agrees constantsOperand compiled)
        (compileExpr_sound constantsOperand compiled) (s.keepsKinds lookup) some
        (by simp only [closedFirst, closed, Bool.and_self]) givenFirst given (extend _ _ agree) h
  | between negated operand lower upper =>
      obtain ⟨left, lowerNode, low, upperNode, high, compiled, ranged, compiledLower, someLower,
        alignedLower, compiledUpper, someUpper, alignedUpper, h⟩ := compileBetweenExpr_eq_ok h
      obtain ⟨constantsOperand, constantsLower, constantsUpper⟩ := constants.between
      exact compileBetween_agrees (compileExpr_agrees constantsOperand compiled)
        (compileExpr_agrees constantsLower compiledLower)
        (compileExpr_agrees constantsUpper compiledUpper) ranged
        (compileExpr_sound constantsOperand compiled)
        (compileExpr_sound constantsLower compiledLower)
        (compileExpr_sound constantsUpper compiledUpper) someLower someUpper alignedLower
        alignedUpper h
  | incomplete op left => exact absurd h compileIncomplete_ne_ok
  | unknown name => exact absurd h compileUnknown_ne_ok

theorem compileMembers_agree {negated : Bool} {left : Node} {es : List Expr}
    {members : List Payload} (constants : Expr.AllConstantsFit es)
    (h : compileMembers (s.resolver lookup) negated left es = .ok members) :
    es.all Expr.isClosed = true ∧ ∃ values,
      (∀ record, Expr.interpretAll s lookup record es = .ok values) ∧
      ValuesAgree left.kind values members := by
  cases es with
  | nil =>
      obtain rfl : [] = members := by simpa [compileMembers] using h
      exact ⟨rfl, [], fun _ => rfl, .nil _⟩
  | cons e es =>
      obtain ⟨node, payloads, rest, compiled, member, others, rfl⟩ := compileMembers_cons_eq_ok h
      obtain ⟨closedFirst, raw, givenFirst, extend⟩ := compileMember_agrees
        (compileExpr_agrees constants.cons.1 compiled)
        (compileExpr_sound constants.cons.1 compiled) member
      obtain ⟨closed, values, given, agree⟩ := compileMembers_agree constants.cons.2 others
      refine ⟨by simp [closedFirst, closed], ⟨e.kind s, raw⟩ :: values, fun record => ?_,
        extend _ _ agree⟩
      rw [Expr.interpretAll, givenFirst, ok_bind, given]
      rfl

end

end

end RecordFilter
