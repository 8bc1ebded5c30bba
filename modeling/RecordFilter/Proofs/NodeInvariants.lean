import RecordFilter.Proofs.CompileSteps

/-!
# What operators keep

Compiled expressions are put together from constants and fields by operators, and each operator is
applied to operands of the kinds that it asks for.  So a property of nodes that constants and
fields have, and that every operator keeps, is one of all compiled expressions.  The constants may
hold any payload here, whatever kind they are said to have.
-/

namespace RecordFilter

/-- Constants have a property, and operators keep it for operands of their kinds. -/
structure Node.Invariant (good : Node → Prop) : Prop where
  constant (v : Value) : good (.ofValue v)
  not {n : Node} (h : good n) (truth : n.kind = .boolean) : good (booleanNode (.not n.term))
  negate {n : Node} (h : good n) (number : n.kind = .number) : good ⟨.number, .negate n.term⟩
  both {m n : Node} (hm : good m) (hn : good n) (truth : m.kind = .boolean ∧ n.kind = .boolean) :
    good (booleanNode (.both m.term n.term))
  either {m n : Node} (hm : good m) (hn : good n)
    (truth : m.kind = .boolean ∧ n.kind = .boolean) : good (booleanNode (.either m.term n.term))
  state {n : Node} (test : StateTest) (h : good n) : good (booleanNode (.state test n.term))
  like {n : Node} (pattern : List Char) (h : good n) :
    good (booleanNode (.like pattern (n.kind == .text) n.term))
  compare {m n : Node} (c : Comparison) (hm : good m) (hn : good n) (kinds : n.kind = m.kind)
    (single : m.kind ≠ .collection) : good (booleanNode (.compare c m.term n.term))
  arithmetic {m n : Node} (op : Arithmetic) (hm : good m) (hn : good n)
    (numbers : m.kind = .number ∧ n.kind = .number) :
    good ⟨.number, .arithmetic op m.term n.term⟩
  member {n : Node} (negated : Bool) (members : List Payload) (h : good n)
    (single : n.kind ≠ .collection) : good (booleanNode (.member negated members n.term))
  anyMember {n : Node} (negated : Bool) (members : List Payload) (h : good n)
    (collection : n.kind = .collection) :
    good (booleanNode (.anyMember negated members n.term))
  between {n low high : Node} (negated : Bool) (h : good n) (hLow : good low) (hHigh : good high)
    (kinds : low.kind = n.kind ∧ high.kind = n.kind) (single : n.kind ≠ .collection) :
    good (booleanNode (.between negated n.term low.term high.term))

namespace Node.Invariant

variable {good : Node → Prop} (keeps : Node.Invariant good)

include keeps

theorem fold {n m : Node} {operands : List Node} (h : RecordFilter.fold n operands = .ok m)
    (hn : good n) : good m := by
  rcases fold_eq_ok h with ⟨-, rfl⟩ | ⟨-, raw, -, rfl⟩
  · exact hn
  · exact keeps.constant _

theorem align {operator : String} {target other aligned : Node} {e : Expr}
    (h : RecordFilter.align operator target other e = .ok aligned) (hOther : good other) :
    good aligned := by
  rcases align_eq_ok h with ⟨-, rfl⟩ | ⟨-, -, converted, -, -, rfl⟩
  · exact hOther
  · exact keeps.constant converted

theorem compileUnary {op : UnaryOp} {e : Expr} {operand node : Node}
    (h : RecordFilter.compileUnary op e operand = .ok node) (hOperand : good operand) :
    good node := by
  cases op with
  | not =>
      obtain ⟨truth, folded⟩ := compileNot_eq_ok h
      exact keeps.fold folded (keeps.not hOperand truth)
  | plus =>
      obtain ⟨-, rfl⟩ := compilePlus_eq_ok h
      exact hOperand
  | negate =>
      obtain ⟨number, folded⟩ := compileNegate_eq_ok h
      exact keeps.fold folded (keeps.negate hOperand number)

theorem compileComparison {c : Comparison} {left right node : Node} {e f : Expr}
    (h : RecordFilter.compileComparison c left right e f = .ok node) (hLeft : good left)
    (hRight : good right) : good node := by
  obtain ⟨someLeft, someRight, l, r, aligned, single, -, folded⟩ := compileComparison_eq_ok h
  obtain ⟨-, rfl, aligned⟩ | ⟨-, rfl, aligned⟩ := alignBoth_eq_ok aligned
  · exact keeps.fold folded
      (keeps.compare c hLeft (keeps.align aligned hRight) (align_kind someRight aligned) single)
  · exact keeps.fold folded
      (keeps.compare c (keeps.align aligned hLeft) hRight (align_kind someLeft aligned).symm single)

theorem compileArithmetic {op : Arithmetic} {left right node : Node} {e f : Expr}
    (h : RecordFilter.compileArithmetic op left right e f = .ok node) (hLeft : good left)
    (hRight : good right) : good node := by
  obtain ⟨someLeft, someRight, l, r, aligned, folded⟩ := compileArithmetic_eq_ok h
  obtain ⟨number, rfl, aligned⟩ | ⟨-, number, rfl, aligned⟩ := aligned
  · exact keeps.fold folded (keeps.arithmetic op hLeft (keeps.align aligned hRight)
      ⟨number, (align_kind someRight aligned).trans number⟩)
  · exact keeps.fold folded (keeps.arithmetic op (keeps.align aligned hLeft) hRight
      ⟨(align_kind someLeft aligned).trans number, number⟩)

theorem compileBinary {op : BinaryOp} {left right node : Node} {e f : Expr}
    (h : RecordFilter.compileBinary op left right e f = .ok node) (hLeft : good left)
    (hRight : good right) : good node := by
  cases op with
  | and =>
      obtain ⟨truthLeft, truthRight, folded⟩ := compileConnective_eq_ok h
      exact keeps.fold folded (keeps.both hLeft hRight ⟨truthLeft, truthRight⟩)
  | or =>
      obtain ⟨truthLeft, truthRight, folded⟩ := compileConnective_eq_ok h
      exact keeps.fold folded (keeps.either hLeft hRight ⟨truthLeft, truthRight⟩)
  | compare c => exact keeps.compileComparison h hLeft hRight
  | arithmetic op => exact keeps.compileArithmetic h hLeft hRight
  | like =>
      obtain ⟨-, pattern, -, -, folded⟩ := compileLike_eq_ok h
      exact keeps.fold folded (keeps.like pattern.toList hLeft)

theorem compileAmong {negated : Bool} {left node : Node} {members : List Payload}
    (h : RecordFilter.compileAmong negated left members = .ok node) (hLeft : good left) :
    good node := by
  unfold RecordFilter.compileAmong at h
  split at h
  · next collection =>
      exact keeps.fold h (keeps.anyMember negated members hLeft (beq_iff_eq.mp collection))
  · next single => exact keeps.fold h (keeps.member negated members hLeft (by simpa using single))

/-- What holds of constants and of the fields of an expression, and is kept by all operators, holds
of what the expression is compiled to. -/
theorem compileExpr {r : Resolver} (e : Expr)
    (fields : ∀ name, .field name ∈ e.nodes → ∀ n, compileField r name = .ok n → good n)
    {node : Node} (h : RecordFilter.compileExpr r e = .ok node) : good node := by
  match e with
  | .const v =>
      rw [compileConst_eq_ok h]
      exact keeps.constant v
  | .field name =>
      rw [compileExpr_field] at h
      exact fields name (Expr.mem_nodes_self _) node h
  | .unary op operand =>
      obtain ⟨inner, compiled, h⟩ := compileUnaryExpr_eq_ok h
      refine keeps.compileUnary h (compileExpr operand (fun name found => ?_) compiled)
      exact fields name (Expr.nodes_subset_unary found)
  | .binary op left right =>
      obtain ⟨l, r, compiledLeft, compiledRight, h⟩ := compileBinaryExpr_eq_ok h
      refine keeps.compileBinary h (compileExpr left (fun name found => ?_) compiledLeft)
        (compileExpr right (fun name found => ?_) compiledRight)
      · exact fields name (Expr.nodes_subset_left found)
      · exact fields name (Expr.nodes_subset_right found)
  | .state test operand =>
      obtain ⟨inner, compiled, h⟩ := compileStateExpr_eq_ok h
      refine keeps.fold (compileState_eq_ok h).2
        (keeps.state test (compileExpr operand (fun name found => ?_) compiled))
      exact fields name (Expr.nodes_subset_state found)
  | .among negated operand first others =>
      -- The values of the list are constants, and only their payloads are kept.
      obtain ⟨left, _, _, _, compiled, -, -, -, -, h⟩ := compileAmongExpr_eq_ok h
      refine keeps.compileAmong h (compileExpr operand (fun name found => ?_) compiled)
      exact fields name (Expr.nodes_subset_among found)
  | .between negated operand lower upper =>
      obtain ⟨left, lowerNode, low, upperNode, high, compiled, ranged, compiledLower, someLower,
        alignedLower, compiledUpper, someUpper, alignedUpper, folded⟩ := compileBetweenExpr_eq_ok h
      have single : left.kind ≠ .collection := by rcases ranged with kind | kind <;> simp [kind]
      refine keeps.fold folded (keeps.between negated
        (compileExpr operand (fun name found => ?_) compiled)
        (keeps.align alignedLower (compileExpr lower (fun name found => ?_) compiledLower))
        (keeps.align alignedUpper (compileExpr upper (fun name found => ?_) compiledUpper))
        ⟨align_kind someLower alignedLower, align_kind someUpper alignedUpper⟩ single)
      · exact fields name (Expr.nodes_subset_between found)
      · exact fields name (Expr.nodes_subset_lower found)
      · exact fields name (Expr.nodes_subset_upper found)
  | .incomplete op left => exact absurd h compileIncomplete_ne_ok
  | .unknown name => exact absurd h compileUnknown_ne_ok

end Node.Invariant

end RecordFilter
