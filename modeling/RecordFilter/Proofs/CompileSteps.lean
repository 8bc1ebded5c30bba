import RecordFilter.Predicate.Compile
import RecordFilter.Proofs.TermKinds

/-!
# What compiling does, step by step

Every function of the compiler either reports an error or does one thing.  Here is, for each of
them, all that follows from its success.
-/

namespace RecordFilter

/-! ## Failures -/

theorem reject_ne_ok {α : Type} {e : CompileError} {a : α} : (reject e : Compiling α) ≠ .ok a :=
  nofun

theorem unless_rejected {α : Type} {c : Prop} [Decidable c] {e : CompileError}
    {next : PUnit → Compiling α} {a : α}
    (h : (if c then (do let r ← reject e; next r) else next ⟨⟩) = .ok a) :
    ¬ c ∧ next ⟨⟩ = .ok a := by
  split_ifs at h with refused
  · obtain ⟨_, rejected, -⟩ := bind_eq_ok.mp h
    exact absurd rejected reject_ne_ok
  · exact ⟨refused, h⟩

theorem orFault_eq_ok {α : Type} {x : Except Fault α} {a : α} : orFault x = .ok a ↔ x = .ok a := by
  cases x <;> simp [orFault]

theorem label_reject_ne_ok {α : Type} {e : Expr} {error : String → CompileError} {a : α} :
    (do reject (error (← label e)) : Compiling α) ≠ .ok a := by
  intro h
  obtain ⟨_, -, rejected⟩ := bind_eq_ok.mp h
  exact reject_ne_ok rejected

/-! ## Constants -/

namespace Node

theorem constant?_eq_some {n : Node} {v : Value} : n.constant? = some v ↔ n.term = .constant v := by
  unfold constant? Term.constant?
  split
  · next same => simp [same]
  · next other => simpa using other v

theorem isNullConstant_eq {n : Node} {v : Value} (constant : n.term = .constant v) :
    n.isNullConstant = v.isNull := by
  rw [isNullConstant, constant?_eq_some.mpr constant]
  rfl

theorem isConstant_iff {n : Node} : n.isConstant = true ↔ ∃ v, n.term = .constant v := by
  rw [isConstant, Option.isSome_iff_exists]
  simp only [constant?_eq_some]

end Node

theorem isNullConstant_of_open {n : Node} (h : n.isConstant = false) :
    n.isNullConstant = false := by
  unfold Node.isConstant at h
  unfold Node.isNullConstant
  cases constant : n.constant? with
  | none => rfl
  | some v => simp [constant] at h

theorem fold_of_open {n : Node} {operands : List Node}
    (some : operands.all Node.isConstant = false) : fold n operands = .ok n := by
  rw [fold, some]
  rfl

theorem fold_eq_ok {n m : Node} {operands : List Node} (h : fold n operands = .ok m) :
    (operands.all Node.isConstant = false ∧ m = n) ∨
    (operands.all Node.isConstant = true ∧ ∃ raw, evalClosed n.term = .ok raw ∧
      m = .ofValue ⟨if raw.isNull && n.kind != .boolean then .null else n.kind, raw⟩) := by
  unfold fold at h
  split_ifs at h with all
  · obtain ⟨raw, evaluated, h⟩ := bind_eq_ok.mp h
    cases h
    exact .inr ⟨all, raw, orFault_eq_ok.mp evaluated, rfl⟩
  · cases h
    exact .inl ⟨by simpa using all, rfl⟩

theorem align_of_kinds {operator : String} {target other : Node} {otherExpr : Expr}
    (kinds : other.kind = target.kind) : align operator target other otherExpr = .ok other := by
  rw [align, kinds, beq_self_eq_true, if_pos rfl]

theorem align_eq_ok {operator : String} {target other aligned : Node} {otherExpr : Expr}
    (h : align operator target other otherExpr = .ok aligned) :
    (other.kind = target.kind ∧ aligned = other) ∨
    (other.kind ≠ target.kind ∧ ∃ v converted, other.term = .constant v ∧
      v.coerce target.kind = .ok converted ∧ aligned = .ofValue converted) := by
  unfold align at h
  split_ifs at h with same
  · cases h
    exact .inl ⟨beq_iff_eq.mp same, rfl⟩
  · refine .inr ⟨by simpa using same, ?_⟩
    split at h
    · next v constant =>
        split_ifs at h
        · exact absurd h reject_ne_ok
        · split at h
          · next converted defined =>
              cases h
              exact ⟨v, converted, Node.constant?_eq_some.mp constant, defined, rfl⟩
          · exact absurd h label_reject_ne_ok
          · cases h
    · exact absurd h reject_ne_ok

theorem align_constant {operator : String} {target other aligned : Node} {otherExpr : Expr}
    {v : Value} (constant : other.term = .constant v)
    (h : align operator target other otherExpr = .ok aligned) :
    ∃ w, aligned.term = .constant w := by
  rcases align_eq_ok h with ⟨-, rfl⟩ | ⟨-, -, converted, -, -, rfl⟩
  · exact ⟨v, constant⟩
  · exact ⟨converted, rfl⟩

theorem align_kind {operator : String} {target other aligned : Node} {e : Expr}
    (some : other.isNullConstant = false) (h : align operator target other e = .ok aligned) :
    aligned.kind = target.kind := by
  rcases align_eq_ok h with ⟨same, rfl⟩ | ⟨-, v, converted, constant, coerced, rfl⟩
  · exact same
  · rw [Node.isNullConstant_eq constant] at some
    exact Value.coerce_kind some coerced

theorem align_open {operator : String} {target other aligned : Node} {e : Expr}
    (opened : other.isConstant = false) (h : align operator target other e = .ok aligned) :
    other.kind = target.kind := by
  rcases align_eq_ok h with ⟨same, -⟩ | ⟨-, v, -, constant, -⟩
  · exact same
  · rw [Node.isConstant_iff.mpr ⟨v, constant⟩] at opened
    cases opened

theorem align_renamed (operator operator' : String) (target other : Node) (e : Expr) :
    Alike Eq (align operator target other e) (align operator' target other e) := by
  unfold align
  split_ifs
  · exact .ok rfl
  · split
    · split_ifs
      · exact .error _ _
      · split
        · exact .ok rfl
        · exact .of_ne_ok (fun _ => label_reject_ne_ok) fun _ => label_reject_ne_ok
        · exact .error _ _
    · exact .error _ _

/-! ## Operators -/

theorem compileField_eq_ok {r : Resolver} {name : String} {node : Node}
    (h : compileField r name = .ok node) :
    ∃ declared kind, r.canonical? name = some declared ∧ r.kind? declared = some kind ∧
      kind ≠ .null ∧ node = ⟨kind, .field declared⟩ := by
  unfold compileField at h
  split at h
  · exact absurd h reject_ne_ok
  · next declared known =>
      split at h
      · exact absurd h reject_ne_ok
      · exact absurd h reject_ne_ok
      · next kind other found =>
          cases h
          exact ⟨declared, kind, known, found, fun null => other (by rw [null]), rfl⟩

theorem compileNot_eq_ok {operandExpr : Expr} {operand node : Node}
    (h : compileUnary .not operandExpr operand = .ok node) :
    operand.kind = .boolean ∧ fold (booleanNode (.not operand.term)) [operand] = .ok node := by
  unfold compileUnary at h
  simp only at h
  split_ifs at h with kind
  · exact ⟨beq_iff_eq.mp kind, h⟩
  · exact absurd h label_reject_ne_ok

theorem compilePlus_eq_ok {operandExpr : Expr} {operand node : Node}
    (h : compileUnary .plus operandExpr operand = .ok node) :
    operand.kind = .number ∧ node = operand := by
  unfold compileUnary at h
  simp only at h
  split_ifs at h with kind
  · cases h
    exact ⟨beq_iff_eq.mp kind, rfl⟩
  · exact absurd h label_reject_ne_ok

theorem compileNegate_eq_ok {operandExpr : Expr} {operand node : Node}
    (h : compileUnary .negate operandExpr operand = .ok node) :
    operand.kind = .number ∧ fold ⟨.number, .negate operand.term⟩ [operand] = .ok node := by
  unfold compileUnary at h
  simp only at h
  split_ifs at h with kind
  · exact ⟨beq_iff_eq.mp kind, h⟩
  · exact absurd h label_reject_ne_ok

theorem compileConnective_eq_ok {op : BinaryOp} {term : Term} {left right node : Node}
    (h : compileConnective op term left right = .ok node) :
    left.kind = .boolean ∧ right.kind = .boolean ∧
      fold (booleanNode term) [left, right] = .ok node := by
  unfold compileConnective at h
  split_ifs at h with kinds
  · simp only [Bool.and_eq_true, beq_iff_eq] at kinds
    exact ⟨kinds.1, kinds.2, h⟩
  · exact absurd h reject_ne_ok

theorem measured_of_not_refused {test : StateTest} {n : Node}
    (allowed : ¬ ((test == .isEmpty || test == .isNotEmpty) &&
      !(n.kind == .text || n.kind == .collection || n.isNullConstant)) = true)
    (needed : test.needsLength = true) :
    n.kind = .text ∨ n.kind = .collection ∨ n.isNullConstant = true := by
  cases test with
  | isNull | isNotNull => cases needed
  | isEmpty | isNotEmpty =>
      simp only [beq_self_eq_true, Bool.true_or, Bool.or_true, Bool.true_and, Bool.not_eq_true',
        Bool.not_eq_false, Bool.or_eq_true, beq_iff_eq] at allowed
      rwa [or_assoc] at allowed

theorem compileState_eq_ok {test : StateTest} {operandExpr : Expr} {operand node : Node}
    (h : compileState test operandExpr operand = .ok node) :
    (test.needsLength = true → operand.kind = .text ∨ operand.kind = .collection ∨
      operand.isNullConstant = true) ∧
    fold (booleanNode (.state test operand.term)) [operand] = .ok node := by
  unfold compileState at h
  dsimp only at h
  split_ifs at h with refused
  · exact absurd h label_reject_ne_ok
  · exact ⟨measured_of_not_refused refused, h⟩

theorem compileLike_eq_ok {left right node : Node} {rightExpr : Expr}
    (h : compileLike left right rightExpr = .ok node) :
    ∃ raw pattern, right.term = .constant ⟨.text, raw⟩ ∧ raw.displayed = .ok pattern ∧
      fold (booleanNode (.like pattern.toList (left.kind == .text) left.term)) [left] =
        .ok node := by
  unfold compileLike at h
  split at h
  · next raw constant =>
      obtain ⟨pattern, displayed, folded⟩ := bind_eq_ok.mp h
      exact ⟨raw, pattern, Node.constant?_eq_some.mp constant, orFault_eq_ok.mp displayed, folded⟩
  · exact absurd h label_reject_ne_ok

theorem alignBoth_eq_ok {operator : String} {left right l r : Node} {leftExpr rightExpr : Expr}
    (h : alignBoth operator left right leftExpr rightExpr = .ok (l, r)) :
    ((right.isConstant || !left.isConstant) = true ∧ l = left ∧
      align operator left right rightExpr = .ok r) ∨
    ((right.isConstant || !left.isConstant) = false ∧ r = right ∧
      align operator right left leftExpr = .ok l) := by
  unfold alignBoth at h
  split_ifs at h with byRight
  · obtain ⟨aligned, same, h⟩ := bind_eq_ok.mp h
    cases h
    exact .inl ⟨byRight, rfl, same⟩
  · obtain ⟨aligned, same, h⟩ := bind_eq_ok.mp h
    cases h
    exact .inr ⟨by simpa using byRight, rfl, same⟩

theorem alignBoth_renamed (operator operator' : String) (left right : Node) (e f : Expr) :
    Alike Eq (alignBoth operator left right e f) (alignBoth operator' left right e f) := by
  unfold alignBoth
  split_ifs
  · refine (align_renamed operator operator' left right f).bind fun a b _ same => ?_
    exact .ok (by rw [same])
  · refine (align_renamed operator operator' right left e).bind fun a b _ same => ?_
    exact .ok (by rw [same])

theorem compileComparison_eq_ok {c : Comparison} {left right node : Node}
    {leftExpr rightExpr : Expr} (h : compileComparison c left right leftExpr rightExpr = .ok node) :
    left.isNullConstant = false ∧ right.isNullConstant = false ∧
    ∃ l r, alignBoth c.symbol left right leftExpr rightExpr = .ok (l, r) ∧ l.kind ≠ .collection ∧
      (c.isEquality = true ∨ l.kind.isOrdered = true) ∧
      fold (booleanNode (.compare c l.term r.term)) [l, r] = .ok node := by
  unfold compileComparison at h
  obtain ⟨null, h⟩ := unless_rejected h
  obtain ⟨⟨l, r⟩, aligned, h⟩ := bind_eq_ok.mp h
  obtain ⟨collection, h⟩ := unless_rejected h
  obtain ⟨unordered, h⟩ := unless_rejected h
  simp only [Bool.or_eq_true, not_or, Bool.not_eq_true] at null
  refine ⟨null.1, null.2, l, r, aligned, by simpa using collection, ?_, h⟩
  cases equality : c.isEquality with
  | true => exact .inl rfl
  | false => exact .inr (by simpa [equality] using unordered)

theorem compileComparison_of_aligned {c : Comparison} {left right l r : Node}
    {leftExpr rightExpr : Expr} (someLeft : left.isNullConstant = false)
    (someRight : right.isNullConstant = false)
    (aligned : alignBoth c.symbol left right leftExpr rightExpr = .ok (l, r))
    (single : l.kind ≠ .collection) (applies : c.isEquality = true ∨ l.kind.isOrdered = true) :
    compileComparison c left right leftExpr rightExpr =
      fold (booleanNode (.compare c l.term r.term)) [l, r] := by
  have allowed : ¬ (l.kind.isOrdered = false ∧ c.isEquality = false) := by
    rcases applies with equality | ordered
    · simp [equality]
    · simp [ordered]
  simp [compileComparison, someLeft, someRight, aligned, single, allowed]

theorem compileArithmetic_eq_ok {op : Arithmetic} {left right node : Node}
    {leftExpr rightExpr : Expr}
    (h : compileArithmetic op left right leftExpr rightExpr = .ok node) :
    left.isNullConstant = false ∧ right.isNullConstant = false ∧ ∃ l r,
      ((left.kind = .number ∧ l = left ∧ align op.symbol left right rightExpr = .ok r) ∨
        (left.kind ≠ .number ∧ right.kind = .number ∧ r = right ∧
          align op.symbol right left leftExpr = .ok l)) ∧
      fold ⟨.number, .arithmetic op l.term r.term⟩ [l, r] = .ok node := by
  unfold compileArithmetic at h
  obtain ⟨null, h⟩ := unless_rejected h
  obtain ⟨others, h⟩ := unless_rejected h
  simp only [Bool.or_eq_true, not_or, Bool.not_eq_true] at null
  refine ⟨null.1, null.2, ?_⟩
  by_cases number : left.kind = .number
  · rw [if_pos (beq_iff_eq.mpr number)] at h
    obtain ⟨r, aligned, h⟩ := bind_eq_ok.mp h
    obtain ⟨pair, paired, h⟩ := bind_eq_ok.mp h
    obtain rfl := pure_eq_ok.mp paired
    obtain ⟨_, -, h⟩ := bind_eq_ok.mp h
    exact ⟨left, r, .inl ⟨number, rfl, aligned⟩, h⟩
  · rw [if_neg (by simpa using number)] at h
    obtain ⟨l, aligned, h⟩ := bind_eq_ok.mp h
    obtain ⟨pair, paired, h⟩ := bind_eq_ok.mp h
    obtain rfl := pure_eq_ok.mp paired
    obtain ⟨_, -, h⟩ := bind_eq_ok.mp h
    exact ⟨l, right, .inr ⟨number, by simpa [number] using others, rfl, aligned⟩, h⟩

/-! ## Membership and ranges -/

theorem requireHashable_eq_ok {p q : Payload} (h : requireHashable p = .ok q) :
    p.unhashable? = none ∧ p = q := by
  unfold requireHashable at h
  split at h
  · cases h
  · next hashable =>
      cases h
      exact ⟨hashable, rfl⟩

theorem mapM_requireHashable {ps qs : List Payload} (h : ps.mapM requireHashable = .ok qs) :
    qs = ps ∧ ∀ p ∈ ps, p.unhashable? = none := by
  have each := (mapM_eq_ok.mp h).imp fun _ _ required => requireHashable_eq_ok required
  rw [List.forall₂_and_left, List.forall₂_eq_eq_eq] at each
  exact ⟨each.2.symm, each.1⟩

theorem compileMember_eq_ok {negated : Bool} {left value : Node} {valueExpr : Expr}
    {payloads : List Payload} (h : compileMember negated left value valueExpr = .ok payloads) :
    ∃ v, value.term = .constant v ∧ v.isNull = false ∧
      ((left.kind = .collection ∧ elementPayloads v = .ok payloads) ∨
        (left.kind ≠ .collection ∧ ∃ aligned p,
          align (amongSymbol negated) left value valueExpr = .ok aligned ∧
          evalClosed aligned.term = .ok p ∧ payloads = [p])) ∧
      ∀ p ∈ payloads, p.unhashable? = none := by
  unfold compileMember at h
  split at h
  · exact absurd h label_reject_ne_ok
  · next v constant =>
      split_ifs at h with null collection
      · exact absurd h reject_ne_ok
      · obtain ⟨listed, defined, h⟩ := bind_eq_ok.mp h
        obtain ⟨rfl, hashable⟩ := mapM_requireHashable h
        exact ⟨v, Node.constant?_eq_some.mp constant, by simpa using null,
          .inl ⟨beq_iff_eq.mp collection, orFault_eq_ok.mp defined⟩, hashable⟩
      · obtain ⟨aligned, same, h⟩ := bind_eq_ok.mp h
        obtain ⟨p, evaluated, h⟩ := bind_eq_ok.mp h
        obtain ⟨q, required, h⟩ := bind_eq_ok.mp h
        obtain ⟨hashable, rfl⟩ := requireHashable_eq_ok required
        cases h
        exact ⟨v, Node.constant?_eq_some.mp constant, by simpa using null,
          .inr ⟨by simpa using collection, aligned, _, same, orFault_eq_ok.mp evaluated, rfl⟩,
          by simpa using hashable⟩

theorem requireRange_eq_ok {negated : Bool} {left : Node} {leftExpr : Expr}
    (h : requireRange negated left leftExpr = .ok ()) :
    left.kind = .number ∨ left.kind = .timestamp := by
  unfold requireRange at h
  split at h
  · exact .inl ‹_›
  · exact .inr ‹_›
  · exact absurd h label_reject_ne_ok
  · exact absurd h reject_ne_ok

theorem compileBound_eq_ok {negated : Bool} {left bound node : Node} {boundExpr : Expr}
    (h : compileBound negated left bound boundExpr = .ok node) :
    bound.isNullConstant = false ∧
      align (betweenSymbol negated) left bound boundExpr = .ok node := by
  unfold compileBound at h
  split_ifs at h with null
  · exact absurd h reject_ne_ok
  · exact ⟨by simpa using null, h⟩

/-! ## Expressions -/

section

variable {r : Resolver} {negated : Bool}

theorem compileConst_eq_ok {v : Value} {node : Node} (h : compileExpr r (.const v) = .ok node) :
    node = .ofValue v := by
  rw [compileExpr_const] at h
  cases h
  rfl

theorem compileUnaryExpr_eq_ok {op : UnaryOp} {operand : Expr} {node : Node}
    (h : compileExpr r (.unary op operand) = .ok node) :
    ∃ inner, compileExpr r operand = .ok inner ∧ compileUnary op operand inner = .ok node := by
  rw [compileExpr] at h
  exact bind_eq_ok.mp h

theorem compileBinaryExpr_eq_ok {op : BinaryOp} {leftExpr rightExpr : Expr} {node : Node}
    (h : compileExpr r (.binary op leftExpr rightExpr) = .ok node) :
    ∃ left right, compileExpr r leftExpr = .ok left ∧ compileExpr r rightExpr = .ok right ∧
      compileBinary op left right leftExpr rightExpr = .ok node := by
  rw [compileExpr] at h
  obtain ⟨left, compiledLeft, h⟩ := bind_eq_ok.mp h
  obtain ⟨right, compiledRight, h⟩ := bind_eq_ok.mp h
  exact ⟨left, right, compiledLeft, compiledRight, h⟩

theorem compileStateExpr_eq_ok {test : StateTest} {operand : Expr} {node : Node}
    (h : compileExpr r (.state test operand) = .ok node) :
    ∃ inner, compileExpr r operand = .ok inner ∧ compileState test operand inner = .ok node := by
  rw [compileExpr] at h
  exact bind_eq_ok.mp h

theorem compileIncomplete_ne_ok {op : BinaryOp} {left : Expr} {node : Node} :
    compileExpr r (.incomplete op left) ≠ .ok node := by
  intro h
  rw [compileExpr] at h
  obtain ⟨_, -, rejected⟩ := bind_eq_ok.mp h
  exact reject_ne_ok rejected

theorem compileUnknown_ne_ok {name : String} {node : Node} :
    compileExpr r (.unknown name) ≠ .ok node := by
  intro h
  rw [compileExpr] at h
  exact reject_ne_ok h

theorem compileAmongExpr_eq_ok {operand first : Expr} {others : List Expr} {node : Node}
    (h : compileExpr r (.among negated operand first others) = .ok node) :
    ∃ left firstNode payloads rest, compileExpr r operand = .ok left ∧
      left.isNullConstant = false ∧ compileExpr r first = .ok firstNode ∧
      compileMember negated left firstNode first = .ok payloads ∧
      compileMembers r negated left others = .ok rest ∧
      compileAmong negated left (payloads ++ rest) = .ok node := by
  unfold compileExpr at h
  obtain ⟨left, compiled, h⟩ := bind_eq_ok.mp h
  obtain ⟨some, h⟩ := unless_rejected h
  obtain ⟨firstNode, compiledFirst, h⟩ := bind_eq_ok.mp h
  obtain ⟨payloads, member, h⟩ := bind_eq_ok.mp h
  obtain ⟨rest, members, h⟩ := bind_eq_ok.mp h
  exact ⟨left, firstNode, payloads, rest, compiled, by simpa using some, compiledFirst, member,
    members, h⟩

theorem compileMembers_cons_eq_ok {left : Node} {value : Expr} {values : List Expr}
    {members : List Payload} (h : compileMembers r negated left (value :: values) = .ok members) :
    ∃ node payloads rest, compileExpr r value = .ok node ∧
      compileMember negated left node value = .ok payloads ∧
      compileMembers r negated left values = .ok rest ∧ members = payloads ++ rest := by
  unfold compileMembers at h
  obtain ⟨node, compiled, h⟩ := bind_eq_ok.mp h
  obtain ⟨payloads, member, h⟩ := bind_eq_ok.mp h
  obtain ⟨rest, others, h⟩ := bind_eq_ok.mp h
  obtain rfl := pure_eq_ok.mp h
  exact ⟨node, payloads, rest, compiled, member, others, rfl⟩

theorem compileBetweenExpr_eq_ok {operand lower upper : Expr} {node : Node}
    (h : compileExpr r (.between negated operand lower upper) = .ok node) :
    ∃ left lowerNode low upperNode high, compileExpr r operand = .ok left ∧
      (left.kind = .number ∨ left.kind = .timestamp) ∧
      compileExpr r lower = .ok lowerNode ∧ lowerNode.isNullConstant = false ∧
      align (betweenSymbol negated) left lowerNode lower = .ok low ∧
      compileExpr r upper = .ok upperNode ∧ upperNode.isNullConstant = false ∧
      align (betweenSymbol negated) left upperNode upper = .ok high ∧
      fold (booleanNode (.between negated left.term low.term high.term)) [left, low, high] =
        .ok node := by
  unfold compileExpr at h
  obtain ⟨left, compiled, h⟩ := bind_eq_ok.mp h
  obtain ⟨⟨⟩, ranged, h⟩ := bind_eq_ok.mp h
  obtain ⟨lowerNode, compiledLower, h⟩ := bind_eq_ok.mp h
  obtain ⟨low, lowBound, h⟩ := bind_eq_ok.mp h
  obtain ⟨upperNode, compiledUpper, h⟩ := bind_eq_ok.mp h
  obtain ⟨high, highBound, h⟩ := bind_eq_ok.mp h
  obtain ⟨someLower, alignedLower⟩ := compileBound_eq_ok lowBound
  obtain ⟨someUpper, alignedUpper⟩ := compileBound_eq_ok highBound
  exact ⟨left, lowerNode, low, upperNode, high, compiled, requireRange_eq_ok ranged, compiledLower,
    someLower, alignedLower, compiledUpper, someUpper, alignedUpper, h⟩

end

end RecordFilter
