import RecordFilter.Proofs.Definedness

/-!
# Folding constants goes unnoticed

A part of an expression is compiled to a constant exactly if there is no field in it.  That constant
can be written in its place: only messages name the parts they are about, so the same filters are
accepted and the predicates give the same answers.
-/

namespace RecordFilter

/-! ## Which nodes are constants -/

section

variable {r : Resolver}

structure FoldsLike (e : Expr) (n : Node) : Prop where
  constant : n.isConstant = e.isClosed
  whole : n.isConstant = true → ∃ v, n = .ofValue v

theorem foldsLike_ofValue {e : Expr} (closed : e.isClosed = true) (v : Value) :
    FoldsLike e (.ofValue v) :=
  ⟨closed.symm, fun _ => ⟨v, rfl⟩⟩

theorem foldsLike_open {e : Expr} {n : Node} (opened : e.isClosed = false)
    (operator : n.isConstant = false) : FoldsLike e n :=
  ⟨operator.trans opened.symm, fun constant => absurd (operator.symm.trans constant) nofun⟩

theorem fold_foldsLike {e : Expr} {n m : Node} {operands : List Node}
    (h : fold n operands = .ok m) (operator : n.isConstant = false)
    (constants : operands.all Node.isConstant = e.isClosed) : FoldsLike e m := by
  rcases fold_eq_ok h with ⟨some, rfl⟩ | ⟨all, raw, -, rfl⟩
  · exact foldsLike_open (constants.symm.trans some) operator
  · exact foldsLike_ofValue (constants.symm.trans all) _

theorem align_isConstant {operator : String} {target other aligned : Node} {otherExpr : Expr}
    (h : align operator target other otherExpr = .ok aligned) :
    aligned.isConstant = other.isConstant := by
  rcases align_eq_ok h with ⟨-, rfl⟩ | ⟨-, v, converted, constant, -, rfl⟩
  · rfl
  · rw [Node.isConstant_iff.mpr ⟨v, constant⟩]
    rfl

/-! ### Operators -/

theorem compileUnary_foldsLike {op : UnaryOp} {operand : Expr} {inner n : Node}
    (folds : FoldsLike operand inner) (h : compileUnary op operand inner = .ok n) :
    FoldsLike (.unary op operand) n := by
  cases op with
  | not =>
      exact fold_foldsLike (compileNot_eq_ok h).2 rfl (by simp [folds.constant])
  | negate => exact fold_foldsLike (compileNegate_eq_ok h).2 rfl (by simp [folds.constant])
  | plus =>
      obtain ⟨-, rfl⟩ := compilePlus_eq_ok h
      exact ⟨by rw [folds.constant, Expr.isClosed_unary], folds.whole⟩

theorem compileState_foldsLike {test : StateTest} {operand : Expr} {inner n : Node}
    (folds : FoldsLike operand inner) (h : compileState test operand inner = .ok n) :
    FoldsLike (.state test operand) n :=
  fold_foldsLike (compileState_eq_ok h).2 rfl (by simp [folds.constant])

theorem compileBinary_foldsLike {op : BinaryOp} {leftExpr rightExpr : Expr} {left right n : Node}
    (leftFolds : FoldsLike leftExpr left) (rightFolds : FoldsLike rightExpr right)
    (h : compileBinary op left right leftExpr rightExpr = .ok n) :
    FoldsLike (.binary op leftExpr rightExpr) n := by
  have both {l r : Node} (sameLeft : l.isConstant = left.isConstant)
      (sameRight : r.isConstant = right.isConstant) :
      [l, r].all Node.isConstant = (Expr.binary op leftExpr rightExpr).isClosed := by
    simp [sameLeft, sameRight, leftFolds.constant, rightFolds.constant]
  cases op with
  | and | or => exact fold_foldsLike (compileConnective_eq_ok h).2.2 rfl (both rfl rfl)
  | like =>
      obtain ⟨raw, pattern, constant, -, folded⟩ := compileLike_eq_ok h
      have closed : rightExpr.isClosed = true := by
        rw [← rightFolds.constant, Node.isConstant_iff]
        exact ⟨_, constant⟩
      exact fold_foldsLike folded rfl (by simp [leftFolds.constant, closed])
  | compare c =>
      obtain ⟨-, -, l, r, aligned, -, -, folded⟩ := compileComparison_eq_ok h
      rcases alignBoth_eq_ok aligned with ⟨-, rfl, same⟩ | ⟨-, rfl, same⟩
      · exact fold_foldsLike folded rfl (both rfl (align_isConstant same))
      · exact fold_foldsLike folded rfl (both (align_isConstant same) rfl)
  | arithmetic op =>
      obtain ⟨-, -, l, r, aligned, folded⟩ := compileArithmetic_eq_ok h
      rcases aligned with ⟨-, rfl, same⟩ | ⟨-, -, rfl, same⟩
      · exact fold_foldsLike folded rfl (both rfl (align_isConstant same))
      · exact fold_foldsLike folded rfl (both (align_isConstant same) rfl)

theorem compileAmong_foldsLike {negated : Bool} {operand first : Expr} {others : List Expr}
    {left n : Node} {members : List Payload} (folds : FoldsLike operand left)
    (values : (first :: others).all Expr.isClosed = true)
    (h : compileAmong negated left members = .ok n) :
    FoldsLike (.among negated operand first others) n := by
  have constants : [left].all Node.isConstant =
      (Expr.among negated operand first others).isClosed := by
    rw [List.all_cons] at values
    simp [folds.constant, values]
  unfold compileAmong at h
  split_ifs at h
  · exact fold_foldsLike h rfl constants
  · exact fold_foldsLike h rfl constants

/-! ### Expressions -/

variable (r) in
def PartsFold (parts : List Expr) : Prop :=
  ∀ s ∈ parts, ∃ n, compileExpr r s = .ok n ∧ FoldsLike s n

theorem PartsFold.folds {e : Expr} {n : Node} (parts : PartsFold r e.nodes)
    (h : compileExpr r e = .ok n) : FoldsLike e n := by
  obtain ⟨m, compiled, folds⟩ := parts e e.mem_nodes_self
  rw [h] at compiled
  cases compiled
  exact folds

theorem PartsFold.cons {e : Expr} {n : Node} {parts : List Expr} (h : compileExpr r e = .ok n)
    (folds : FoldsLike e n) (below : PartsFold r parts) : PartsFold r (e :: parts) :=
  List.forall_mem_cons.mpr ⟨⟨n, h, folds⟩, below⟩

theorem PartsFold.append {parts others : List Expr} (h : PartsFold r parts)
    (h' : PartsFold r others) : PartsFold r (parts ++ others) :=
  List.forall_mem_append.mpr ⟨h, h'⟩

theorem compileMember_isClosed {negated : Bool} {left node : Node} {value : Expr}
    {payloads : List Payload} (folds : FoldsLike value node)
    (h : compileMember negated left node value = .ok payloads) : value.isClosed = true := by
  obtain ⟨v, constant, -⟩ := compileMember_eq_ok h
  rw [← folds.constant, Node.isConstant_iff]
  exact ⟨v, constant⟩

mutual

theorem compileExpr_partsFold {e : Expr} {n : Node} (h : compileExpr r e = .ok n) :
    PartsFold r e.nodes := by
  have whole := h
  cases e with
  | const v =>
      obtain rfl := compileConst_eq_ok h
      exact .cons whole (foldsLike_ofValue rfl v) nofun
  | field name =>
      rw [compileExpr_field] at h
      obtain ⟨declared, kind, -, -, -, rfl⟩ := compileField_eq_ok h
      exact .cons whole (foldsLike_open rfl rfl) nofun
  | unary op operand =>
      obtain ⟨inner, compiled, h⟩ := compileUnaryExpr_eq_ok h
      have parts := compileExpr_partsFold compiled
      exact .cons whole (compileUnary_foldsLike (parts.folds compiled) h) parts
  | binary op left right =>
      obtain ⟨leftNode, rightNode, compiledLeft, compiledRight, h⟩ := compileBinaryExpr_eq_ok h
      have leftParts := compileExpr_partsFold compiledLeft
      have rightParts := compileExpr_partsFold compiledRight
      have folds := compileBinary_foldsLike (leftParts.folds compiledLeft)
        (rightParts.folds compiledRight) h
      exact .cons whole folds (leftParts.append rightParts)
  | state test operand =>
      obtain ⟨inner, compiled, h⟩ := compileStateExpr_eq_ok h
      have parts := compileExpr_partsFold compiled
      exact .cons whole (compileState_foldsLike (parts.folds compiled) h) parts
  | among negated operand first others =>
      obtain ⟨left, firstNode, payloads, rest, compiled, -, compiledFirst, member, members, h⟩ :=
        compileAmongExpr_eq_ok h
      have parts := compileExpr_partsFold compiled
      have firstParts := compileExpr_partsFold compiledFirst
      obtain ⟨otherParts, otherValues⟩ := compileMembers_partsFold members
      have values : (first :: others).all Expr.isClosed = true := by
        rw [List.all_cons, otherValues,
          compileMember_isClosed (firstParts.folds compiledFirst) member]
        rfl
      exact .cons whole (compileAmong_foldsLike (parts.folds compiled) values h)
        (parts.append (firstParts.append otherParts))
  | between negated operand lower upper =>
      obtain ⟨left, lowerNode, low, upperNode, high, compiled, -, compiledLower, -, alignedLower,
        compiledUpper, -, alignedUpper, h⟩ := compileBetweenExpr_eq_ok h
      have parts := compileExpr_partsFold compiled
      have lowerParts := compileExpr_partsFold compiledLower
      have upperParts := compileExpr_partsFold compiledUpper
      have constants : [left, low, high].all Node.isConstant =
          (Expr.between negated operand lower upper).isClosed := by
        simp [align_isConstant alignedLower, align_isConstant alignedUpper,
          (parts.folds compiled).constant, (lowerParts.folds compiledLower).constant,
          (upperParts.folds compiledUpper).constant]
      exact .cons whole (fold_foldsLike h rfl constants)
        (parts.append (lowerParts.append upperParts))
  | incomplete op left => exact absurd h compileIncomplete_ne_ok
  | unknown name => exact absurd h compileUnknown_ne_ok

theorem compileMembers_partsFold {negated : Bool} {left : Node} {values : List Expr}
    {members : List Payload} (h : compileMembers r negated left values = .ok members) :
    PartsFold r (Expr.nodesOf values) ∧ values.all Expr.isClosed = true := by
  cases values with
  | nil => exact ⟨nofun, rfl⟩
  | cons value values =>
      obtain ⟨node, payloads, rest, compiled, member, others, -⟩ := compileMembers_cons_eq_ok h
      have parts := compileExpr_partsFold compiled
      obtain ⟨otherParts, otherValues⟩ := compileMembers_partsFold others
      refine ⟨parts.append otherParts, ?_⟩
      rw [List.all_cons, otherValues, compileMember_isClosed (parts.folds compiled) member]
      rfl

end

end

/-! ## Compilations that decide alike -/

def CompileFailure.SameSort : CompileFailure → CompileFailure → Prop
  | .rejected _, .rejected _ => True
  | .fault f, .fault g => f = g
  | _, _ => False

theorem CompileFailure.sameSort_refl (failure : CompileFailure) : failure.SameSort failure := by
  cases failure with
  | rejected e => trivial
  | fault f => rfl

section

variable {α β γ δ : Type} {shown : Prop} {related : α → β → Prop} {related' : γ → δ → Prop}

/-- Two compilations both succeed, with related results, or both fail, and for the same sort of
reason as long as messages can be written. -/
inductive Decides (shown : Prop) {α β : Type} (related : α → β → Prop) :
    Compiling α → Compiling β → Prop
  | accept {a : α} {b : β} (h : related a b) : Decides shown related (.ok a) (.ok b)
  | refuse {e f : CompileFailure} (h : shown → e.SameSort f) :
      Decides shown related (.error e) (.error f)

namespace Decides

theorem refl (x : Compiling α) : Decides shown Eq x x := by
  cases x with
  | ok a => exact .accept rfl
  | error e => exact .refuse fun _ => e.sameSort_refl

theorem map {x : Compiling α} {y : Compiling β} {f : α → γ} {g : β → δ}
    (h : Decides shown related x y) (step : ∀ a b, related a b → related' (f a) (g b)) :
    Decides shown related' (x.map f) (y.map g) := by
  cases h with
  | accept h => exact .accept (step _ _ h)
  | refuse h => exact .refuse h

theorem bind_same {x y : Compiling α} {next next' : α → Compiling γ} (h : Decides shown Eq x y)
    (step : ∀ a, Decides shown Eq (next a) (next' a)) :
    Decides shown Eq (x >>= next) (y >>= next') := by
  cases h with
  | accept same =>
      subst same
      exact step _
  | refuse h => exact .refuse h

end Decides

/-- As long as messages can be written, both expressions have a name in them or neither has. -/
def LabelsAlike (shown : Prop) (e f : Expr) : Prop :=
  shown → Decides True (fun _ _ => True) (label e) (label f)

theorem labelsAlike_of_eq {e f : Expr} (same : label e = label f) : LabelsAlike shown e f := by
  intro _
  rw [same]
  cases label f with
  | ok text => exact .accept trivial
  | error failure => exact .refuse fun _ => failure.sameSort_refl

theorem LabelsAlike.decides {e f : Expr} (h : LabelsAlike shown e f)
    (error : String → CompileError) :
    Decides shown related (do reject (error (← label e))) (do reject (error (← label f))) := by
  cases first : label e <;> cases second : label f <;> refine .refuse fun shown => ?_ <;>
    have named := h shown <;> rw [first, second] at named
  · cases named with
    | refuse same => exact same trivial
  · cases named
  · cases named
  · trivial

end

/-! ### Operators

Each function of the compiler gets the nodes of its operands, and the expressions only to name them
in messages. -/

section

variable {shown : Prop} {e e' f f' : Expr}

theorem align_decides (h : LabelsAlike shown e e') (operator : String) (target other : Node) :
    Decides shown Eq (align operator target other e) (align operator target other e') := by
  unfold align
  split_ifs
  · exact .refl _
  · split
    · split_ifs
      · exact .refl _
      · split
        · exact .refl _
        · exact h.decides _
        · exact .refl _
    · exact .refl _

theorem compileUnary_decides (h : LabelsAlike shown e e') (op : UnaryOp) (operand : Node) :
    Decides shown Eq (compileUnary op e operand) (compileUnary op e' operand) := by
  cases op <;> simp only [compileUnary] <;> split_ifs
  · exact .refl _
  · exact h.decides _
  · exact .refl _
  · exact h.decides _
  · exact .refl _
  · exact h.decides _

theorem compileState_decides (h : LabelsAlike shown e e') (test : StateTest) (operand : Node) :
    Decides shown Eq (compileState test e operand) (compileState test e' operand) := by
  simp only [compileState]
  split_ifs
  · exact h.decides _
  · exact .refl _

theorem compileLike_decides (h : LabelsAlike shown e e') (left right : Node) :
    Decides shown Eq (compileLike left right e) (compileLike left right e') := by
  unfold compileLike
  split
  · exact .refl _
  · exact h.decides _

theorem alignBoth_decides (h : LabelsAlike shown e e') (h' : LabelsAlike shown f f')
    (operator : String) (left right : Node) :
    Decides shown Eq (alignBoth operator left right e f) (alignBoth operator left right e' f') := by
  unfold alignBoth
  split_ifs
  · exact (align_decides h' operator left right).bind_same fun _ => .refl _
  · exact (align_decides h operator right left).bind_same fun _ => .refl _

theorem compileComparison_decides (h : LabelsAlike shown e e') (h' : LabelsAlike shown f f')
    (c : Comparison) (left right : Node) :
    Decides shown Eq (compileComparison c left right e f)
      (compileComparison c left right e' f') := by
  unfold compileComparison
  split_ifs
  · exact .refl _
  · exact (alignBoth_decides h h' c.symbol left right).bind_same fun _ => .refl _

theorem compileArithmetic_decides (h : LabelsAlike shown e e') (h' : LabelsAlike shown f f')
    (op : Arithmetic) (left right : Node) :
    Decides shown Eq (compileArithmetic op left right e f)
      (compileArithmetic op left right e' f') := by
  unfold compileArithmetic
  by_cases null : (left.isNullConstant || right.isNullConstant) = true
  · rw [if_pos null, if_pos null]
    exact .refl _
  rw [if_neg null, if_neg null]
  by_cases others : (left.kind != .number && right.kind != .number) = true
  · rw [if_pos others, if_pos others]
    exact .refl _
  rw [if_neg others, if_neg others]
  -- The operand that is not a number is aligned with the one that is.
  split_ifs
  · exact (align_decides h' op.symbol left right).bind_same fun _ => .refl _
  · exact (align_decides h op.symbol right left).bind_same fun _ => .refl _

theorem compileBinary_decides (h : LabelsAlike shown e e') (h' : LabelsAlike shown f f')
    (op : BinaryOp) (left right : Node) :
    Decides shown Eq (compileBinary op left right e f) (compileBinary op left right e' f') := by
  cases op with
  | and | or => exact .refl _
  | like => exact compileLike_decides h' left right
  | compare c => exact compileComparison_decides h h' c left right
  | arithmetic op => exact compileArithmetic_decides h h' op left right

theorem compileMember_decides (h : LabelsAlike shown e e') (negated : Bool) (left value : Node) :
    Decides shown Eq (compileMember negated left value e)
      (compileMember negated left value e') := by
  unfold compileMember
  split
  · exact h.decides _
  · split_ifs
    · exact .refl _
    · exact .refl _
    · exact (align_decides h (amongSymbol negated) left value).bind_same fun _ => .refl _

theorem requireRange_decides (h : LabelsAlike shown e e') (negated : Bool) (left : Node) :
    Decides shown Eq (requireRange negated left e) (requireRange negated left e') := by
  unfold requireRange
  split
  · exact .refl _
  · exact .refl _
  · exact h.decides _
  · exact .refl _

theorem compileBound_decides (h : LabelsAlike shown e e') (negated : Bool) (left bound : Node) :
    Decides shown Eq (compileBound negated left bound e) (compileBound negated left bound e') := by
  unfold compileBound
  split_ifs
  · exact .refl _
  · exact align_decides h (betweenSymbol negated) left bound

end

/-! ## Replacing a part of an expression -/

mutual

/-- An expression becomes another one by replacing the part `s` by `new` in some of its places. -/
inductive Replaces (s new : Expr) : Expr → Expr → Prop
  | here : Replaces s new s new
  | same (e : Expr) : Replaces s new e e
  | unary (op : UnaryOp) {operand operand' : Expr} (h : Replaces s new operand operand') :
      Replaces s new (.unary op operand) (.unary op operand')
  | binary (op : BinaryOp) {left left' right right' : Expr} (h : Replaces s new left left')
      (h' : Replaces s new right right') :
      Replaces s new (.binary op left right) (.binary op left' right')
  | state (test : StateTest) {operand operand' : Expr} (h : Replaces s new operand operand') :
      Replaces s new (.state test operand) (.state test operand')
  | among (negated : Bool) {operand operand' first first' : Expr} {others others' : List Expr}
      (h : Replaces s new operand operand') (h' : Replaces s new first first')
      (values : ReplacesAll s new others others') :
      Replaces s new (.among negated operand first others) (.among negated operand' first' others')
  | between (negated : Bool) {operand operand' lower lower' upper upper' : Expr}
      (h : Replaces s new operand operand') (low : Replaces s new lower lower')
      (high : Replaces s new upper upper') :
      Replaces s new (.between negated operand lower upper)
        (.between negated operand' lower' upper')
  | incomplete (op : BinaryOp) {left left' : Expr} (h : Replaces s new left left') :
      Replaces s new (.incomplete op left) (.incomplete op left')

inductive ReplacesAll (s new : Expr) : List Expr → List Expr → Prop
  | nil : ReplacesAll s new [] []
  | cons {e e' : Expr} {es es' : List Expr} (h : Replaces s new e e')
      (rest : ReplacesAll s new es es') : ReplacesAll s new (e :: es) (e' :: es')

end

section

variable {r : Resolver} {shown : Prop} {s new : Expr}

theorem Replaces.label {e e' : Expr} (labels : LabelsAlike shown s new)
    (h : Replaces s new e e') : LabelsAlike shown e e' := by
  cases h with
  | here => exact labels
  | _ => exact labelsAlike_of_eq rfl

mutual

theorem compileExpr_decides (base : Decides shown Eq (compileExpr r s) (compileExpr r new))
    (labels : LabelsAlike shown s new) {e e' : Expr} (h : Replaces s new e e') :
    Decides shown Eq (compileExpr r e) (compileExpr r e') := by
  cases h with
  | here => exact base
  | same => exact .refl _
  | unary op h =>
      rw [compileExpr, compileExpr]
      exact (compileExpr_decides base labels h).bind_same (compileUnary_decides (h.label labels) op)
  | binary op h h' =>
      rw [compileExpr, compileExpr]
      refine (compileExpr_decides base labels h).bind_same fun left => ?_
      refine (compileExpr_decides base labels h').bind_same fun right => ?_
      exact compileBinary_decides (h.label labels) (h'.label labels) op left right
  | state test h =>
      rw [compileExpr, compileExpr]
      exact (compileExpr_decides base labels h).bind_same
        (compileState_decides (h.label labels) test)
  | among negated h h' values =>
      rw [compileExpr, compileExpr]
      refine (compileExpr_decides base labels h).bind_same fun left => ?_
      split_ifs
      · exact .refl _
      refine (compileExpr_decides base labels h').bind_same fun first => ?_
      refine (compileMember_decides (h'.label labels) negated left first).bind_same fun _ => ?_
      exact (compileMembers_decides base labels negated left values).bind_same fun _ => .refl _
  | between negated h low high =>
      rw [compileExpr, compileExpr]
      refine (compileExpr_decides base labels h).bind_same fun left => ?_
      refine (requireRange_decides (h.label labels) negated left).bind_same fun _ => ?_
      refine (compileExpr_decides base labels low).bind_same fun lower => ?_
      refine (compileBound_decides (low.label labels) negated left lower).bind_same fun _ => ?_
      refine (compileExpr_decides base labels high).bind_same fun upper => ?_
      exact (compileBound_decides (high.label labels) negated left upper).bind_same fun _ => .refl _
  | incomplete op h =>
      rw [compileExpr, compileExpr]
      exact (compileExpr_decides base labels h).bind_same fun _ => .refl _

theorem compileMembers_decides (base : Decides shown Eq (compileExpr r s) (compileExpr r new))
    (labels : LabelsAlike shown s new) (negated : Bool) (left : Node) {es es' : List Expr}
    (h : ReplacesAll s new es es') :
    Decides shown Eq (compileMembers r negated left es) (compileMembers r negated left es') := by
  cases h with
  | nil => exact .refl _
  | cons h rest =>
      rw [compileMembers, compileMembers]
      refine (compileExpr_decides base labels h).bind_same fun node => ?_
      refine (compileMember_decides (h.label labels) negated left node).bind_same fun _ => ?_
      exact (compileMembers_decides base labels negated left rest).bind_same fun _ => .refl _

end

def AnswersAlike (p q : Predicate) : Prop := ∀ record, p.accepts record = q.accepts record

theorem compileTo_decides (expression : Option String) {e e' : Expr}
    (h : Decides shown Eq (compileExpr r e) (compileExpr r e')) :
    Decides shown AnswersAlike (compileTo r expression e) (compileTo r expression e') := by
  have terms : Decides shown Eq (compileFilter r e) (compileFilter r e') := by
    unfold compileFilter
    exact h.bind_same fun _ => .refl _
  refine terms.map fun a b same => ?_
  subst same
  exact fun record => rfl

/-! ## Folding -/

theorem foldsTo_of_isClosed {n : Node} (closed : s.isClosed = true)
    (compiled : compileExpr r s = .ok n) : ∃ v, n = .ofValue v := by
  have folds := (compileExpr_partsFold compiled).folds compiled
  exact folds.whole (folds.constant.trans closed)

/-- A folded part is called an expression in messages, and its value by its text. -/
theorem labelsAlike_folded {v : Value} (closed : s.isClosed = true)
    (folded : compileExpr r s = .ok (.ofValue v)) :
    LabelsAlike (∃ text, v.raw.displayed = .ok text) s (.const v) := by
  cases s with
  | const w =>
      have same := congrArg Node.constant? (compileConst_eq_ok folded)
      cases same
      exact labelsAlike_of_eq rfl
  | field name => cases closed
  | _ =>
      rintro ⟨text, displayed⟩
      rw [label, label, displayed]
      · split_ifs
        · exact .accept trivial
        · exact .accept trivial
      all_goals exact nofun

/-- Constants are folded where nobody sees it.  Of an accepted expression each part is compiled, to
a constant exactly if it has no field.  A part without fields that compiles can be replaced, in any
expression, by the constant it is folded to: either both expressions are accepted and their
predicates give the same answers, or neither is, for the same sort of reason if the constant can be
shown in messages.  An accepted filter without fields answers the same for all records. -/
theorem compileTo_folding (r : Resolver) (expression : Option String) :
    (∀ e p, compileTo r expression e = .ok p → ∀ s ∈ e.nodes,
      ∃ n, compileExpr r s = .ok n ∧ n.isConstant = s.isClosed) ∧
    (∀ s n, s.isClosed = true → compileExpr r s = .ok n → ∃ v, n.constant? = some v ∧
      ∀ e e', Replaces s (.const v) e e' → Decides (∃ text, v.raw.displayed = .ok text)
        AnswersAlike (compileTo r expression e) (compileTo r expression e')) ∧
    ∀ e p, e.isClosed = true → compileTo r expression e = .ok p →
      ∃ b, ∀ record, p.accepts record = .ok b := by
  refine ⟨fun e p accepted s part => ?_, fun s n closed folded => ?_, fun e p closed accepted => ?_⟩
  · obtain ⟨node, compiled, -, -⟩ := compileTo_eq_ok accepted
    obtain ⟨n, made, folds⟩ := compileExpr_partsFold compiled s part
    exact ⟨n, made, folds.constant⟩
  · obtain ⟨v, rfl⟩ := foldsTo_of_isClosed closed folded
    refine ⟨v, rfl, fun e e' replaced => compileTo_decides expression ?_⟩
    refine compileExpr_decides ?_ (labelsAlike_folded closed folded) replaced
    rw [folded, compileExpr_const]
    exact .refl _
  · obtain ⟨node, compiled, -, rfl⟩ := compileTo_eq_ok accepted
    obtain ⟨v, rfl⟩ := foldsTo_of_isClosed closed compiled
    exact ⟨v.raw.isTrue, fun record => rfl⟩

end

def totalSchema : Schema := ⟨[("Total", .number)]⟩

def twoAndThree : Expr :=
  .binary (.arithmetic .add) (.const ⟨.number, .int 2⟩) (.const ⟨.number, .int 3⟩)

def five : Value := ⟨.number, .int 5⟩

def totalIs (e : Expr) : Expr := .binary (.compare .equal) (.field "Total") e

def totalIsFivePredicate : Predicate where
  term := .compare .equal (.field "Total") (.constant five)
  source := totalIs twoAndThree
  expression := none
  resolver := totalSchema.resolver .byName

theorem compileTo_folding_twoAndThree :
    compileTo (totalSchema.resolver .byName) none (totalIs twoAndThree) =
      .ok totalIsFivePredicate ∧
    twoAndThree.isClosed = true ∧
    compileExpr (totalSchema.resolver .byName) twoAndThree = .ok (.ofValue five) ∧
    (∃ n, compileExpr (totalSchema.resolver .byName) twoAndThree = .ok n ∧ n.isConstant = true) ∧
    Decides (∃ text, five.raw.displayed = .ok text) AnswersAlike
      (compileTo (totalSchema.resolver .byName) none (totalIs twoAndThree))
      (compileTo (totalSchema.resolver .byName) none (totalIs (.const five))) := by
  have accepted : compileTo (totalSchema.resolver .byName) none (totalIs twoAndThree) =
      .ok totalIsFivePredicate := rfl
  have closed : twoAndThree.isClosed = true := by decide
  have folded : compileExpr (totalSchema.resolver .byName) twoAndThree = .ok (.ofValue five) := rfl
  obtain ⟨parts, replaced, -⟩ := compileTo_folding (totalSchema.resolver .byName) none
  have part : twoAndThree ∈ (totalIs twoAndThree).nodes :=
    Expr.nodes_subset_right twoAndThree.mem_nodes_self
  obtain ⟨n, made, constant⟩ := parts _ _ accepted twoAndThree part
  obtain ⟨v, same, alike⟩ := replaced twoAndThree _ closed folded
  cases same
  exact ⟨accepted, closed, folded, ⟨n, made, constant.trans closed⟩,
    alike _ _ (.binary _ (.same _) .here)⟩

end RecordFilter
