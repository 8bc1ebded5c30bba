import RecordFilter.Proofs.Definedness

/-!
# Accepted tests and what they are compiled to

A comparison is accepted if its operands can be brought to one kind that it applies to.  This does
not depend on the operator, and so other operators that bring their operands to one kind are
accepted where a comparison is.  An accepted test may be folded, but on every record it gives what
its term gives.
-/

namespace RecordFilter

/-! ## Nodes and terms -/

structure Node.Means (n : Node) (t : Term) : Prop where
  kind : n.kind = .boolean
  eval : ∀ read record, n.term.eval read record = t.eval read record

theorem Node.Means.congr {n : Node} {t u : Term} (h : n.Means t)
    (same : ∀ read record, t.eval read record = u.eval read record) : n.Means u :=
  ⟨h.kind, fun read record => (h.eval read record).trans (same read record)⟩

theorem fold_means {t : Term} {operands : List Node} {n : Node}
    (h : fold (booleanNode t) operands = .ok n)
    (closed : t.isClosed = operands.all fun operand => operand.term.isClosed) : n.Means t := by
  refine ⟨?_, fold_eval h closed⟩
  rcases fold_eq_ok h with ⟨-, rfl⟩ | ⟨-, raw, -, rfl⟩
  · rfl
  · simp [Node.ofValue, booleanNode]

theorem fold_accepted {t : Term} {operands : List Node}
    (defined : operands.all Node.isConstant = true → ∃ raw, evalClosed t = .ok raw) :
    ∃ n, fold (booleanNode t) operands = .ok n := by
  unfold fold
  split_ifs with constants
  · obtain ⟨raw, evaluated⟩ := defined constants
    simp only [booleanNode, evaluated, orFault, ok_bind]
    exact ⟨_, rfl⟩
  · exact ⟨_, rfl⟩

theorem fold_pair_means {t : Term} {x y : Node}
    (closed : t.isClosed = (x.term.isClosed && y.term.isClosed))
    (defined : ∀ v w, x.term = .constant v → y.term = .constant w →
      ∃ raw, evalClosed t = .ok raw) :
    ∃ n, fold (booleanNode t) [x, y] = .ok n ∧ n.Means t := by
  obtain ⟨n, folded⟩ : ∃ n, fold (booleanNode t) [x, y] = .ok n := by
    refine fold_accepted fun constants => ?_
    simp only [List.all_cons, List.all_nil, Bool.and_true, Bool.and_eq_true,
      Node.isConstant_iff] at constants
    obtain ⟨⟨v, sameV⟩, w, sameW⟩ := constants
    exact defined v w sameV sameW
  exact ⟨n, folded, fold_means folded (by simp [closed])⟩

theorem compileConnective_means (op : BinaryOp) {t : Term} {x y : Node}
    (truthLeft : x.kind = .boolean) (truthRight : y.kind = .boolean)
    (closed : t.isClosed = (x.term.isClosed && y.term.isClosed))
    (defined : ∀ v w, x.term = .constant v → y.term = .constant w →
      ∃ raw, evalClosed t = .ok raw) :
    ∃ n, compileConnective op t x y = .ok n ∧ n.Means t := by
  rw [compileConnective, truthLeft, truthRight]
  exact fold_pair_means closed defined

/-! ## Expressions -/

def CompilesAs (r : Resolver) (e : Expr) (t : Term) : Prop :=
  ∃ n, compileExpr r e = .ok n ∧ n.Means t

theorem compileBinaryExpr_of_nodes {r : Resolver} {op : BinaryOp} {left right : Expr}
    {leftNode rightNode : Node} (compiledLeft : compileExpr r left = .ok leftNode)
    (compiledRight : compileExpr r right = .ok rightNode) :
    compileExpr r (.binary op left right) = compileBinary op leftNode rightNode left right := by
  rw [compileExpr, compiledLeft, ok_bind, compiledRight, ok_bind]

namespace CompilesAs

variable {r : Resolver} {e f : Expr} {t u : Term}

theorem congr (h : CompilesAs r e t)
    (same : ∀ read record, t.eval read record = u.eval read record) : CompilesAs r e u := by
  obtain ⟨n, compiled, means⟩ := h
  exact ⟨n, compiled, means.congr same⟩

theorem accepted (h : CompilesAs r e t) (text : Option String) :
    ∃ p, compileTo r text e = .ok p ∧
      ∀ record, p.accepts record = (t.eval r.read record).map Payload.isTrue := by
  obtain ⟨n, compiled, means⟩ := h
  refine ⟨⟨n.term, e, text, r⟩, ?_, fun record => ?_⟩
  · rw [compileTo, compileFilter, compiled, ok_bind, means.kind]
    rfl
  · rw [Predicate.accepts, means.eval]

theorem accepts_eq (h : CompilesAs r e t) {text : Option String} {p : Predicate}
    (compiled : compileTo r text e = .ok p) (record : Payload) :
    p.accepts record = (t.eval r.read record).map Payload.isTrue := by
  obtain ⟨q, compiled', accepts⟩ := h.accepted text
  cases compiled.symm.trans compiled'
  exact accepts record

theorem both (he : CompilesAs r e t) (hf : CompilesAs r f u) :
    CompilesAs r (.binary .and e f) (.both t u) := by
  obtain ⟨m, compiled, means⟩ := he
  obtain ⟨n, compiled', means'⟩ := hf
  obtain ⟨node, connected, joined⟩ := compileConnective_means .and
    (t := .both m.term n.term) means.kind means'.kind rfl fun v w sameV sameW => by
      cases given : v.raw.isTrue <;> simp [evalClosed, Term.eval, sameV, sameW, given]
  refine ⟨node, (compileBinaryExpr_of_nodes compiled compiled').trans connected,
    joined.congr fun read record => ?_⟩
  simp only [Term.eval, means.eval, means'.eval]

theorem either (he : CompilesAs r e t) (hf : CompilesAs r f u) :
    CompilesAs r (.binary .or e f) (.either t u) := by
  obtain ⟨m, compiled, means⟩ := he
  obtain ⟨n, compiled', means'⟩ := hf
  obtain ⟨node, connected, joined⟩ := compileConnective_means .or
    (t := .either m.term n.term) means.kind means'.kind rfl fun v w sameV sameW => by
      cases given : v.raw.isTrue <;> simp [evalClosed, Term.eval, sameV, sameW, given]
  refine ⟨node, (compileBinaryExpr_of_nodes compiled compiled').trans connected,
    joined.congr fun read record => ?_⟩
  simp only [Term.eval, means.eval, means'.eval]

end CompilesAs

/-! ## Comparisons -/

theorem alignBoth_of_align {operator operator' : String} {left right aligned : Node}
    {leftExpr rightExpr : Expr} (h : align operator left right rightExpr = .ok aligned) :
    alignBoth operator' left right leftExpr rightExpr = .ok (left, aligned) := by
  have renamed : align operator' left right rightExpr = .ok aligned :=
    (align_renamed operator operator' left right rightExpr).eq_ok h
  unfold alignBoth
  split_ifs with byLeft
  · rw [renamed]
    rfl
  · -- The left operand is the constant, but the right one was not converted either.
    simp only [Bool.or_eq_true, not_or, Bool.not_eq_true] at byLeft
    obtain ⟨opened, -⟩ := byLeft
    have kinds := align_open opened h
    rw [align_of_kinds kinds] at h
    rw [align_of_kinds kinds.symm, Except.ok.inj h]
    rfl

structure Operands (r : Resolver) (a b : Expr) (left right : Node) : Prop where
  soundLeft : left.Sound r.kind?
  soundRight : right.Sound r.kind?
  kinds : right.kind = left.kind
  single : left.kind ≠ .null ∧ left.kind ≠ .collection
  compares : ∀ c : Comparison, c.AppliesTo left.kind →
    CompilesAs r (.binary (.compare c) a b) (.compare c left.term right.term)

section

variable {r : Resolver} {a b : Expr} (constantsLeft : a.ConstantsFit)
  (constantsRight : b.ConstantsFit)

include constantsLeft constantsRight

theorem operands_of_alignBoth {operator : String} {left right x y : Node}
    (compiledLeft : compileExpr r a = .ok left) (compiledRight : compileExpr r b = .ok right)
    (someLeft : left.isNullConstant = false) (someRight : right.isNullConstant = false)
    (aligned : alignBoth operator left right a b = .ok (x, y)) (single : x.kind ≠ .collection) :
    Operands r a b x y := by
  obtain ⟨soundLeft, soundRight, kinds, some⟩ :=
    comparisonOperands_sound (compileExpr_sound constantsLeft compiledLeft)
      (compileExpr_sound constantsRight compiledRight) someLeft someRight aligned
  refine ⟨soundLeft, soundRight, kinds, ⟨some, single⟩, fun c applies => ?_⟩
  have sound : (Term.compare c x.term y.term).HasKind r.kind? .boolean :=
    .compare soundLeft (soundRight.hasKind kinds) applies
  obtain ⟨node, folded, means⟩ := fold_pair_means (t := .compare c x.term y.term) rfl
    fun v w sameV sameW => by
      cases evaluated : evalClosed (.compare c x.term y.term) with
      | ok raw => exact ⟨raw, rfl⟩
      | error f =>
          have fails := sound.eval_error keepsKinds_null evaluated
          rw [sameV, sameW] at fails
          exact absurd fails (by simp [Term.FailsWith])
  have renamed := (alignBoth_renamed operator c.symbol left right a b).eq_ok aligned
  refine ⟨node, ?_, means⟩
  rw [compileBinaryExpr_of_nodes compiledLeft compiledRight, ← folded]
  exact compileComparison_of_aligned someLeft someRight renamed single applies.2.2

theorem operands_of_align {operator : String} {left right aligned : Node}
    (compiledLeft : compileExpr r a = .ok left) (compiledRight : compileExpr r b = .ok right)
    (someLeft : left.isNullConstant = false) (someRight : right.isNullConstant = false)
    (h : align operator left right b = .ok aligned) (single : left.kind ≠ .collection) :
    Operands r a b left aligned := by
  have both : alignBoth operator left right a b = .ok (left, aligned) := alignBoth_of_align h
  exact operands_of_alignBoth constantsLeft constantsRight compiledLeft compiledRight someLeft
    someRight both single

theorem operands_of_compileExpr {c : Comparison} {node : Node}
    (h : compileExpr r (.binary (.compare c) a b) = .ok node) :
    ∃ left right x y, compileExpr r a = .ok left ∧ compileExpr r b = .ok right ∧
      left.isNullConstant = false ∧ right.isNullConstant = false ∧
      alignBoth c.symbol left right a b = .ok (x, y) ∧ Operands r a b x y ∧
      c.AppliesTo x.kind := by
  obtain ⟨left, right, compiledLeft, compiledRight, h⟩ := compileBinaryExpr_eq_ok h
  obtain ⟨someLeft, someRight, x, y, aligned, single, applies, -⟩ := compileComparison_eq_ok h
  have operands := operands_of_alignBoth constantsLeft constantsRight compiledLeft compiledRight
    someLeft someRight aligned single
  exact ⟨left, right, x, y, compiledLeft, compiledRight, someLeft, someRight, aligned, operands,
    operands.single.1, operands.single.2, applies⟩

end

end RecordFilter
