import RecordFilter.Predicate.Basic
import RecordFilter.Proofs.ConstantFolding
import RecordFilter.Proofs.KeptConstants
import RecordFilter.Proofs.PayloadSymmetry

/-!
# Comparisons turned around

The operands of a comparison can change places if its operator is replaced by its mirror image.  The
compiler brings a constant to the kind of the other operand, wherever the constant stands, and two
operands that are no constants have to be of one kind.  The left operand is evaluated first, and
the right one only if the left one is not Null, so that the two comparisons may differ in their
faults, but not in their answers.
-/

namespace RecordFilter

/-! ## Terms -/

section

variable {read : String → Payload → Except Fault Payload} {record : Payload} {l r : Term}

theorem eval_compare_eq_ok {c : Comparison} {v : Payload}
    (h : (Term.compare c l r).eval read record = .ok v) :
    ∃ p, l.eval read record = .ok p ∧
      ∀ q, r.eval read record = .ok q → (c.testNonNull p q).map .bool = .ok v := by
  rw [Term.eval] at h
  obtain ⟨p, evaluated, h⟩ := bind_eq_ok.mp h
  refine ⟨p, evaluated, fun q evaluated' => ?_⟩
  split_ifs at h with null
  · rw [Comparison.testNonNull, null, Bool.true_or, if_pos rfl]
    exact h
  · rw [evaluated', ok_bind] at h
    exact h

theorem eval_mirror {c : Comparison} {v w : Payload}
    (h : (Term.compare c l r).eval read record = .ok v)
    (h' : (Term.compare c.mirror r l).eval read record = .ok w) : v = w := by
  obtain ⟨p, evaluated, answer⟩ := eval_compare_eq_ok h
  obtain ⟨q, evaluated', answer'⟩ := eval_compare_eq_ok h'
  exact ((c.testNonNull_mirror p q).map fun a b same => congrArg Payload.bool same).related_of_ok
    (answer q evaluated') (answer' p evaluated)

end

/-! ## Operands -/

structure TurnedAround (pair pair' : Node × Node) : Prop where
  swapped : pair' = pair.swap
  kinds : pair.1.kind = pair.2.kind
  opened : pair.1.isConstant = false ∨ pair.2.isConstant = false

theorem TurnedAround.symm {pair pair' : Node × Node} (h : TurnedAround pair pair') :
    TurnedAround pair' pair := by
  obtain ⟨rfl, kinds, opened⟩ := h
  exact ⟨rfl, kinds.symm, opened.symm⟩

section

variable {left right : Node} {e f : Expr}

theorem alignBoth_constant (operator operator' : String) (opened : left.isConstant = false)
    (constant : right.isConstant = true) (some : right.isNullConstant = false) :
    Alike TurnedAround (alignBoth operator left right e f)
      (alignBoth operator' right left f e) := by
  simp only [alignBoth, opened, constant, Bool.true_or, if_true, Bool.not_true, Bool.or_self,
    Bool.false_eq_true, if_false]
  refine (align_renamed operator operator' left right f).bind fun aligned _ given same => ?_
  subst same
  exact .ok ⟨rfl, (align_kind some given).symm, .inl opened⟩

theorem alignBoth_open (operator operator' : String) (opened : left.isConstant = false)
    (opened' : right.isConstant = false) :
    Alike TurnedAround (alignBoth operator left right e f)
      (alignBoth operator' right left f e) := by
  simp only [alignBoth, opened, opened', Bool.not_false, Bool.or_true, if_true]
  by_cases same : left.kind = right.kind
  · simp only [align, same, beq_self_eq_true, if_true]
    exact .ok ⟨rfl, same, .inl opened⟩
  · refine .of_ne_ok (fun pair h => ?_) fun pair h => ?_
    · obtain ⟨aligned, given, -⟩ := bind_eq_ok.mp h
      exact same (align_open opened' given).symm
    · obtain ⟨aligned, given, -⟩ := bind_eq_ok.mp h
      exact same (align_open opened given)

/-- The operands of a comparison are aligned in the same way in either order. -/
theorem alignBoth_turnedAround (operator operator' : String)
    (opened : left.isConstant = false ∨ right.isConstant = false)
    (someLeft : left.isNullConstant = false) (someRight : right.isNullConstant = false) :
    Alike TurnedAround (alignBoth operator left right e f)
      (alignBoth operator' right left f e) := by
  cases leftConstant : left.isConstant with
  | true =>
      have rightOpen : right.isConstant = false := opened.resolve_left (by simp [leftConstant])
      exact (alignBoth_constant operator' operator rightOpen leftConstant someLeft).symm.mono
        fun _ _ turned => turned.symm
  | false =>
      cases rightConstant : right.isConstant with
      | true => exact alignBoth_constant operator operator' leftConstant rightConstant someRight
      | false => exact alignBoth_open operator operator' leftConstant rightConstant

end

/-! ## Comparisons -/

def Term.Mirrored (t u : Term) : Prop :=
  ∃ (c : Comparison) (l r : Term), t = .compare c l r ∧ u = .compare c.mirror r l

def Node.Mirrored (m n : Node) : Prop :=
  ∃ t u : Term, t.Mirrored u ∧ m = booleanNode t ∧ n = booleanNode u

theorem compileComparison_mirror (c : Comparison) {left right : Node} (e f : Expr)
    (opened : left.isConstant = false ∨ right.isConstant = false) :
    Alike Node.Mirrored (compileComparison c left right e f)
      (compileComparison c.mirror right left f e) := by
  unfold compileComparison
  rw [Bool.or_comm right.isNullConstant]
  split_ifs with null
  · exact .error _ _
  simp only [Bool.or_eq_true, not_or, Bool.not_eq_true] at null
  refine (alignBoth_turnedAround c.symbol c.mirror.symbol opened null.1 null.2).bind ?_
  rintro ⟨l, r⟩ _ - ⟨rfl, (kinds : l.kind = r.kind), opened⟩
  have operands : [l, r].all Node.isConstant = false := by
    rcases opened with h | h <;> simp [h]
  have operands' : [r, l].all Node.isConstant = false := by
    rcases opened with h | h <;> simp [h]
  simp only [Prod.swap_prod_mk, kinds, c.isEquality_mirror]
  split_ifs
  · exact .error _ _
  · exact .error _ _
  · exact .error _ _
  · rw [fold_of_open operands, fold_of_open operands']
    exact .ok ⟨_, _, ⟨c, _, _, rfl, rfl⟩, rfl, rfl⟩

theorem compileFilter_mirror (r : Resolver) (c : Comparison) {a b : Expr}
    (opened : a.isClosed = false ∨ b.isClosed = false) :
    Alike Term.Mirrored (compileFilter r (.binary (.compare c) a b))
      (compileFilter r (.binary (.compare c.mirror) b a)) := by
  have nodes : Alike Node.Mirrored (compileExpr r (.binary (.compare c) a b))
      (compileExpr r (.binary (.compare c.mirror) b a)) := by
    rw [compileExpr, compileExpr]
    refine .bind_swap fun left right compiled compiled' => ?_
    refine compileComparison_mirror c a b ?_
    rwa [((compileExpr_partsFold compiled).folds compiled).constant,
      ((compileExpr_partsFold compiled').folds compiled').constant]
  refine nodes.bind fun m n _ mirrored => ?_
  obtain ⟨t, u, mirrored, rfl, rfl⟩ := mirrored
  exact .ok mirrored

/-- A comparison of two expressions, of which at least one has a field in it, is accepted exactly if
its mirror image is.  On a record for which both have an answer it is the same. -/
theorem compileTo_mirror (r : Resolver) (c : Comparison) {a b : Expr}
    (opened : a.isClosed = false ∨ b.isClosed = false) (text text' : Option String) :
    ((∃ p, compileTo r text (.binary (.compare c) a b) = .ok p) ↔
      ∃ q, compileTo r text' (.binary (.compare c.mirror) b a) = .ok q) ∧
    ∀ p q, compileTo r text (.binary (.compare c) a b) = .ok p →
      compileTo r text' (.binary (.compare c.mirror) b a) = .ok q →
      ∀ record v w, p.accepts record = .ok v → q.accepts record = .ok w → v = w := by
  have alike : Alike (fun p q => ∀ record v w, p.accepts record = .ok v →
      q.accepts record = .ok w → v = w)
      (compileTo r text (.binary (.compare c) a b))
      (compileTo r text' (.binary (.compare c.mirror) b a)) := by
    refine (compileFilter_mirror r c opened).map fun t u mirrored record v w accepts accepts' => ?_
    obtain ⟨c, left, right, rfl, rfl⟩ := mirrored
    obtain ⟨x, evaluated, rfl⟩ := map_eq_ok.mp accepts
    obtain ⟨y, evaluated', rfl⟩ := map_eq_ok.mp accepts'
    rw [eval_mirror evaluated evaluated']
  exact ⟨alike.ok_iff, fun p q compiled compiled' => alike.related_of_ok compiled compiled'⟩

def totalField : Expr := .field "Total"

def quotedFive : Expr := .const ⟨.text, .text "5"⟩

def belowFivePredicate : Predicate where
  term := .compare .less (.field "Total") (.constant ⟨.number, .decimal (.ofInt 5)⟩)
  source := .binary (.compare .less) totalField quotedFive
  expression := none
  resolver := totalSchema.resolver .byName

theorem compileTo_mirror_five :
    (totalField.isClosed = false ∨ quotedFive.isClosed = false) ∧
    compileTo (totalSchema.resolver .byName) none
      (.binary (.compare .less) totalField quotedFive) = .ok belowFivePredicate ∧
    belowFivePredicate.accepts (.record [("Total", .int 3)]) = .ok true ∧
    ∃ q, compileTo (totalSchema.resolver .byName) none
        (.binary (.compare .greater) quotedFive totalField) = .ok q ∧
      ∀ w, q.accepts (.record [("Total", .int 3)]) = .ok w → true = w := by
  have opened : totalField.isClosed = false ∨ quotedFive.isClosed = false := .inl rfl
  have compiled : compileTo (totalSchema.resolver .byName) none
      (.binary (.compare .less) totalField quotedFive) = .ok belowFivePredicate := rfl
  have holds : belowFivePredicate.accepts (.record [("Total", .int 3)]) = .ok true := rfl
  obtain ⟨accepted, answers⟩ :=
    compileTo_mirror (totalSchema.resolver .byName) .less opened none none
  obtain ⟨q, turned⟩ := accepted.mp ⟨_, compiled⟩
  exact ⟨opened, compiled, holds, q, turned, fun w => answers _ q compiled turned _ true w holds⟩

end RecordFilter
