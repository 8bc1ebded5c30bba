import RecordFilter.Predicate.Basic
import RecordFilter.Proofs.CompileSteps

/-!
# Negated forms

Six operators have a negated form of their own, and every truth value can be negated.  An operator
and its negated form go together: the compiler accepts both or neither, and on every record exactly
one of them holds, also where an operand is Null.  So the records that a filter keeps and those that
its negated form keeps are a partition.
-/

namespace RecordFilter

inductive Expr.Opposite : Expr → Expr → Prop
  | equal (left right : Expr) :
      Opposite (.binary (.compare .equal) left right) (.binary (.compare .notEqual) left right)
  | among (operand first : Expr) (others : List Expr) :
      Opposite (.among false operand first others) (.among true operand first others)
  | between (operand lower upper : Expr) :
      Opposite (.between false operand lower upper) (.between true operand lower upper)
  | like (left right : Expr) :
      Opposite (.binary .like left right) (.unary .not (.binary .like left right))
  | isNull (operand : Expr) : Opposite (.state .isNull operand) (.state .isNotNull operand)
  | isEmpty (operand : Expr) : Opposite (.state .isEmpty operand) (.state .isNotEmpty operand)
  | negation (e : Expr) : Opposite e (.unary .not e)

/-! ## Terms -/

namespace Payload

def opposite (p : Payload) : Payload := .bool (!p.isTrue)

theorem bind_opposite {α : Type} {x : Except Fault α} {next next' : α → Except Fault Payload}
    (step : ∀ a, next' a = (next a).map opposite) : (x >>= next') = (x >>= next).map opposite := by
  cases x with
  | ok a => exact step a
  | error f => rfl

end Payload

open Payload

def Term.Opposed (t u : Term) : Prop :=
  ∀ read record, u.eval read record = (t.eval read record).map opposite

namespace Term

theorem opposed_not (t : Term) : t.Opposed (.not t) := by
  intro read record
  rw [eval]
  cases t.eval read record <;> rfl

theorem opposed_compare (l r : Term) : (compare .equal l r).Opposed (.compare .notEqual l r) := by
  intro read record
  rw [eval, eval]
  refine bind_opposite fun p => ?_
  split_ifs
  · rfl
  · refine bind_opposite fun q => ?_
    simp only [Comparison.testNonNull]
    split_ifs
    · rfl
    · simp only [Comparison.test]
      split_ifs <;> rfl

theorem opposed_isNull (t : Term) : (state .isNull t).Opposed (.state .isNotNull t) := by
  intro read record
  rw [eval, eval]
  exact bind_opposite fun p => rfl

theorem opposed_isEmpty (t : Term) : (state .isEmpty t).Opposed (.state .isNotEmpty t) := by
  intro read record
  rw [eval, eval]
  refine bind_opposite fun p => ?_
  simp only [testState]
  split_ifs
  · rfl
  · cases p.length <;> rfl

theorem opposed_member (members : List Payload) (t : Term) :
    (member false members t).Opposed (.member true members t) := by
  intro read record
  rw [eval, eval]
  refine bind_opposite fun p => ?_
  generalize (!p.isNull && p.isMember members) = found
  cases found <;> rfl

theorem opposed_anyMember (members : List Payload) (t : Term) :
    (anyMember false members t).Opposed (.anyMember true members t) := by
  intro read record
  rw [eval, eval]
  refine bind_opposite fun p => ?_
  split_ifs
  · rfl
  · refine bind_opposite fun items => bind_opposite fun found => ?_
    cases found <;> rfl

theorem opposed_between (t lower upper : Term) :
    (between false t lower upper).Opposed (.between true t lower upper) := by
  intro read record
  rw [eval, eval]
  refine bind_opposite fun p => ?_
  split_ifs
  · rfl
  · refine bind_opposite fun low => bind_opposite fun high => bind_opposite fun found => ?_
    cases found <;> rfl

end Term

structure Node.Opposed (m n : Node) : Prop where
  kind : m.kind = .boolean
  kind' : n.kind = .boolean
  term : m.term.Opposed n.term

theorem fold_opposed {t u : Term} (h : t.Opposed u) (operands : List Node) :
    Alike Node.Opposed (fold (booleanNode t) operands) (fold (booleanNode u) operands) := by
  unfold fold
  split_ifs
  · have evaluated : evalClosed u = (evalClosed t).map opposite := h _ _
    simp only [booleanNode, evaluated]
    cases evalClosed t with
    | error f => exact .error _ _
    | ok raw => exact .ok ⟨by simp [Node.ofValue], rfl, fun read record => rfl⟩
  · exact .ok ⟨rfl, rfl, h⟩

/-! ## Operators in messages

What an operator is called matters for messages only.  Errors apart, the compiler does the same for
an operator and its negated form. -/

theorem compileMember_renamed (left value : Node) (e : Expr) :
    Alike Eq (compileMember false left value e) (compileMember true left value e) := by
  unfold compileMember
  split
  · exact .of_ne_ok (fun _ => label_reject_ne_ok) fun _ => label_reject_ne_ok
  · split_ifs
    · exact .error _ _
    · exact .refl (fun _ => rfl) _
    · refine (align_renamed _ _ left value e).bind fun a b _ same => ?_
      rw [same]
      exact .refl (fun _ => rfl) _

theorem compileMembers_renamed (r : Resolver) (left : Node) (values : List Expr) :
    Alike Eq (compileMembers r false left values) (compileMembers r true left values) := by
  induction values with
  | nil =>
      rw [compileMembers, compileMembers]
      exact .ok rfl
  | cons value values ih =>
      rw [compileMembers, compileMembers]
      refine .bind_self fun node _ => ?_
      refine (compileMember_renamed left node value).bind fun payloads _ _ same => ?_
      refine ih.bind fun rest _ _ same' => ?_
      exact .ok (by rw [same, same'])

theorem requireRange_renamed (left : Node) (e : Expr) :
    Alike Eq (requireRange false left e) (requireRange true left e) := by
  unfold requireRange
  split
  · exact .ok rfl
  · exact .ok rfl
  · exact .of_ne_ok (fun _ => label_reject_ne_ok) fun _ => label_reject_ne_ok
  · exact .error _ _

theorem compileBound_renamed (left bound : Node) (e : Expr) :
    Alike Eq (compileBound false left bound e) (compileBound true left bound e) := by
  unfold compileBound
  split_ifs
  · exact .error _ _
  · exact align_renamed _ _ left bound e

/-! ## Compiling an operator and its negated form -/

theorem compileState_opposed {test test' : StateTest} (opposed : ∀ t : Term,
      (Term.state test t).Opposed (.state test' t)) (same : test.needsLength = test'.needsLength)
    (e : Expr) (operand : Node) :
    Alike Node.Opposed (compileState test e operand) (compileState test' e operand) := by
  have needs (test : StateTest) :
      (test == .isEmpty || test == .isNotEmpty) = test.needsLength := by cases test <;> rfl
  unfold compileState
  simp only [needs, same]
  split_ifs
  · exact .of_ne_ok (fun _ => label_reject_ne_ok) fun _ => label_reject_ne_ok
  · exact fold_opposed (opposed operand.term) _

theorem compileEquality_opposed (left right : Node) (e f : Expr) :
    Alike Node.Opposed (compileComparison .equal left right e f)
      (compileComparison .notEqual left right e f) := by
  unfold compileComparison
  split_ifs
  · exact .error _ _
  · refine (alignBoth_renamed _ _ left right e f).bind fun operands _ _ same => ?_
    subst same
    -- Truth values have no order, but both are equalities.
    simp only [Comparison.isEquality, Bool.not_true, Bool.and_false, Bool.false_eq_true, if_false]
    split_ifs
    · exact .error _ _
    · exact fold_opposed (Term.opposed_compare _ _) _

theorem compileAmong_opposed (left : Node) (members : List Payload) :
    Alike Node.Opposed (compileAmong false left members) (compileAmong true left members) := by
  unfold compileAmong
  split_ifs
  · exact fold_opposed (Term.opposed_anyMember members _) _
  · exact fold_opposed (Term.opposed_member members _) _

theorem compileAmongExpr_opposed (r : Resolver) (operand first : Expr) (others : List Expr) :
    Alike Node.Opposed (compileExpr r (.among false operand first others))
      (compileExpr r (.among true operand first others)) := by
  rw [compileExpr, compileExpr]
  refine .bind_self fun left _ => ?_
  split_ifs
  · exact .error _ _
  refine .bind_self fun node _ => ?_
  refine (compileMember_renamed left node first).bind fun payloads _ _ same => ?_
  refine (compileMembers_renamed r left others).bind fun rest _ _ same' => ?_
  rw [same, same']
  exact compileAmong_opposed left _

theorem compileBetweenExpr_opposed (r : Resolver) (operand lower upper : Expr) :
    Alike Node.Opposed (compileExpr r (.between false operand lower upper))
      (compileExpr r (.between true operand lower upper)) := by
  rw [compileExpr, compileExpr]
  refine .bind_self fun left _ => ?_
  refine (requireRange_renamed left operand).bind fun _ _ _ _ => ?_
  refine .bind_self fun lowerNode _ => ?_
  refine (compileBound_renamed left lowerNode lower).bind fun low _ _ same => ?_
  refine .bind_self fun upperNode _ => ?_
  refine (compileBound_renamed left upperNode upper).bind fun high _ _ same' => ?_
  rw [same, same']
  exact fold_opposed (Term.opposed_between _ _ _) _

/-! ## Filters -/

theorem compileFilter_opposed_of_nodes {r : Resolver} {e f : Expr}
    (h : Alike Node.Opposed (compileExpr r e) (compileExpr r f)) :
    Alike Term.Opposed (compileFilter r e) (compileFilter r f) := by
  refine h.bind fun m n _ opposed => ?_
  rw [opposed.kind, opposed.kind']
  exact .ok opposed.term

theorem compileNot_opposed {e : Expr} {node : Node} (boolean : node.kind = .boolean) :
    ∃ negated, compileUnary .not e node = .ok negated ∧ Node.Opposed node negated := by
  have folded : compileUnary .not e node = fold (booleanNode (.not node.term)) [node] :=
    if_pos (beq_iff_eq.mpr boolean)
  rw [folded]
  unfold fold
  split_ifs with constant
  · obtain ⟨v, same⟩ := Node.isConstant_iff.mp (by simpa using constant)
    refine ⟨.ofValue ⟨.boolean, v.raw.opposite⟩, ?_, boolean, rfl, fun read record => ?_⟩
    · rw [booleanNode, same]
      rfl
    · rw [same]
      rfl
  · exact ⟨_, rfl, boolean, rfl, Term.opposed_not node.term⟩

theorem compileFilter_negation (r : Resolver) (e : Expr) :
    Alike Term.Opposed (compileFilter r e) (compileFilter r (.unary .not e)) := by
  unfold compileFilter
  rw [compileExpr]
  cases compileExpr r e with
  | error failure => exact .error _ _
  | ok node =>
      simp only [ok_bind]
      by_cases boolean : node.kind = .boolean
      · obtain ⟨negated, compiled, opposed⟩ := compileNot_opposed (e := e) boolean
        rw [compiled, ok_bind, boolean, opposed.kind']
        exact .ok opposed.term
      · refine .of_ne_ok (fun t h => ?_) fun t h => ?_
        · rw [if_neg (by simpa using boolean)] at h
          exact reject_ne_ok h
        · obtain ⟨negated, compiled, -⟩ := bind_eq_ok.mp h
          exact boolean (compileNot_eq_ok compiled).1

theorem compileFilter_opposed (r : Resolver) {e f : Expr} (h : e.Opposite f) :
    Alike Term.Opposed (compileFilter r e) (compileFilter r f) := by
  cases h with
  | equal left right =>
      refine compileFilter_opposed_of_nodes ?_
      rw [compileExpr, compileExpr]
      refine .bind_self fun l _ => .bind_self fun r _ => ?_
      exact compileEquality_opposed l r left right
  | among operand first others =>
      exact compileFilter_opposed_of_nodes (compileAmongExpr_opposed r operand first others)
  | between operand lower upper =>
      exact compileFilter_opposed_of_nodes (compileBetweenExpr_opposed r operand lower upper)
  | isNull operand =>
      refine compileFilter_opposed_of_nodes ?_
      rw [compileExpr, compileExpr]
      exact .bind_self fun node _ => compileState_opposed Term.opposed_isNull rfl operand node
  | isEmpty operand =>
      refine compileFilter_opposed_of_nodes ?_
      rw [compileExpr, compileExpr]
      exact .bind_self fun node _ => compileState_opposed Term.opposed_isEmpty rfl operand node
  | like | negation => exact compileFilter_negation r _

/-! ## Predicates -/

structure Predicate.Opposed (p q : Predicate) : Prop where
  accepts : ∀ record, q.accepts record = (p.accepts record).map not

theorem compileTo_alike_opposed (r : Resolver) {e f : Expr} (h : e.Opposite f)
    (text text' : Option String) :
    Alike Predicate.Opposed (compileTo r text e) (compileTo r text' f) := by
  refine (compileFilter_opposed r h).map fun t u opposed => ⟨fun record => ?_⟩
  rw [Predicate.accepts, Predicate.accepts, opposed r.read record]
  cases t.eval r.read record <;> rfl

namespace Predicate

variable {α : Type} {p q : Predicate} {record : α → Payload}

theorem filter_eq_ok_iff {items kept : List α} :
    p.filter record items = .ok kept ↔
      ∃ accepted : α → Bool, (∀ item ∈ items, p.accepts (record item) = .ok (accepted item)) ∧
        kept = items.filter accepted := by
  constructor
  · intro h
    refine ⟨fun item => (p.accepts (record item)).toOption.getD false, ?_⟩
    induction items generalizing kept with
    | nil =>
        cases h
        exact ⟨nofun, rfl⟩
    | cons item items ih =>
        obtain ⟨answer, answered, h⟩ := bind_eq_ok.mp h
        obtain ⟨rest, others, h⟩ := bind_eq_ok.mp h
        obtain ⟨all, rfl⟩ := ih others
        obtain rfl := pure_eq_ok.mp h
        refine ⟨List.forall_mem_cons.mpr ⟨?_, all⟩, ?_⟩
        · simp only [answered, toOption_ok, Option.getD_some]
        · simp only [List.filter_cons, answered, toOption_ok, Option.getD_some]
  · rintro ⟨accepted, all, rfl⟩
    induction items with
    | nil => rfl
    | cons item items ih =>
        obtain ⟨first, others⟩ := List.forall_mem_cons.mp all
        rw [filter, first, ok_bind, ih others, ok_bind, List.filter_cons]
        rfl

theorem Opposed.partition (h : p.Opposed q) {items kept : List α}
    (filtered : p.filter record items = .ok kept) :
    ∃ (accepted : α → Bool) (dropped : List α),
      (∀ item ∈ items, p.accepts (record item) = .ok (accepted item)) ∧
      q.filter record items = .ok dropped ∧ items.partition accepted = (kept, dropped) := by
  obtain ⟨accepted, all, rfl⟩ := filter_eq_ok_iff.mp filtered
  refine ⟨accepted, items.filter (not ∘ accepted), all, filter_eq_ok_iff.mpr ?_,
    List.partition_eq_filter_filter ..⟩
  refine ⟨not ∘ accepted, fun item member => ?_, rfl⟩
  rw [h.accepts, all item member]
  rfl

end Predicate

/-- The compiler accepts an expression exactly if it accepts its negated form.  On every record one
of them holds and the other does not, unless both have the same fault, and so the one keeps of a
list of records what the other drops. -/
theorem compileTo_opposite (r : Resolver) {e f : Expr} (h : e.Opposite f)
    (text text' : Option String) :
    ((∃ p, compileTo r text e = .ok p) ↔ ∃ q, compileTo r text' f = .ok q) ∧
    ∀ p q, compileTo r text e = .ok p → compileTo r text' f = .ok q →
      (∀ record, q.accepts record = (p.accepts record).map not) ∧
      ∀ {α : Type} (record : α → Payload) (items kept : List α),
        p.filter record items = .ok kept →
        ∃ (accepted : α → Bool) (dropped : List α),
          (∀ item ∈ items, p.accepts (record item) = .ok (accepted item)) ∧
          q.filter record items = .ok dropped ∧ items.partition accepted = (kept, dropped) := by
  have alike := compileTo_alike_opposed r h text text'
  refine ⟨alike.ok_iff, fun p q compiled compiled' => ?_⟩
  have opposed := alike.related_of_ok compiled compiled'
  exact ⟨opposed.accepts, fun record items kept => opposed.partition⟩

def scoreSchema : Schema := ⟨[("Score", .number)]⟩

def scoreAmong (negated : Bool) : Expr :=
  .among negated (.field "Score") (.const ⟨.text, .text "1"⟩) []

def scorePredicate (negated : Bool) : Predicate where
  term := .member negated [.decimal (.ofInt 1)] (.field "Score")
  source := scoreAmong negated
  expression := none
  resolver := scoreSchema.resolver .byName

def scores : List Payload :=
  [.record [("Score", .int 1)], .record [], .record [("Score", .text "1.0")],
    .record [("Score", .text "none")], .record [("Score", .int 2)]]

def scoresOfOne : List Payload := [.record [("Score", .int 1)], .record [("Score", .text "1.0")]]

theorem compileTo_opposite_scores :
    (scoreAmong false).Opposite (scoreAmong true) ∧
    compileTo (scoreSchema.resolver .byName) none (scoreAmong false) = .ok (scorePredicate false) ∧
    compileTo (scoreSchema.resolver .byName) none (scoreAmong true) = .ok (scorePredicate true) ∧
    (scorePredicate false).filter id scores = .ok scoresOfOne ∧
    (∀ record, (scorePredicate true).accepts record =
      ((scorePredicate false).accepts record).map not) ∧
    ∃ (accepted : Payload → Bool) (dropped : List Payload),
      (∀ item ∈ scores, (scorePredicate false).accepts (id item) = .ok (accepted item)) ∧
      (scorePredicate true).filter id scores = .ok dropped ∧
      scores.partition accepted = (scoresOfOne, dropped) := by
  have opposite : (scoreAmong false).Opposite (scoreAmong true) := .among _ _ _
  have compiled : compileTo (scoreSchema.resolver .byName) none (scoreAmong false) =
      .ok (scorePredicate false) := rfl
  have compiled' : compileTo (scoreSchema.resolver .byName) none (scoreAmong true) =
      .ok (scorePredicate true) := rfl
  have kept : (scorePredicate false).filter id scores = .ok scoresOfOne := rfl
  obtain ⟨-, complement⟩ := compileTo_opposite (scoreSchema.resolver .byName) opposite none none
  obtain ⟨accepts, partition⟩ := complement _ _ compiled compiled'
  exact ⟨opposite, compiled, compiled', kept, accepts, partition id scores scoresOfOne kept⟩

end RecordFilter
