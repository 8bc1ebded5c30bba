import RecordFilter.Proofs.LinearOrder

/-!
# Ranges are two comparisons

A range says what two comparisons with its bounds say.  It always brings the bounds to the kind of
its first operand, where a comparison converts the constant of its two operands, and it evaluates
both bounds before it compares.  Still the comparisons are accepted with it, and have its answer.
-/

namespace RecordFilter

def Expr.withinBounds (x lower upper : Expr) : Expr :=
  .binary .and (.binary (.compare .atLeast) x lower) (.binary (.compare .atMost) x upper)

namespace Payload

theorem isWithin_of_ordered {p lower upper : Payload} {o o' : Ordering}
    (above : p.Ordered lower o) (below : p.Ordered upper o') :
    p.isWithin lower upper =
      .ok (Comparison.atLeast.holds o && Comparison.atMost.holds o') := by
  have mirrored : Comparison.atMost.holds o.swap = Comparison.atLeast.holds o := by
    cases o <;> rfl
  rw [isWithin, above.isNull.2, below.isNull.2, Comparison.test_of_ordered above.swap,
    Comparison.test_of_ordered below, mirrored, ok_bind]
  cases Comparison.atLeast.holds o <;> rfl

end Payload

section

variable {read : String → Payload → Except Fault Payload} {record : Payload}
  {t lower upper : Term}

theorem Term.eval_between_operands {v : Payload}
    (h : (between false t lower upper).eval read record = .ok v) :
    ∃ p, t.eval read record = .ok p ∧
      (p.isNull = false → ∃ q, lower.eval read record = .ok q) ∧
      (p.isNull = false → ∃ q, upper.eval read record = .ok q) := by
  obtain ⟨p, given, h⟩ := bind_eq_ok.mp h
  refine ⟨p, given, fun some => ?_, fun some => ?_⟩
  all_goals
    rw [if_neg (by simp [some])] at h
    obtain ⟨low, givenLow, h⟩ := bind_eq_ok.mp h
    obtain ⟨high, givenHigh, -⟩ := bind_eq_ok.mp h
  · exact ⟨low, givenLow⟩
  · exact ⟨high, givenHigh⟩

theorem Term.Compared.eval_between {o o' : Option Ordering} {v : Payload}
    (above : t.Compared read record lower o) (below : t.Compared read record upper o')
    (h : (between false t lower upper).eval read record = .ok v) :
    v = .bool (o.any Comparison.atLeast.holds && o'.any Comparison.atMost.holds) := by
  obtain ⟨p, given, h⟩ := bind_eq_ok.mp h
  split_ifs at h with null
  · rw [Payload.isNull_iff.mp null] at given
    rw [above.eq_none_iff.mpr (.inl given), ← pure_eq_ok.mp h]
    rfl
  obtain ⟨low, givenLow, h⟩ := bind_eq_ok.mp h
  obtain ⟨high, givenHigh, h⟩ := bind_eq_ok.mp h
  obtain ⟨found, within, h⟩ := bind_eq_ok.mp h
  rw [← pure_eq_ok.mp h, Bool.bne_false]
  have some : t.eval read record ≠ .ok .null := by
    rw [given]
    intro same
    exact null (Payload.isNull_iff.mpr (Except.ok.inj same))
  cases above with
  | left absent => exact absurd absent some
  | right _ absent =>
      cases givenLow.symm.trans absent
      cases within
      rfl
  | both given' givenLow' order =>
      cases given.symm.trans given'
      cases givenLow.symm.trans givenLow'
      cases below with
      | left absent => exact absurd absent some
      | right _ absent =>
          cases givenHigh.symm.trans absent
          rw [Payload.isWithin, if_pos (by simp [Payload.isNull])] at within
          cases within
          simp
      | both given'' givenHigh' order' =>
          cases given.symm.trans given''
          cases givenHigh.symm.trans givenHigh'
          rw [Payload.isWithin_of_ordered order order'] at within
          cases within
          rfl

end

/-- An accepted range brings both bounds to the kind of its first operand, as the comparisons with
them do. -/
theorem operands_of_between {r : Resolver} {x lower upper : Expr} {node : Node}
    (constants : (Expr.between false x lower upper).ConstantsFit)
    (h : compileExpr r (.between false x lower upper) = .ok node) :
    ∃ left low high, left.kind.isOrdered = true ∧ Operands r x lower left low ∧
      Operands r x upper left high ∧
      CompilesAs r (.between false x lower upper)
        (.between false left.term low.term high.term) := by
  obtain ⟨left, lowerNode, low, upperNode, high, compiledLeft, ranged, compiledLower, someLower,
    alignedLower, compiledUpper, someUpper, alignedUpper, folded⟩ := compileBetweenExpr_eq_ok h
  obtain ⟨constantsLeft, constantsLower, constantsUpper⟩ := constants.between
  have sound := compileExpr_sound constantsLeft compiledLeft
  have ordered : left.kind.isOrdered = true := by
    rcases ranged with kind | kind <;> rw [kind] <;> rfl
  have single : left.kind ≠ .collection := by rcases ranged with kind | kind <;> simp [kind]
  have some : left.isNullConstant = false := by
    rw [Bool.eq_false_iff, Ne, sound.null_iff]
    rcases ranged with kind | kind <;> simp [kind]
  exact ⟨left, low, high, ordered,
    operands_of_align constantsLeft constantsLower compiledLeft compiledLower some someLower
      alignedLower single,
    operands_of_align constantsLeft constantsUpper compiledLeft compiledUpper some someUpper
      alignedUpper single,
    node, h, fold_means folded (by simp [Term.isClosed, Bool.and_assoc])⟩

/-- A range is accepted only where the comparisons with its bounds are, and where it has an answer
their conjunction has the same answer. -/
theorem compileTo_between (s : Schema) (lookup : Lookup) (text : Option String)
    {x lower upper : Expr} {p : Predicate}
    (constants : (Expr.between false x lower upper).ConstantsFit)
    (accepted : compileTo (s.resolver lookup) text (.between false x lower upper) = .ok p) :
    ∃ q, compileTo (s.resolver lookup) text (x.withinBounds lower upper) = .ok q ∧
      ∀ record b, p.accepts record = .ok b → q.accepts record = .ok b := by
  obtain ⟨node, compiled, -, -⟩ := compileTo_eq_ok accepted
  obtain ⟨left, low, high, ordered, above, below, ranges⟩ :=
    operands_of_between constants compiled
  have applies (c : Comparison) : c.AppliesTo left.kind :=
    ⟨above.single.1, above.single.2, .inr ordered⟩
  obtain ⟨q, made, accepts⟩ := ((above.compares .atLeast (applies _)).both
    (below.compares .atMost (applies _))).accepted text
  refine ⟨q, made, fun record b answer => ?_⟩
  rw [ranges.accepts_eq accepted] at answer
  obtain ⟨v, evaluated, rfl⟩ := map_eq_ok.mp answer
  obtain ⟨u, given, goesLow, goesHigh⟩ := Term.eval_between_operands evaluated
  obtain ⟨o, comparedLow⟩ := above.compared (s.keepsKinds lookup) ordered given goesLow
  obtain ⟨o', comparedHigh⟩ := below.compared (s.keepsKinds lookup) ordered given goesHigh
  rw [comparedLow.eval_between comparedHigh evaluated, accepts, Term.eval, comparedLow.eval,
    comparedHigh.eval]
  -- An operand that is Null falsifies its comparison, as it falsifies the range.
  cases o with
  | none => rfl
  | some o =>
      cases o' with
      | none => cases o <;> rfl
      | some o' => cases o <;> cases o' <;> rfl

def priceRange : Expr := .between false (.field "Price") (.const ⟨.text, .text "2"⟩) (.field "High")

def priceRangePredicate : Predicate where
  term := .between false (.field "Price") (.constant ⟨.number, .decimal (.ofInt 2)⟩) (.field "High")
  source := priceRange
  expression := none
  resolver := priceSchema.resolver .byName

theorem compileTo_between_price :
    priceRange.ConstantsFit ∧
    compileTo (priceSchema.resolver .byName) none priceRange = .ok priceRangePredicate ∧
    priceRangePredicate.accepts priceRecord = .ok true ∧
    ∃ q, compileTo (priceSchema.resolver .byName) none
        ((Expr.field "Price").withinBounds (.const ⟨.text, .text "2"⟩) (.field "High")) = .ok q ∧
      q.accepts priceRecord = .ok true := by
  have constants : priceRange.ConstantsFit := by
    simpa [Expr.ConstantsFit, priceRange, Expr.nodes] using Payload.Fits.text "2"
  have accepted : compileTo (priceSchema.resolver .byName) none priceRange =
      .ok priceRangePredicate := rfl
  have holds : priceRangePredicate.accepts priceRecord = .ok true := rfl
  obtain ⟨q, made, agrees⟩ := compileTo_between priceSchema .byName none constants accepted
  exact ⟨constants, accepted, holds, q, made, agrees priceRecord true holds⟩

end RecordFilter
