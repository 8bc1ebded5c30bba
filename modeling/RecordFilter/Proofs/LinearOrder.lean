import RecordFilter.Proofs.CompiledTests
import RecordFilter.Proofs.ConstantFolding
import RecordFilter.Proofs.PayloadSymmetry

/-!
# Comparisons are one linear order

Payloads of a kind that has an order are ordered by what they stand for: whole and decimal numbers
by their value, texts by their characters, timestamps by their instants.  The six comparisons ask
for this one order.  Bringing an operand to the kind of the other one never makes it Null, so that
an expression is outside of the order exactly where it is Null itself.
-/

namespace RecordFilter

/-! ## The order of payloads -/

namespace Payload

inductive Ordered : Payload → Payload → Ordering → Prop
  | number {p q : Payload} {d e : Decimal} {o : Ordering} (left : Arithmetic.number? p = some d)
      (right : Arithmetic.number? q = some e) (order : compare d.toRat e.toRat = o) :
      Ordered p q o
  | text {s t : String} {o : Ordering} (order : compare s t = o) : Ordered (.text s) (.text t) o
  | moment {m n : Moment} {o : Ordering} (order : compare (m.ticks : Int) n.ticks = o) :
      Ordered (.ofMoment m) (.ofMoment n) o

theorem Fits.number?_eq {p : Payload} (h : p.Fits .number) :
    ∃ d, Arithmetic.number? p = some d := by
  cases h <;> exact ⟨_, rfl⟩

theorem ordered_of_fits {p q : Payload} {k : Kind} (ordered : k.isOrdered = true) (hp : p.Fits k)
    (hq : q.Fits k) : ∃ o, p.Ordered q o := by
  cases k with
  | null | boolean | collection => cases ordered
  | number =>
      obtain ⟨d, left⟩ := hp.number?_eq
      obtain ⟨e, right⟩ := hq.number?_eq
      exact ⟨_, .number left right rfl⟩
  | text =>
      cases hp
      cases hq
      exact ⟨_, .text rfl⟩
  | timestamp =>
      cases hp
      cases hq
      exact ⟨_, .moment rfl⟩

theorem number?_numeral? {p : Payload} {d : Decimal} (h : Arithmetic.number? p = some d) :
    p.numeral? = some (.finite d) := by
  cases p with
  | int | decimal =>
      cases h
      rfl
  | _ => cases h

theorem isNull_of_number? {p : Payload} {d : Decimal} (h : Arithmetic.number? p = some d) :
    p.isNull = false := by
  cases p with
  | int | decimal => rfl
  | _ => cases h

theorem Ordered.isNull {p q : Payload} {o : Ordering} (h : p.Ordered q o) :
    p.isNull = false ∧ q.isNull = false := by
  cases h with
  | number left right => exact ⟨isNull_of_number? left, isNull_of_number? right⟩
  | text | moment => exact ⟨rfl, rfl⟩

theorem Ordered.lt_trans {p q r : Payload} (h : p.Ordered q .lt) (h' : q.Ordered r .lt) :
    p.Ordered r .lt := by
  cases h with
  | number left right order =>
      cases h' with
      | number left' right' order' =>
          cases right.symm.trans left'
          refine .number left right' ?_
          rw [compare_lt_iff_lt] at order order' ⊢
          exact order.trans order'
      | text | moment => cases right
  | text order =>
      cases h' with
      | number left' => cases left'
      | text order' => exact .text (Std.TransCmp.lt_trans order order')
  | moment order =>
      cases h' with
      | number left' => cases left'
      | moment order' => exact .moment (Std.TransCmp.lt_trans order order')

theorem Ordered.swap {p q : Payload} {o : Ordering} (h : p.Ordered q o) : q.Ordered p o.swap := by
  cases h with
  | number left right order =>
      refine .number right left ?_
      rw [← order]
      exact Std.OrientedOrd.eq_swap
  | text order =>
      refine .text ?_
      rw [← order]
      exact Std.OrientedOrd.eq_swap
  | moment order =>
      refine .moment ?_
      rw [← order]
      exact Std.OrientedOrd.eq_swap

end Payload

theorem beq_eq_compare {α : Type} [Ord α] [Std.LawfulEqOrd α] [BEq α] [LawfulBEq α] (a b : α) :
    (a == b) = (compare a b == .eq) := by
  rw [Bool.eq_iff_iff, beq_iff_eq, beq_iff_eq, Std.compare_eq_iff_eq]

namespace Comparison

open Payload

theorem order_of_ordered {p q : Payload} {o : Ordering} (h : p.Ordered q o) (c : Comparison) :
    c.order p q = .ok (some o) := by
  cases h with
  | number left right order =>
      rw [order_eq_orderOfNumerals (number?_numeral? left), orderOfNumerals,
        number?_numeral? left, number?_numeral? right]
      simp [Numeral.compare?, Decimal.compare_eq, order]
  | text order =>
      rw [← order]
      rfl
  | moment order =>
      rw [← order]
      simp [Comparison.order, ofMoment, Timestamp.instant]

theorem same_of_ordered {p q : Payload} {o : Ordering} (h : p.Ordered q o) :
    p.same q = (o == .eq) := by
  cases h with
  | number left right order =>
      rw [same_eq_sameNumerals (number?_numeral? left), sameNumerals, number?_numeral? left,
        number?_numeral? right]
      simp [Numeral.same, Numeral.compare?, Decimal.compare_eq, order]
  | text order =>
      rw [← order, ← beq_eq_compare]
      rfl
  | moment order =>
      rw [← order, ← beq_eq_compare]
      simp [Payload.same, ofMoment, Timestamp.same, Timestamp.instant]

theorem meetsSignal_of_ordered {p q : Payload} {o : Ordering} (h : p.Ordered q o) :
    meetsSignal p q = false := by
  cases h with
  | @number p q _ _ _ left right order =>
      cases p <;> cases left <;> cases q <;> cases right <;> rfl
  | _ => rfl

theorem test_of_ordered {p q : Payload} {o : Ordering} (h : p.Ordered q o) (c : Comparison) :
    c.test p q = .ok (c.holds o) := by
  cases c with
  | equal | notEqual =>
      simp only [Comparison.test, same_of_ordered h, meetsSignal_of_ordered h]
      rfl
  | less | greater | atMost | atLeast =>
      rw [test_of_order rfl, order_of_ordered h]
      rfl

/-! ## Truth values of the six comparisons -/

structure Linear (truth : Comparison → Bool) : Prop where
  one : ∃! c, c ∈ [less, equal, greater] ∧ truth c = true
  atMost : truth atMost = (truth less || truth equal)
  atLeast : truth atLeast = (truth greater || truth equal)
  notEqual : truth notEqual = !truth equal

theorem linear_holds (o : Ordering) : Linear fun c => c.holds o where
  one := by cases o <;> decide
  atMost := by cases o <;> rfl
  atLeast := by cases o <;> rfl
  notEqual := by cases o <;> rfl

end Comparison

/-! ## Operands -/

section

variable {read : String → Payload → Except Fault Payload} {record : Payload} {x y : Term}

/-- How the operands of a comparison lie to each other on a record; there is no order if one of
them is Null. -/
inductive Term.Compared (read : String → Payload → Except Fault Payload) (record : Payload)
    (x y : Term) : Option Ordering → Prop
  | left (given : x.eval read record = .ok .null) : Compared read record x y none
  | right {p : Payload} (given : x.eval read record = .ok p)
      (given' : y.eval read record = .ok .null) : Compared read record x y none
  | both {p q : Payload} {o : Ordering} (given : x.eval read record = .ok p)
      (given' : y.eval read record = .ok q) (order : p.Ordered q o) :
      Compared read record x y (some o)

theorem Term.Compared.eval {o : Option Ordering} (h : x.Compared read record y o)
    (c : Comparison) :
    (compare c x y).eval read record = .ok (.bool (o.elim (c == .notEqual) c.holds)) := by
  rw [Term.eval]
  cases h with
  | left given =>
      rw [given]
      rfl
  | @right p given given' =>
      have none : c.testNonNull p .null = .ok (c == .notEqual) := if_pos (by simp [Payload.isNull])
      rw [given, given', ok_bind, ok_bind, none]
      split_ifs <;> rfl
  | both given given' order =>
      obtain ⟨someLeft, someRight⟩ := order.isNull
      simp [given, given', someLeft, someRight, Comparison.testNonNull,
        Comparison.test_of_ordered order]

theorem Term.Compared.eq_none_iff {o : Option Ordering} (h : x.Compared read record y o) :
    o = none ↔ x.eval read record = .ok .null ∨ y.eval read record = .ok .null := by
  cases h with
  | left given => exact iff_of_true rfl (.inl given)
  | right given given' => exact iff_of_true rfl (.inr given')
  | both given given' order =>
      obtain ⟨someLeft, someRight⟩ := order.isNull
      refine iff_of_false nofun ?_
      rintro (null | null)
      · rw [given] at null
        cases Except.ok.inj null
        cases someLeft
      · rw [given'] at null
        cases Except.ok.inj null
        cases someRight

theorem Term.eval_compare_operands {c : Comparison} {v : Payload}
    (h : (compare c x y).eval read record = .ok v) :
    ∃ p, x.eval read record = .ok p ∧ (p.isNull = false → ∃ q, y.eval read record = .ok q) := by
  obtain ⟨p, given, h⟩ := bind_eq_ok.mp h
  refine ⟨p, given, fun some => ?_⟩
  rw [if_neg (by simp [some])] at h
  obtain ⟨q, given', -⟩ := bind_eq_ok.mp h
  exact ⟨q, given'⟩

theorem Operands.compared {r : Resolver} {a b : Expr} {left right : Node} {p : Payload}
    (operands : Operands r a b left right) (keeps : Term.KeepsKinds r.kind? r.read)
    (ordered : left.kind.isOrdered = true) (given : left.term.eval r.read record = .ok p)
    (goes_on : p.isNull = false → ∃ q, right.term.eval r.read record = .ok q) :
    ∃ o, left.term.Compared r.read record right.term o := by
  cases null : p.isNull with
  | true =>
      rw [Payload.isNull_iff.mp null] at given
      exact ⟨none, .left given⟩
  | false =>
      obtain ⟨q, given'⟩ := goes_on null
      cases null' : q.isNull with
      | true =>
          rw [Payload.isNull_iff.mp null'] at given'
          exact ⟨none, .right given given'⟩
      | false =>
          have fits := (operands.soundLeft.eval_fits keeps given).fits null
          have fits' := ((operands.soundRight.hasKind operands.kinds).eval_fits keeps
            given').fits null'
          obtain ⟨o, order⟩ := Payload.ordered_of_fits ordered fits fits'
          exact ⟨some o, .both given given' order⟩

theorem Operands.ordered_of_less {r : Resolver} {a b : Expr} {left right : Node}
    (operands : Operands r a b left right) (keeps : Term.KeepsKinds r.kind? r.read)
    (ordered : left.kind.isOrdered = true)
    (h : ((Term.compare .less left.term right.term).eval r.read record).map Payload.isTrue =
      .ok true) :
    ∃ p q, left.term.eval r.read record = .ok p ∧ right.term.eval r.read record = .ok q ∧
      p.Ordered q .lt := by
  obtain ⟨v, evaluated, -⟩ := map_eq_ok.mp h
  obtain ⟨p, given, goes_on⟩ := Term.eval_compare_operands evaluated
  obtain ⟨o, compared⟩ := operands.compared keeps ordered given goes_on
  rw [compared.eval] at h
  cases compared with
  | left | right => cases h
  | @both p q o given given' order =>
      have less : o = .lt := by cases o <;> first | rfl | cases h
      exact ⟨p, q, given, given', less ▸ order⟩

end

theorem Node.Sound.eval_constant_ne_null {kinds : String → Option Kind} {n : Node} {v : Value}
    (sound : n.Sound kinds) (some : n.kind ≠ .null) (constant : n.term = .constant v)
    (read : String → Payload → Except Fault Payload) (record : Payload) :
    n.term.eval read record ≠ .ok .null := by
  intro null
  obtain ⟨-, fits⟩ := sound.constant constant
  have present := fits.isNull some
  rw [constant] at null
  cases v
  cases null
  cases present

theorem align_null {kinds : String → Option Kind} {operator : String}
    {target other aligned : Node} {e : Expr} (sound : other.Sound kinds)
    (some : other.isNullConstant = false) (target_some : target.kind ≠ .null)
    (h : align operator target other e = .ok aligned)
    (read : String → Payload → Except Fault Payload) (record : Payload) :
    aligned.term.eval read record = .ok .null ↔ other.term.eval read record = .ok .null := by
  obtain ⟨kind, sound'⟩ := align_sound sound some h
  rcases align_eq_ok h with ⟨-, rfl⟩ | ⟨-, v, converted, constant, -, rfl⟩
  · rfl
  · have absent := sound.eval_constant_ne_null (sound.kind_ne_null some) constant read record
    have absent' := sound'.eval_constant_ne_null (by rwa [kind]) rfl read record
    exact iff_of_false absent' absent

theorem alignBoth_null {kinds : String → Option Kind} {operator : String}
    {left right x y : Node} {e f : Expr} (soundLeft : left.Sound kinds)
    (soundRight : right.Sound kinds) (someLeft : left.isNullConstant = false)
    (someRight : right.isNullConstant = false)
    (h : alignBoth operator left right e f = .ok (x, y))
    (read : String → Payload → Except Fault Payload) (record : Payload) :
    (x.term.eval read record = .ok .null ↔ left.term.eval read record = .ok .null) ∧
      (y.term.eval read record = .ok .null ↔ right.term.eval read record = .ok .null) := by
  rcases alignBoth_eq_ok h with ⟨-, rfl, aligned⟩ | ⟨-, rfl, aligned⟩
  · exact ⟨.rfl, align_null soundRight someRight (soundLeft.kind_ne_null someLeft) aligned ..⟩
  · exact ⟨align_null soundLeft someLeft (soundRight.kind_ne_null someRight) aligned .., .rfl⟩

theorem operands_of_open {r : Resolver} {a b : Expr} {c : Comparison} {node : Node}
    (constantsLeft : a.ConstantsFit) (constantsRight : b.ConstantsFit)
    (openLeft : a.isClosed = false) (openRight : b.isClosed = false)
    (h : compileExpr r (.binary (.compare c) a b) = .ok node) :
    ∃ left right, compileExpr r a = .ok left ∧ compileExpr r b = .ok right ∧
      left.isConstant = false ∧ right.isConstant = false ∧ Operands r a b left right ∧
      c.AppliesTo left.kind := by
  obtain ⟨left, right, x, y, compiledLeft, compiledRight, someLeft, someRight, aligned, operands,
    applies⟩ := operands_of_compileExpr constantsLeft constantsRight h
  have opened {e : Expr} {n : Node} (compiled : compileExpr r e = .ok n)
      (opened : e.isClosed = false) : n.isConstant = false := by
    rw [((compileExpr_partsFold compiled).folds compiled).constant, opened]
  have left_open := opened compiledLeft openLeft
  have right_open := opened compiledRight openRight
  rcases alignBoth_eq_ok aligned with ⟨-, rfl, aligned⟩ | ⟨byRight, -, -⟩
  · rw [align_of_kinds (align_open right_open aligned)] at aligned
    obtain rfl := Except.ok.inj aligned
    exact ⟨_, _, compiledLeft, compiledRight, left_open, right_open, operands, applies⟩
  · simp [left_open] at byRight

/-! ## Filters -/

section

variable {s : Schema} {lookup : Lookup} {text : Option String} {a b d : Expr}

/-- The comparisons of two operands that one of them is accepted for. -/
theorem compileTo_comparisons (constantsLeft : a.ConstantsFit) (constantsRight : b.ConstantsFit)
    {p : Predicate}
    (accepted : compileTo (s.resolver lookup) text (.binary (.compare .less) a b) = .ok p) :
    ∃ q : Comparison → Predicate,
      (∀ c, compileTo (s.resolver lookup) text (.binary (.compare c) a b) = .ok (q c)) ∧
      ∀ record truth, (∀ c, (q c).accepts record = .ok (truth c)) →
        (∀ v w, a.interpret s lookup record = .ok v → b.interpret s lookup record = .ok w →
          v ≠ .null → w ≠ .null → Comparison.Linear truth) ∧
        (a.interpret s lookup record = .ok .null ∨ b.interpret s lookup record = .ok .null →
          ∀ c, truth c = (c == .notEqual)) := by
  obtain ⟨node, compiled, -, -⟩ := compileTo_eq_ok accepted
  obtain ⟨left, right, x, y, compiledLeft, compiledRight, someLeft, someRight, aligned, operands,
    applies⟩ := operands_of_compileExpr constantsLeft constantsRight compiled
  have ordered : x.kind.isOrdered = true := applies.2.2.resolve_left nofun
  choose q made accepts using fun c : Comparison =>
    (operands.compares c ⟨applies.1, applies.2.1, .inr ordered⟩).accepted text
  refine ⟨q, made, fun record truth answers => ?_⟩
  obtain ⟨v, evaluated, -⟩ := map_eq_ok.mp ((accepts .less record).symm.trans (answers .less))
  obtain ⟨u, given, goes_on⟩ := Term.eval_compare_operands evaluated
  obtain ⟨o, compared⟩ := operands.compared (s.keepsKinds lookup) ordered given goes_on
  have truth_eq (c : Comparison) : truth c = o.elim (c == .notEqual) c.holds := by
    have answer := answers c
    rw [accepts, compared.eval] at answer
    exact (Except.ok.inj answer).symm
  obtain ⟨nullLeft, nullRight⟩ := alignBoth_null (compileExpr_sound constantsLeft compiledLeft)
    (compileExpr_sound constantsRight compiledRight) someLeft someRight aligned
    (s.read lookup) record
  rw [(compileExpr_agrees constantsLeft compiledLeft).eval] at nullLeft
  rw [(compileExpr_agrees constantsRight compiledRight).eval] at nullRight
  have none_iff := compared.eq_none_iff
  change o = none ↔ x.term.eval (s.read lookup) record = .ok .null ∨
    y.term.eval (s.read lookup) record = .ok .null at none_iff
  rw [nullLeft, nullRight] at none_iff
  refine ⟨fun v w givenLeft givenRight someV someW => ?_, fun null c => ?_⟩
  · cases o with
    | none =>
        rw [givenLeft, givenRight] at none_iff
        rcases none_iff.mp rfl with null | null
        · exact absurd (Except.ok.inj null) someV
        · exact absurd (Except.ok.inj null) someW
    | some o =>
        rw [show truth = fun c => c.holds o from funext truth_eq]
        exact Comparison.linear_holds o
  · rw [truth_eq, none_iff.mpr null]
    rfl

theorem compileTo_less_trans (constantsLeft : a.ConstantsFit) (constants : b.ConstantsFit)
    (constantsRight : d.ConstantsFit) (openLeft : a.isClosed = false)
    (opened : b.isClosed = false) (openRight : d.isClosed = false) {p p' : Predicate}
    (accepted : compileTo (s.resolver lookup) text (.binary (.compare .less) a b) = .ok p)
    (accepted' : compileTo (s.resolver lookup) text (.binary (.compare .less) b d) = .ok p') :
    ∃ q, compileTo (s.resolver lookup) text (.binary (.compare .less) a d) = .ok q ∧
      ∀ record, p.accepts record = .ok true → p'.accepts record = .ok true →
        q.accepts record = .ok true := by
  obtain ⟨node, compiled, -, -⟩ := compileTo_eq_ok accepted
  obtain ⟨node', compiled', -, -⟩ := compileTo_eq_ok accepted'
  obtain ⟨x, y, compiledX, compiledY, openX, openY, operands, applies⟩ :=
    operands_of_open constantsLeft constants openLeft opened compiled
  obtain ⟨y', z, compiledY', compiledZ, -, openZ, operands', applies'⟩ :=
    operands_of_open constants constantsRight opened openRight compiled'
  cases compiledY.symm.trans compiledY'
  have ordered : x.kind.isOrdered = true := applies.2.2.resolve_left nofun
  have aligned : align "<" x z d = .ok z :=
    align_of_kinds (operands'.kinds.trans operands.kinds)
  have outer := operands_of_align constantsLeft constantsRight compiledX compiledZ
    (isNullConstant_of_open openX) (isNullConstant_of_open openZ) aligned applies.2.1
  obtain ⟨q, made, accepts⟩ := (outer.compares .less applies).accepted text
  refine ⟨q, made, fun record holds holds' => ?_⟩
  rw [(operands.compares .less applies).accepts_eq accepted] at holds
  rw [(operands'.compares .less applies').accepts_eq accepted'] at holds'
  obtain ⟨u, v, givenU, givenV, order⟩ :=
    operands.ordered_of_less (s.keepsKinds lookup) ordered holds
  obtain ⟨v', w, givenV', givenW, order'⟩ :=
    operands'.ordered_of_less (s.keepsKinds lookup) (applies'.2.2.resolve_left nofun) holds'
  cases givenV.symm.trans givenV'
  rw [accepts, (Term.Compared.both givenU givenW (order.lt_trans order')).eval]
  rfl

end

/-- Comparisons are one linear order with Null outside of it.  If one expression can be asked to be
less than another one, the two can be compared with all six operators.  On a record for which all
six comparisons have an answer, exactly one of `<`, `==` and `>` holds and the others follow from
these, unless an operand is Null, and then `!=` is all that holds.  Between operands with fields in
them `<` is transitive, whatever payloads their numbers are. -/
theorem compileTo_linearOrder (s : Schema) (lookup : Lookup) (text : Option String) {a b : Expr}
    {p : Predicate} (constantsLeft : a.ConstantsFit) (constantsRight : b.ConstantsFit)
    (accepted : compileTo (s.resolver lookup) text (.binary (.compare .less) a b) = .ok p) :
    (∃ q : Comparison → Predicate,
      (∀ c, compileTo (s.resolver lookup) text (.binary (.compare c) a b) = .ok (q c)) ∧
      ∀ record truth, (∀ c, (q c).accepts record = .ok (truth c)) →
        (∀ v w, a.interpret s lookup record = .ok v → b.interpret s lookup record = .ok w →
          v ≠ .null → w ≠ .null → Comparison.Linear truth) ∧
        (a.interpret s lookup record = .ok .null ∨ b.interpret s lookup record = .ok .null →
          ∀ c, truth c = (c == .notEqual))) ∧
    ∀ (d : Expr) (p' : Predicate), d.ConstantsFit → a.isClosed = false → b.isClosed = false →
      d.isClosed = false →
      compileTo (s.resolver lookup) text (.binary (.compare .less) b d) = .ok p' →
      ∃ q, compileTo (s.resolver lookup) text (.binary (.compare .less) a d) = .ok q ∧
        ∀ record, p.accepts record = .ok true → p'.accepts record = .ok true →
          q.accepts record = .ok true :=
  ⟨compileTo_comparisons constantsLeft constantsRight accepted,
    fun _ _ constantsLast openLeft opened openLast accepted' =>
      compileTo_less_trans constantsLeft constantsRight constantsLast openLeft opened openLast
        accepted accepted'⟩

def priceSchema : Schema := ⟨[("Low", .number), ("Price", .number), ("High", .number)]⟩

def priceRecord : Payload :=
  .record [("Low", .int 2), ("Price", .text "2.50"), ("High", .decimal ⟨false, 251, -2⟩)]

def fieldBelow (low high : String) : Expr :=
  .binary (.compare .less) (.field low) (.field high)

def fieldBelowPredicate (low high : String) : Predicate where
  term := .compare .less (.field low) (.field high)
  source := fieldBelow low high
  expression := none
  resolver := priceSchema.resolver .byName

theorem compileTo_linearOrder_prices :
    (Expr.field "Low").ConstantsFit ∧ (Expr.field "Price").ConstantsFit ∧
    (Expr.field "High").ConstantsFit ∧
    compileTo (priceSchema.resolver .byName) none (fieldBelow "Low" "Price") =
      .ok (fieldBelowPredicate "Low" "Price") ∧
    compileTo (priceSchema.resolver .byName) none (fieldBelow "Price" "High") =
      .ok (fieldBelowPredicate "Price" "High") ∧
    (fieldBelowPredicate "Low" "Price").accepts priceRecord = .ok true ∧
    (fieldBelowPredicate "Price" "High").accepts priceRecord = .ok true ∧
    (∃ q : Comparison → Predicate, (∀ c, compileTo (priceSchema.resolver .byName) none
        (.binary (.compare c) (.field "Low") (.field "Price")) = .ok (q c)) ∧
      ∀ truth, (∀ c, (q c).accepts priceRecord = .ok (truth c)) → Comparison.Linear truth) ∧
    ∃ q, compileTo (priceSchema.resolver .byName) none (fieldBelow "Low" "High") = .ok q ∧
      q.accepts priceRecord = .ok true := by
  have constants (name : String) : (Expr.field name).ConstantsFit := by
    intro v found
    simp [Expr.nodes] at found
  have accepted : compileTo (priceSchema.resolver .byName) none (fieldBelow "Low" "Price") =
      .ok (fieldBelowPredicate "Low" "Price") := rfl
  have accepted' : compileTo (priceSchema.resolver .byName) none (fieldBelow "Price" "High") =
      .ok (fieldBelowPredicate "Price" "High") := rfl
  have holds : (fieldBelowPredicate "Low" "Price").accepts priceRecord = .ok true := rfl
  have holds' : (fieldBelowPredicate "Price" "High").accepts priceRecord = .ok true := rfl
  have low : (Expr.field "Low").interpret priceSchema .byName priceRecord = .ok (.int 2) := rfl
  have price : (Expr.field "Price").interpret priceSchema .byName priceRecord =
      .ok (.decimal ⟨false, 250, -2⟩) := rfl
  obtain ⟨⟨q, all, answers⟩, trans⟩ := compileTo_linearOrder priceSchema .byName none
    (constants "Low") (constants "Price") accepted
  obtain ⟨q', outer, below⟩ := trans (.field "High") (fieldBelowPredicate "Price" "High")
    (constants "High") rfl rfl rfl accepted'
  refine ⟨constants _, constants _, constants _, accepted, accepted', holds, holds',
    ⟨q, all, fun truth given => ?_⟩, q', outer, below priceRecord holds holds'⟩
  exact (answers priceRecord truth given).1 _ _ low price (by simp) (by simp)

end RecordFilter
