import RecordFilter.Proofs.CompileSteps
import RecordFilter.Proofs.LiteralTexts

/-!
# Constants that keep their meaning in a text

What is read back from the literal of a constant is another constant: a number for a truth value, a
text for a moment, a rounded number for one with many digits.  Held against a field of a kind, it is
converted to that kind.  For most constants and kinds the conversion gives what the constant
itself gives, up to numbers that no comparison tells apart, or fails for both.
-/

namespace RecordFilter

/-! ## Payloads that cannot be told apart -/

namespace Payload

structure Interchangeable (p q : Payload) : Prop where
  null : p.isNull = q.isNull
  hashable : p.unhashable? = q.unhashable?
  same : ∀ x : Payload, p.same x = q.same x
  left : ∀ (c : Comparison) (x : Payload), c.test p x = c.test q x
  right : ∀ (c : Comparison) (x : Payload), c.test x p = c.test x q

theorem Interchangeable.refl (p : Payload) : p.Interchangeable p :=
  ⟨rfl, rfl, fun _ => rfl, fun _ _ => rfl, fun _ _ => rfl⟩

end Payload

theorem Numeral.compare?_congr {d e : Decimal} (value : d.toRat = e.toRat) (x : Numeral) :
    (finite d).compare? x = (finite e).compare? x ∧
      x.compare? (finite d) = x.compare? (finite e) := by
  cases x with
  | finite f => simp [compare?, Decimal.compare_eq, value]
  | nonFinite y => cases y <;> simp [compare?]
  | signaling => simp [compare?]

theorem Numeral.same_congr {d e : Decimal} (value : d.toRat = e.toRat) (x : Numeral) :
    (finite d).same x = (finite e).same x ∧ x.same (finite d) = x.same (finite e) := by
  obtain ⟨left, right⟩ := compare?_congr value x
  exact ⟨by rw [same, same, left], by rw [same, same, right]⟩

namespace Payload

theorem same_congr {d e : Decimal} (value : d.toRat = e.toRat) (x : Payload) :
    (decimal d).same x = (decimal e).same x ∧ x.same (decimal d) = x.same (decimal e) := by
  have congr := Numeral.same_congr value
  cases x with
  | float f => cases f <;> simp [same, numeral?, congr]
  | _ => simp [same, numeral?, congr]

theorem same_bool (b : Bool) (x : Payload) :
    (bool b).same x = (decimal (.ofInt (if b then 1 else 0))).same x := by
  cases x <;> simp [same, numeral?]

end Payload

theorem Comparison.order_congr (c : Comparison) {d e : Decimal} (value : d.toRat = e.toRat)
    (x : Payload) :
    c.order (.decimal d) x = c.order (.decimal e) x ∧
      c.order x (.decimal d) = c.order x (.decimal e) := by
  have congr := Numeral.compare?_congr value
  cases x with
  | float f => cases f <;> simp [order, Payload.numeral?, congr, Payload.isDecimal]
  | _ => simp [order, Payload.numeral?, congr, Payload.isDecimal, Payload.qualifiedTypeName]

/-- Numbers of one value cannot be told apart. -/
theorem Decimal.interchangeable {d e : Decimal} (value : d.toRat = e.toRat) :
    (Payload.decimal d).Interchangeable (.decimal e) := by
  have same := Payload.same_congr value
  have order (c : Comparison) := c.order_congr value
  refine ⟨rfl, by simp [Payload.unhashable?], fun x => (same x).1, fun c x => ?_, fun c x => ?_⟩
  · have signal : Comparison.meetsSignal (.decimal d) x =
        Comparison.meetsSignal (.decimal e) x := rfl
    cases c <;> simp [Comparison.test, signal, (same x).1, (order _ x).1]
  · have signal : Comparison.meetsSignal x (.decimal d) =
        Comparison.meetsSignal x (.decimal e) := rfl
    cases c <;> simp [Comparison.test, signal, (same x).2, (order _ x).2]

/-! ## What constants are read as -/

namespace Value

inductive ReadAs : Value → Value → Prop
  | same (v : Value) : ReadAs v v
  | boolean (b : Bool) :
      ReadAs ⟨.boolean, .bool b⟩ ⟨.number, .decimal (.ofInt (if b then 1 else 0))⟩
  | plain {d : Decimal} (unsigned : d.negative = false) :
      ReadAs ⟨.number, .decimal d⟩ ⟨.number, .decimal d.writtenOut⟩
  | negated {d r : Decimal} (signed : d.negative = true)
      (rounded : d.writtenOut.negate? = some r) :
      ReadAs ⟨.number, .decimal d⟩ ⟨.number, .decimal r⟩
  | lost {d : Decimal} (signed : d.negative = true) (overflow : d.writtenOut.negate? = none) :
      ReadAs ⟨.number, .decimal d⟩ .null
  | moment {m : Moment} (valid : m.isValid = true) :
      ReadAs ⟨.timestamp, .ofMoment m⟩ ⟨.text, .text m.literal⟩

theorem compile_negated (r : Resolver) (d : Decimal) :
    compileExpr r (.unary .negate (.const ⟨.number, .decimal d⟩)) =
      .ok (.ofValue ((d.negate?.map fun e => ⟨.number, .decimal e⟩).getD .null)) := by
  rw [compileExpr, compileExpr_const]
  cases result : d.negate? <;>
    simp [compileUnary, Node.ofValue, fold, Node.isConstant, Node.constant?, Term.constant?,
      evalClosed, Term.eval, Payload.negate, Arithmetic.ofResult, result, orFault, null,
      Payload.isNull]

theorem compile_reread (r : Resolver) {v : Value} (h : v.WellFormed) :
    ∃ w, compileExpr r v.reread = .ok (.ofValue w) ∧ v.ReadAs w := by
  cases h with
  | null => exact ⟨_, compileExpr_const _ _, .same _⟩
  | text s => exact ⟨_, compileExpr_const _ _, .same _⟩
  | boolean b => exact ⟨_, compileExpr_const _ _, .boolean b⟩
  | timestamp valid => exact ⟨_, compileExpr_const _ _, .moment valid⟩
  | number d =>
      cases signed : d.negative with
      | false =>
          refine ⟨_, ?_, .plain signed⟩
          simp [reread, signed]
      | true =>
          have compiled := compile_negated r d.writtenOut
          cases rounded : d.writtenOut.negate? with
          | none =>
              refine ⟨_, ?_, .lost signed rounded⟩
              simpa [reread, signed, rounded] using compiled
          | some e =>
              refine ⟨_, ?_, .negated signed rounded⟩
              simpa [reread, signed, rounded] using compiled

/-- A constant means the same, held against a field of a kind, as what is read from its literal:
a truth value is no number and no text there, a negative number survives being rounded as far as
it can be seen there, and a moment has a year of four digits and no microseconds. -/
def Keeps (k : Kind) (v : Value) : Prop :=
  match v.kind, v.raw with
  | .boolean, _ => k ≠ .number ∧ k ≠ .text
  | .number, .decimal d => d.negative = true →
      match k with
      | .null | .timestamp => True
      | .boolean => ∀ r, d.writtenOut.negate? = some r → r.isZero = true → d.isZero = true
      | .number | .collection => ∃ r, d.writtenOut.negate? = some r ∧ r.sameValue d = true
      | .text => ∃ r, d.writtenOut.negate? = some r ∧ r.positional = d.positional
  | .timestamp, .timestamp t =>
      k ≠ .collection ∧
        (k = .timestamp ∨ k = .text → 1000 ≤ t.moment.date.year ∧ t.moment.microsecond = 0)
  | _, _ => True

def meets? (k : Kind) (v : Value) : Option Payload :=
  if v.isNull then none
  else if v.kind = k then some v.raw
  else if v.kind = .boolean then none
  else (v.coerce k).toOption.map (·.raw)

theorem notTruth_toOption (p : Payload) : p.notTruth.toOption = none := by
  unfold Payload.notTruth
  cases p.shown <;> rfl

theorem undefinedConversion_toOption (v : Value) (k : Kind) :
    (v.undefinedConversion k).toOption = none := by
  unfold undefinedConversion
  cases v.raw.displayed <;> rfl

theorem toTruth_congr {d e : Decimal} (value : d.toRat = e.toRat) :
    (Payload.decimal d).toTruth.toOption = (Payload.decimal e).toTruth.toOption := by
  have same (n : Decimal) : d.sameValue n = e.sameValue n := by
    rw [Bool.eq_iff_iff, Decimal.sameValue_iff, Decimal.sameValue_iff, value]
  simp only [Payload.toTruth, same]
  split_ifs
  · rfl
  · rfl
  · rw [notTruth_toOption, notTruth_toOption]

theorem toTruth_nonpos {d : Decimal} (nonpos : d.toRat ≤ 0) :
    (Payload.decimal d).toTruth.toOption = if d.isZero then some false else none := by
  have none : (Decimal.ofInt 0).toRat = 0 := Decimal.toRat_of_isZero rfl
  have one : 0 < (Decimal.ofInt 1).toRat := Decimal.toRat_pos rfl rfl
  have zero : d.sameValue (.ofInt 0) = d.isZero := by
    rw [Bool.eq_iff_iff, Decimal.sameValue_iff, none, Decimal.toRat_eq_zero_iff]
  have below : d.sameValue (.ofInt 1) = false := by
    rw [← Bool.not_eq_true, Decimal.sameValue_iff]
    exact (nonpos.trans_lt one).ne
  simp only [Payload.toTruth, zero, below]
  cases d.isZero
  · exact notTruth_toOption _
  · rfl

theorem rel_refl (o : Option Payload) : Option.Rel Payload.Interchangeable o o := by
  cases o with
  | none => exact .none
  | some p => exact .some (.refl p)

theorem meets?_number_timestamp (d : Decimal) : meets? .timestamp ⟨.number, .decimal d⟩ = none := by
  simp [meets?, isNull, coerce, undefinedConversion_toOption]

theorem meets?_number_boolean (d : Decimal) : meets? .boolean ⟨.number, .decimal d⟩ =
    (Payload.decimal d).toTruth.toOption.map .bool := by
  simp [meets?, isNull, coerce, Function.comp_def]

theorem meets?_number {k : Kind} {d e : Decimal} (some : k ≠ .null) (single : k ≠ .collection)
    (value : k = .number → d.toRat = e.toRat)
    (truth : k = .boolean →
      (Payload.decimal d).toTruth.toOption = (Payload.decimal e).toTruth.toOption)
    (text : k = .text → d.positional = e.positional) :
    Option.Rel Payload.Interchangeable (meets? k ⟨.number, .decimal d⟩)
      (meets? k ⟨.number, .decimal e⟩) := by
  cases k with
  | null => exact absurd rfl some
  | collection => exact absurd rfl single
  | number => exact .some (Decimal.interchangeable (value rfl))
  | text =>
      have displayed (d : Decimal) :
          meets? .text ⟨.number, .decimal d⟩ = .some (.text d.positional) := by
        simp [meets?, isNull, coerce, Payload.displayed]
      rw [displayed, displayed, text rfl]
      exact rel_refl _
  | boolean =>
      rw [meets?_number_boolean, meets?_number_boolean, truth rfl]
      exact rel_refl _
  | timestamp =>
      rw [meets?_number_timestamp, meets?_number_timestamp]
      exact .none

theorem meets?_moment {k : Kind} {m : Moment} (valid : m.isValid = true) (some : k ≠ .null)
    (single : k ≠ .collection)
    (exact : k = .timestamp ∨ k = .text → 1000 ≤ m.date.year ∧ m.microsecond = 0) :
    Option.Rel Payload.Interchangeable (meets? k ⟨.timestamp, .ofMoment m⟩)
      (meets? k ⟨.text, .text m.literal⟩) := by
  have same : meets? k ⟨.timestamp, .ofMoment m⟩ = meets? k ⟨.text, .text m.literal⟩ := by
    cases k with
    | null => exact absurd rfl some
    | collection => exact absurd rfl single
    | timestamp =>
        obtain ⟨year, whole⟩ := exact (.inl rfl)
        simp [meets?, isNull, coerce, m.readMoment_literal valid year whole]
    | text =>
        obtain ⟨year, whole⟩ := exact (.inr rfl)
        simp [meets?, isNull, coerce, Payload.ofMoment, Payload.displayed,
          m.literal_eq_displayed year whole]
    | number =>
        simp [meets?, isNull, coerce, undefinedConversion_toOption, ofNumber, Payload.toNumber,
          m.read?_literal, failed]
    | boolean =>
        simp [meets?, isNull, coerce, undefinedConversion_toOption, Payload.toTruth,
          m.truthOfWord?_literal, notTruth_toOption]
  rw [same]
  exact rel_refl _

theorem meets?_negated {k : Kind} {d r : Decimal} (signed : d.negative = true)
    (rounded : d.writtenOut.negate? = some r) (keeps : Keeps k ⟨.number, .decimal d⟩)
    (some : k ≠ .null) (single : k ≠ .collection) :
    Option.Rel Payload.Interchangeable (meets? k ⟨.number, .decimal d⟩)
      (meets? k ⟨.number, .decimal r⟩) := by
  refine meets?_number some single ?_ ?_ ?_
  · rintro rfl
    obtain ⟨r, same, value⟩ := keeps signed
    cases rounded.symm.trans same
    exact (Decimal.sameValue_iff.mp value).symm
  · -- Below zero there is no truth value, so rounding matters only where it leaves zero.
    rintro rfl
    have zero : d.isZero = r.isZero := by
      rw [Bool.eq_iff_iff]
      refine ⟨fun zero => ?_, keeps signed r rounded⟩
      exact Decimal.isZero_of_negate? rounded (d.isZero_writtenOut.trans zero)
    rw [toTruth_nonpos (Decimal.toRat_nonpos signed),
      toTruth_nonpos (Decimal.negate?_nonpos rfl rounded), zero]
  · rintro rfl
    obtain ⟨r, same, text⟩ := keeps signed
    cases rounded.symm.trans same
    exact text.symm

theorem meets?_lost {k : Kind} {d : Decimal} (signed : d.negative = true)
    (overflow : d.writtenOut.negate? = none) (keeps : Keeps k ⟨.number, .decimal d⟩)
    (some : k ≠ .null) : meets? k ⟨.number, .decimal d⟩ = none := by
  cases k with
  | null => exact absurd rfl some
  | timestamp => exact meets?_number_timestamp d
  | boolean =>
      have nonzero : d.isZero = false := by
        by_contra zero
        rw [Bool.not_eq_false, ← d.isZero_writtenOut] at zero
        obtain ⟨r, same, -⟩ := Decimal.negate?_of_isZero zero
        cases overflow.symm.trans same
      rw [meets?_number_boolean, toTruth_nonpos (Decimal.toRat_nonpos signed), nonzero]
      rfl
  | number | collection | text =>
      obtain ⟨r, same, -⟩ := keeps signed
      cases overflow.symm.trans same

theorem meets?_truth {k : Kind} {b : Bool} (keeps : Keeps k ⟨.boolean, .bool b⟩)
    (some : k ≠ .null) (single : k ≠ .collection) :
    meets? k ⟨.boolean, .bool b⟩ =
      meets? k ⟨.number, .decimal (.ofInt (if b then 1 else 0))⟩ := by
  obtain ⟨notNumber, notText⟩ := keeps
  cases k with
  | null => exact absurd rfl some
  | collection => exact absurd rfl single
  | number => exact absurd rfl notNumber
  | text => exact absurd rfl notText
  | boolean => cases b <;> rfl
  | timestamp =>
      rw [meets?_number_timestamp]
      rfl

/-- A constant that keeps its meaning is converted like what is read from its literal. -/
theorem ReadAs.meets? {v w : Value} {k : Kind} (h : v.ReadAs w) (keeps : v.Keeps k)
    (some : k ≠ .null) (single : k ≠ .collection) :
    Option.Rel Payload.Interchangeable (v.meets? k) (w.meets? k) := by
  cases h with
  | same v => exact rel_refl _
  | @plain d unsigned =>
      have value : d.toRat = d.writtenOut.toRat :=
        (Decimal.sameValue_iff.mp (Decimal.sameValue_writtenOut unsigned)).symm
      exact meets?_number some single (fun _ => value) (fun _ => toTruth_congr value)
        fun _ => (Decimal.positional_writtenOut unsigned).symm
  | negated signed rounded => exact meets?_negated signed rounded keeps some single
  | lost signed overflow =>
      rw [meets?_lost signed overflow keeps some]
      exact .none
  | moment valid => exact meets?_moment valid some single keeps.2
  | boolean b =>
      rw [meets?_truth keeps some single]
      exact rel_refl _

end Value

/-! ## Constants as operands -/

section

variable {v : Value} {target n : Node} {e : Expr}

theorem align_ofValue_eq_ok {operator : String} (present : v.isNull = false) :
    align operator target (.ofValue v) e = .ok n ↔
      ∃ p, v.meets? target.kind = some p ∧ n = .ofValue ⟨target.kind, p⟩ := by
  have constant : (Node.ofValue v).constant? = some v := rfl
  have kind : (Node.ofValue v).kind = v.kind := rfl
  unfold align Value.meets?
  simp only [constant, kind, present, Bool.false_eq_true, if_false, beq_iff_eq]
  by_cases same : v.kind = target.kind
  · simp [← same, eq_comm]
  · rw [if_neg same, if_neg same]
    by_cases truth : v.kind = .boolean
    · simp [truth, reject]
    · rw [if_neg truth, if_neg truth]
      cases given : v.coerce target.kind with
      | ok w =>
          obtain ⟨aligned, -⟩ := v.coerce_fits same present given
          simp [← aligned, eq_comm]
      | error f =>
          cases f with
          | conversion reason => simpa using label_reject_ne_ok
          | _ => simp

theorem compileBound_ofValue_eq_ok {negated : Bool} :
    compileBound negated target (.ofValue v) e = .ok n ↔
      ∃ p, v.meets? target.kind = some p ∧ n = .ofValue ⟨target.kind, p⟩ := by
  have null : (Node.ofValue v).isNullConstant = v.isNull := rfl
  rw [compileBound, null]
  cases present : v.isNull with
  | true => simp [reject, Value.meets?, present]
  | false => exact align_ofValue_eq_ok present

theorem compileComparison_ofValue_eq_ok {c : Comparison} {f : Expr}
    (field : target.isConstant = false) :
    compileComparison c target (.ofValue v) f e = .ok n ↔
      (target.kind ≠ .collection ∧ (c.isEquality = true ∨ target.kind.isOrdered = true)) ∧
      ∃ p, v.meets? target.kind = some p ∧
        n = booleanNode (.compare c target.term (.constant ⟨target.kind, p⟩)) := by
  have null : (Node.ofValue v).isNullConstant = v.isNull := rfl
  have constant : (Node.ofValue v).isConstant = true := rfl
  have open' (p : Payload) :
      [target, Node.ofValue ⟨target.kind, p⟩].all Node.isConstant = false := by
    simp [field]
  constructor
  · intro h
    obtain ⟨-, present, l, r, aligned, single, applies, folded⟩ := compileComparison_eq_ok h
    rw [null] at present
    rcases alignBoth_eq_ok aligned with ⟨-, rfl, aligned⟩ | ⟨other, -, -⟩
    · obtain ⟨p, met, rfl⟩ := (align_ofValue_eq_ok present).mp aligned
      rw [fold_of_open (open' p)] at folded
      exact ⟨⟨single, applies⟩, p, met, (Except.ok.inj folded).symm⟩
    · simp [constant] at other
  · rintro ⟨⟨single, applies⟩, p, met, rfl⟩
    have present : v.isNull = false := by
      cases absent : v.isNull with
      | true => simp [Value.meets?, absent] at met
      | false => rfl
    have aligned : align c.symbol target (.ofValue v) e = .ok (.ofValue ⟨target.kind, p⟩) :=
      (align_ofValue_eq_ok present).mpr ⟨p, met, rfl⟩
    have both : alignBoth c.symbol target (.ofValue v) f e =
        .ok (target, .ofValue ⟨target.kind, p⟩) := by
      simp [alignBoth, constant, aligned]
    exact (compileComparison_of_aligned (isNullConstant_of_open field) (null.trans present) both
      single applies).trans (fold_of_open (open' p))

theorem compileMember_ofValue_eq_ok {negated : Bool} (single : target.kind ≠ .collection)
    {payloads : List Payload} :
    compileMember negated target (.ofValue v) e = .ok payloads ↔
      ∃ p, v.meets? target.kind = some p ∧ p.unhashable? = none ∧ payloads = [p] := by
  have constant : (Node.ofValue v).constant? = some v := rfl
  unfold compileMember
  simp only [constant]
  cases present : v.isNull with
  | true => simp [reject, Value.meets?, present]
  | false =>
      simp only [Bool.false_eq_true, if_false, beq_iff_eq, single]
      constructor
      · intro h
        obtain ⟨aligned, bringing, h⟩ := bind_eq_ok.mp h
        obtain ⟨p, met, rfl⟩ := (align_ofValue_eq_ok present).mp bringing
        obtain ⟨q, evaluated, h⟩ := bind_eq_ok.mp h
        cases evaluated
        obtain ⟨q, required, h⟩ := bind_eq_ok.mp h
        obtain ⟨hashable, rfl⟩ := requireHashable_eq_ok required
        exact ⟨p, met, hashable, (pure_eq_ok.mp h).symm⟩
      · rintro ⟨p, met, hashable, rfl⟩
        have aligned : align (amongSymbol negated) target (.ofValue v) e =
          .ok (.ofValue ⟨target.kind, p⟩) := (align_ofValue_eq_ok present).mpr ⟨p, met, rfl⟩
        rw [aligned]
        simp [Node.ofValue, evalClosed, Term.eval, orFault, requireHashable, hashable]

end

end RecordFilter
