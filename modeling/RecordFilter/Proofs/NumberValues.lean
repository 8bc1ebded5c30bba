import RecordFilter.Proofs.CorrectRounding
import RecordFilter.Proofs.LinearOrder
import RecordFilter.Proofs.Numerals

/-!
# The values of numbers

A payload of the kind of numbers is a whole number or a decimal one, or Null.  Comparisons and
membership see only its value.  Arithmetic gives the exact result where it gives a whole number, and
otherwise the exact result rounded, whatever the operands are written as.
-/

namespace RecordFilter

namespace Payload

def value? (p : Payload) : Option ℚ := (Arithmetic.number? p).map Decimal.toRat

@[simp] theorem value?_int (n : ℤ) : (int n).value? = some (n : ℚ) :=
  congrArg some (Decimal.toRat_ofInt n)

@[simp] theorem value?_decimal (d : Decimal) : (decimal d).value? = some d.toRat := rfl

theorem FitsOrNull.value?_eq_none {p : Payload} (h : p.FitsOrNull .number) :
    p.value? = none ↔ p = .null := by
  rcases h with rfl | h
  · exact iff_of_true rfl rfl
  · cases h <;> exact iff_of_false nofun nofun

structure NumbersAgree (p q : Payload) : Prop where
  left : p.FitsOrNull .number
  right : q.FitsOrNull .number
  value : p.value? = q.value?

namespace NumbersAgree

variable {p q p' q' : Payload}

theorem refl (h : p.FitsOrNull .number) : p.NumbersAgree p := ⟨h, h, rfl⟩

theorem isNull (h : p.NumbersAgree q) : p.isNull = q.isNull := by
  rw [Bool.eq_iff_iff, isNull_iff, isNull_iff, ← h.left.value?_eq_none, ← h.right.value?_eq_none,
    h.value]

theorem ordered (h : p.NumbersAgree q) (h' : p'.NumbersAgree q') (some : p.isNull = false)
    (some' : p'.isNull = false) : ∃ o, p.Ordered p' o ∧ q.Ordered q' o := by
  obtain ⟨d, left⟩ := (h.left.fits some).number?_eq
  obtain ⟨e, right⟩ := (h.right.fits (h.isNull ▸ some)).number?_eq
  obtain ⟨d', left'⟩ := (h'.left.fits some').number?_eq
  obtain ⟨e', right'⟩ := (h'.right.fits (h'.isNull ▸ some')).number?_eq
  have value : d.toRat = e.toRat := by simpa [value?, left, right] using h.value
  have value' : d'.toRat = e'.toRat := by simpa [value?, left', right'] using h'.value
  exact ⟨_, .number left left' rfl, .number right right' (by rw [value, value'])⟩

theorem test (h : p.NumbersAgree q) (h' : p'.NumbersAgree q') (some : p.isNull = false)
    (some' : p'.isNull = false) (c : Comparison) : c.test p p' = c.test q q' := by
  obtain ⟨o, order, order'⟩ := h.ordered h' some some'
  rw [Comparison.test_of_ordered order, Comparison.test_of_ordered order']

theorem testNonNull (h : p.NumbersAgree q) (h' : p'.NumbersAgree q') (c : Comparison) :
    c.testNonNull p p' = c.testNonNull q q' := by
  unfold Comparison.testNonNull
  rw [← h.isNull, ← h'.isNull]
  split_ifs with null
  · rfl
  · simp only [Bool.or_eq_true, not_or, Bool.not_eq_true] at null
    exact h.test h' null.1 null.2 c

theorem isWithin {low low' high high' : Payload} (h : p.NumbersAgree q)
    (some : p.isNull = false) (hLow : low.NumbersAgree low') (hHigh : high.NumbersAgree high') :
    p.isWithin low high = q.isWithin low' high' := by
  unfold Payload.isWithin
  rw [← hLow.isNull, ← hHigh.isNull]
  split_ifs with null
  · rfl
  · simp only [Bool.or_eq_true, not_or, Bool.not_eq_true] at null
    rw [hLow.test h null.1 some, h.test hHigh some null.2]

theorem isMember (h : p.NumbersAgree q) {members : List Payload}
    (numbers : ∀ m ∈ members, m.Fits .number) (some : p.isNull = false) :
    p.isMember members = q.isMember members := by
  have same : ∀ m ∈ members, m.same p = m.same q := by
    intro m found
    have fits := numbers m found
    have agrees := refl (.inr fits)
    obtain ⟨o, order, order'⟩ := agrees.ordered h (fits.isNull (by decide)) some
    rw [Comparison.same_of_ordered order, Comparison.same_of_ordered order']
  have found : members.any (·.same p) = members.any (·.same q) := by
    rw [Bool.eq_iff_iff, List.any_eq_true, List.any_eq_true]
    exact exists_congr fun m => and_congr_right fun found => by rw [same m found]
  unfold Payload.isMember
  rw [(h.left.fits some).isFindable (by decide),
    (h.right.fits (h.isNull ▸ some)).isFindable (by decide), found]

end NumbersAgree

/-! ## Results of arithmetic -/

/-- What is made of an exact result: a whole number may be kept as it is, and any number may be
rounded. -/
inductive Computed (exact : Option ℚ) : Payload → Prop
  | whole {n : ℤ} (value : exact = some (n : ℚ)) : Computed exact (.int n)
  | rounded {p : Payload} (fits : p.FitsOrNull .number)
      (value : p.value? = exact.bind Decimal.rounded?) : Computed exact p

theorem Computed.agree {exact : Option ℚ} {p q : Payload} (h : Computed exact p)
    (h' : Computed exact q)
    (kept : ∀ n : ℤ, p = .int n ∨ q = .int n → p = q ∨ (Decimal.ofInt n).survives = true) :
    p.NumbersAgree q := by
  have survives {n : ℤ} (h : (Decimal.ofInt n).survives = true) :
      Decimal.rounded? n = some (n : ℚ) := by
    rwa [Decimal.survives_iff, Decimal.toRat_ofInt] at h
  cases h with
  | @whole n value =>
      have fits : (int n).FitsOrNull .number := .inr (.int n)
      rcases kept n (.inl rfl) with rfl | small
      · exact .refl fits
      cases h' with
      | @whole m value' => exact ⟨fits, .inr (.int m), by simpa [value] using value'⟩
      | rounded fits' value' =>
          exact ⟨fits, fits', by rw [value', value, Option.bind_some, survives small, value?_int]⟩
  | rounded fits value =>
      cases h' with
      | @whole m value' =>
          have fits' : (int m).FitsOrNull .number := .inr (.int m)
          rcases kept m (.inr rfl) with rfl | small
          · exact .refl fits'
          · exact ⟨fits, fits', by rw [value, value', Option.bind_some, survives small, value?_int]⟩
      | rounded fits' value' => exact ⟨fits, fits', value.trans value'.symm⟩

end Payload

namespace Arithmetic

open Payload

def unrounded? (op : Arithmetic) (a b : ℚ) : Option ℚ :=
  match op with
  | add => some (a + b)
  | subtract => some (a - b)
  | multiply => some (a * b)
  | divide => if b = 0 then none else some (a / b)

theorem value?_ofResult (result : Option Decimal) :
    (ofResult result).value? = result.map Decimal.toRat := by
  cases result <;> rfl

theorem isZero_iff {p : Payload} {d : Decimal} (h : number? p = some d) :
    isZero p = true ↔ d.toRat = 0 := by
  have order : p.Ordered (.int 0) (compare d.toRat (Decimal.ofInt 0).toRat) := .number h rfl rfl
  rw [isZero, Comparison.same_of_ordered order, beq_iff_eq, compare_eq_iff_eq,
    Decimal.toRat_ofInt, Int.cast_zero]

theorem onDecimals_value (op : Arithmetic) (d : Decimal) {e : Decimal} {q : Payload}
    (right : number? q = some e) :
    (if op == divide && isZero q then null else ofResult (op.onDecimals d e)).value? =
      (op.unrounded? d.toRat e.toRat).bind Decimal.rounded? := by
  cases op with
  | add => exact (value?_ofResult _).trans (Decimal.toRat_add? d e)
  | subtract => exact (value?_ofResult _).trans (Decimal.toRat_subtract? d e)
  | multiply => exact (value?_ofResult _).trans (Decimal.toRat_multiply? d e)
  | divide =>
      have zero := isZero_iff right
      by_cases none : e.toRat = 0
      · rw [zero.mpr none, unrounded?, if_pos none]
        rfl
      · have some : e.isZero = false := by
          rwa [Decimal.toRat_eq_zero_iff, Bool.not_eq_true] at none
        rw [← zero, Bool.not_eq_true] at none
        rw [none, Bool.and_false, if_neg Bool.false_ne_true, value?_ofResult, onDecimals,
          Decimal.toRat_divide? some, unrounded?, if_neg (by rw [← zero, none]; decide),
          Option.bind_some]

/-- Whole numbers are added, subtracted and multiplied exactly; all other results are rounded. -/
theorem onNumbers_computed (op : Arithmetic) (p q : Payload) :
    Computed (do op.unrounded? (← p.value?) (← q.value?)) (op.onNumbers p q) := by
  have fits := op.onNumbers_fits p q
  generalize result : op.onNumbers p q = r at fits
  unfold onNumbers at result
  split at result
  · exact result ▸ .whole (by simp [unrounded?])
  · exact result ▸ .whole (by simp [unrounded?])
  · exact result ▸ .whole (by simp [unrounded?])
  · refine .rounded fits ?_
    split at result
    · next d e left right =>
        have left' : p.value? = some d.toRat := by rw [value?, left, Option.map_some]
        have right' : q.value? = some e.toRat := by rw [value?, right, Option.map_some]
        rw [← result, left', right']
        exact op.onDecimals_value d right
    · next missing =>
        have none : p.value? = none ∨ q.value? = none := by
          cases left : number? p with
          | none => exact .inl (by rw [value?, left, Option.map_none])
          | some d =>
              cases right : number? q with
              | none => exact .inr (by rw [value?, right, Option.map_none])
              | some e => exact (missing d e left right).elim
        rw [← result]
        rcases none with none | none
        · rw [none]
          rfl
        · rw [none]
          cases p.value? <;> rfl

end Arithmetic

theorem Payload.negate_computed {p q : Payload} (h : p.FitsOrNull .number)
    (negated : p.negate = .ok q) : Computed (p.value?.map (- ·)) q := by
  rcases h with rfl | h
  · cases negated
    exact .rounded (.inl rfl) rfl
  · cases h with
    | int n =>
        cases negated
        exact .whole (by simp)
    | decimal d =>
        cases negated
        refine .rounded (Arithmetic.ofResult_fits _) ?_
        rw [Arithmetic.value?_ofResult, Decimal.toRat_negate?]
        rfl

end RecordFilter
