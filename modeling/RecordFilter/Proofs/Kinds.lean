import Mathlib.Tactic.SplitIfs
import RecordFilter.Predicate.Term
import RecordFilter.Proofs.Outcomes

/-!
# Payloads of a kind

A payload fits a kind if it is one that the operators of the kind are defined for: whole and
decimal numbers, texts, timestamps without an offset, truth values, collections.  Whatever a field
holds is brought to such a payload or to Null, and constants are converted to such payloads only.
Operators stay among them: arithmetic on numbers gives a number or Null, and comparisons, lengths
and negations of fitting operands are always defined.
-/

namespace RecordFilter

namespace Payload

inductive Fits : Payload → Kind → Prop
  | null : Fits .null .null
  | bool (b : Bool) : Fits (.bool b) .boolean
  | int (n : Int) : Fits (.int n) .number
  | decimal (d : Decimal) : Fits (.decimal d) .number
  | text (s : String) : Fits (.text s) .text
  | moment (m : Moment) : Fits (.ofMoment m) .timestamp
  | list (items : List Payload) : Fits (.list items) .collection
  | tuple (items : List Payload) : Fits (.tuple items) .collection
  | set (isFrozen : Bool) (items : List Payload) : Fits (.set isFrozen items) .collection

def FitsOrNull (p : Payload) (k : Kind) : Prop := p = .null ∨ p.Fits k

theorem isNull_iff {p : Payload} : p.isNull = true ↔ p = .null := by
  cases p <;> simp [isNull]

theorem isSignaling_iff {p : Payload} : p.isSignaling = true ↔ p = .signaling := by
  cases p <;> simp [isSignaling]

theorem Fits.isNull {p : Payload} {k : Kind} (h : p.Fits k) (some : k ≠ .null) :
    p.isNull = false := by
  cases h with
  | null => exact absurd rfl some
  | _ => rfl

theorem Fits.isSignaling {p : Payload} {k : Kind} (h : p.Fits k) : p.isSignaling = false := by
  cases h <;> rfl

theorem Fits.isFindable {p : Payload} {k : Kind} (h : p.Fits k) (single : k ≠ .collection) :
    p.isFindable = true := by
  cases h <;> first | rfl | exact absurd rfl single

theorem Fits.eq_null {p : Payload} (h : p.Fits .null) : p = .null := by
  cases h
  rfl

theorem FitsOrNull.fits {p : Payload} {k : Kind} (h : p.FitsOrNull k) (some : p.isNull = false) :
    p.Fits k := by
  rcases h with rfl | fits
  · cases some
  · exact fits

theorem Fits.patternText {p : Payload} {k : Kind} (h : p.Fits k) :
    p.patternText (k == .text) = p.displayed := by
  cases h with
  | text s => simp [Payload.patternText, displayed]
  | _ => rfl

/-! ## Conversions -/

theorem fits_collection_iff {p : Payload} : p.Fits .collection ↔ p.items?.isSome = true := by
  constructor
  · intro h
    cases h <;> rfl
  · intro h
    cases p with
    | list items => exact .list items
    | tuple items => exact .tuple items
    | set isFrozen items => exact .set isFrozen items
    | _ => cases h

inductive Brought : Payload → Kind → Payload → Prop
  | whole (n : Int) : Brought (int n) .number (int n)
  | number {p : Payload} {d : Decimal} (converted : p.toNumber = .ok d) :
      Brought p .number (decimal d)
  | text {p : Payload} {s : String} (converted : p.displayed = .ok s) : Brought p .text (text s)
  | timestamp {p : Payload} {m : Moment} (converted : p.toMoment = .ok m) :
      Brought p .timestamp (ofMoment m)
  | boolean {p : Payload} {b : Bool} (converted : p.toTruth = .ok b) : Brought p .boolean (bool b)
  | collection {p : Payload} (items : p.items?.isSome = true) : Brought p .collection p

theorem nullOnFailure_map {α : Type} {make : α → Payload} {x : Except Fault α} {q : Payload}
    (h : nullOnFailure (x.map make) = .ok q) : q = .null ∨ ∃ a, x = .ok a ∧ make a = q := by
  cases x with
  | ok a =>
      cases h
      exact .inr ⟨a, rfl, rfl⟩
  | error f =>
      cases f <;> cases h
      exact .inl rfl

theorem brought_of_normalize {k : Kind} {p q : Payload} (h : p.normalize k = .ok q) :
    q = .null ∨ p.Brought k q := by
  unfold normalize at h
  by_cases null : p.isNull
  · rw [if_pos null] at h
    cases h
    exact .inl rfl
  rw [if_neg null] at h
  cases k with
  | null =>
      cases h
      exact .inl rfl
  | boolean =>
      refine (nullOnFailure_map h).imp_right ?_
      rintro ⟨b, converted, rfl⟩
      exact .boolean converted
  | timestamp =>
      refine (nullOnFailure_map h).imp_right ?_
      rintro ⟨m, converted, rfl⟩
      exact .timestamp converted
  | collection =>
      cases h
      split_ifs with items
      · exact .inr (.collection items)
      · exact .inl rfl
  | number =>
      simp only at h
      split at h
      · cases h
        exact .inr (.whole _)
      · refine (nullOnFailure_map h).imp_right ?_
        rintro ⟨d, converted, rfl⟩
        exact .number converted
  | text =>
      simp only at h
      split at h
      · cases h
        exact .inr (.text (by rw [displayed]))
      · obtain ⟨s, converted, rfl⟩ := map_eq_ok.mp h
        exact .inr (.text converted)

theorem Brought.fits {k : Kind} {p q : Payload} (h : p.Brought k q) : q.Fits k := by
  cases h with
  | whole n => exact .int n
  | number => exact .decimal _
  | text => exact .text _
  | timestamp => exact .moment _
  | boolean => exact .bool _
  | collection items => exact fits_collection_iff.mpr items

/-- A field is read as a payload of its kind, or as Null. -/
theorem normalize_fits {k : Kind} {p q : Payload} (h : p.normalize k = .ok q) : q.FitsOrNull k :=
  (brought_of_normalize h).imp_right Brought.fits

end Payload

theorem Value.undefinedConversion_ne_ok {v w : Value} {target : Kind} :
    v.undefinedConversion target ≠ .ok w := by
  intro defined
  obtain ⟨_, -, failed⟩ := bind_eq_ok.mp defined
  cases failed

theorem Value.coerce_fits {v w : Value} {target : Kind} (other : v.kind ≠ target)
    (some : v.isNull = false) (h : v.coerce target = .ok w) :
    w.kind = target ∧ w.raw.Fits target := by
  unfold coerce at h
  rw [if_neg (by simpa [some] using other)] at h
  split at h
  · obtain ⟨d, -, rfl⟩ := map_eq_ok.mp h
    exact ⟨rfl, .decimal d⟩
  · obtain ⟨d, -, rfl⟩ := map_eq_ok.mp h
    exact ⟨rfl, .decimal d⟩
  · exact absurd h undefinedConversion_ne_ok
  · obtain ⟨s, -, rfl⟩ := map_eq_ok.mp h
    exact ⟨rfl, .text s⟩
  · split at h
    · obtain ⟨m, -, rfl⟩ := map_eq_ok.mp h
      exact ⟨rfl, .moment m⟩
    · exact absurd h undefinedConversion_ne_ok
  · obtain ⟨b, -, rfl⟩ := map_eq_ok.mp h
    exact ⟨rfl, .bool b⟩
  · obtain ⟨b, -, rfl⟩ := map_eq_ok.mp h
    exact ⟨rfl, .bool b⟩
  · exact absurd h undefinedConversion_ne_ok

theorem Value.coerce_kind {v w : Value} {target : Kind} (some : v.isNull = false)
    (h : v.coerce target = .ok w) : w.kind = target := by
  by_cases same : v.kind = target
  · unfold coerce at h
    rw [if_pos (by simp [same])] at h
    cases h
    exact same
  · exact (coerce_fits same some h).1

/-! ## Arithmetic -/

namespace Arithmetic

open Payload

def number? : Payload → Option Decimal
  | .int n => some (.ofInt n)
  | .decimal d => some d
  | _ => none

def onNumbers (op : Arithmetic) (p q : Payload) : Payload :=
  match op, p, q with
  | .add, .int m, .int n => .int (m + n)
  | .subtract, .int m, .int n => .int (m - n)
  | .multiply, .int m, .int n => .int (m * n)
  | op, p, q =>
      match number? p, number? q with
      | some d, some e =>
          if op == .divide && isZero q then .null else ofResult (op.onDecimals d e)
      | _, _ => .null

theorem ofResult_fits (result : Option Decimal) : (ofResult result).FitsOrNull .number := by
  cases result with
  | none => exact .inl rfl
  | some d => exact .inr (.decimal d)

theorem onNumbers_fits (op : Arithmetic) (p q : Payload) :
    (op.onNumbers p q).FitsOrNull .number := by
  unfold onNumbers
  split
  · exact .inr (.int _)
  · exact .inr (.int _)
  · exact .inr (.int _)
  · split
    · split_ifs
      · exact .inl rfl
      · exact ofResult_fits _
    · exact .inl rfl

theorem apply_eq (op : Arithmetic) {p q : Payload} (hp : p.FitsOrNull .number)
    (hq : q.FitsOrNull .number) : op.apply p q = .ok (op.onNumbers p q) := by
  rcases hp with rfl | hp
  · cases op <;> simp [apply, Payload.isNull, onNumbers, number?]
  rcases hq with rfl | hq
  · cases op <;> cases hp <;> simp [apply, Payload.isNull, onNumbers, number?]
  have present : (p.isNull || q.isNull) = false := by
    simp [hp.isNull (by decide), hq.isNull (by decide)]
  cases op with
  | divide =>
      have signals := hq.isSignaling
      cases zero : isZero q <;> cases hp <;> cases hq <;>
        simp [apply, present, zero, signals, divideBy, quotient, decimal?, integer?, onNumerals,
          onNumbers, number?]
  | _ =>
      cases hp <;> cases hq <;>
        simp [apply, present, decimal?, integer?, onIntegers, onNumerals, onNumbers, number?]

end Arithmetic

namespace Payload

theorem negate_fits {p : Payload} (h : p.FitsOrNull .number) :
    ∃ q, p.negate = .ok q ∧ q.FitsOrNull .number := by
  rcases h with rfl | h
  · exact ⟨.null, rfl, .inl rfl⟩
  · cases h with
    | int n => exact ⟨.int (-n), rfl, .inr (.int _)⟩
    | decimal d => exact ⟨_, rfl, Arithmetic.ofResult_fits _⟩

end Payload

/-! ## Comparisons -/

def Comparison.AppliesTo (c : Comparison) (k : Kind) : Prop :=
  k ≠ .null ∧ k ≠ .collection ∧ (c.isEquality = true ∨ k.isOrdered = true)

theorem Comparison.order_defined (c : Comparison) {p q : Payload} {k : Kind}
    (ordered : k.isOrdered = true) (hp : p.Fits k) (hq : q.Fits k) :
    ∃ o, c.order p q = .ok (some o) := by
  cases hp with
  | null | bool b | list items | tuple items | set isFrozen items => cases ordered
  | text s =>
      cases hq
      exact ⟨_, rfl⟩
  | moment m =>
      cases hq
      exact ⟨_, rfl⟩
  | int n | decimal d => cases hq <;> exact ⟨_, rfl⟩

theorem Comparison.test_of_order {c : Comparison} (order : c.isEquality = false) (p q : Payload) :
    c.test p q = (c.order p q).map fun o => o.any c.holds := by
  cases c with
  | equal | notEqual => cases order
  | _ => rfl

theorem Comparison.meetsSignal_of_fits {p q : Payload} {j k : Kind} (hp : p.Fits j)
    (hq : q.Fits k) : meetsSignal p q = false := by
  simp [meetsSignal, hp.isSignaling, hq.isSignaling]

theorem Comparison.test_equal {p q : Payload} {j k : Kind} (hp : p.Fits j) (hq : q.Fits k) :
    equal.test p q = .ok (p.same q) := by
  simp [test, meetsSignal_of_fits hp hq]

theorem Comparison.test_notEqual {p q : Payload} {j k : Kind} (hp : p.Fits j) (hq : q.Fits k) :
    notEqual.test p q = .ok (!p.same q) := by
  simp [test, meetsSignal_of_fits hp hq]

theorem Comparison.test_defined {c : Comparison} {p q : Payload} {k : Kind}
    (applies : c.AppliesTo k) (hp : p.Fits k) (hq : q.Fits k) : ∃ b, c.test p q = .ok b := by
  obtain ⟨-, -, kinds⟩ := applies
  cases equality : c.isEquality with
  | true =>
      cases c with
      | equal => exact ⟨_, test_equal hp hq⟩
      | notEqual => exact ⟨_, test_notEqual hp hq⟩
      | _ => cases equality
  | false =>
      have ordered : k.isOrdered = true := by simpa [equality] using kinds
      obtain ⟨o, defined⟩ := c.order_defined ordered hp hq
      rw [test_of_order equality, defined]
      exact ⟨_, rfl⟩

end RecordFilter
