import RecordFilter.Proofs.BuiltConditions
import RecordFilter.Proofs.CorrectRounding
import RecordFilter.Proofs.DocumentNumbers
import RecordFilter.Proofs.ValueTexts

/-!
# Fields and constants of one payload

One payload can stand in a record and in a filter.  The field is brought to its declared kind at
once; the constant first gets the kind of the payload, as a decimal number or as a moment in
universal time, and is then converted to the kind of the field.  Both give the same number, the
same moment and the same truth value, so that a field equals the constant of its own payload.  As
texts they may differ: a date is written as the moment it is for a constant, a moment without the
offset it came with, and a floating-point number without an exponent.
-/

namespace RecordFilter

open Number Text

/-! ## Numbers as text -/

namespace Decimal

theorem not_mem_positional (d : Decimal) : 'e' ∉ d.positional.toList := by
  have spelled : SpellsNumber d.writtenOut.positionalChars d.writtenOut :=
    spells_positional rfl (Int.min_le_right _ _)
  have unmarked : 'e' ∉ d.writtenOut.positionalChars := fun found => by
    rcases spelled.plain _ found with digit | point
    · cases digit
    · cases point
  rw [positional, String.toList_ofList, positionalChars_writtenOut]
  cases d.negative with
  | false => exact unmarked
  | true => exact fun found => (List.mem_cons.mp found).elim (by decide) unmarked

theorem positional_ofInt (n : Int) : (ofInt n).positional = String.ofList (signedDigits n) := by
  have positive : 0 < (digits n.natAbs).length := Nat.length_toDigits_pos
  have chars : (ofInt n).positionalChars = withSign (n < 0) (digits n.natAbs) := by
    simp [positionalChars, ofInt, pointed, zeros, Nat.ne_of_gt positive]
  rw [positional, chars, signedDigits]
  by_cases negative : n < 0 <;> simp [withSign, negative]

theorem pointed_append {front behind : List Char} (some : front ≠ []) (more : behind ≠ []) :
    pointed (front ++ behind) front.length = front ++ '.' :: behind := by
  have positive : 0 < front.length := List.length_pos_iff.mpr some
  have longer : 0 < behind.length := List.length_pos_iff.mpr more
  have before : ¬ (front.length : Int) ≤ 0 := by omega
  have within : ¬ ((front ++ behind).length : Int) ≤ front.length := by
    rw [List.length_append]
    omega
  rw [pointed, if_neg before, if_neg within, Int.toNat_natCast, List.take_left, List.drop_left]

theorem mem_withSign {negative : Bool} {text : List Char} {c : Char} (h : c ∈ text) :
    c ∈ withSign negative text := by
  cases negative with
  | false => exact h
  | true => exact List.mem_cons_of_mem _ h

end Decimal

namespace Binary64

theorem pointed_whole {n : Nat} (positive : 0 < n) (k : Nat) :
    Decimal.pointed (digits n) (k + (digits n).length) ++ ['.', '0'] =
      Decimal.pointed (digits (n * powerOfTen (k + 1)))
        (-1 + (digits (n * powerOfTen (k + 1))).length) := by
  have some : 0 < (digits n).length := Nat.length_toDigits_pos
  have all : digits (n * powerOfTen (k + 1)) = (digits n ++ zeros k) ++ ['0'] := by
    simp [Decimal.digits_shifted positive, zeros, List.replicate_succ']
  have place : (-1 + ((digits n ++ zeros k) ++ ['0']).length : Int) =
      (digits n ++ zeros k).length := by
    rw [List.length_append, List.length_singleton]
    omega
  have front : Decimal.pointed (digits n) (k + (digits n).length) = digits n ++ zeros k := by
    have before : ¬ (k + (digits n).length : Int) ≤ 0 := by omega
    have within : ((digits n).length : Int) ≤ k + (digits n).length := by omega
    simp [Decimal.pointed, before, within]
  rw [all, place, front,
    Decimal.pointed_append (by simp [digits_ne_nil]) (List.cons_ne_nil _ _)]

theorem mem_digitsText {digits : List Char} {place : Int} (marked : isPlain place = false) :
    'e' ∈ digitsText digits place := by
  simp [digitsText, marked]

theorem text_eq_positional_iff {x : Binary64} {d : Decimal} (number : x.toNumeral = .finite d) :
    x.text = d.positional ↔ 'e' ∉ x.text.toList := by
  refine ⟨fun same => same ▸ d.not_mem_positional, fun unmarked => ?_⟩
  cases x with
  | nonFinite x => cases number
  | finite negative mantissa exponent =>
      by_cases zero : mantissa = 0
      · subst zero
        cases number
        rw [text, if_pos rfl]
        clear unmarked
        cases negative <;> decide +kernel
      have nonzero := shortest_ne_zero zero exponent
      simp only [toNumeral, if_neg zero] at number
      simp only [text, if_neg zero, String.toList_ofList] at unmarked ⊢
      generalize shortest mantissa exponent = s at *
      have plain : isPlain (s.exponent + (digits s.coefficient).length) = true := by
        by_contra marked
        exact unmarked (Decimal.mem_withSign (mem_digitsText (Bool.not_eq_true _ ▸ marked)))
      simp only [digitCount, plain, Bool.true_and, decide_eq_true_eq] at number
      rw [Decimal.positional, Decimal.positionalChars, digitsText, if_pos plain]
      by_cases whole : s.exponent ≥ 0
      · obtain ⟨k, count⟩ := Int.eq_ofNat_of_zero_le whole
        have power : ((k : Int) + 1).toNat = k + 1 := by omega
        have behind : ((digits s.coefficient).length : Int) ≤
          k + (digits s.coefficient).length := by omega
        rw [if_pos whole, count, power] at number
        cases number
        rw [count, if_pos behind, pointed_whole (Nat.pos_of_ne_zero nonzero)]
        simp
      · have ahead : ¬ ((digits s.coefficient).length : Int) ≤
          s.exponent + (digits s.coefficient).length := by omega
        rw [if_neg whole] at number
        cases number
        simp [Decimal.isZero, nonzero, ahead]

end Binary64

/-! ## Moments as text -/

theorem count_paddedDigits (width n : Nat) : (paddedDigits width n).count ':' = 0 := by
  refine List.count_eq_zero.mpr fun found => ?_
  cases isAsciiDigit_of_mem_paddedDigits found

theorem Date.count_text (d : Date) : d.text.count ':' = 0 := by
  simp [text, count_paddedDigits]

theorem Moment.count_clockText (m : Moment) : m.clockText.count ':' = 2 := by
  unfold clockText
  split_ifs <;> simp [count_paddedDigits]

theorem mem_offsetText (offset : Int) : ':' ∈ offsetText offset := by
  simp [offsetText]

namespace Timestamp

theorem count_text (t : Timestamp) :
    (t.text ' ').count ':' = 2 + ((t.offset.map offsetText).getD []).count ':' := by
  simp [text, Date.count_text, Moment.count_clockText]

theorem text_eq_universal_iff {t : Timestamp} {m : Moment} (universal : t.universal? = some m) :
    t.text ' ' = text ' ' ⟨m, none⟩ ↔ t.offset = none := by
  cases given : t.offset with
  | none =>
      obtain ⟨moment, offset⟩ := t
      subst given
      cases universal
      exact iff_of_true rfl rfl
  | some offset =>
      refine iff_of_false (fun same => ?_) nofun
      have counts := congrArg (List.count ':') same
      have positive := List.count_pos_iff.mpr (mem_offsetText offset)
      rw [count_text, count_text, given] at counts
      simp at counts
      omega

end Timestamp

theorem Date.text_ne_midnight (d : Date) :
    d.text ≠ Timestamp.text ' ' ⟨.midnight d, none⟩ := by
  intro same
  have counts := congrArg (List.count ':') same
  rw [count_text, Timestamp.count_text] at counts
  omega

/-! ## What fields and constants are brought to -/

namespace Payload

/-- A payload is displayed like the constant that is made of it: it is not a date, has no offset,
and its text has no exponent. -/
def keepsText : Payload → Bool
  | date _ => false
  | timestamp t => t.offset.isNone
  | float x => !x.text.toList.contains 'e'
  | _ => true

theorem notFinite_ne_ok {p : Payload} {d : Decimal} : p.notFinite ≠ .ok d := by
  intro finite
  obtain ⟨_, -, failed⟩ := bind_eq_ok.mp finite
  cases failed

theorem toNumber_float {x : Binary64} {d : Decimal} :
    (float x).toNumber = .ok d ↔ x.toNumeral = .finite d := by
  rw [toNumber]
  cases x.toNumeral with
  | finite e => simp
  | nonFinite y => exact iff_of_false notFinite_ne_ok (by simp)
  | signaling => exact iff_of_false notFinite_ne_ok (by simp)

theorem toMoment_timestamp {t : Timestamp} {m : Moment} :
    (timestamp t).toMoment = .ok m ↔ t.universal? = some m := by
  rw [toMoment]
  cases t.universal? <;> simp

end Payload

namespace Value

open Payload

variable {p c : Payload} {v w : Value} {k : Kind}

theorem meets?_of_kind (present : v.isNull = false) (same : v.kind = k)
    (met : v.meets? k = some c) : c = v.raw := by
  rw [meets?, present, if_neg Bool.false_ne_true, if_pos same] at met
  exact (Option.some.inj met).symm

theorem meets?_of_coerce (other : v.kind ≠ k) (coerced : v.coerce k = .ok w)
    (met : v.meets? k = some c) : c = w.raw := by
  unfold meets? at met
  split_ifs at met
  rw [coerced] at met
  exact (Option.some.inj met).symm

theorem meets?_number_of {d : Decimal} (made : ofPayload p = .ok v)
    (converted : p.toNumber = .ok d) (met : v.meets? .number = some c) : c = .decimal d := by
  have number {p : Payload} (made : ofNumber p = .ok v) (converted : p.toNumber = .ok d) :
      v = ⟨.number, .decimal d⟩ := by
    rw [ofNumber, converted] at made
    exact (Except.ok.inj made).symm
  cases p with
  | bool b =>
      cases made
      cases met
  | text s =>
      cases made
      have coerced : coerce ⟨.text, .text s⟩ .number = .ok ⟨.number, .decimal d⟩ := by
        rw [coerce_number, ofNumber, converted]
        rfl
      exact meets?_of_coerce Kind.noConfusion coerced met
  | int | float | decimal | irregular =>
      obtain rfl := number made converted
      exact meets?_of_kind rfl rfl met
  | _ => cases converted

theorem meets?_timestamp_of {m : Moment} (made : ofPayload p = .ok v)
    (converted : p.toMoment = .ok m) (met : v.meets? .timestamp = some c) : c = .ofMoment m := by
  have moment {p : Payload} (made : ofTimestamp p = .ok v) (converted : p.toMoment = .ok m) :
      v = ⟨.timestamp, .ofMoment m⟩ := by
    rw [ofTimestamp, converted] at made
    exact (Except.ok.inj made).symm
  cases p with
  | text s =>
      cases made
      have read : readMoment s = .ok m := converted
      have coerced : coerce ⟨.text, .text s⟩ .timestamp = .ok ⟨.timestamp, .ofMoment m⟩ := by
        rw [coerce_timestamp, read]
        rfl
      exact meets?_of_coerce Kind.noConfusion coerced met
  | timestamp | date =>
      obtain rfl := moment made converted
      exact meets?_of_kind rfl rfl met
  | _ => cases converted

theorem notTruth_ne_ok {b : Bool} : p.notTruth ≠ .ok b := by
  intro truth
  have none := notTruth_toOption p
  rw [truth] at none
  cases none

theorem toTruth_ofInt (n : Int) :
    (Payload.decimal (.ofInt n)).toTruth.toOption = (Payload.int n).toTruth.toOption := by
  have same (m : Int) : (Decimal.ofInt n).sameValue (.ofInt m) = decide (n = m) := by
    rw [Bool.eq_iff_iff, Decimal.sameValue_iff, Decimal.toRat_ofInt, Decimal.toRat_ofInt,
      Int.cast_inj, decide_eq_true_iff]
  simp only [toTruth, same, decide_eq_true_eq]
  split_ifs
  · rfl
  · rfl
  · rw [notTruth_toOption, notTruth_toOption]

theorem meets?_boolean_of {b : Bool} (made : ofPayload p = .ok v) (converted : p.toTruth = .ok b)
    (met : v.meets? .boolean = some c) : c = .bool b := by
  cases p with
  | bool b =>
      cases made
      cases converted
      exact meets?_of_kind rfl rfl met
  | text s =>
      cases made
      have coerced : coerce ⟨.text, .text s⟩ .boolean = .ok ⟨.boolean, .bool b⟩ := by
        rw [coerce_boolean, converted]
        rfl
      exact meets?_of_coerce Kind.noConfusion coerced met
  | decimal d =>
      cases made
      rw [meets?_number_boolean, converted] at met
      exact (Option.some.inj met).symm
  | int n =>
      cases made
      rw [meets?_number_boolean, toTruth_ofInt, converted] at met
      exact (Option.some.inj met).symm
  | signaling => cases made
  | _ => exact absurd converted notTruth_ne_ok

theorem meets?_text_number {d : Decimal} (met : meets? .text ⟨.number, .decimal d⟩ = some c) :
    c = .text d.positional := by
  have coerced : coerce ⟨.number, .decimal d⟩ .text = .ok ⟨.text, .text d.positional⟩ := rfl
  exact meets?_of_coerce Kind.noConfusion coerced met

theorem meets?_text_moment {m : Moment}
    (met : meets? .text ⟨.timestamp, .ofMoment m⟩ = some c) :
    c = .text (String.ofList (Timestamp.text ' ' ⟨m, none⟩)) := by
  have coerced : coerce ⟨.timestamp, .ofMoment m⟩ .text =
    .ok ⟨.text, .text (String.ofList (Timestamp.text ' ' ⟨m, none⟩))⟩ := rfl
  exact meets?_of_coerce Kind.noConfusion coerced met

theorem meets?_text_of {s : String} (known : p.kind? ≠ none) (made : ofPayload p = .ok v)
    (converted : p.displayed = .ok s) (met : v.meets? .text = some c) :
    ∃ t, c = .text t ∧ (s = t ↔ p.keepsText = true) := by
  cases p with
  | null | bool =>
      cases made
      cases met
  | text s' =>
      cases made
      obtain rfl := meets?_of_kind rfl rfl met
      rw [displayed] at converted
      exact ⟨_, rfl, iff_of_true (Except.ok.inj converted).symm rfl⟩
  | int n =>
      cases made
      obtain rfl := meets?_text_number met
      refine ⟨_, rfl, iff_of_true ?_ rfl⟩
      rw [displayed, integerText] at converted
      split_ifs at converted
      rw [← Except.ok.inj converted, Decimal.positional_ofInt]
  | decimal d =>
      cases made
      obtain rfl := meets?_text_number met
      rw [displayed] at converted
      exact ⟨_, rfl, iff_of_true (Except.ok.inj converted).symm rfl⟩
  | float x =>
      obtain ⟨d, number, rfl⟩ := map_eq_ok.mp (show ofNumber (float x) = .ok v from made)
      obtain rfl := meets?_text_number met
      rw [displayed] at converted
      refine ⟨_, rfl, ?_⟩
      rw [← Except.ok.inj converted, Binary64.text_eq_positional_iff (toNumber_float.mp number)]
      simp [keepsText]
  | timestamp t =>
      obtain ⟨m, moment, rfl⟩ := map_eq_ok.mp (show ofTimestamp (timestamp t) = .ok v from made)
      obtain rfl := meets?_text_moment met
      rw [displayed] at converted
      refine ⟨_, rfl, ?_⟩
      rw [← Except.ok.inj converted, String.ofList_inj,
        Timestamp.text_eq_universal_iff (toMoment_timestamp.mp moment)]
      simp [keepsText]
  | date d =>
      cases made
      obtain rfl := meets?_text_moment met
      rw [displayed] at converted
      refine ⟨_, rfl, iff_of_false ?_ Bool.false_ne_true⟩
      rw [← Except.ok.inj converted, String.ofList_inj]
      exact d.text_ne_midnight
  | list | tuple | set =>
      obtain ⟨items, -, rfl⟩ := map_eq_ok.mp (show ofCollection _ = .ok v from made)
      simp [meets?, isNull, coerce, undefinedConversion_toOption] at met
  | irregular | signaling | record | mapping | object | foreign =>
      cases made
  | value => exact absurd rfl known

end Value

/-- What a field is brought to equals the constant that is made of the same payload, except for
texts that the constant does not keep. -/
theorem Payload.Brought.same_meets? {p q c : Payload} {k : Kind} {v : Value}
    (brought : p.Brought k q) (known : p.kind? ≠ none) (single : k ≠ .collection)
    (made : Value.ofPayload p = .ok v) (met : v.meets? k = some c) :
    c.isNull = false ∧ Comparison.equal.test q c = .ok (k != .text || p.keepsText) := by
  cases brought with
  | whole n =>
      obtain rfl := Value.meets?_number_of made rfl met
      rw [Comparison.test_equal (.int n) (.decimal _), (EqualIn.number rfl rfl rfl).same]
      exact ⟨rfl, rfl⟩
  | number converted =>
      obtain rfl := Value.meets?_number_of made converted met
      rw [Comparison.test_equal (.decimal _) (.decimal _), (EqualIn.number rfl rfl rfl).same]
      exact ⟨rfl, rfl⟩
  | timestamp converted =>
      obtain rfl := Value.meets?_timestamp_of made converted met
      rw [Comparison.test_equal (.moment _) (.moment _), (EqualIn.timestamp rfl).same]
      exact ⟨rfl, rfl⟩
  | boolean converted =>
      obtain rfl := Value.meets?_boolean_of made converted met
      rw [Comparison.test_equal (.bool _) (.bool _), (EqualIn.boolean _).same]
      exact ⟨rfl, rfl⟩
  | text converted =>
      obtain ⟨t, rfl, kept⟩ := Value.meets?_text_of known made converted met
      rw [Comparison.test_equal (.text _) (.text _)]
      refine ⟨rfl, congrArg Except.ok ?_⟩
      rw [Bool.eq_iff_iff]
      simpa [Payload.same] using kept
  | collection => exact absurd rfl single

/-! ## Conditions on records -/

section

variable {s : Schema} {lookup : Lookup} {name : String} {k : Kind}

theorem compileComparison_field {c : Comparison} {v : Value} {node : Node}
    (declared : s.declared? name = some k)
    (h : compileExpr (s.resolver lookup) (.binary (.compare c) (.field name) (.const v)) =
      .ok node) :
    k ≠ .collection ∧ ∃ p, v.meets? k = some p ∧
      node.term = .compare c (.field name) (.constant ⟨k, p⟩) := by
  obtain ⟨left, right, field, constant, compiled⟩ := compileBinaryExpr_eq_ok h
  rw [compileExpr_field] at field
  obtain ⟨known, k', found, given, -, rfl⟩ := compileField_eq_ok field
  change s.canonical? name = some known at found
  change s.kind? known = some k' at given
  rw [Schema.canonical?_of_declared declared, Option.some.injEq] at found
  subst found
  rw [Schema.kind?_of_declared declared, Option.some.injEq] at given
  subst given
  cases constant.symm.trans (compileExpr_const _ v)
  obtain ⟨⟨single, -⟩, p, met, rfl⟩ := (compileComparison_ofValue_eq_ok rfl).mp compiled
  exact ⟨single, p, met, rfl⟩

/-- A field is equal to the constant that is made of the payload it holds, where the constant can be
brought to the kind of the field at all.  Only texts that the constant does not keep differ. -/
theorem Condition.accepts_ownPayload {p q record : Payload} {c : Condition} {predicate : Predicate}
    (declared : s.declared? name = some k) (held : lookup.find? record name = some p)
    (known : p.kind? ≠ none) (normal : p.normalize k = .ok q) (present : q.isNull = false)
    (made : Condition.compare (.compare .equal) name p = .ok c)
    (compiled : c.compile (s.resolver lookup) = .ok predicate) :
    predicate.accepts record = .ok (k != .text || p.keepsText) := by
  obtain ⟨v, constant, same⟩ := compare_eq_ok made
  obtain ⟨text, written⟩ := compile_eq_ok compiled
  obtain ⟨node, tested, -, rfl⟩ := compileTo_eq_ok written
  rw [same] at tested
  obtain ⟨single, a, met, term⟩ := compileComparison_field declared tested
  have brought : p.Brought k q := by
    refine (Payload.brought_of_normalize normal).resolve_left ?_
    rintro rfl
    cases present
  obtain ⟨nonNull, equal⟩ := brought.same_meets? known single constant met
  have read : s.read lookup name record = .ok q := by
    simp [Schema.read, Schema.canonical?_of_declared declared, declared, held, normal]
  have evaluated : node.term.eval (s.read lookup) record =
      .ok (.bool (k != .text || p.keepsText)) := by
    simp [term, Term.eval, read, present, nonNull, Comparison.testNonNull, equal]
  exact congrArg (Except.map Payload.isTrue) evaluated

end

def marchFirst : Payload := .date ⟨2024, 3, 1⟩

theorem Condition.accepts_ownPayload_marchFirst :
    ∃ q c predicate, recentSchema.declared? "At" = some .timestamp ∧
      Lookup.byName.find? (.record [("At", marchFirst)]) "At" = some marchFirst ∧
      marchFirst.kind? ≠ none ∧ marchFirst.normalize .timestamp = .ok q ∧ q.isNull = false ∧
      Condition.compare (.compare .equal) "At" marchFirst = .ok c ∧
      c.compile (recentSchema.resolver .byName) = .ok predicate ∧
      predicate.accepts (.record [("At", marchFirst)]) = .ok true := by
  have declared : recentSchema.declared? "At" = some .timestamp := rfl
  have held : Lookup.byName.find? (.record [("At", marchFirst)]) "At" = some marchFirst := rfl
  have known : marchFirst.kind? ≠ none := nofun
  obtain ⟨q, normal, present⟩ :
      ∃ q, marchFirst.normalize .timestamp = .ok q ∧ q.isNull = false := ⟨_, rfl, rfl⟩
  obtain ⟨c, made, predicate, compiled⟩ :
      ∃ c, Condition.compare (.compare .equal) "At" marchFirst = .ok c ∧
        ∃ predicate, c.compile (recentSchema.resolver .byName) = .ok predicate :=
    ⟨_, rfl, _, rfl⟩
  exact ⟨q, c, predicate, declared, held, known, normal, present, made, compiled,
    accepts_ownPayload declared held known normal present made compiled⟩

theorem Condition.compare_of_constant {op : BinaryOp} {p : Payload} {v : Value}
    (some : p.isNull = false) (constant : Value.ofPayload p = .ok v) :
    Condition.compare op name p = .ok ⟨.binary op (.field name) (.const v)⟩ := by
  simp [Condition.compare, literal, some, constant, orFault, Except.map]

def RejectsOwnPayload (p : Payload) : Prop :=
  ∃ q c predicate, p.normalize .text = .ok q ∧ q.isNull = false ∧
    Condition.compare (.compare .equal) "Note" p = .ok c ∧
    c.compile ((⟨[("Note", .text)]⟩ : Schema).resolver .byName) = .ok predicate ∧
    predicate.accepts (.record [("Note", p)]) = .ok false

theorem Condition.accepts_ownPayload_not :
    RejectsOwnPayload (.date ⟨2024, 1, 2⟩) ∧
    RejectsOwnPayload (.timestamp ⟨.midnight ⟨2024, 1, 2⟩, some 7200000000⟩) ∧
    RejectsOwnPayload (.float (.finite false 5000000000000000 1)) := by
  refine ⟨?_, ?_, ?_⟩
  · exact ⟨_, _, _, rfl, rfl, rfl, rfl, rfl⟩
  · have universal : Timestamp.universal? ⟨.midnight ⟨2024, 1, 2⟩, some 7200000000⟩ =
      some ⟨⟨2024, 1, 1⟩, 22, 0, 0, 0⟩ := by decide +kernel
    have constant : Value.ofPayload (.timestamp ⟨.midnight ⟨2024, 1, 2⟩, some 7200000000⟩) =
        .ok ⟨.timestamp, .ofMoment ⟨⟨2024, 1, 1⟩, 22, 0, 0, 0⟩⟩ := by
      simp [Value.ofPayload, Payload.kind?, Value.ofTimestamp,
        Payload.toMoment_timestamp.mpr universal, Except.map]
    exact ⟨_, _, _, rfl, rfl, compare_of_constant rfl constant, rfl, rfl⟩
  · have numeral : Binary64.toNumeral (.finite false 5000000000000000 1) =
      .finite ⟨false, 1, 16⟩ := by decide +kernel
    have constant : Value.ofPayload (.float (.finite false 5000000000000000 1)) =
        .ok ⟨.number, .decimal ⟨false, 1, 16⟩⟩ := by
      simp [Value.ofPayload, Payload.kind?, Value.ofNumber, Payload.toNumber_float.mpr numeral,
        Except.map]
    refine ⟨_, _, _, rfl, rfl, compare_of_constant rfl constant, rfl, ?_⟩
    decide +kernel

end RecordFilter
