import RecordFilter.Resolver.Infer
import RecordFilter.Proofs.FieldAccess
import RecordFilter.Proofs.FirstAppearances
import RecordFilter.Proofs.Kinds
import RecordFilter.Proofs.Unreadable

/-!
# Inferred schemas

A schema that is made from samples declares each name that occurs in a record once, in the order of
first appearance.  The kind of a name depends on the set of its values only, so neither the order of
the samples nor repetitions matter.  Every value is of the kind that its name is given, or can be
converted to it, or is written out where the kind is that of texts; so reading a sample never turns
a value into Null.  What is asked of the samples is that the keys of records are texts, numbers are
finite and timestamps lie on the calendar.
-/

namespace RecordFilter

open Payload

theorem lookup_map_self {β : Type} (f : String → β) (names : List String) (name : String) :
    (names.map fun n => (n, f n)).lookup name = if name ∈ names then some (f name) else none := by
  induction names with
  | nil => rfl
  | cons n names ih =>
      rw [List.map_cons, List.lookup_cons, ih]
      by_cases same : name = n
      · simp [same]
      · simp [same, beq_eq_false_iff_ne.mpr same]

/-! ## Values of one field -/

namespace Payload

def isFinite : Payload → Bool
  | irregular _ | signaling | float (.nonFinite _) => false
  | _ => true

def IsOrdinary (p : Payload) : Prop := p.isFinite = true ∧ p.leavesCalendar = false

instance (p : Payload) : Decidable p.IsOrdinary := inferInstanceAs (Decidable (_ ∧ _))

theorem text_of_kind? {p : Payload} (h : p.kind? = some .text) : ∃ s, p = text s := by
  cases p <;> cases h
  exact ⟨_, rfl⟩

theorem Explains.of_text {p : Payload} {f : Fault} (h : p.Explains f)
    (own : p.kind? = some .text) : f = .outsideCalendar ∧ p.leavesCalendar = true := by
  obtain ⟨s, rfl⟩ := text_of_kind? own
  rcases h with ⟨calendar, q, part, leaves⟩ | ⟨-, part⟩ | unwritable
  · exact ⟨calendar, List.mem_singleton.mp part ▸ leaves⟩
  · cases List.mem_singleton.mp part
  · cases (isTooLong_of_isSingle rfl unwritable).2

theorem conversion_of_text {p : Payload} {f : Fault} (own : p.kind? = some .text)
    (dated : p.leavesCalendar = false) (h : p.ConvertsUpTo f) : ∃ e, f = .conversion e := by
  rcases h with conversion | explains
  · exact conversion
  · have leaves := (explains.of_text own).2
    rw [dated] at leaves
    cases leaves

end Payload

namespace Schema

theorem commonKind?_eq_some {values : List Payload} {k : Kind} :
    commonKind? values = some k ↔ values ≠ [] ∧ ∀ p ∈ values, p.kind? = some k := by
  cases values with
  | nil => simp [commonKind?]
  | cons p rest =>
      simp only [commonKind?, List.all_eq_true, beq_iff_eq, ne_eq, reduceCtorEq, not_false_eq_true,
        true_and, List.forall_mem_cons]
      constructor
      · intro h
        split_ifs at h with alike
        exact ⟨h, fun q found => (alike q found).trans h⟩
      · rintro ⟨own, others⟩
        rw [if_pos fun q found => (others q found).trans own.symm]
        exact own

theorem commonKind?_congr {values values' : List Payload} (same : ∀ p, p ∈ values ↔ p ∈ values') :
    commonKind? values = commonKind? values' := by
  ext k
  rw [commonKind?_eq_some, commonKind?_eq_some]
  simp only [ne_eq, List.eq_nil_iff_forall_not_mem, same]

variable {α : Type} {convert : Payload → Except Fault α} {values : List Payload}

theorem allConvert_eq
    (caught : ∀ p ∈ values, ∀ f, convert p = .error f → ∃ e, f = .conversion e) :
    allConvert convert values = .ok (values.all fun p => (convert p).toOption.isSome) := by
  induction values with
  | nil => rfl
  | cons p rest ih =>
      rw [List.forall_mem_cons] at caught
      rw [allConvert, List.all_cons]
      cases converted : convert p with
      | ok a => simpa using ih caught.2
      | error f =>
          obtain ⟨e, rfl⟩ := caught.1 f converted
          rfl

theorem allConvert_error {f : Fault} (h : allConvert convert values = .error f) :
    ∃ p ∈ values, convert p = .error f ∧ ∀ e, f ≠ .conversion e := by
  induction values with
  | nil => cases h
  | cons p rest ih =>
      rw [allConvert] at h
      split at h
      · obtain ⟨q, found, failed⟩ := ih h
        exact ⟨q, List.mem_cons_of_mem p found, failed⟩
      · cases h
      · next fault other converted =>
          cases h
          exact ⟨p, List.mem_cons_self, converted, fun e conversion => other e conversion⟩

theorem allConvert_true (h : allConvert convert values = .ok true) :
    ∀ p ∈ values, ∃ a, convert p = .ok a := by
  induction values with
  | nil => exact fun p found => absurd found List.not_mem_nil
  | cons p rest ih =>
      rw [allConvert] at h
      split at h
      · next a converted => exact List.forall_mem_cons.mpr ⟨⟨a, converted⟩, ih h⟩
      · cases h
      · cases h

def chosenKind (parseText : Bool) (values : List Payload) : Kind :=
  match commonKind? values with
  | none => .text
  | some .text =>
      if parseText && values.all (·.toNumber.toOption.isSome) then .number
      else if parseText && values.all (·.toMoment.toOption.isSome) then .timestamp
      else .text
  | some kind => kind

theorem inferKind_eq {parseText : Bool} (dated : ∀ p ∈ values, p.leavesCalendar = false) :
    inferKind parseText values = .ok (chosenKind parseText values) := by
  unfold inferKind chosenKind
  cases common : commonKind? values with
  | none => rfl
  | some kind =>
      cases kind with
      | text =>
          have own := (commonKind?_eq_some.mp common).2
          dsimp only
          rw [allConvert_eq fun p found f h =>
              conversion_of_text (own p found) (dated p found) (toNumber_error h),
            allConvert_eq fun p found f h =>
              conversion_of_text (own p found) (dated p found) (toMoment_error h)]
          cases parseText with
          | false => rfl
          | true =>
              simp only [if_true, ok_bind, Bool.true_and]
              split_ifs <;> rfl
      | _ => rfl

theorem inferKind_error {parseText : Bool} {f : Fault} (h : inferKind parseText values = .error f) :
    f = .outsideCalendar ∧
      ∃ p ∈ values, p.kind? = some .text ∧ p.leavesCalendar = true ∧ parseText = true := by
  have cause {α : Type} {convert : Payload → Except Fault α}
      (explained : ∀ p f, convert p = .error f → p.ConvertsUpTo f)
      (own : ∀ p ∈ values, p.kind? = some .text) (h : allConvert convert values = .error f) :
      f = .outsideCalendar ∧ ∃ p ∈ values, p.kind? = some .text ∧ p.leavesCalendar = true := by
    obtain ⟨p, found, failed, other⟩ := allConvert_error h
    have text := own p found
    rcases explained p f failed with ⟨e, conversion⟩ | explains
    · exact absurd conversion (other e)
    · obtain ⟨calendar, leaves⟩ := explains.of_text text
      exact ⟨calendar, p, found, text, leaves⟩
  unfold inferKind at h
  split at h
  · cases h
  · next common =>
      have own := (commonKind?_eq_some.mp common).2
      split_ifs at h with parsed
      subst parsed
      rcases bind_eq_error.mp h with h | ⟨b, -, h⟩
      · obtain ⟨calendar, p, found, text, leaves⟩ := cause (fun _ _ => toNumber_error) own h
        exact ⟨calendar, p, found, text, leaves, rfl⟩
      split_ifs at h
      · cases h
      rcases bind_eq_error.mp h with h | ⟨b', -, h⟩
      · obtain ⟨calendar, p, found, text, leaves⟩ := cause (fun _ _ => toMoment_error) own h
        exact ⟨calendar, p, found, text, leaves, rfl⟩
      · split_ifs at h <;> cases h
  · cases h

theorem chosenKind_congr {parseText : Bool} {values' : List Payload}
    (same : ∀ p, p ∈ values ↔ p ∈ values') :
    chosenKind parseText values = chosenKind parseText values' := by
  have all (test : Payload → Bool) : values.all test = values'.all test := by
    rw [Bool.eq_iff_iff]
    simp only [List.all_eq_true, same]
  unfold chosenKind
  rw [commonKind?_congr same, all, all]

end Schema

/-! ## Reading a value back -/

namespace Payload

theorem normalize_own {p : Payload} {k : Kind} (own : p.kind? = some k) (ordinary : p.IsOrdinary) :
    ∃ q, p.normalize k = .ok q ∧ q.Fits k := by
  obtain ⟨finite, dated⟩ := ordinary
  -- Only a float and a timestamp are converted; all others of a kind are payloads of it already.
  cases p with
  | null =>
      cases own
      exact ⟨.null, rfl, .null⟩
  | bool b =>
      cases own
      exact ⟨.bool b, rfl, .bool b⟩
  | int n =>
      cases own
      exact ⟨.int n, rfl, .int n⟩
  | float x =>
      cases own
      cases x with
      | nonFinite x => cases finite
      | finite negative mantissa exponent =>
          have numeral : ∃ d,
              (Binary64.finite negative mantissa exponent).toNumeral = .finite d := by
            unfold Binary64.toNumeral
            dsimp only
            split_ifs <;> exact ⟨_, rfl⟩
          obtain ⟨d, numeral⟩ := numeral
          refine ⟨.decimal d, ?_, .decimal d⟩
          simp [normalize, isNull, toNumber, numeral, Except.map, nullOnFailure]
  | decimal d =>
      cases own
      exact ⟨.decimal d, rfl, .decimal d⟩
  | irregular x => cases finite
  | signaling => cases finite
  | text s =>
      cases own
      exact ⟨.text s, rfl, .text s⟩
  | timestamp t =>
      cases own
      obtain ⟨m, universal⟩ : ∃ m, t.universal? = some m :=
        Option.isSome_iff_exists.mp (by simpa [leavesCalendar] using dated)
      refine ⟨.ofMoment m, ?_, .moment m⟩
      simp [normalize, isNull, toMoment, universal, Except.map, nullOnFailure]
  | date d =>
      cases own
      exact ⟨.ofMoment (.midnight d), rfl, .moment _⟩
  | list items =>
      cases own
      exact ⟨.list items, rfl, .list items⟩
  | tuple items =>
      cases own
      exact ⟨.tuple items, rfl, .tuple items⟩
  | set isFrozen items =>
      cases own
      exact ⟨.set isFrozen items, rfl, .set isFrozen items⟩
  | record _ | mapping _ | object _ | foreign _ | value _ _ => cases own

theorem normalize_text {p : Payload} (some : p ≠ .null) :
    (∃ s, p.normalize .text = .ok (.text s)) ∨
      ∃ f, p.normalize .text = .error f ∧ UnwritableIn p.parts f := by
  have present : p.isNull = false := Bool.eq_false_iff.mpr fun null => some (isNull_iff.mp null)
  have written : (∃ s, p.displayed.map text = .ok (.text s)) ∨
      ∃ f, p.displayed.map text = .error f ∧ UnwritableIn p.parts f := by
    cases shown : p.displayed with
    | ok s => exact .inl ⟨s, rfl⟩
    | error f => exact .inr ⟨f, rfl, displayed_error shown⟩
  cases p with
  | null => exact absurd rfl some
  | text s => exact .inl ⟨s, rfl⟩
  | _ => exact written

theorem normalize_of_toNumber {p : Payload} {d : Decimal} (own : p.kind? = some .text)
    (converted : p.toNumber = .ok d) : p.normalize .number = .ok (.decimal d) := by
  obtain ⟨s, rfl⟩ := text_of_kind? own
  simp [normalize, isNull, converted, Except.map, nullOnFailure]

theorem normalize_of_toMoment {p : Payload} {m : Moment} (own : p.kind? = some .text)
    (converted : p.toMoment = .ok m) : p.normalize .timestamp = .ok (.ofMoment m) := by
  obtain ⟨s, rfl⟩ := text_of_kind? own
  simp [normalize, isNull, converted, Except.map, nullOnFailure]

/-- Reading a value as a kind gives a payload of the kind, or fails for a part of it that cannot be
written out as a text. -/
def IsReadAs (p : Payload) (k : Kind) : Prop :=
  (∃ q, p.normalize k = .ok q ∧ q.Fits k) ∨
    (k = .text ∧ ∃ f, p.normalize k = .error f ∧ UnwritableIn p.parts f)

theorem isReadAs_text {p : Payload} (some : p ≠ .null) : p.IsReadAs .text := by
  rcases normalize_text some with ⟨s, read⟩ | failed
  · exact .inl ⟨.text s, read, .text s⟩
  · exact .inr ⟨rfl, failed⟩

end Payload

namespace Schema

theorem isReadAs_of_inferKind {parseText : Bool} {values : List Payload} {k : Kind} {p : Payload}
    (chosen : inferKind parseText values = .ok k) (found : p ∈ values) (some : p ≠ .null)
    (ordinary : p.IsOrdinary) : p.IsReadAs k := by
  unfold inferKind at chosen
  split at chosen
  · cases chosen
    exact isReadAs_text some
  · next common =>
      have own := (commonKind?_eq_some.mp common).2 p found
      split_ifs at chosen
      · obtain ⟨numbers, all, chosen⟩ := bind_eq_ok.mp chosen
        split_ifs at chosen with yes
        · cases chosen
          subst yes
          obtain ⟨d, converted⟩ := allConvert_true all p found
          exact .inl ⟨_, normalize_of_toNumber own converted, .decimal d⟩
        obtain ⟨moments, all, chosen⟩ := bind_eq_ok.mp chosen
        split_ifs at chosen with yes
        · cases chosen
          subst yes
          obtain ⟨m, converted⟩ := allConvert_true all p found
          exact .inl ⟨_, normalize_of_toMoment own converted, .moment m⟩
        · cases chosen
          exact isReadAs_text some
      · cases chosen
        exact isReadAs_text some
  · next kind common =>
      cases chosen
      exact .inl (normalize_own ((commonKind?_eq_some.mp common).2 p found) ordinary)

/-- The kind chosen for a value is Null for no value but Null itself. -/
theorem inferKind_ne_null {parseText : Bool} {values : List Payload} {k : Kind} {p : Payload}
    (chosen : inferKind parseText values = .ok k) (found : p ∈ values) (some : p ≠ .null) :
    k ≠ .null := by
  rintro rfl
  unfold inferKind at chosen
  split at chosen
  · cases chosen
  · split_ifs at chosen
    · obtain ⟨numbers, -, chosen⟩ := bind_eq_ok.mp chosen
      split_ifs at chosen
      · cases chosen
      obtain ⟨moments, -, chosen⟩ := bind_eq_ok.mp chosen
      split_ifs at chosen <;> cases chosen
    · cases chosen
  · next kind common =>
      cases chosen
      have own := (commonKind?_eq_some.mp common).2 p found
      cases p <;> first | exact some rfl | cases own

end Schema

/-! ## Schemas of samples -/

namespace Payload

def keys : Payload → List String
  | record fields => fields.map (·.1)
  | _ => []

end Payload

namespace Schema

variable {parseText : Bool} {samples : List Payload}

def fieldLists (samples : List Payload) : List (List (String × Payload)) :=
  samples.map fun p => p.fields?.getD []

def entriesOf (samples : List Payload) : List (String × Payload) := (fieldLists samples).flatten

theorem mem_entriesOf {field : String × Payload} :
    field ∈ entriesOf samples ↔ ∃ fields, .record fields ∈ samples ∧ field ∈ fields := by
  rw [entriesOf, fieldLists, List.mem_flatten]
  constructor
  · rintro ⟨_, listed, found⟩
    obtain ⟨p, sampled, rfl⟩ := List.mem_map.mp listed
    cases p with
    | record fields => exact ⟨fields, sampled, found⟩
    | _ => cases found
  · rintro ⟨fields, sampled, found⟩
    exact ⟨fields, List.mem_map.mpr ⟨_, sampled, rfl⟩, found⟩

theorem mapM_sampleFields (named : ∀ entries, .mapping entries ∉ samples) :
    samples.mapM sampleFields = .ok (fieldLists samples) :=
  mapM_eq_ok_map fun p found => by
    cases p with
    | mapping entries => exact absurd found (named entries)
    | _ => rfl

theorem keys_eq (samples : List Payload) :
    samples.flatMap Payload.keys = (entriesOf samples).map (·.1) := by
  induction samples with
  | nil => rfl
  | cons p samples ih =>
      rw [List.flatMap_cons, ih]
      cases p <;> simp [entriesOf, fieldLists, Payload.keys, fields?]

theorem mem_valuesOf {name : String} {p : Payload} :
    p ∈ valuesOf parseText (fieldLists samples) name ↔
      (name, p) ∈ entriesOf samples ∧ isUninformative parseText p = false := by
  simp only [valuesOf, List.mem_filter, List.mem_map, beq_iff_eq, Bool.not_eq_true']
  refine and_congr_left' ⟨?_, fun found => ⟨_, ⟨found, rfl⟩, rfl⟩⟩
  rintro ⟨field, ⟨found, rfl⟩, rfl⟩
  exact found

structure Ordinary (samples : List Payload) : Prop where
  named : ∀ entries, .mapping entries ∉ samples
  values : ∀ fields, .record fields ∈ samples → ∀ field ∈ fields, field.2.IsOrdinary

theorem Ordinary.of_mem_valuesOf {name : String} {p : Payload} (ordinary : Ordinary samples)
    (found : p ∈ valuesOf parseText (fieldLists samples) name) : p.IsOrdinary := by
  obtain ⟨fields, listed, member⟩ := mem_entriesOf.mp (mem_valuesOf.mp found).1
  exact ordinary.values fields listed _ member

def kindIn (parseText : Bool) (samples : List Payload) (name : String) : Kind :=
  chosenKind parseText (valuesOf parseText (fieldLists samples) name)

theorem inferKind_valuesOf (parseText : Bool) (ordinary : Ordinary samples) (name : String) :
    inferKind parseText (valuesOf parseText (fieldLists samples) name) =
      .ok (kindIn parseText samples name) :=
  inferKind_eq fun _ found => (ordinary.of_mem_valuesOf found).2

theorem infer_eq (ordinary : Ordinary samples) :
    infer parseText samples = .ok ⟨(samples.flatMap Payload.keys).eraseDups.map fun name =>
      (name, kindIn parseText samples name)⟩ := by
  rw [infer, mapM_sampleFields ordinary.named, ok_bind]
  rw [mapM_eq_ok_map fun name _ => by rw [inferKind_valuesOf parseText ordinary]; rfl]
  rw [keys_eq]
  rfl

/-- Two lists of samples that hold the same records, in any order and number. -/
def SameRecords (samples samples' : List Payload) : Prop :=
  (∀ fields, .record fields ∈ samples ↔ .record fields ∈ samples') ∧
    ∀ entries, .mapping entries ∈ samples ↔ .mapping entries ∈ samples'

theorem SameRecords.mem_entriesOf_iff {samples' : List Payload}
    (same : SameRecords samples samples') (field : String × Payload) :
    field ∈ entriesOf samples ↔ field ∈ entriesOf samples' := by
  simp only [mem_entriesOf, same.1 _]

theorem SameRecords.ordinary {samples' : List Payload} (same : SameRecords samples samples')
    (ordinary : Ordinary samples) : Ordinary samples' where
  named entries listed := ordinary.named entries ((same.2 entries).mpr listed)
  values fields listed := ordinary.values fields ((same.1 fields).mpr listed)

theorem SameRecords.kindIn_eq {samples' : List Payload} (same : SameRecords samples samples')
    (name : String) : kindIn parseText samples name = kindIn parseText samples' name :=
  chosenKind_congr fun p => by rw [mem_valuesOf, mem_valuesOf, same.mem_entriesOf_iff]

/-- A field of a record is read by its declared name, directly and as a value, and both are of the
kind declared and not Null, or a part of the payload cannot be written out as a text. -/
structure ReadsField (s : Schema) (name : String) (record p : Payload) (k : Kind) : Prop where
  declared : s.declared? name = some k
  present : k ≠ .null
  outcome :
    (∃ q v, (s.resolver .byName).read name record = .ok q ∧
      (s.resolver .byName).value name record = .ok v ∧ q.Fits k ∧ q.isNull = false ∧
      v.isNull = false) ∨
    (k = .text ∧ ∃ f, (s.resolver .byName).read name record = .error f ∧
      (s.resolver .byName).value name record = .error f ∧ Payload.UnwritableIn p.parts f)

theorem readsField_of_isReadAs {s : Schema} {name : String} {fields : List (String × Payload)}
    {p : Payload} {k : Kind} (declared : s.declared? name = some k) (present : k ≠ .null)
    (found : fields.lookup name = some p) (reads : p.IsReadAs k) :
    s.ReadsField name (.record fields) p k where
  declared := declared
  present := present
  outcome := by
    have self := canonical?_of_declared declared
    have read : s.read .byName name (.record fields) = p.normalize k := by
      simp only [Schema.read, self, declared, Lookup.find?, found]
    rcases reads with ⟨q, normalized, fits⟩ | ⟨rfl, f, failed, unwritable⟩
    · refine .inl ?_
      rcases s.value_carries .byName name (.record fields) with
        ⟨f, failed, -⟩ | ⟨q', v, hq, hv, carried⟩
      · rw [read, normalized] at failed
        cases failed
      · have same : q' = q := by simpa [read, normalized] using hq.symm
        subst same
        exact ⟨q', v, hq, hv, fits, fits.isNull present, carried.isNull.trans (fits.isNull present)⟩
    · refine .inr ⟨rfl, f, read.trans failed, ?_, unwritable⟩
      rcases s.value_carries .byName name (.record fields) with ⟨f, given, value⟩ | ⟨q, -, given, -⟩
      · rw [read, failed] at given
        cases given
        exact value
      · rw [read, failed] at given
        cases given

/-- What a schema that is made from samples promises about them. -/
structure Suits (parseText : Bool) (samples : List Payload) (s : Schema) : Prop where
  once : s.names.Nodup
  listed : ∀ name, name ∈ s.names ↔ ∃ p ∈ samples, name ∈ p.keys
  inOrder : s.names.Pairwise fun a b =>
    (samples.flatMap Payload.keys).idxOf a < (samples.flatMap Payload.keys).idxOf b
  orderFree : ∀ samples', SameRecords samples samples' →
    ∃ s', infer parseText samples' = .ok s' ∧ ∀ name, s'.declared? name = s.declared? name
  readable : ∀ fields name p, .record fields ∈ samples → fields.lookup name = some p →
    p ≠ .null → (parseText = true → p ≠ .text "") →
    ∃ k, s.ReadsField name (.record fields) p k

theorem isUninformative_eq_false {p : Payload} (some : p ≠ .null)
    (filled : parseText = true → p ≠ .text "") : isUninformative parseText p = false := by
  cases p with
  | null => exact absurd rfl some
  | text s =>
      cases parseText with
      | false => rfl
      | true => simpa [isUninformative] using filled
  | _ => rfl

/-- Ordinary samples have a schema that suits them. -/
theorem infer_suits (parseText : Bool) (samples : List Payload) (ordinary : Ordinary samples) :
    ∃ s, infer parseText samples = .ok s ∧ s.Suits parseText samples := by
  refine ⟨_, infer_eq ordinary, ?_⟩
  have names : ∀ (names : List String) (kind : String → Kind),
      (Schema.mk (names.map fun name => (name, kind name))).names = names := by
    intro names kind
    simp [Schema.names, Function.comp_def]
  constructor
  case once =>
    rw [names]
    exact nodup_eraseDups _
  case listed =>
    intro name
    rw [names, List.mem_eraseDups, List.mem_flatMap]
  case inOrder =>
    rw [names]
    exact pairwise_idxOf_eraseDups _
  case orderFree =>
    intro samples' same
    refine ⟨_, infer_eq (same.ordinary ordinary), fun name => ?_⟩
    rw [declared?, declared?, lookup_map_self, lookup_map_self, same.kindIn_eq name]
    simp only [List.mem_eraseDups, keys_eq, List.mem_map, same.mem_entriesOf_iff]
  case readable =>
    intro fields name p listed found some filled
    have member : (name, p) ∈ fields := by
      obtain ⟨before, after, rfl, -⟩ := List.lookup_eq_some_iff.mp found
      simp
    have entry : (name, p) ∈ entriesOf samples := mem_entriesOf.mpr ⟨fields, listed, member⟩
    have value := mem_valuesOf.mpr ⟨entry, isUninformative_eq_false some filled⟩
    have chosen := inferKind_valuesOf parseText ordinary name
    refine ⟨kindIn parseText samples name, readsField_of_isReadAs ?_
      (inferKind_ne_null chosen value some) found
      (isReadAs_of_inferKind chosen value some (ordinary.of_mem_valuesOf value))⟩
    rw [declared?, lookup_map_self, if_pos]
    rw [List.mem_eraseDups, keys_eq]
    exact List.mem_map_of_mem entry

theorem infer_suits_mixed :
    ∃ s, infer true [.record [("size", .text "12"), ("name", .bool true)], .int 3,
        .record [("name", .text "b"), ("size", .text ""), ("day", .date ⟨2024, 2, 29⟩)]] = .ok s ∧
      s.Suits true [.record [("size", .text "12"), ("name", .bool true)], .int 3,
        .record [("name", .text "b"), ("size", .text ""), ("day", .date ⟨2024, 2, 29⟩)]] :=
  infer_suits true _
    { named := by simp
      values := fun fields listed => by
        simp only [List.mem_cons, List.not_mem_nil, or_false, reduceCtorEq, false_or,
          Payload.record.injEq] at listed
        rcases listed with rfl | rfl <;> decide }

end Schema

end RecordFilter
