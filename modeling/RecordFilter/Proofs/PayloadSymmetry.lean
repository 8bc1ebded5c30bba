import RecordFilter.Predicate.Term
import RecordFilter.Proofs.DecimalValue
import RecordFilter.Proofs.Outcomes

/-!
# Two payloads in either order

Whether two payloads are equal does not depend on which of them comes first, also where lists, sets
and records are compared item by item.  The order of two payloads is the other way round if they
change places, and so a comparison holds exactly if its mirror image holds of the payloads in
their new places.
-/

namespace RecordFilter

namespace Numeral

theorem compare?_swap (a b : Numeral) : b.compare? a = (a.compare? b).map Ordering.swap := by
  cases a with
  | finite d =>
      cases b with
      | finite e =>
          simp only [compare?, Decimal.compare_eq, Option.map_some]
          exact congrArg some Std.OrientedOrd.eq_swap
      | nonFinite y =>
          cases y with
          | notANumber => rfl
          | infinity negative => cases negative <;> rfl
      | signaling => rfl
  | signaling => cases b <;> rfl
  | nonFinite x =>
      cases b with
      | finite e =>
          cases x with
          | notANumber => rfl
          | infinity negative => cases negative <;> rfl
      | nonFinite y =>
          cases x with
          | notANumber => cases y <;> rfl
          | infinity negative =>
              cases y with
              | notANumber => rfl
              | infinity negative' => exact congrArg some Std.OrientedOrd.eq_swap
      | signaling => rfl

theorem same_comm (a b : Numeral) : a.same b = b.same a := by
  rw [same, same, compare?_swap b]
  cases b.compare? a with
  | none => rfl
  | some o => cases o <;> rfl

end Numeral

theorem Timestamp.same_comm (t u : Timestamp) : t.same u = u.same t := by
  rw [same, same, Bool.beq_comm, BEq.comm (a := t.instant)]

/-! ## Equality -/

namespace Payload

/-- Equality of payloads that are not of one form: they have to be numbers. -/
def sameNumerals (p q : Payload) : Bool :=
  match p.numeral?, q.numeral? with
  | some x, some y => x.same y
  | _, _ => false

theorem same_eq_sameNumerals {p : Payload} {x : Numeral} (h : p.numeral? = some x) (q : Payload) :
    p.same q = p.sameNumerals q := by
  cases p with
  | bool | int | float | decimal | irregular | signaling => cases q <;> rfl
  | _ => cases h

theorem sameNumerals_comm (p q : Payload) : p.sameNumerals q = q.sameNumerals p := by
  unfold sameNumerals
  cases p.numeral? with
  | none => cases q.numeral? <;> rfl
  | some x =>
      cases q.numeral? with
      | none => rfl
      | some y => exact x.same_comm y

/-! ### Sets and records -/

theorem includedIn_eq_all (xs ys : List Payload) :
    includedIn xs ys = xs.all fun x => ys.any fun y => same x y := by
  induction xs with
  | nil => rfl
  | cons x xs ih => rw [includedIn, ih, List.all_cons]

theorem anySame_eq_any (xs : List Payload) (y : Payload) :
    anySame xs y = xs.any fun x => same x y := by
  induction xs with
  | nil => rfl
  | cons x xs ih => rw [anySame, ih, List.any_cons]

theorem agreeOn_eq_all (fields others : List (String × Payload)) :
    agreeOn fields others =
      fields.all fun field => (others.lookup field.1).any fun y => same field.2 y := by
  induction fields with
  | nil => rfl
  | cons field fields ih =>
      rw [agreeOn, ih, List.all_cons]
      cases others.lookup field.1 <;> rfl

theorem anyField_eq_any (fields : List (String × Payload)) (name : String) (y : Payload) :
    anyField fields name y = (fields.lookup name).any fun x => same x y := by
  induction fields with
  | nil => rfl
  | cons field fields ih =>
      rw [anyField, ih, List.lookup_cons]
      cases name == field.1 <;> rfl

theorem entriesIn_eq_all (entries others : List (Payload × Payload)) :
    entriesIn entries others =
      entries.all fun entry =>
        others.any fun other => same entry.1 other.1 && same entry.2 other.2 := by
  induction entries with
  | nil => rfl
  | cons entry entries ih => rw [entriesIn, ih, List.all_cons]

theorem anyEntry_eq_any (entries : List (Payload × Payload)) (key y : Payload) :
    anyEntry entries key y = entries.any fun entry => same entry.1 key && same entry.2 y := by
  induction entries with
  | nil => rfl
  | cons entry entries ih => rw [anyEntry, ih, List.any_cons]

theorem same_set_iff (a b : Bool) (xs ys : List Payload) :
    same (set a xs) (set b ys) = true ↔
      (∀ x ∈ xs, ∃ y ∈ ys, same x y = true) ∧ ∀ y ∈ ys, ∃ x ∈ xs, same x y = true := by
  simp only [same, includedIn_eq_all, Bool.and_eq_true, List.all_eq_true, anySame_eq_any,
    List.any_eq_true]

theorem same_record_iff (fields others : List (String × Payload)) :
    same (record fields) (record others) = true ↔
      (∀ field ∈ fields, ∃ y, others.lookup field.1 = some y ∧ same field.2 y = true) ∧
      ∀ field ∈ others, ∃ x, fields.lookup field.1 = some x ∧ same x field.2 = true := by
  simp only [same, agreeOn_eq_all, Bool.and_eq_true, List.all_eq_true, anyField_eq_any,
    Option.any_eq_true]

theorem same_mapping_iff (entries others : List (Payload × Payload)) :
    same (mapping entries) (mapping others) = true ↔
      (∀ entry ∈ entries, ∃ other ∈ others,
        same entry.1 other.1 = true ∧ same entry.2 other.2 = true) ∧
      ∀ other ∈ others, ∃ entry ∈ entries,
        same entry.1 other.1 = true ∧ same entry.2 other.2 = true := by
  simp only [same, entriesIn_eq_all, Bool.and_eq_true, List.all_eq_true, anyEntry_eq_any,
    List.any_eq_true]

/-! ### Payloads of any depth -/

section

variable {xs : List Payload} {fields : List (String × Payload)}
  {entries : List (Payload × Payload)}

theorem sameAll_comm (comm : ∀ x ∈ xs, ∀ q, same x q = same q x) (ys : List Payload) :
    sameAll xs ys = sameAll ys xs := by
  induction xs generalizing ys with
  | nil => cases ys <;> rfl
  | cons x xs ih =>
      obtain ⟨first, others⟩ := List.forall_mem_cons.mp comm
      cases ys with
      | nil => rfl
      | cons y ys => rw [sameAll, sameAll, first, ih others]

theorem same_set_comm (comm : ∀ x ∈ xs, ∀ q, same x q = same q x) (a b : Bool)
    (ys : List Payload) : same (set a xs) (set b ys) = same (set b ys) (set a xs) := by
  rw [Bool.eq_iff_iff, same_set_iff, same_set_iff, and_comm]
  refine and_congr (forall₂_congr fun y _ => exists_congr fun x => and_congr_right fun member => ?_)
    (forall₂_congr fun x member => ?_)
  · rw [comm x member]
  · simp only [comm x member]

theorem same_record_comm (comm : ∀ field ∈ fields, ∀ q, same field.2 q = same q field.2)
    (others : List (String × Payload)) :
    same (record fields) (record others) = same (record others) (record fields) := by
  rw [Bool.eq_iff_iff, same_record_iff, same_record_iff, and_comm]
  refine and_congr (forall₂_congr fun field _ => exists_congr fun x =>
    and_congr_right fun found => ?_) (forall₂_congr fun field member => ?_)
  · obtain ⟨before, after, rfl, -⟩ := List.lookup_eq_some_iff.mp found
    rw [comm (field.1, x) (by simp)]
  · simp only [comm field member]

theorem same_mapping_comm
    (comm : ∀ entry ∈ entries,
      (∀ q, same entry.1 q = same q entry.1) ∧ ∀ q, same entry.2 q = same q entry.2)
    (others : List (Payload × Payload)) :
    same (mapping entries) (mapping others) = same (mapping others) (mapping entries) := by
  rw [Bool.eq_iff_iff, same_mapping_iff, same_mapping_iff, and_comm]
  refine and_congr (forall₂_congr fun other _ => exists_congr fun entry =>
    and_congr_right fun member => ?_) (forall₂_congr fun entry member => ?_)
  · obtain ⟨key, held⟩ := comm entry member
    rw [key, held]
  · obtain ⟨key, held⟩ := comm entry member
    simp only [key, held]

end

mutual

theorem same_comm (p q : Payload) : p.same q = q.same p := by
  -- All that is said of two payloads of different forms.
  have numbers := sameNumerals_comm p q
  cases p with
  | list xs =>
      cases q with
      | list ys => exact sameAll_comm (forall_mem_same_comm xs) ys
      | _ => exact numbers
  | tuple xs =>
      cases q with
      | tuple ys => exact sameAll_comm (forall_mem_same_comm xs) ys
      | _ => exact numbers
  | set a xs =>
      cases q with
      | set b ys => exact same_set_comm (forall_mem_same_comm xs) a b ys
      | _ => exact numbers
  | record fields =>
      cases q with
      | record others => exact same_record_comm (forall_field_same_comm fields) others
      | _ => exact numbers
  | mapping entries =>
      cases q with
      | mapping others => exact same_mapping_comm (forall_entry_same_comm entries) others
      | _ => exact numbers
  | value k p =>
      cases q with
      | value l q => rw [same, same, BEq.comm, same_comm p q]
      | _ => exact numbers
  | text s =>
      cases q with
      | text t => exact BEq.comm
      | _ => exact numbers
  | timestamp t =>
      cases q with
      | timestamp u => exact t.same_comm u
      | _ => exact numbers
  | date d =>
      cases q with
      | date e => exact BEq.comm
      | _ => exact numbers
  | foreign s =>
      cases q with
      | foreign t => exact BEq.comm
      | _ => exact numbers
  | null =>
      cases q with
      | null => rfl
      | _ => exact numbers
  | bool | int | float | decimal | irregular | signaling | object => cases q <;> exact numbers

theorem forall_mem_same_comm (xs : List Payload) : ∀ x ∈ xs, ∀ q, same x q = same q x := by
  cases xs with
  | nil => exact nofun
  | cons x xs => exact List.forall_mem_cons.mpr ⟨same_comm x, forall_mem_same_comm xs⟩

theorem forall_field_same_comm (fields : List (String × Payload)) :
    ∀ field ∈ fields, ∀ q, same field.2 q = same q field.2 := by
  cases fields with
  | nil => exact nofun
  | cons field fields =>
      obtain ⟨name, x⟩ := field
      exact List.forall_mem_cons.mpr ⟨same_comm x, forall_field_same_comm fields⟩

theorem forall_entry_same_comm (entries : List (Payload × Payload)) :
    ∀ entry ∈ entries,
      (∀ q, same entry.1 q = same q entry.1) ∧ ∀ q, same entry.2 q = same q entry.2 := by
  cases entries with
  | nil => exact nofun
  | cons entry entries =>
      obtain ⟨key, x⟩ := entry
      exact List.forall_mem_cons.mpr
        ⟨⟨same_comm key, same_comm x⟩, forall_entry_same_comm entries⟩

end

end Payload

/-! ## Order -/

namespace Comparison

def mirror : Comparison → Comparison
  | equal => equal
  | notEqual => notEqual
  | less => greater
  | greater => less
  | atMost => atLeast
  | atLeast => atMost

theorem isEquality_mirror (c : Comparison) : c.mirror.isEquality = c.isEquality := by
  cases c <;> rfl

theorem mirror_beq_notEqual (c : Comparison) : (c.mirror == notEqual) = (c == notEqual) := by
  cases c <;> rfl

theorem holds_swapped (c : Comparison) (o : Option Ordering) :
    (o.map Ordering.swap).any c.mirror.holds = o.any c.holds := by
  cases o with
  | none => rfl
  | some o => cases c <;> cases o <;> rfl

def orderOfNumerals (c : Comparison) (p q : Payload) : Except Fault (Option Ordering) :=
  match p.numeral?, q.numeral? with
  | some x, some y =>
      match x.compare? y with
      | some o => .ok (some o)
      | none => if p.isDecimal || q.isDecimal then .error .undefinedComparison else .ok none
  | _, _ => .error (.operands (.unordered c.symbol p.qualifiedTypeName q.qualifiedTypeName))

theorem order_eq_orderOfNumerals {p : Payload} {x : Numeral} (h : p.numeral? = some x)
    (c : Comparison) (q : Payload) : c.order p q = c.orderOfNumerals p q := by
  cases p with
  | bool | int | float | decimal | irregular | signaling => cases q <;> rfl
  | _ => cases h

theorem orderOfNumerals_mirror (c c' : Comparison) (p q : Payload) :
    Alike (fun o o' => o' = o.map Ordering.swap) (c.orderOfNumerals p q)
      (c'.orderOfNumerals q p) := by
  unfold orderOfNumerals
  cases p.numeral? with
  | none => cases q.numeral? <;> exact .error _ _
  | some x =>
      cases q.numeral? with
      | none => exact .error _ _
      | some y =>
          simp only [Numeral.compare?_swap x y, Bool.or_comm q.isDecimal]
          cases x.compare? y with
          | some o => exact .ok rfl
          | none =>
              simp only [Option.map_none]
              split_ifs
              · exact .error _ _
              · exact .ok rfl

/-- Payloads that change places have the other order, or have none in either place.  Only messages
name the comparison that it is asked for. -/
theorem order_mirror (c c' : Comparison) (p q : Payload) :
    Alike (fun o o' => o' = o.map Ordering.swap) (c.order p q) (c'.order q p) := by
  have numbers := orderOfNumerals_mirror c c' p q
  cases p with
  | text s =>
      cases q with
      | text t => exact .ok (congrArg some Std.OrientedOrd.eq_swap)
      | _ => exact numbers
  | timestamp t =>
      cases q with
      | timestamp u =>
          rw [order, order, BEq.comm]
          split_ifs
          · exact .ok (congrArg some Std.OrientedOrd.eq_swap)
          · exact .error _ _
      | _ => exact numbers
  | _ => cases q <;> exact numbers

theorem meetsSignal_comm (p q : Payload) : meetsSignal p q = meetsSignal q p := Bool.or_comm ..

theorem test_mirror (c : Comparison) (p q : Payload) :
    Alike Eq (c.test p q) (c.mirror.test q p) := by
  have ordered : Alike Eq ((c.order p q).map fun o => o.any c.holds)
      ((c.mirror.order q p).map fun o => o.any c.mirror.holds) := by
    refine (order_mirror c c.mirror p q).map fun o o' swapped => ?_
    rw [swapped, holds_swapped]
  cases c with
  | equal | notEqual =>
      simp only [mirror, test, meetsSignal_comm q, p.same_comm q]
      split_ifs
      · exact .error _ _
      · exact .ok rfl
  | less | greater | atMost | atLeast => exact ordered

theorem testNonNull_mirror (c : Comparison) (p q : Payload) :
    Alike Eq (c.testNonNull p q) (c.mirror.testNonNull q p) := by
  rw [testNonNull, testNonNull, Bool.or_comm, mirror_beq_notEqual]
  split_ifs
  · exact .ok rfl
  · exact c.test_mirror p q

end Comparison

end RecordFilter
