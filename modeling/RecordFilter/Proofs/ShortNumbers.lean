import Mathlib.Data.List.TakeWhile
import RecordFilter.Command.Files
import RecordFilter.Proofs.DocumentSteps
import RecordFilter.Proofs.Unreadable

/-!
# Numbers of loaded records

A document with a whole number of too many digits is not read.  So every whole number that comes
from a document can be written out again, and every cell of a loaded table has a text.
-/

namespace RecordFilter

/-! ## Parts of payloads -/

namespace Payload

theorem mem_partsOf {q : Payload} {ps : List Payload} : q ∈ partsOf ps ↔ ∃ p ∈ ps, q ∈ p.parts := by
  induction ps with
  | nil => simp [partsOf]
  | cons p ps ih => simp [partsOf, ih]

theorem mem_partsOfFields {q : Payload} {fields : List (String × Payload)} :
    q ∈ partsOfFields fields ↔ ∃ field ∈ fields, q ∈ field.2.parts := by
  induction fields with
  | nil => simp [partsOfFields]
  | cons field fields ih => simp [partsOfFields, ih]

end Payload

/-! ## Entries with names -/

section

variable {α β : Type}

theorem mem_of_mem_foldl {put : List α → α → List α} {start entries : List α} {a : α}
    (only : ∀ others a b, b ∈ put others a → b ∈ others ∨ b = a)
    (found : a ∈ entries.foldl put start) : a ∈ start ∨ a ∈ entries := by
  induction entries generalizing start with
  | nil => exact .inl found
  | cons first entries ih =>
      rcases ih found with made | later
      · rcases only _ _ _ made with old | rfl
        · exact .inl old
        · exact .inr List.mem_cons_self
      · exact .inr (List.mem_cons_of_mem _ later)

theorem mem_of_mem_entered {entries : List (String × β)} {name : String} {b : β}
    {entry : String × β}
    (found : entry ∈ if entries.any (·.1 == name) then
      entries.map fun entry => if entry.1 == name then (name, b) else entry
      else entries ++ [(name, b)]) :
    entry ∈ entries ∨ entry = (name, b) := by
  split at found
  · obtain ⟨old, listed, made⟩ := List.mem_map.mp found
    split at made
    · exact .inr made.symm
    · exact .inl (made ▸ listed)
  · rcases List.mem_append.mp found with old | new
    · exact .inl old
    · exact .inr (List.mem_singleton.mp new)

end

theorem mem_of_mem_distinctFields {fields : List (String × Payload)} {field : String × Payload}
    (found : field ∈ distinctFields fields) : field ∈ fields :=
  (mem_of_mem_foldl (fun _ _ _ => mem_of_mem_entered) found).resolve_left List.not_mem_nil

/-! ## Digits -/

namespace Number

theorem foldl_digits_lt {values : List Nat} (digital : ∀ value ∈ values, value < 10) (n : Nat) :
    values.foldl (fun n value => 10 * n + value) n < (n + 1) * powerOfTen values.length := by
  induction values generalizing n with
  | nil => simp [powerOfTen]
  | cons value values ih =>
      obtain ⟨first, others⟩ := List.forall_mem_cons.mp digital
      calc (value :: values).foldl (fun n value => 10 * n + value) n
          < (10 * n + value + 1) * powerOfTen values.length := ih others (10 * n + value)
        _ ≤ (10 * (n + 1)) * powerOfTen values.length := Nat.mul_le_mul_right _ (by omega)
        _ = (n + 1) * powerOfTen (value :: values).length := by
          have step : powerOfTen (value :: values).length = powerOfTen values.length * 10 := rfl
          rw [step, Nat.mul_comm 10, Nat.mul_assoc, Nat.mul_comm 10]

theorem ofDigitValues_lt {values : List Nat} (digital : ∀ value ∈ values, value < 10) :
    ofDigitValues values < powerOfTen values.length := by
  simpa [ofDigitValues] using foldl_digits_lt digital 0

theorem ofDigitValues_digits_lt {text : List Char}
    (digital : ∀ c ∈ text, Text.isAsciiDigit c = true) :
    ofDigitValues (text.map fun c => c.toNat - 48) < powerOfTen text.length := by
  have values : ∀ value ∈ text.map fun c => c.toNat - 48, value < 10 := by
    intro value listed
    obtain ⟨c, member, rfl⟩ := List.mem_map.mp listed
    have digit := digital c member
    simp only [Text.isAsciiDigit, Bool.and_eq_true, decide_eq_true_eq, Char.le_def,
      UInt32.le_iff_toNat_le] at digit
    have last : c.toNat ≤ 57 := digit.2
    omega
  simpa using ofDigitValues_lt values

theorem natAbs_signed (negative : Bool) (n : Nat) : (Decimal.signed negative n).natAbs = n := by
  cases negative <;> simp [Decimal.signed]

theorem powerOfTen_le {m n : Nat} (h : m ≤ n) : powerOfTen m ≤ powerOfTen n :=
  Nat.pow_le_pow_right (by decide) h

end Number

/-! ## Documents -/

namespace Json

open Number Text

theorem mem_of_mem_distinctMembers {members : List (String × Json)} {member : String × Json}
    (found : member ∈ distinctMembers members) : member ∈ members :=
  (mem_of_mem_foldl (fun _ _ _ => mem_of_mem_entered) found).resolve_left List.not_mem_nil

theorem isShort_numberOf {negative : Bool} {whole tail : List Char} {j : Json}
    (digital : ∀ c ∈ whole, isAsciiDigit c = true) (h : numberOf negative whole tail = .ok j) :
    j.IsShort := by
  unfold numberOf at h
  split at h
  · split at h
    · cases h
    · next short =>
        cases h
        intro n found
        obtain rfl := List.mem_singleton.mp found
        rw [natAbs_signed]
        have size := ofDigitValues_digits_lt digital
        exact Nat.lt_of_lt_of_le size (powerOfTen_le (Nat.not_lt.mp short))
  · split at h
    · cases h
      exact isShort_of_noIntegers rfl
    · cases h
      exact isShort_of_noIntegers rfl

theorem digital_wholeDigits (text : List Char) : ∀ c ∈ wholeDigits text, isAsciiDigit c = true := by
  intro c found
  unfold wholeDigits at found
  split at found
  · obtain rfl := List.mem_singleton.mp found
    decide
  · exact List.mem_takeWhile_imp found

theorem isShort_readNumber {text : List Char} {p : Parsed Char Json text.length}
    (h : readNumber text = .ok p) : p.result.IsShort := by
  unfold readNumber at h
  split at h
  · cases h
  · dsimp only [numberParts] at h
    split at h
    · cases h
    · obtain ⟨number, read, made⟩ := bind_eq_ok.mp h
      cases made
      exact isShort_numberOf (digital_wholeDigits _) read

theorem isShort_readScalar {text : List Char} {p : Parsed Char Json text.length}
    (h : readScalar text = .ok p) : p.result.IsShort := by
  unfold readScalar at h
  split at h
  · cases h
  · split at h
    · next named =>
        cases h
        have listed := List.mem_of_find?_eq_some named
        simp only [names, List.mem_cons, Prod.mk.injEq, List.not_mem_nil, or_false] at listed
        rcases listed with ⟨-, rfl⟩ | ⟨-, rfl⟩ | ⟨-, rfl⟩ | ⟨-, rfl⟩ | ⟨-, rfl⟩ | ⟨-, rfl⟩ <;>
          exact isShort_of_noIntegers rfl
    · exact isShort_readNumber h

mutual

theorem isShort_readValue : (text : List Char) → {p : Parsed Char Json text.length} →
    readValue text = .ok p → p.result.IsShort
  | [], p, h => by
      unfold readValue at h
      cases h
  | c :: rest, p, h => by
      unfold readValue at h
      dsimp only at h
      split at h
      · obtain ⟨chars, -, made⟩ := bind_eq_ok.mp h
        cases made
        exact isShort_of_noIntegers rfl
      split at h
      · split at h
        · cases h
          exact isShort_of_noIntegers rfl
        · obtain ⟨items, read, made⟩ := bind_eq_ok.mp h
          cases made
          exact isShort_array_iff.mpr (isShort_readItems _ read)
      split at h
      · split at h
        · cases h
        split at h
        · cases h
          exact isShort_of_noIntegers rfl
        · obtain ⟨members, read, made⟩ := bind_eq_ok.mp h
          cases made
          exact isShort_object_iff.mpr fun member found =>
            isShort_readMembers _ read member (mem_of_mem_distinctMembers found)
      · exact isShort_readScalar h
  termination_by text => rank text.length 0
  decreasing_by all_goals exact rank_lt_of_shorter _ (Parsed.short _) (by decide)

theorem isShort_readItems : (text : List Char) → {p : Parsed Char (List Json) text.length} →
    readItems text = .ok p → ∀ item ∈ p.result, item.IsShort
  | text, p, h => by
      unfold readItems at h
      obtain ⟨item, read, more⟩ := bind_eq_ok.mp h
      have first := isShort_readValue text read
      dsimp only at more
      split at more
      · next ended =>
          cases more
          rw [Parsed.map, (rest_of_next?_some ended).2]
          exact List.forall_mem_singleton.mpr first
      · next comma goesOn =>
          obtain ⟨items, read, made⟩ := bind_eq_ok.mp more
          cases made
          rw [Parsed.followedBy]
          exact List.forall_mem_cons.mpr
            ⟨(rest_of_next?_some goesOn).2 ▸ first, isShort_readItems _ read⟩
      · cases more
  termination_by text => rank text.length 1
  decreasing_by
    · exact rank_lt_of_lower _ (by decide)
    · exact rank_lt_of_shorter _ (Parsed.short _) (by decide)

theorem isShort_readMembers : (text : List Char) →
    {p : Parsed Char (List (String × Json)) text.length} →
    readMembers text = .ok p → ∀ member ∈ p.result, member.2.IsShort
  | [], p, h => by
      unfold readMembers at h
      cases h
  | c :: rest, p, h => by
      unfold readMembers at h
      split at h
      · obtain ⟨name, -, more⟩ := bind_eq_ok.mp h
        dsimp only at more
        split at more
        · obtain ⟨value, read, more⟩ := bind_eq_ok.mp more
          have first := isShort_readValue _ read
          split at more
          · cases more
          · next behind goesOn =>
            have same := (rest_of_next?_some goesOn).2
            split at more
            · cases more
              rw [Parsed.map, same]
              exact List.forall_mem_singleton.mpr first
            · split at more
              · obtain ⟨members, read, made⟩ := bind_eq_ok.mp more
                cases made
                rw [Parsed.followedBy]
                exact List.forall_mem_cons.mpr ⟨same ▸ first, isShort_readMembers _ read⟩
              · cases more
        · cases more
      · cases h
  termination_by text => rank text.length 0
  decreasing_by all_goals exact rank_lt_of_shorter _ (Parsed.short _) (by decide)

end

theorem isShort_read {text : String} {j : Json} (h : read text = .ok j) : j.IsShort := by
  unfold read at h
  dsimp only at h
  split at h
  · cases h
  · obtain ⟨value, read, made⟩ := bind_eq_ok.mp h
    split at made
    · cases made
      exact isShort_readValue _ (p := value) read
    · cases made

end Json

/-! ## Payloads of documents -/

namespace Payload

def isWritable : Payload → Bool
  | int n => n.natAbs < integerBound
  | mapping _ => false
  | _ => true

theorem UnwritableIn.exists_part {ps : List Payload} {f : Fault} (h : UnwritableIn ps f) :
    ∃ q ∈ ps, q.isWritable = false := by
  rcases h with ⟨-, q, found, long⟩ | ⟨_, found, entries, rfl, -⟩
  · refine ⟨q, found, ?_⟩
    cases q with
    | int n => simpa [isTooLong, isWritable] using long
    | _ => cases long
  · exact ⟨_, found, rfl⟩

end Payload

namespace Json

open Payload

mutual

theorem isWritable_of_payload {j : Json} (short : j.IsShort) :
    ∀ q ∈ j.payload.parts, q.isWritable = true := by
  cases j with
  | int n =>
      have bound := short n (List.mem_singleton_self n)
      have writable : (Payload.int n).isWritable = true := by
        rw [isWritable, decide_eq_true_eq]
        exact bound
      exact List.forall_mem_singleton.mpr writable
  | array items =>
      exact List.forall_mem_cons.mpr
        ⟨rfl, isWritable_of_itemPayloads (isShort_array_iff.mp short)⟩
  | object members =>
      exact List.forall_mem_cons.mpr
        ⟨rfl, isWritable_of_memberPayloads (isShort_object_iff.mp short)⟩
  | _ => exact List.forall_mem_singleton.mpr rfl

theorem isWritable_of_itemPayloads {items : List Json} (short : ∀ item ∈ items, item.IsShort) :
    ∀ q ∈ partsOf (itemPayloads items), q.isWritable = true := by
  cases items with
  | nil => exact nofun
  | cons item items =>
      obtain ⟨first, others⟩ := List.forall_mem_cons.mp short
      exact List.forall_mem_append.mpr
        ⟨isWritable_of_payload first, isWritable_of_itemPayloads others⟩

theorem isWritable_of_memberPayloads {members : List (String × Json)}
    (short : ∀ member ∈ members, member.2.IsShort) :
    ∀ q ∈ partsOfFields (memberPayloads members), q.isWritable = true := by
  cases members with
  | nil => exact nofun
  | cons member members =>
      obtain ⟨first, others⟩ := List.forall_mem_cons.mp short
      exact List.forall_mem_append.mpr
        ⟨isWritable_of_payload first, isWritable_of_memberPayloads others⟩

end

end Json

/-! ## Loaded rows -/

namespace Row

def IsWritable (row : Row) : Prop :=
  ∀ q ∈ Payload.partsOfFields row.entries, q.isWritable = true

end Row

theorem isWritable_rowsOfObjects {index : Nat} {items : List Json} {rows : List Row}
    (short : ∀ item ∈ items, item.IsShort) (h : rowsOfObjects index items = .ok rows) :
    ∀ row ∈ rows, row.IsWritable := by
  induction items generalizing index rows with
  | nil =>
      cases h
      exact nofun
  | cons item items ih =>
      obtain ⟨first, others⟩ := List.forall_mem_cons.mp short
      cases item with
      | object members =>
          obtain ⟨rest, rows, made⟩ := bind_eq_ok.mp h
          cases made
          exact List.forall_mem_cons.mpr
            ⟨Json.isWritable_of_memberPayloads (Json.isShort_object_iff.mp first), ih others rows⟩
      | _ => cases h

theorem isShort_recordsOf {document : Json} {items : List Json} (short : document.IsShort)
    (h : recordsOf document = .ok items) : ∀ item ∈ items, item.IsShort := by
  unfold recordsOf at h
  split at h
  · cases h
    exact Json.isShort_array_iff.mp short
  · split at h
    · next found =>
        cases h
        obtain ⟨before, behind, rfl, -⟩ := List.lookup_eq_some_iff.mp found
        have named :
            ("records", Json.array items) ∈ before ++ ("records", .array items) :: behind :=
          List.mem_append_right _ List.mem_cons_self
        exact Json.isShort_array_iff.mp (Json.isShort_object_iff.mp short _ named)
    · cases h
  · cases h

theorem isShort_readDocument {text : String} {document : Json}
    (h : readDocument text = .ok document) : document.IsShort := by
  unfold readDocument at h
  split at h
  · next read =>
      cases h
      exact Json.isShort_read read
  · cases h

theorem isWritable_tableOfObjects {format : RecordFormat} {items : List Json} {t : RecordTable}
    (short : ∀ item ∈ items, item.IsShort) (h : tableOfObjects format items = .ok t) :
    ∀ row ∈ t.rows, row.IsWritable := by
  obtain ⟨rows, made, table⟩ := bind_eq_ok.mp h
  cases table
  exact isWritable_rowsOfObjects short made

theorem isWritable_loadDocument {text : List Char} {t : RecordTable}
    (h : loadDocument text = .ok t) : ∀ row ∈ t.rows, row.IsWritable := by
  unfold loadDocument at h
  split at h
  · cases h
    exact nofun
  · obtain ⟨document, read, h⟩ := bind_eq_ok.mp h
    obtain ⟨items, records, h⟩ := bind_eq_ok.mp h
    exact isWritable_tableOfObjects (isShort_recordsOf (isShort_readDocument read) records) h

theorem isWritable_loadLines {text : List Char} {t : RecordTable} (h : loadLines text = .ok t) :
    ∀ row ∈ t.rows, row.IsWritable := by
  obtain ⟨items, read, h⟩ := bind_eq_ok.mp h
  exact isWritable_tableOfObjects (forall_of_mapM (fun _ _ => isShort_readDocument) read) h

theorem Row.mem_entries {row : Row} {field : String × Payload} (listed : field ∈ row.entries) :
    field ∈ row.fields ∨ field = (surplusName, .list (row.surplus.map Payload.text)) := by
  unfold entries at listed
  split at listed
  · exact .inl listed
  · exact (List.mem_append.mp listed).imp_right List.mem_singleton.mp

theorem isWritable_rowOfCells (header cells : List String) :
    (rowOfCells header cells).IsWritable := by
  have fields : ∀ field ∈ (rowOfCells header cells).fields,
      field.2 = .null ∨ ∃ cell, field.2 = .text cell := by
    intro field found
    rcases List.mem_append.mp (mem_of_mem_distinctFields found) with present | absent
    · obtain ⟨⟨name, cell⟩, -, rfl⟩ := List.mem_map.mp present
      exact .inr ⟨cell, rfl⟩
    · obtain ⟨name, -, rfl⟩ := List.mem_map.mp absent
      exact .inl rfl
  intro q found
  obtain ⟨field, listed, inside⟩ := Payload.mem_partsOfFields.mp found
  rcases Row.mem_entries listed with named | rfl
  · rcases fields field named with null | ⟨cell, text⟩
    · rw [null] at inside
      rw [List.mem_singleton.mp inside]
      rfl
    · rw [text] at inside
      rw [List.mem_singleton.mp inside]
      rfl
  · rcases List.mem_cons.mp inside with rfl | within
    · rfl
    · obtain ⟨p, listed, within⟩ := Payload.mem_partsOf.mp within
      obtain ⟨cell, -, rfl⟩ := List.mem_map.mp listed
      rw [List.mem_singleton.mp within]
      rfl

theorem isWritable_loadSeparated {text : List Char} {t : RecordTable}
    (h : loadSeparated text = .ok t) : ∀ row ∈ t.rows, row.IsWritable := by
  unfold loadSeparated at h
  split at h
  · cases h
    unfold tableOfRows
    split
    · exact nofun
    · intro row found
      obtain ⟨cells, -, rfl⟩ := List.mem_map.mp found
      exact isWritable_rowOfCells _ cells
  · cases h

theorem isWritable_loadTable {e : Environment} {w : Workspace} {s : Selection} {t : RecordTable}
    (h : loadTable e w s = .ok t) : ∀ row ∈ t.rows, row.IsWritable := by
  obtain ⟨text, -, h⟩ := bind_eq_ok.mp h
  have loaded := mapError_eq_ok.mp h
  cases format : recordFormat s <;> rw [format] at loaded
  · exact isWritable_loadDocument loaded
  · exact isWritable_loadLines loaded
  · exact isWritable_loadSeparated loaded

/-! ## Exported cells -/

theorem cellTexts_error {fields : List (String × Payload)} {f : Fault}
    (h : cellTexts fields = .error f) :
    Payload.UnwritableIn (Payload.partsOfFields fields) f := by
  induction fields with
  | nil => cases h
  | cons field fields ih =>
      rw [cellTexts] at h
      rcases bind_eq_error.mp h with h | ⟨text, -, h⟩
      · exact (Payload.displayed_error h).mono (List.subset_append_left _ _)
      · exact (ih (bind_pure_eq_error.mp h)).mono (List.subset_append_right _ _)

theorem exportRow_ok {columns : List String} {row : Row} (writable : row.IsWritable) :
    ∃ cells, exportRow columns row = .ok cells := by
  cases h : exportRow columns row with
  | ok cells => exact ⟨cells, rfl⟩
  | error f =>
      obtain ⟨q, found, fails⟩ := (cellTexts_error (bind_pure_eq_error.mp h)).exists_part
      rw [writable q found] at fails
      cases fails

end RecordFilter
