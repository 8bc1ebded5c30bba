import RecordFilter.Proofs.CollectionElements
import RecordFilter.Proofs.LiteralTexts

/-!
# Values through their texts

A constant that is turned into a text, as wildcard patterns and text search see it, and back into
its kind is the same value again.  A number comes back without an exponent: it is written out
digit by digit, and the zeros that a power of ten stood for are digits of its own from then on.
-/

namespace RecordFilter

open Text

namespace Decimal

def readBack (d : Decimal) : Decimal := { d.writtenOut with negative := d.negative }

theorem read?_positional (d : Decimal) :
    read? d.positional.toList = some (.finite d.readBack) := by
  have spelled : SpellsNumber d.writtenOut.positionalChars d.writtenOut :=
    spells_positional rfl (Int.min_le_right _ _)
  rw [positional, String.toList_ofList, positionalChars_writtenOut, readBack]
  cases d.negative with
  | false => exact read?_spelled spelled
  | true => exact read?_minus spelled

theorem toRat_readBack (d : Decimal) : d.readBack.toRat = d.toRat := by
  have same : d.readBack.magnitude = d.magnitude := magnitude_writtenOut d
  rw [toRat, toRat, same]
  rfl

end Decimal

theorem truthOfWord?_displayed (b : Bool) :
    truthOfWord? (if b then "true" else "false") = some b := by
  cases b <;> decide +kernel

namespace Value

/-! ## Texts brought back to a kind -/

theorem coerce_number (s : String) :
    coerce ⟨.text, .text s⟩ .number = ofNumber (.text s) := rfl

theorem coerce_timestamp (s : String) :
    coerce ⟨.text, .text s⟩ .timestamp =
      (readMoment s).map fun m => ⟨.timestamp, .ofMoment m⟩ := rfl

theorem coerce_boolean (s : String) :
    coerce ⟨.text, .text s⟩ .boolean =
      (Payload.text s).toTruth.map fun b => ⟨.boolean, .bool b⟩ := rfl

/-- A constant that is no Null can be turned into a text, and the text back into the kind of the
constant.  What comes back is the constant itself, or, if it is a number, one of the same value. -/
theorem coerce_text_coerce {v : Value} (formed : v.WellFormed) (some : v.kind ≠ .null) :
    ∃ t w, v.coerce .text = .ok t ∧ t.kind = .text ∧ t.coerce v.kind = .ok w ∧ w.kind = v.kind ∧
      Payload.EqualIn v.kind v.raw w.raw ∧ (v.kind ≠ .number → w = v) := by
  cases formed with
  | null => exact absurd rfl some
  | text s => exact ⟨_, _, rfl, rfl, rfl, rfl, .text s, fun _ => rfl⟩
  | boolean b =>
      refine ⟨⟨.text, .text (if b then "true" else "false")⟩, ⟨.boolean, .bool b⟩, rfl, rfl, ?_,
        rfl, .boolean b, fun _ => rfl⟩
      rw [coerce_boolean, Payload.toTruth, truthOfWord?_displayed]
      rfl
  | number d =>
      refine ⟨⟨.text, .text d.positional⟩, ⟨.number, .decimal d.readBack⟩, rfl, rfl, ?_, rfl,
        .number rfl rfl d.toRat_readBack.symm, fun other => absurd rfl other⟩
      rw [coerce_number, ofNumber, Payload.toNumber, d.read?_positional]
      rfl
  | @timestamp m valid =>
      refine ⟨⟨.text, .text (String.ofList (Timestamp.text ' ' ⟨m, none⟩))⟩,
        ⟨.timestamp, .ofMoment m⟩, rfl, rfl, ?_, rfl, .timestamp rfl, fun _ => rfl⟩
      rw [coerce_timestamp, readMoment_displayed valid]
      rfl

theorem coerce_text_coerce_thousands :
    WellFormed ⟨.number, .decimal ⟨true, 12, 3⟩⟩ ∧ Kind.number ≠ .null ∧
    ∃ t w, coerce ⟨.number, .decimal ⟨true, 12, 3⟩⟩ .text = .ok t ∧ t.kind = .text ∧
      t.coerce .number = .ok w ∧ w.kind = .number ∧
      Payload.EqualIn .number (.decimal ⟨true, 12, 3⟩) w.raw ∧
      (Kind.number ≠ .number → w = ⟨.number, .decimal ⟨true, 12, 3⟩⟩) :=
  ⟨.number _, by decide, coerce_text_coerce (.number _) (by decide)⟩

end Value

end RecordFilter
