import Mathlib.Data.List.TakeWhile
import RecordFilter.Proofs.Outcomes
import RecordFilter.Records.Export

/-!
# Lines that were written

A table is written line by line, the header first.  It is written as a whole if all cells have texts
and no text holds half a pair.  Otherwise the lines are written that stand before the first one with
such a problem.
-/

namespace RecordFilter

/-! ## Texts with halves -/

namespace Text

theorem encode_append (first second : List Char) :
    encode (first ++ second) = encode first ++ encode second := List.flatMap_append

theorem halfRun?_eq_none {text : List Char} :
    halfRun? text = none ↔ ∀ c ∈ text, isHalf c = false := by
  have all : (∀ c ∈ text, isHalf c = false) ↔ text.dropWhile (!isHalf ·) = [] := by
    simp [List.dropWhile_eq_nil_iff]
  rw [all, halfRun?]
  cases rest : text.dropWhile (!isHalf ·) with
  | nil => exact iff_of_true rfl rfl
  | cons c others =>
      have first : isHalf c = true := by
        have stops := List.head?_dropWhile_not (!isHalf ·) text
        simpa [rest] using stops
      refine iff_of_false ?_ (List.cons_ne_nil c others)
      simp [first]

theorem encodeWhole_eq_ok {text : List Char} {bytes : List Nat} :
    encodeWhole text = .ok bytes ↔ (∀ c ∈ text, isHalf c = false) ∧ encode text = bytes := by
  rw [← halfRun?_eq_none, encodeWhole]
  cases halfRun? text <;> simp

theorem encodeWhole_eq_error {text : List Char} {e : EncodeError}
    (h : encodeWhole text = .error e) : ∃ c ∈ text, isHalf c = true := by
  by_contra none
  have whole : encodeWhole text = .ok (encode text) := by
    refine encodeWhole_eq_ok.mpr ⟨fun c found => ?_, rfl⟩
    exact Bool.eq_false_iff.mpr fun half => none ⟨c, found, half⟩
  cases whole.symm.trans h

end Text

/-! ## Lines -/

theorem exportLines_eq (lines : List (Except ExportProblem (List Nat))) :
    (∃ written : List (List Nat), lines = written.map .ok ∧
      exportLines lines = ⟨written.flatten, none⟩) ∨
    ∃ (written : List (List Nat)) (problem : ExportProblem)
        (rest : List (Except ExportProblem (List Nat))),
      lines = written.map .ok ++ .error problem :: rest ∧
      exportLines lines = ⟨written.flatten, some problem⟩ := by
  induction lines with
  | nil => exact .inl ⟨[], rfl, rfl⟩
  | cons line lines ih =>
      cases line with
      | error problem => exact .inr ⟨[], problem, lines, rfl, rfl⟩
      | ok bytes =>
          rcases ih with ⟨written, rfl, whole⟩ | ⟨written, problem, rest, rfl, broken⟩
          · exact .inl ⟨bytes :: written, rfl, by rw [exportLines, whole]; rfl⟩
          · exact .inr ⟨bytes :: written, problem, rest, rfl, by rw [exportLines, broken]; rfl⟩

def Texts (columns : List String) : List Row → List (List String) → Prop :=
  List.Forall₂ fun row texts => exportRow columns row = .ok texts

theorem lineBytes_eq_ok {cells : List String} {bytes : List Nat} :
    lineBytes cells = .ok bytes ↔
      (∀ c ∈ Csv.lineText cells, Text.isHalf c = false) ∧
        Text.encode (Csv.lineText cells) = bytes := by
  rw [lineBytes, mapError_eq_ok, Text.encodeWhole_eq_ok]

section

variable {columns : List String}

theorem texts_of_written {rows : List Row} {written : List (List Nat)}
    (h : rows.map (rowBytes columns) = written.map .ok) :
    ∃ cells, Texts columns rows cells ∧
      written.flatten = Text.encode (cells.flatMap Csv.lineText) := by
  induction rows generalizing written with
  | nil =>
      cases written with
      | nil => exact ⟨[], .nil, rfl⟩
      | cons bytes written => cases h
  | cons row rows ih =>
      cases written with
      | nil => cases h
      | cons bytes written =>
          rw [List.map_cons, List.map_cons, List.cons.injEq] at h
          obtain ⟨texts, shown, line⟩ := bind_eq_ok.mp h.1
          obtain ⟨cells, others, rest⟩ := ih h.2
          refine ⟨texts :: cells, .cons (mapError_eq_ok.mp shown) others, ?_⟩
          rw [List.flatten_cons, rest, ← (lineBytes_eq_ok.mp line).2, ← Text.encode_append]
          rfl

theorem exportTable_whole {rows : List Row} (none : (exportTable columns rows).problem = none) :
    ∃ cells, Texts columns rows cells ∧
      (exportTable columns rows).bytes = Text.encode (Csv.tableText columns cells) := by
  rw [exportTable] at none ⊢
  rcases exportLines_eq (lineBytes columns :: rows.map (rowBytes columns)) with
    ⟨written, lines, whole⟩ | ⟨written, problem, rest, lines, broken⟩
  · cases written with
    | nil => cases lines
    | cons bytes written =>
        rw [List.map_cons, List.cons.injEq] at lines
        obtain ⟨cells, texts, rest⟩ := texts_of_written lines.2
        refine ⟨cells, texts, ?_⟩
        rw [whole, List.flatten_cons, rest, ← (lineBytes_eq_ok.mp lines.1).2,
          ← Text.encode_append]
        rfl
  · rw [broken] at none
    cases none

theorem exportTable_broken {rows : List Row} {problem : ExportProblem}
    (some : (exportTable columns rows).problem = some problem) :
    (lineBytes columns = .error problem ∧ (exportTable columns rows).bytes = []) ∨
    ∃ first row others cells, rows = first ++ row :: others ∧ Texts columns first cells ∧
      rowBytes columns row = .error problem ∧
      (exportTable columns rows).bytes = Text.encode (Csv.tableText columns cells) := by
  rw [exportTable] at some ⊢
  rcases exportLines_eq (lineBytes columns :: rows.map (rowBytes columns)) with
    ⟨written, -, whole⟩ | ⟨written, problem', rest, lines, broken⟩
  · rw [whole] at some
    cases some
  · rw [broken] at some ⊢
    cases some
    cases written with
    | nil =>
        rw [List.map_nil, List.nil_append, List.cons.injEq] at lines
        exact .inl ⟨lines.1, rfl⟩
    | cons bytes written =>
        rw [List.map_cons, List.cons_append, List.cons.injEq] at lines
        obtain ⟨first, behind, rfl, before, after⟩ := List.map_eq_append_iff.mp lines.2
        obtain ⟨row, others, rfl, stops, -⟩ := List.map_eq_cons_iff.mp after
        obtain ⟨cells, texts, rest⟩ := texts_of_written before
        refine .inr ⟨first, row, others, cells, rfl, texts, stops, ?_⟩
        rw [List.flatten_cons, rest, ← (lineBytes_eq_ok.mp lines.1).2, ← Text.encode_append]
        rfl

end

end RecordFilter
