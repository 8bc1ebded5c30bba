import Mathlib.Tactic.SplitIfs
import RecordFilter.Records.Load
import RecordFilter.Proofs.Outcomes

/-!
# Texts in files

What is written to a file in UTF-8 is read back as it was, with two exceptions: a mark of the order
of bytes in front is dropped, and all ends of lines become line feeds.
-/

namespace RecordFilter.Text

/-! ## Characters as bytes -/

section

variable {position byte : Nat} {rest : List Nat} {p : PartialChar}

theorem decodeFrom_ascii (low : byte < 0x80) :
    decodeFrom position none (byte :: rest) =
      (decodeFrom (position + 1) none rest).map (Char.ofNat byte :: ·) := by
  rw [decodeFrom]
  exact if_pos low

theorem decodeFrom_lead (high : 0x80 ≤ byte)
    (announced : PartialChar.ofLead? position byte = some p) :
    decodeFrom position none (byte :: rest) = decodeFrom (position + 1) (some p) rest := by
  rw [decodeFrom, if_neg (Nat.not_lt.mpr high), announced]

theorem decodeFrom_more (allowed : p.allows position byte = true) (more : 1 < p.missing) :
    decodeFrom position (some p) (byte :: rest) =
      decodeFrom (position + 1) (some (p.add byte)) rest := by
  rw [decodeFrom]
  dsimp only
  rw [if_pos allowed, if_neg (by simp only [PartialChar.add]; omega)]

theorem decodeFrom_last (allowed : p.allows position byte = true) (last : p.missing = 1) :
    decodeFrom position (some p) (byte :: rest) =
      (decodeFrom (position + 1) none rest).map (Char.ofNat (p.bits * 64 + byte % 64) :: ·) := by
  rw [decodeFrom]
  dsimp only
  rw [if_pos allowed, if_pos (by simp only [PartialChar.add]; omega)]
  rfl

theorem allows_later {low : Nat} (later : position ≠ p.start + 1) (small : low < 64) :
    p.allows position (0x80 + low) = true := by
  have second : (position == p.start + 1) = false := beq_eq_false_iff_ne.mpr later
  simp only [PartialChar.allows, second, Bool.false_and, Bool.false_eq_true, if_false,
    Bool.and_eq_true, decide_eq_true_eq]
  omega

theorem allows_second {low : Nat} (small : low < 64) (long : p.lead = 0xE0 → 0x20 ≤ low)
    (longer : p.lead = 0xF0 → 0x10 ≤ low) (noPair : p.lead = 0xED → low < 0x20)
    (last : p.lead = 0xF4 → low < 0x10) : p.allows (p.start + 1) (0x80 + low) = true := by
  simp only [PartialChar.allows, beq_self_eq_true, Bool.true_and, decide_eq_true_eq,
    Bool.and_eq_true]
  split_ifs <;> omega

end

theorem decodeFrom_encodeChar (position : Nat) (c : Char) (rest : List Nat) :
    decodeFrom position none (encodeChar c ++ rest) =
      (decodeFrom (position + (encodeChar c).length) none rest).map (c :: ·) := by
  have valid : c.toNat < 0xD800 ∨ (0xDFFF < c.toNat ∧ c.toNat < 0x110000) := c.valid
  have self {n : Nat} (h : n = c.toNat) : Char.ofNat n = c := by rw [h, Char.ofNat_toNat]
  unfold encodeChar
  dsimp only
  split_ifs with one two three
  · rw [List.singleton_append, decodeFrom_ascii one, self rfl]
    rfl
  -- The first byte tells how many follow; the bits of all make up the code.
  · have lead : PartialChar.ofLead? position (0xC0 + c.toNat / 64) =
        some ⟨0xC0 + c.toNat / 64, position, c.toNat / 64, 1⟩ := by
      rw [PartialChar.ofLead?, if_pos (by simp; omega)]
      simp
    have second : PartialChar.allows ⟨0xC0 + c.toNat / 64, position, c.toNat / 64, 1⟩
        (position + 1) (0x80 + c.toNat % 64) = true := by
      refine allows_second (by omega) ?_ ?_ ?_ ?_ <;> dsimp only <;> omega
    rw [List.cons_append, decodeFrom_lead (by omega) lead, List.singleton_append,
      decodeFrom_last second rfl, self (by dsimp only; omega)]
    rfl
  · have lead : PartialChar.ofLead? position (0xE0 + c.toNat / 4096) =
        some ⟨0xE0 + c.toNat / 4096, position, c.toNat / 4096, 2⟩ := by
      rw [PartialChar.ofLead?, if_neg (by simp; omega), if_pos (by simp; omega)]
      simp
    have second : PartialChar.allows ⟨0xE0 + c.toNat / 4096, position, c.toNat / 4096, 2⟩
        (position + 1) (0x80 + c.toNat / 64 % 64) = true := by
      refine allows_second (by omega) ?_ ?_ ?_ ?_ <;> dsimp only <;> omega
    rw [List.cons_append, decodeFrom_lead (by omega) lead, List.cons_append,
      decodeFrom_more second (Nat.lt_succ_self 1), List.singleton_append,
      decodeFrom_last (allows_later (by simp only [PartialChar.add]; omega) (by omega)) rfl,
      self (by simp only [PartialChar.add]; omega)]
    rfl
  · have lead : PartialChar.ofLead? position (0xF0 + c.toNat / 262144) =
        some ⟨0xF0 + c.toNat / 262144, position, c.toNat / 262144, 3⟩ := by
      rw [PartialChar.ofLead?, if_neg (by simp; omega), if_neg (by simp; omega),
        if_pos (by simp; omega)]
      simp
    have second : PartialChar.allows ⟨0xF0 + c.toNat / 262144, position, c.toNat / 262144, 3⟩
        (position + 1) (0x80 + c.toNat / 4096 % 64) = true := by
      refine allows_second (by omega) ?_ ?_ ?_ ?_ <;> dsimp only <;> omega
    rw [List.cons_append, decodeFrom_lead (by omega) lead, List.cons_append,
      decodeFrom_more second (by simp), List.cons_append,
      decodeFrom_more (allows_later (by simp only [PartialChar.add]; omega) (by omega))
        (by simp [PartialChar.add]),
      List.singleton_append,
      decodeFrom_last (allows_later (by simp only [PartialChar.add]; omega) (by omega)) rfl,
      self (by simp only [PartialChar.add]; omega)]
    rfl

theorem decodeFrom_encode (position : Nat) (text : List Char) :
    decodeFrom position none (encode text) = .ok text := by
  induction text generalizing position with
  | nil => rfl
  | cons c text ih =>
      change decodeFrom position none (encodeChar c ++ encode text) = _
      rw [decodeFrom_encodeChar, ih]
      rfl

/-- What was written as bytes is read as it was. -/
theorem decode_encode (text : List Char) : decode (encode text) = .ok text :=
  decodeFrom_encode 0 text

/-! ## The mark of the order of bytes -/

def mark : Char := '\uFEFF'

def unmarked : List Char → List Char
  | [] => []
  | c :: text => if c = mark then text else c :: text

theorem unmarked_of_head {text : List Char} (plain : text.head? ≠ some mark) :
    unmarked text = text := by
  cases text with
  | nil => rfl
  | cons c text => exact if_neg fun same => plain (congrArg some same)

theorem encodeChar_ne_mark {c : Char} (other : c ≠ mark) (rest : List Nat) :
    byteOrderMark.isPrefixOf (encodeChar c ++ rest) = false ∧
      (encodeChar c ++ rest).isPrefixOf byteOrderMark = false := by
  have code : c.toNat ≠ 0xFEFF := fun same => other (by
    rw [← Char.ofNat_toNat c, same]
    rfl)
  have valid : c.toNat < 0xD800 ∨ (0xDFFF < c.toNat ∧ c.toNat < 0x110000) := c.valid
  unfold encodeChar byteOrderMark
  dsimp only
  split_ifs with one two three <;>
    simp only [List.cons_append, List.nil_append, List.isPrefixOf, Bool.and_eq_false_iff,
      beq_eq_false_iff_ne] <;> omega

theorem withoutMark_encode (text : List Char) :
    withoutMark (encode text) = encode (unmarked text) := by
  cases text with
  | nil => rfl
  | cons c text =>
      by_cases same : c = mark
      · subst same
        rw [unmarked, if_pos rfl, withoutMark, if_pos (by rfl)]
        rfl
      · obtain ⟨before, after⟩ := encodeChar_ne_mark same (encode text)
        change (if byteOrderMark.isPrefixOf (encodeChar c ++ encode text) ||
          (encodeChar c ++ encode text).isPrefixOf byteOrderMark then _ else _) = _
        rw [before, after, unmarked, if_neg same]
        rfl

/-! ## Ends of lines -/

theorem normalizeNewlines_cons {c : Char} (plain : c ≠ '\r') (text : List Char) :
    normalizeNewlines (c :: text) = c :: normalizeNewlines text := by
  rw [normalizeNewlines.eq_3]
  · intro rest same
    exact absurd same plain
  · exact fun same => absurd same plain

theorem normalizeNewlines_append {first second : List Char} (apart : second.head? ≠ some '\n') :
    normalizeNewlines (first ++ second) = normalizeNewlines first ++ normalizeNewlines second := by
  fun_induction normalizeNewlines first with
  | case1 rest ih => simp only [List.cons_append, normalizeNewlines, ih]
  | case2 rest other ih =>
      rw [List.cons_append, normalizeNewlines.eq_2, ih, List.cons_append]
      intro rest' same
      cases rest with
      | nil => exact apart (by rw [← List.nil_append second, same]; rfl)
      | cons c rest =>
          rw [List.cons_append, List.cons.injEq] at same
          exact other rest (by rw [same.1])
  | case3 c rest _ plain ih =>
      rw [List.cons_append, normalizeNewlines_cons plain, ih, List.cons_append]
  | case4 => rfl

theorem normalizeNewlines_of_plain {text : List Char} (plain : '\r' ∉ text) :
    normalizeNewlines text = text := by
  induction text with
  | nil => rfl
  | cons c text ih =>
      rw [List.mem_cons, not_or] at plain
      rw [normalizeNewlines_cons (Ne.symm plain.1), ih plain.2]

theorem mem_normalizeNewlines (text : List Char) : '\r' ∉ normalizeNewlines text := by
  fun_induction normalizeNewlines text with
  | case1 rest ih => simpa using ih
  | case2 rest _ ih => simpa using ih
  | case3 c rest _ plain ih => simpa using ⟨Ne.symm plain, ih⟩
  | case4 => exact List.not_mem_nil

theorem normalizeNewlines_eq_nil {text : List Char} : normalizeNewlines text = [] ↔ text = [] := by
  fun_cases normalizeNewlines text <;> simp

theorem length_normalizeNewlines (text : List Char) :
    (normalizeNewlines text).length ≤ text.length := by
  fun_induction normalizeNewlines text with
  | case1 rest ih => exact Nat.le_succ_of_le (Nat.succ_le_succ ih)
  | case2 rest _ ih => exact Nat.succ_le_succ ih
  | case3 c rest _ _ ih => exact Nat.succ_le_succ ih
  | case4 => exact Nat.le_refl 0

theorem normalizeNewlines_eq_self {text : List Char} :
    normalizeNewlines text = text ↔ '\r' ∉ text :=
  ⟨fun same => same ▸ mem_normalizeNewlines text, normalizeNewlines_of_plain⟩

/-! ## Texts of files -/

theorem fileText_encode (text : List Char) :
    fileText false (encode text) = .ok (normalizeNewlines (unmarked text)) := by
  rw [fileText, if_neg Bool.false_ne_true, withoutMark_encode, decode_encode]
  rfl

end RecordFilter.Text
