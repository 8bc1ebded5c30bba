import RecordFilter.Proofs.DecimalValue
import RecordFilter.Proofs.MomentTexts
import RecordFilter.Proofs.PrintRoundTrip

/-!
# What literals are read as

Constants are written in a poorer syntax than they come from.  The literals of numbers have neither
a sign nor an exponent, truth values are written as numbers, and moments as texts.  So a printed
tree is parsed to another tree, in which each constant is replaced by what its literal stands for;
both trees have the same text.
-/

namespace RecordFilter

open Number Text

/-! ## Numbers -/

namespace Decimal

/-- The number that the digits of a number are read as: without its sign, and with the zeros that a
positive exponent stands for. -/
def writtenOut (d : Decimal) : Decimal :=
  ⟨false, d.coefficient * powerOfTen d.exponent.toNat, min d.exponent 0⟩

theorem digits_shifted {n : Nat} (positive : 0 < n) (k : Nat) :
    digits (n * powerOfTen k) = digits n ++ zeros k := by
  induction k with
  | zero => simp [powerOfTen, zeros]
  | succ k ih =>
      have shifted : 0 < n * powerOfTen k := Nat.mul_pos positive (Nat.pow_pos (by decide))
      have step : n * powerOfTen (k + 1) = 10 * (n * powerOfTen k) + 0 := by
        simp only [powerOfTen, Nat.pow_eq, Nat.pow_succ]
        ring
      have last : zeros (k + 1) = zeros k ++ Nat.toDigits 10 0 := by
        simp [zeros, List.replicate_succ']
      rw [step, digits, ← Nat.toDigits_append_toDigits (by decide) shifted (by decide), last,
        ← List.append_assoc, ← ih]
      rfl

theorem magnitude_writtenOut (d : Decimal) : d.writtenOut.magnitude = d.magnitude := by
  have split : d.exponent = d.exponent.toNat + min d.exponent 0 := by omega
  have power : ∀ k : Nat, (powerOfTen k : ℚ) = 10 ^ (k : Int) := fun k => by simp [powerOfTen]
  rw [magnitude, magnitude, writtenOut]
  dsimp only
  rw [Nat.cast_mul, power, mul_assoc, ← zpow_add₀ (by norm_num), ← split]

theorem isZero_writtenOut (d : Decimal) : d.writtenOut.isZero = d.isZero := by
  have power : powerOfTen d.exponent.toNat ≠ 0 := (Nat.pow_pos (by decide)).ne'
  simp [isZero, writtenOut, power]

theorem sameValue_writtenOut {d : Decimal} (unsigned : d.negative = false) :
    d.writtenOut.sameValue d = true := by
  have plain : d.writtenOut.negative = false := rfl
  rw [sameValue_iff, toRat, toRat, magnitude_writtenOut, plain, unsigned]

theorem positionalChars_writtenOut (d : Decimal) :
    d.positionalChars = withSign d.negative d.writtenOut.positionalChars := by
  obtain ⟨negative, coefficient, exponent⟩ := d
  rcases Nat.eq_zero_or_pos coefficient with rfl | positive
  · simp [positionalChars, writtenOut, isZero, withSign]
  have nonzero : coefficient ≠ 0 := by omega
  by_cases small : exponent ≤ 0
  · have none : exponent.toNat = 0 := by omega
    have kept : min exponent 0 = exponent := by omega
    simp [positionalChars, writtenOut, isZero, withSign, none, kept, powerOfTen]
  · -- The zeros stand behind the digits on the left, and belong to them on the right.
    have kept : min exponent 0 = 0 := by omega
    have length : 0 < (digits coefficient).length := Nat.length_toDigits_pos
    have scaled : coefficient * powerOfTen exponent.toNat ≠ 0 := by
      have power : 0 < powerOfTen exponent.toNat := Nat.pow_pos (by decide)
      exact Nat.mul_ne_zero nonzero (by omega)
    have before : ¬ exponent + (digits coefficient).length ≤ 0 := by omega
    have within : ¬ ((digits coefficient).length : Int) + max exponent 0 ≤ 0 := by omega
    have behind : ((digits coefficient).length : Int) ≤ exponent + (digits coefficient).length := by
      omega
    simp [positionalChars, writtenOut, isZero, withSign, nonzero, scaled, kept, pointed, before,
      within, behind, digits_shifted positive, zeros]

theorem positional_writtenOut {d : Decimal} (unsigned : d.negative = false) :
    d.writtenOut.positional = d.positional := by
  rw [positional, positional, positionalChars_writtenOut d, unsigned]
  rfl

end Decimal

/-! ## Constants -/

namespace Value

inductive WellFormed : Value → Prop
  | null : WellFormed .null
  | boolean (b : Bool) : WellFormed ⟨.boolean, .bool b⟩
  | number (d : Decimal) : WellFormed ⟨.number, .decimal d⟩
  | text (s : String) : WellFormed ⟨.text, .text s⟩
  | timestamp {m : Moment} (valid : m.isValid = true) : WellFormed ⟨.timestamp, .ofMoment m⟩

theorem wellFormed_of_ofPayload {p : Payload} {v : Value} (h : ofPayload p = .ok v)
    (plain : ∀ k raw, p ≠ .value k raw) (single : v.kind ≠ .collection)
    (onCalendar : ∀ m, p.toMoment = .ok m → m.isValid = true) : v.WellFormed := by
  have number {p : Payload} (h : ofNumber p = .ok v) : v.WellFormed := by
    obtain ⟨d, -, rfl⟩ := map_eq_ok.mp h
    exact .number d
  have moment (h : ofTimestamp p = .ok v) : v.WellFormed := by
    obtain ⟨m, made, rfl⟩ := map_eq_ok.mp h
    exact .timestamp (onCalendar m made)
  have members {p : Payload} (h : ofCollection p = .ok v) : v.WellFormed := by
    obtain ⟨items, -, rfl⟩ := map_eq_ok.mp h
    exact absurd rfl single
  cases p with
  | null => cases h; exact .null
  | bool b => cases h; exact .boolean b
  | text s => cases h; exact .text s
  | int | float | decimal | irregular | signaling => exact number h
  | timestamp | date => exact moment h
  | list | tuple | set => exact members h
  | record | mapping | object | foreign => cases h
  | value k raw => exact absurd rfl (plain k raw)

def reread (v : Value) : Expr :=
  match v.kind, v.raw with
  | .boolean, .bool b => .const ⟨.number, .decimal (.ofInt (if b then 1 else 0))⟩
  | .number, .decimal d =>
      if d.negative then .unary .negate (.const ⟨.number, .decimal d.writtenOut⟩)
      else .const ⟨.number, .decimal d.writtenOut⟩
  | .timestamp, .timestamp t => .const ⟨.text, .text t.moment.literal⟩
  | _, _ => .const v

theorem reread_shape (v : Value) :
    (∃ w, v.reread = .const w) ∨ ∃ w, v.reread = .unary .negate (.const w) := by
  unfold reread
  split
  · exact .inl ⟨_, rfl⟩
  · split
    · exact .inr ⟨_, rfl⟩
    · exact .inl ⟨_, rfl⟩
  · exact .inl ⟨_, rfl⟩
  · exact .inl ⟨_, rfl⟩

theorem level_reread (v : Value) : signLevel ≤ v.reread.level := by
  rcases v.reread_shape with ⟨w, same⟩ | ⟨w, same⟩ <;>
    simp [same, Expr.level, signLevel, primaryLevel]

theorem print_reread {v : Value} (h : v.WellFormed) :
    v.reread.print .standard = literalText .standard v := by
  cases h with
  | null => rfl
  | boolean b => cases b <;> rfl
  | text s => rfl
  | timestamp valid => rfl
  | number d =>
      cases sign : d.negative with
      | false => simp [reread, sign, literalText, numberLiteral, d.positional_writtenOut sign]
      | true =>
          have signed : d.positional = "-" ++ d.writtenOut.positional := by
            rw [← String.toList_inj]
            simp [Decimal.positional, d.positionalChars_writtenOut, Decimal.withSign, sign]
          have tight : signLevel ≤ primaryLevel := by decide
          simp [reread, sign, literalText, numberLiteral, Expr.print, Expr.parenthesized,
            Expr.level, UnaryOp.symbol, tight, signed]

theorem plain_of_textLiteral {s text : String} (printed : textLiteral s = .ok text) :
    apostrophe ∉ s.toList := by
  unfold textLiteral at printed
  split at printed
  · cases printed
  · next plain => simpa using plain

theorem allWritable_reread {v : Value} (h : v.WellFormed) {text : String}
    (printed : literalText .standard v = .ok text) : v.reread.AllWritable := by
  cases h with
  | null => exact Expr.allWritable_const.mpr .null
  | boolean b => cases b <;> exact Expr.allWritable_const.mpr (.number rfl (by decide))
  | text s => exact Expr.allWritable_const.mpr (.text (plain_of_textLiteral printed))
  | timestamp valid => exact Expr.allWritable_const.mpr (.text (plain_of_textLiteral printed))
  | number d =>
      have literal : Value.Literal ⟨.number, .decimal d.writtenOut⟩ :=
        .number rfl (Int.min_le_right _ _)
      cases sign : d.negative with
      | false => simpa [reread, sign] using Expr.allWritable_const.mpr literal
      | true =>
          simpa [reread, sign] using
            Expr.allWritable_unary.mpr (Expr.allWritable_const.mpr literal)

end Value

/-! ## Trees -/

namespace Expr

mutual

def reread : Expr → Expr
  | const v => v.reread
  | field name => field name
  | unary op operand => unary op (reread operand)
  | binary op left right => binary op (reread left) (reread right)
  | state test operand => state test (reread operand)
  | among negated operand first others =>
      among negated (reread operand) (reread first) (rereadAll others)
  | between negated operand lower upper =>
      between negated (reread operand) (reread lower) (reread upper)
  | incomplete op left => incomplete op (reread left)
  | unknown name => unknown name

def rereadAll : List Expr → List Expr
  | [] => []
  | e :: es => reread e :: rereadAll es

end

theorem rereadAll_eq_map (es : List Expr) : rereadAll es = es.map reread := by
  induction es with
  | nil => rfl
  | cons e es ih => rw [rereadAll, ih, List.map_cons]

/-- A node that can be told from its text once its constants are read from it. -/
def Legible : Expr → Prop
  | const v => v.WellFormed
  | field name => ∃ c ∈ name.toList, isBlank c = false
  | binary (.compare c) _ right => right = .const .null → c ≠ .equal ∧ c ≠ .notEqual
  | incomplete _ _ => False
  | _ => True

def AllLegible (e : Expr) : Prop := ∀ node ∈ e.nodes, node.Legible

theorem AllLegible.mono {e f : Expr} (h : e.AllLegible) (below : f.nodes ⊆ e.nodes) :
    f.AllLegible :=
  fun node found => h node (below found)

theorem level_reread (e : Expr) : min signLevel e.reread.level = min signLevel e.level := by
  cases e with
  | const v =>
      have tight := v.level_reread
      rw [reread, Nat.min_eq_left tight]
      rfl
  | unary op operand =>
      cases op with
      | negate | plus => rfl
      | not =>
          cases operand with
          | const v =>
              rw [reread, reread]
              rcases v.reread_shape with ⟨w, same⟩ | ⟨w, same⟩ <;> rw [same] <;> rfl
          | binary op left right | incomplete op left => cases op <;> rfl
          | _ => rfl
  | _ => rfl

theorem parenthesized_reread {minimum : Nat} (e : Expr) (low : minimum ≤ signLevel)
    (text : String) : e.reread.parenthesized minimum text = e.parenthesized minimum text := by
  have same := e.level_reread
  unfold parenthesized
  split <;> split <;> first | rfl | omega

theorem reread_eq_like {e l r : Expr} (h : e.reread = binary .like l r) :
    ∃ l' r', e = binary .like l' r' := by
  cases e with
  | const v =>
      rw [reread] at h
      rcases v.reread_shape with ⟨w, same⟩ | ⟨w, same⟩ <;> rw [same] at h <;> cases h
  | binary op left right =>
      rw [reread] at h
      cases h
      exact ⟨left, right, rfl⟩
  | _ => cases h

theorem printAll_rereadAll {es : List Expr}
    (h : ∀ e ∈ es, e.reread.print .standard = e.print .standard) :
    printAll .standard (rereadAll es) = printAll .standard es := by
  induction es with
  | nil => rfl
  | cons e es ih =>
      rw [List.forall_mem_cons] at h
      have low : sumLevel ≤ signLevel := by decide
      simp only [rereadAll, printAll, h.1, ih h.2, parenthesized_reread e low]

theorem operandLevels_le (op : BinaryOp) :
    (operandLevels op).1 ≤ signLevel ∧ (operandLevels op).2 ≤ signLevel := by
  cases op with
  | arithmetic a => cases a <;> decide
  | compare c => exact (by decide : sumLevel ≤ signLevel ∧ sumLevel ≤ signLevel)
  | and | or | like => decide

theorem nodes_subset_nodesOf {e : Expr} {es : List Expr} (h : e ∈ es) : e.nodes ⊆ nodesOf es := by
  induction es with
  | nil => cases h
  | cons f es ih =>
      intro node found
      rcases List.mem_cons.mp h with rfl | later
      · exact List.mem_append_left _ found
      · exact List.mem_append_right _ (ih later found)

section

variable {node e : Expr} {below xs ys : List Expr}

theorem subset_append_of_mem (left : node ∈ xs → node.nodes ⊆ xs)
    (right : node ∈ ys → node.nodes ⊆ ys) (h : node ∈ xs ++ ys) : node.nodes ⊆ xs ++ ys := by
  rcases List.mem_append.mp h with h | h
  · exact List.subset_append_of_subset_left _ (left h)
  · exact List.subset_append_of_subset_right _ (right h)

theorem subset_nodes_of_mem (split : e.nodes = e :: below)
    (deeper : node ∈ below → node.nodes ⊆ below) (h : node ∈ e.nodes) : node.nodes ⊆ e.nodes := by
  rcases List.mem_cons.mp (split ▸ h) with rfl | h
  · exact List.Subset.refl _
  · exact split ▸ List.subset_cons_of_subset _ (deeper h)

end

mutual

theorem nodes_subset_of_mem {node : Expr} (e : Expr) : node ∈ e.nodes → node.nodes ⊆ e.nodes := by
  match e with
  | const _ | field _ | unknown _ => exact subset_nodes_of_mem rfl nofun
  | unary _ operand | state _ operand | incomplete _ operand =>
      exact subset_nodes_of_mem rfl (nodes_subset_of_mem operand)
  | binary _ left right =>
      exact subset_nodes_of_mem rfl
        (subset_append_of_mem (nodes_subset_of_mem left) (nodes_subset_of_mem right))
  | among _ operand first others =>
      exact subset_nodes_of_mem rfl (subset_append_of_mem (nodes_subset_of_mem operand)
        (subset_append_of_mem (nodes_subset_of_mem first) (nodesOf_subset_of_mem others)))
  | between _ operand lower upper =>
      exact subset_nodes_of_mem rfl (subset_append_of_mem (nodes_subset_of_mem operand)
        (subset_append_of_mem (nodes_subset_of_mem lower) (nodes_subset_of_mem upper)))

theorem nodesOf_subset_of_mem {node : Expr} (es : List Expr) :
    node ∈ nodesOf es → node.nodes ⊆ nodesOf es := by
  match es with
  | [] => exact nofun
  | e :: es => exact subset_append_of_mem (nodes_subset_of_mem e) (nodesOf_subset_of_mem es)

end

theorem AllLegible.value {negated : Bool} {operand first e : Expr} {others : List Expr}
    (h : (among negated operand first others).AllLegible) (value : e ∈ first :: others) :
    e.AllLegible :=
  fun node found => h node (nodes_subset_values (nodes_subset_nodesOf value found))

theorem print_reread (e : Expr) (legible : e.AllLegible) :
    e.reread.print .standard = e.print .standard := by
  have low : sumLevel ≤ signLevel := by decide
  match e with
  | .const v =>
      have wellFormed : v.WellFormed := legible _ (mem_nodes_self _)
      rw [reread, v.print_reread wellFormed, print_const]
  | .field name => rfl
  | .unary op operand =>
      have inner : operand.AllLegible := legible.mono nodes_subset_unary
      by_cases other : ∃ l r, op = .not ∧ operand = .binary .like l r
      · obtain ⟨l, r, rfl, rfl⟩ := other
        have left := print_reread l (inner.mono nodes_subset_left)
        have right := print_reread r (inner.mono nodes_subset_right)
        simp only [reread, print, left, right, parenthesized_reread _ low]
      · have inside := print_reread operand inner
        have same : ∀ l r, op = .not → operand = .binary .like l r → False :=
          fun l r not like => other ⟨l, r, not, like⟩
        have same' : ∀ l r, op = .not → operand.reread = .binary .like l r → False := by
          intro l r not like
          obtain ⟨l', r', like'⟩ := reread_eq_like like
          exact same l' r' not like'
        rw [reread, print, print, inside]
        · simp only [parenthesized_reread _ (Nat.le_refl signLevel)]
        · exact same
        · exact same'
  | .binary op left right =>
      have left' := print_reread left (legible.mono nodes_subset_left)
      have right' := print_reread right (legible.mono nodes_subset_right)
      obtain ⟨lowLeft, lowRight⟩ := operandLevels_le op
      simp only [reread, print, left', right', parenthesized_reread _ lowLeft,
        parenthesized_reread _ lowRight]
  | .state test operand =>
      have inside := print_reread operand (legible.mono nodes_subset_state)
      simp only [reread, print, inside, parenthesized_reread _ low]
  | .among negated operand first others =>
      have inside := print_reread operand (legible.mono nodes_subset_among)
      have first' := print_reread first (legible.value (by simp))
      have others' : printAll .standard (rereadAll others) = printAll .standard others :=
        printAll_rereadAll fun value found => print_reread value (legible.value (by simp [found]))
      simp only [reread, print, inside, first', others', parenthesized_reread _ low]
  | .between negated operand lower upper =>
      have inside := print_reread operand (legible.mono nodes_subset_between)
      have lower' := print_reread lower (legible.mono nodes_subset_lower)
      have upper' := print_reread upper (legible.mono nodes_subset_upper)
      simp only [reread, print, inside, lower', upper', parenthesized_reread _ low]
  | .incomplete op left => exact (legible _ (mem_nodes_self _)).elim
  | .unknown name => rfl
  termination_by sizeOf e

theorem printed_of_printAll {style : LiteralStyle} {es : List Expr} {texts : List String}
    (h : printAll style es = .ok texts) : ∀ e ∈ es, ∃ text, e.print style = .ok text := by
  induction es generalizing texts with
  | nil => simp
  | cons e es ih =>
      rw [printAll] at h
      obtain ⟨text, printed, h⟩ := bind_eq_ok.mp h
      obtain ⟨others, printedAll, -⟩ := bind_eq_ok.mp h
      exact List.forall_mem_cons.mpr ⟨⟨text, printed⟩, ih printedAll⟩

theorem plain_of_fieldText {name text : String} (printed : fieldText name = .ok text) :
    ']' ∉ name.toList := by
  unfold fieldText at printed
  split at printed
  · cases printed
  · next plain => simpa using plain

theorem eq_null_of_reread {e : Expr} (legible : e.AllLegible) (h : e.reread = .const .null) :
    e = .const .null := by
  cases e with
  | const v =>
      have wellFormed : v.WellFormed := legible _ (mem_nodes_self _)
      cases wellFormed with
      | null => rfl
      | number d => cases sign : d.negative <;> simp [reread, Value.reread, sign, Value.null] at h
      | _ => cases h
  | _ => cases h

theorem allWritable_reread (e : Expr) (legible : e.AllLegible) {text : String}
    (h : e.print .standard = .ok text) : e.reread.AllWritable := by
  match e with
  | .const v =>
      have wellFormed : v.WellFormed := legible _ (mem_nodes_self _)
      rw [reread]
      exact v.allWritable_reread wellFormed (by rwa [print_const] at h)
  | .field name =>
      have visible : ∃ c ∈ name.toList, isBlank c = false := legible _ (mem_nodes_self _)
      exact allWritable_field.mpr ⟨visible, plain_of_fieldText (by rwa [print_field] at h)⟩
  | .unary op operand =>
      have inner : operand.AllLegible := legible.mono nodes_subset_unary
      refine allWritable_unary.mpr ?_
      by_cases other : ∃ l r, op = .not ∧ operand = .binary .like l r
      · obtain ⟨l, r, rfl, rfl⟩ := other
        rw [print] at h
        obtain ⟨_, printedLeft, h⟩ := bind_eq_ok.mp h
        obtain ⟨_, printedRight, -⟩ := bind_eq_ok.mp h
        have left := allWritable_reread l (inner.mono nodes_subset_left) printedLeft
        have right := allWritable_reread r (inner.mono nodes_subset_right) printedRight
        exact allWritable_binary.mpr ⟨trivial, left, right⟩
      · rw [print] at h
        · obtain ⟨_, printed, -⟩ := bind_eq_ok.mp h
          exact allWritable_reread operand inner printed
        · exact fun l r not like => other ⟨l, r, not, like⟩
  | .binary op left right =>
      have legibleRight : right.AllLegible := legible.mono nodes_subset_right
      rw [print] at h
      obtain ⟨_, printedLeft, h⟩ := bind_eq_ok.mp h
      obtain ⟨_, printedRight, -⟩ := bind_eq_ok.mp h
      have left' := allWritable_reread left (legible.mono nodes_subset_left) printedLeft
      have right' := allWritable_reread right legibleRight printedRight
      refine allWritable_binary.mpr ⟨?_, left', right'⟩
      cases op with
      | compare c =>
          have proper : right = .const .null → c ≠ .equal ∧ c ≠ .notEqual :=
            legible _ (mem_nodes_self _)
          exact fun null => proper (eq_null_of_reread legibleRight null)
      | _ => trivial
  | .state test operand =>
      rw [print] at h
      obtain ⟨_, printed, -⟩ := bind_eq_ok.mp h
      exact allWritable_state.mpr
        (allWritable_reread operand (legible.mono nodes_subset_state) printed)
  | .among negated operand first others =>
      rw [print] at h
      obtain ⟨_, printedFirst, h⟩ := bind_eq_ok.mp h
      obtain ⟨_, printedAll, h⟩ := bind_eq_ok.mp h
      obtain ⟨_, printed, -⟩ := bind_eq_ok.mp h
      refine allWritable_among.mpr ⟨?_, ?_, ?_⟩
      · exact allWritable_reread operand (legible.mono nodes_subset_among) printed
      · exact allWritable_reread first (legible.value (by simp)) printedFirst
      · simp only [rereadAll_eq_map, List.forall_mem_map]
        intro value found
        obtain ⟨_, printedValue⟩ := printed_of_printAll printedAll value found
        exact allWritable_reread value (legible.value (by simp [found])) printedValue
  | .between negated operand lower upper =>
      rw [print] at h
      obtain ⟨_, printed, h⟩ := bind_eq_ok.mp h
      obtain ⟨_, printedLower, h⟩ := bind_eq_ok.mp h
      obtain ⟨_, printedUpper, -⟩ := bind_eq_ok.mp h
      refine allWritable_between.mpr ⟨?_, ?_, ?_⟩
      · exact allWritable_reread operand (legible.mono nodes_subset_between) printed
      · exact allWritable_reread lower (legible.mono nodes_subset_lower) printedLower
      · exact allWritable_reread upper (legible.mono nodes_subset_upper) printedUpper
  | .incomplete op left => exact (legible _ (mem_nodes_self _)).elim
  | .unknown name =>
      rw [print] at h
      cases h
  termination_by sizeOf e

end Expr

/-- The text of a tree is parsed to the tree in which every constant is what its literal stands
for. -/
theorem parse_of_print {e : Expr} (legible : e.AllLegible) {text : String}
    (printed : e.print .standard = .ok text) : parse text = .ok e.reread := by
  have writable := e.allWritable_reread legible printed
  obtain ⟨text', printed', reads⟩ := Expr.Printed.of_allWritable .standard e.reread writable
  rw [e.print_reread legible, printed] at printed'
  cases printed'
  exact parse_of_reads (reads .disjunction e.reread.level_pos)

theorem Expr.AllWritable.allLegible {e : Expr} (h : e.AllWritable) : e.AllLegible := by
  intro node found
  have writable := h node found
  cases node with
  | const v =>
      have literal : v.Literal := writable
      cases literal with
      | null => exact .null
      | text => exact .text _
      | number => exact .number _
  | field name => exact writable.1
  | binary op left right =>
      cases op with
      | compare c => exact writable
      | _ => trivial
  | incomplete op left => exact writable
  | _ => trivial

theorem Expr.AllWritable.reread_eq {e : Expr} (h : e.AllWritable) : e.reread = e := by
  obtain ⟨text, printed, reads⟩ := Expr.Printed.of_allWritable .standard e h
  have parsed := parse_of_print h.allLegible printed
  rw [parse_of_reads (reads .disjunction e.level_pos)] at parsed
  exact (Except.ok.inj parsed).symm

end RecordFilter
