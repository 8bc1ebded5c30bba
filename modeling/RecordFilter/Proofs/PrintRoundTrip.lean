import RecordFilter.Expr.Print
import RecordFilter.Proofs.WrittenText

/-!
# Printing and parsing

The printed text of a tree reads as the tree in every category that its outermost operator binds
tightly enough for, and in parentheses it does so in all of them.  So printing comes down to the
productions of the grammar, by induction on the tree, and parsing a printed tree gives it back.

Only trees whose constants and names the language can write are printed without loss, and an
equality against `NULL` is never parsed as a comparison.  All trees that parsing returns are of
this sort.
-/

namespace RecordFilter

open Text Token Number

/-! ## Trees that can be written -/

inductive Value.Literal : Value → Prop
  | null : Literal .null
  | text {s : String} (plain : apostrophe ∉ s.toList) : Literal ⟨.text, .text s⟩
  | number {d : Decimal} (unsigned : d.negative = false) (whole : d.exponent ≤ 0) :
      Literal ⟨.number, .decimal d⟩

namespace Expr

def Writable : Expr → Prop
  | const v => v.Literal
  | field name => (∃ c ∈ name.toList, isBlank c = false) ∧ ']' ∉ name.toList
  | binary (.compare c) _ right => right = .const .null → c ≠ .equal ∧ c ≠ .notEqual
  | incomplete _ _ => False
  | unknown _ => False
  | _ => True

def AllWritable (e : Expr) : Prop := ∀ node ∈ e.nodes, node.Writable

theorem allWritable_const {v : Value} : (const v).AllWritable ↔ v.Literal := by
  have top : (const v).Writable ↔ v.Literal := Iff.rfl
  simp [AllWritable, nodes, top]

theorem allWritable_field {name : String} :
    (field name).AllWritable ↔ (∃ c ∈ name.toList, isBlank c = false) ∧ ']' ∉ name.toList := by
  have top : (field name).Writable ↔
    (∃ c ∈ name.toList, isBlank c = false) ∧ ']' ∉ name.toList := Iff.rfl
  simp [AllWritable, nodes, top]

theorem allWritable_unary {op : UnaryOp} {operand : Expr} :
    (unary op operand).AllWritable ↔ operand.AllWritable := by
  have top : (unary op operand).Writable := trivial
  simp [AllWritable, nodes, top]

theorem allWritable_binary {op : BinaryOp} {left right : Expr} :
    (binary op left right).AllWritable ↔
      (binary op left right).Writable ∧ left.AllWritable ∧ right.AllWritable := by
  simp [AllWritable, nodes, or_imp, forall_and]

theorem allWritable_state {test : StateTest} {operand : Expr} :
    (state test operand).AllWritable ↔ operand.AllWritable := by
  have top : (state test operand).Writable := trivial
  simp [AllWritable, nodes, top]

theorem forall_mem_nodesOf {es : List Expr} :
    (∀ node ∈ nodesOf es, node.Writable) ↔ ∀ e ∈ es, e.AllWritable := by
  induction es with
  | nil => simp [nodesOf]
  | cons e es ih => simp [nodesOf, AllWritable, or_imp, forall_and, ih]

theorem allWritable_among {negated : Bool} {operand first : Expr} {others : List Expr} :
    (among negated operand first others).AllWritable ↔
      operand.AllWritable ∧ first.AllWritable ∧ ∀ e ∈ others, e.AllWritable := by
  have top : (among negated operand first others).Writable := trivial
  rw [← forall_mem_nodesOf]
  simp [AllWritable, nodes, top, or_imp, forall_and]

theorem allWritable_between {negated : Bool} {operand lower upper : Expr} :
    (between negated operand lower upper).AllWritable ↔
      operand.AllWritable ∧ lower.AllWritable ∧ upper.AllWritable := by
  have top : (between negated operand lower upper).Writable := trivial
  simp [AllWritable, nodes, top, or_imp, forall_and]

theorem not_allWritable_incomplete {op : BinaryOp} {left : Expr} :
    ¬ (incomplete op left).AllWritable :=
  fun h => h _ (mem_nodes_self _)

theorem not_allWritable_unknown {name : String} : ¬ (unknown name).AllWritable :=
  fun h => h _ (mem_nodes_self _)

end Expr

/-! ## Printed texts -/

namespace Expr

theorem level_pos (e : Expr) : Category.disjunction.level ≤ e.level := by
  have known : ∀ op : BinaryOp, 1 ≤ op.level?.getD comparisonLevel := by
    intro op
    cases op with
    | arithmetic a => cases a <;> decide
    | and | or | like => decide
    | compare c => exact (by decide : 1 ≤ comparisonLevel)
  unfold level
  split <;> first | exact known _ | decide

theorem level_unary {op : UnaryOp} {operand : Expr}
    (other : ∀ l r, op = .not → operand = .binary .like l r → False)
    (complete : ∀ l, operand ≠ .incomplete .like l) :
    (unary op operand).level = signLevel := by
  unfold level
  split <;> simp_all

/-- A tree is printed, and its text reads as it in every category that it binds tightly enough
for. -/
def Printed (style : LiteralStyle) (e : Expr) : Prop :=
  ∃ text, e.print style = .ok text ∧ ∀ c, c.level ≤ e.level → Reads c text.toList e

theorem Printed.of_reads {style : LiteralStyle} {e : Expr} (c : Category) (text : String)
    (level : e.level = c.level) (printed : e.print style = .ok text)
    (reads : Reads c text.toList e) : e.Printed style :=
  ⟨text, printed, fun _ below => reads.loosen (level ▸ below)⟩

theorem Printed.operand {style : LiteralStyle} {e : Expr} (h : e.Printed style) :
    ∃ text, e.print style = .ok text ∧
      ∀ c : Category, Reads c (e.parenthesized c.level text).toList e := by
  obtain ⟨text, printed, reads⟩ := h
  refine ⟨text, printed, fun c => ?_⟩
  unfold parenthesized
  split_ifs with below
  · exact reads c below
  · have inside := (reads .disjunction e.level_pos).parenthesized
    have primary : c.level ≤ Category.primary.level := by cases c <;> decide
    simpa using inside.loosen primary

/-! ## One lemma for each kind of node -/

theorem Printed.const {style : LiteralStyle} {v : Value} (h : v.Literal) :
    (const v).Printed style := by
  cases h with
  | null => exact .of_reads .primary "NULL" rfl rfl reads_null
  | @text s plain =>
      refine .of_reads .primary ("'" ++ s ++ "'") rfl ?_ ?_
      · simp [literalText, textLiteral, plain]
      · simpa [apostrophe] using reads_text plain
  | @number d unsigned whole =>
      refine .of_reads .primary d.positional rfl rfl ?_
      simpa [Decimal.positional] using reads_number (spells_positional unsigned whole)

theorem Printed.field {style : LiteralStyle} {name : String}
    (visible : ∃ c ∈ name.toList, isBlank c = false) (plain : ']' ∉ name.toList) :
    (field name).Printed style := by
  refine .of_reads .primary ("[" ++ name ++ "]") rfl ?_ ?_
  · simp [fieldText, plain]
  · simpa using reads_field plain visible

theorem Printed.notLike {style : LiteralStyle} {left right : Expr} (h : left.Printed style)
    (h' : right.Printed style) : (unary .not (binary .like left right)).Printed style := by
  obtain ⟨l, printed, reads⟩ := h.operand
  obtain ⟨r, printed', reads'⟩ := h'.operand
  refine .of_reads .comparison
    (left.parenthesized Category.sum.level l ++ " not like " ++
      right.parenthesized Category.sum.level r) rfl ?_ ?_
  · rw [print, printed, printed']
    rfl
  · simpa using (reads .sum).notLike (reads' .sum)

theorem Printed.unary {style : LiteralStyle} {op : UnaryOp} {operand : Expr}
    (h : operand.Printed style) (other : ∀ l r, op = .not → operand = .binary .like l r → False)
    (complete : ∀ l, operand ≠ .incomplete .like l) : (unary op operand).Printed style := by
  obtain ⟨text, printed, reads⟩ := h.operand
  refine .of_reads .signed (op.symbol ++ operand.parenthesized Category.signed.level text)
    (level_unary other complete) ?_ ?_
  · rw [print, printed]
    · rfl
    · exact other
  · have known : (op.symbol, op) ∈ prefixes := by cases op <;> decide
    simpa using (reads .signed).prefixed known

theorem Printed.infixed {style : LiteralStyle} {c d : Category} {op : BinaryOp} {left right : Expr}
    (known : (c, op.symbol, op, d) ∈ infixes) (h : left.Printed style) (h' : right.Printed style) :
    (binary op left right).Printed style := by
  have levels : ∀ entry ∈ infixes, entry.2.2.1.level? = some entry.1.level ∧
      entry.2.2.2.level = entry.1.level + 1 := by decide
  obtain ⟨level, higher⟩ := levels _ known
  obtain ⟨l, printed, reads⟩ := h.operand
  obtain ⟨r, printed', reads'⟩ := h'.operand
  refine .of_reads c (left.parenthesized c.level l ++ " " ++ op.symbol ++ " " ++
    right.parenthesized d.level r) ?_ ?_ ?_
  · simp [Expr.level, level]
  · rw [print, printed, printed']
    simp [operandLevels, level, higher]
  · simpa using (reads c).infixed known (reads' d)

theorem Printed.compared {style : LiteralStyle} {c : Comparison} {left right : Expr}
    (h : left.Printed style) (h' : right.Printed style)
    (proper : right = .const .null → c ≠ .equal ∧ c ≠ .notEqual) :
    (binary (.compare c) left right).Printed style := by
  obtain ⟨l, printed, reads⟩ := h.operand
  obtain ⟨r, printed', reads'⟩ := h'.operand
  refine .of_reads .comparison (left.parenthesized Category.sum.level l ++ " " ++ c.symbol ++ " " ++
    right.parenthesized Category.sum.level r) rfl ?_ ?_
  · rw [print, printed, printed']
    rfl
  · have noTest : right = .const .null → ∀ test, (c, test) ∉ nullTests := by
      intro null test
      simp [nullTests, proper null]
    simpa using (reads .sum).compared (reads' .sum) noTest

theorem Printed.like {style : LiteralStyle} {left right : Expr} (h : left.Printed style)
    (h' : right.Printed style) : (binary .like left right).Printed style := by
  obtain ⟨l, printed, reads⟩ := h.operand
  obtain ⟨r, printed', reads'⟩ := h'.operand
  refine .of_reads .comparison (left.parenthesized Category.sum.level l ++ " " ++ "like" ++ " " ++
    right.parenthesized Category.sum.level r) rfl ?_ ?_
  · rw [print, printed, printed']
    rfl
  · simpa using (reads .sum).like (reads' .sum)

theorem Printed.state {style : LiteralStyle} {test : StateTest} {operand : Expr}
    (h : operand.Printed style) : (state test operand).Printed style := by
  obtain ⟨text, printed, reads⟩ := h.operand
  refine .of_reads .comparison
    (operand.parenthesized Category.sum.level text ++ " " ++ test.symbol) rfl ?_ ?_
  · rw [print, printed]
    rfl
  · have known : (test.symbol, test) ∈ stateWords := by cases test <;> decide
    simpa using (reads .sum).state known

theorem Printed.between {style : LiteralStyle} {negated : Bool} {operand lower upper : Expr}
    (h : operand.Printed style) (hLower : lower.Printed style) (hUpper : upper.Printed style) :
    (between negated operand lower upper).Printed style := by
  obtain ⟨text, printed, reads⟩ := h.operand
  obtain ⟨low, printedLow, readsLow⟩ := hLower.operand
  obtain ⟨high, printedHigh, readsHigh⟩ := hUpper.operand
  refine .of_reads .comparison (operand.parenthesized Category.sum.level text ++
    (if negated then " not between " else " between ") ++
      lower.parenthesized Category.sum.level low ++ " and " ++
        upper.parenthesized Category.sum.level high) rfl ?_ ?_
  · rw [print, printed, printedLow, printedHigh]
    rfl
  · have known : ((if negated then "not between" else "between"), negated) ∈ rangeWords := by
      cases negated <;> decide
    have between := (reads .sum).between known (readsLow .sum) (readsHigh .sum)
    cases negated <;> simpa using between

theorem printAll_of_printed {style : LiteralStyle} {es : List Expr}
    (h : ∀ e ∈ es, e.Printed style) :
    ∃ texts, printAll style es = .ok texts ∧
      List.Forall₂ (Reads .sum) (texts.map String.toList) es := by
  induction es with
  | nil => exact ⟨[], rfl, .nil⟩
  | cons e es ih =>
      rw [List.forall_mem_cons] at h
      obtain ⟨text, printed, reads⟩ := h.1.operand
      obtain ⟨texts, printedAll, readsAll⟩ := ih h.2
      refine ⟨e.parenthesized Category.sum.level text :: texts, ?_, .cons (reads .sum) readsAll⟩
      rw [printAll, printed, printedAll]
      rfl

theorem toList_intercalate (first : String) (others : List String) :
    (", ".intercalate (first :: others)).toList =
      first.toList ++ itemsText (others.map String.toList) := by
  induction others generalizing first with
  | nil => simp [itemsText]
  | cons second others ih =>
      rw [String.intercalate_cons_cons, String.toList_append, ih]
      simp [itemsText]

theorem Printed.among {style : LiteralStyle} {negated : Bool} {operand first : Expr}
    {others : List Expr} (h : operand.Printed style) (hFirst : first.Printed style)
    (hOthers : ∀ e ∈ others, e.Printed style) :
    (among negated operand first others).Printed style := by
  obtain ⟨text, printed, reads⟩ := h.operand
  obtain ⟨firstText, printedFirst, readsFirst⟩ := hFirst.operand
  obtain ⟨texts, printedAll, readsAll⟩ := printAll_of_printed hOthers
  refine .of_reads .comparison (operand.parenthesized Category.sum.level text ++
    (if negated then " not in " else " in ") ++ "\x7b" ++
      ", ".intercalate (first.parenthesized Category.sum.level firstText :: texts) ++ "\x7d")
    rfl ?_ ?_
  · rw [print, printed, printedFirst, printedAll]
    rfl
  · have known : ((if negated then "not in" else "in"), negated) ∈ membershipWords := by
      cases negated <;> decide
    have among := (reads .sum).among known (readsFirst .sum) readsAll
    simp only [String.toList_append, toList_intercalate]
    cases negated <;> simpa using among

/-! ## All nodes -/

/-- Every tree that can be written is printed, by recursion on the tree. -/
theorem Printed.of_allWritable (style : LiteralStyle) (e : Expr) (h : e.AllWritable) :
    e.Printed style := by
  match e with
  | .const v => exact .const (allWritable_const.mp h)
  | .field name =>
      obtain ⟨visible, plain⟩ := allWritable_field.mp h
      exact .field visible plain
  | .unary op operand =>
      have writable := allWritable_unary.mp h
      -- A negated pattern match is written with its operator between the operands, so the recursion
      -- skips the node in the middle.
      by_cases other : ∃ l r, op = .not ∧ operand = .binary .like l r
      · obtain ⟨l, r, rfl, rfl⟩ := other
        obtain ⟨-, hl, hr⟩ := allWritable_binary.mp writable
        exact .notLike (of_allWritable style l hl) (of_allWritable style r hr)
      · refine .unary (of_allWritable style operand writable) (fun l r not like => ?_) ?_
        · exact other ⟨l, r, not, like⟩
        · rintro l rfl
          exact not_allWritable_incomplete writable
  | .binary op left right =>
      obtain ⟨self, hl, hr⟩ := allWritable_binary.mp h
      have left' := of_allWritable style left hl
      have right' := of_allWritable style right hr
      cases op with
      | and => exact .infixed (c := .conjunction) (d := .comparison) (by decide) left' right'
      | or => exact .infixed (c := .disjunction) (d := .conjunction) (by decide) left' right'
      | arithmetic a =>
          cases a with
          | add | subtract => exact .infixed (c := .sum) (d := .product) (by decide) left' right'
          | multiply | divide =>
              exact .infixed (c := .product) (d := .signed) (by decide) left' right'
      | compare c => exact .compared left' right' self
      | like => exact .like left' right'
  | .state test operand => exact .state (of_allWritable style operand (allWritable_state.mp h))
  | .among negated operand first others =>
      obtain ⟨tested, value, values⟩ := allWritable_among.mp h
      exact .among (of_allWritable style operand tested) (of_allWritable style first value)
        fun e he => of_allWritable style e (values e he)
  | .between negated operand lower upper =>
      obtain ⟨tested, low, high⟩ := allWritable_between.mp h
      exact .between (of_allWritable style operand tested) (of_allWritable style lower low)
        (of_allWritable style upper high)
  | .incomplete op left => exact (not_allWritable_incomplete h).elim
  | .unknown name => exact (not_allWritable_unknown h).elim
  termination_by sizeOf e

end Expr

/-! ## Parsing what was printed -/

theorem parse_of_reads {text : String} {e : Expr} (h : Reads .disjunction text.toList e) :
    parse text = .ok e := by
  obtain ⟨tokens, behind, scanned, derived⟩ := h.2 [] separates_nil 0
  obtain ⟨tokens', finish, scanned', ends, only, -⟩ := scanFrom_formed 0 text.toList
  have last : scanFrom behind [] = [⟨.finish, "", behind⟩] := by rw [scanFrom]
  rw [List.append_nil, scanned', last] at scanned
  obtain ⟨rfl, -⟩ := List.append_inj' scanned rfl
  rw [parse, scan, scanned', parseTokens_append_finish ends only]
  exact parseBefore_of_derives finish derived

theorem derives_of_parse {text : String} {e : Expr} (h : parse text = .ok e) :
    ∃ ts, Derives .disjunction ts e := by
  obtain ⟨tokens, finish, scanned, ends, only, formed⟩ := scanFrom_formed 0 text.toList
  rw [parse, scan, scanned, parseTokens_append_finish ends only] at h
  have yields := parseBefore_yields finish formed
  rw [h] at yields
  exact ⟨tokens, yields⟩

theorem SpellsNumber.literal {text : List Char} {d : Decimal} (h : SpellsNumber text d) :
    Value.Literal ⟨.number, .decimal d⟩ := by
  cases h with
  | whole => exact .number rfl (Int.le_refl 0)
  | fractional => exact .number rfl (by simp)

theorem Derives.allWritable {c : Category} {ts : List Token} {e : Expr} (h : Derives c ts e) :
    e.AllWritable := by
  induction h with
  | number _ spelled => exact Expr.allWritable_const.mpr spelled.literal
  | text _ enclosed => exact Expr.allWritable_const.mpr (.text (by simpa using enclosed.2))
  | null _ => exact Expr.allWritable_const.mpr .null
  | field _ enclosed visible =>
      exact Expr.allWritable_field.mpr (by simpa using ⟨visible, enclosed.2⟩)
  | parenthesized _ _ _ ih => exact ih
  | tighter _ _ ih => exact ih
  | prefixed _ _ _ ih => exact Expr.allWritable_unary.mpr ih
  | @infixed _ _ _ _ op _ _ _ _ known _ _ _ ihFirst ihSecond =>
      have plain : ∀ entry ∈ infixes, ∀ c, entry.2.2.1 ≠ .compare c := by simp [infixes]
      refine Expr.allWritable_binary.mpr ⟨?_, ihFirst, ihSecond⟩
      cases op with
      | compare c => exact absurd rfl (plain _ known c)
      | _ => trivial
  | compared _ _ _ _ proper ihFirst ihSecond =>
      refine Expr.allWritable_binary.mpr ⟨fun null => ?_, ihFirst, ihSecond⟩
      have noTest := proper null
      constructor
      · rintro rfl
        exact noTest .isNull (by simp [nullTests])
      · rintro rfl
        exact noTest .isNotNull (by simp [nullTests])
  | comparedWithNull _ _ _ _ _ ihFirst _ => exact Expr.allWritable_state.mpr ihFirst
  | like _ _ _ ihFirst ihSecond =>
      exact Expr.allWritable_binary.mpr ⟨trivial, ihFirst, ihSecond⟩
  | notLike _ _ _ ihFirst ihSecond =>
      exact Expr.allWritable_unary.mpr
        (Expr.allWritable_binary.mpr ⟨trivial, ihFirst, ihSecond⟩)
  | between _ _ _ _ _ _ ihFirst ihSecond ihThird =>
      exact Expr.allWritable_between.mpr ⟨ihFirst, ihSecond, ihThird⟩
  | among _ _ _ _ _ _ _ _ ihTested ihValue ihValues =>
      refine Expr.allWritable_among.mpr ⟨ihTested, ihValue, fun e he => ?_⟩
      obtain ⟨o, ho, rfl⟩ := List.mem_map.mp he
      exact ihValues o ho
  | state _ _ _ ih => exact Expr.allWritable_state.mpr ih

/-- Printing and parsing gives back every tree that can be written, and all trees that parsing
returns can be written. -/
theorem parse_print :
    (∀ e : Expr, e.AllWritable → ∃ text, e.print .standard = .ok text ∧ parse text = .ok e) ∧
    ∀ source e, parse source = .ok e →
      ∃ text, e.print .standard = .ok text ∧ parse text = .ok e := by
  have roundTrip : ∀ e : Expr, e.AllWritable →
      ∃ text, e.print .standard = .ok text ∧ parse text = .ok e := by
    intro e writable
    obtain ⟨text, printed, reads⟩ := Expr.Printed.of_allWritable .standard e writable
    exact ⟨text, printed, parse_of_reads (reads .disjunction e.level_pos)⟩
  refine ⟨roundTrip, fun source e parsed => ?_⟩
  obtain ⟨ts, derived⟩ := derives_of_parse parsed
  exact roundTrip e derived.allWritable

/-- A tree whose parts need parentheses, and others that do not:
`!([a] not like 'x%') && 1.50 - ([b] - 2) in {NULL, -[c]}`. -/
def nestedTree : Expr :=
  .binary .and
    (.unary .not (.unary .not (.binary .like (.field "a") (.const ⟨.text, .text "x%"⟩))))
    (.among false
      (.binary (.arithmetic .subtract) (.const ⟨.number, .decimal ⟨false, 150, -2⟩⟩)
        (.binary (.arithmetic .subtract) (.field "b") (.const ⟨.number, .decimal ⟨false, 2, 0⟩⟩)))
      (.const .null) [.unary .negate (.field "c")])

theorem nestedTree_allWritable : nestedTree.AllWritable := by
  have literal : Value.Literal ⟨.text, .text "x%"⟩ := .text (by decide)
  have number : Value.Literal ⟨.number, .decimal ⟨false, 150, -2⟩⟩ := .number rfl (by decide)
  have number' : Value.Literal ⟨.number, .decimal ⟨false, 2, 0⟩⟩ := .number rfl (by decide)
  have field : ∀ name ∈ ["a", "b", "c"], (Expr.field name).AllWritable := by
    intro name known
    refine Expr.allWritable_field.mpr ?_
    simp only [List.mem_cons, List.not_mem_nil, or_false] at known
    rcases known with rfl | rfl | rfl
    · exact ⟨⟨'a', by simp, by decide⟩, by decide⟩
    · exact ⟨⟨'b', by simp, by decide⟩, by decide⟩
    · exact ⟨⟨'c', by simp, by decide⟩, by decide⟩
  simp only [nestedTree, Expr.allWritable_binary, Expr.allWritable_unary, Expr.allWritable_among,
    Expr.allWritable_const, literal, number, number', Value.Literal.null]
  simp [Expr.Writable, Expr.allWritable_unary, field]

theorem parse_print_nestedTree :
    parse "!([a] not like 'x%') && 1.50 - ([b] - 2) in \x7bNULL, -[c]\x7d" = .ok nestedTree ∧
    ∃ text, nestedTree.print .standard = .ok text ∧ parse text = .ok nestedTree := by
  have parsed : parse "!([a] not like 'x%') && 1.50 - ([b] - 2) in \x7bNULL, -[c]\x7d" =
      .ok nestedTree := by
    obtain ⟨text, printed, parsed⟩ := parse_print.1 nestedTree nestedTree_allWritable
    have same : nestedTree.print .standard =
      .ok "!([a] not like 'x%') && 1.50 - ([b] - 2) in \x7bNULL, -[c]\x7d" := by rfl
    rw [same] at printed
    cases printed
    exact parsed
  exact ⟨parsed, parse_print.2 _ nestedTree parsed⟩

end RecordFilter
