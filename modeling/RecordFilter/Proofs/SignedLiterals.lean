import RecordFilter.Proofs.CompiledTests
import RecordFilter.Proofs.FieldAccess
import RecordFilter.Proofs.KeptConstants
import RecordFilter.Proofs.NumberValues
import RecordFilter.Proofs.ParsedFilters

/-!
# Numerals with a sign

A numeral denotes exactly the number that it spells, however long it is, and so does one with a plus
sign.  A minus sign is an operator on the number, and its result is rounded like any other.  A field
is therefore compared with the opposite number only if that has no more digits than are kept, and
where nothing is left of the number the filter is refused.
-/

namespace RecordFilter

open Text Token

def equalityText (name sign digits : String) : String := "[" ++ name ++ "] == " ++ sign ++ digits

/-- A text can be used as a filter, which accepts a record whose field is a number exactly if the
number has a certain value. -/
def AsksFor (s : Schema) (lookup : Lookup) (name text : String) (v : ℚ) : Prop :=
  ∃ p, (Filter.text text).compile (s.resolver lookup) = .ok p ∧
    ∀ record x u, s.read lookup name record = .ok x → x.value? = some u →
      p.accepts record = .ok (decide (u = v))

theorem AsksFor.eq {s : Schema} {lookup : Lookup} {name text : String} {v w : ℚ}
    (first : AsksFor s lookup name text v) (second : AsksFor s lookup name text w)
    {record x : Payload} (read : s.read lookup name record = .ok x) (value : x.value? = some v) :
    v = w := by
  obtain ⟨p, compiled, accepts⟩ := first
  obtain ⟨q, compiledAgain, acceptsAgain⟩ := second
  obtain rfl : p = q := Except.ok.inj (compiled.symm.trans compiledAgain)
  have answers := (accepts record x v read value).symm.trans (acceptsAgain record x v read value)
  simpa using answers

/-! ## Reading the text -/

section

variable {name digits : String} {d : Decimal} (plain : ']' ∉ name.toList)
  (visible : ∃ c ∈ name.toList, isBlank c = false) (spelled : SpellsNumber digits.toList d)

include plain visible

theorem parse_equality {text : String} {e : Expr} (reads : Reads .sum text.toList e)
    (proper : e ≠ .const .null) :
    parse ("[" ++ name ++ "] == " ++ text) = .ok (.binary (.compare .equal) (.field name) e) := by
  have field : Reads .sum ('[' :: (name.toList ++ [']'])) (.field name) := by
    simpa using (reads_field plain visible).loosen (c := .sum) (by decide)
  have whole := field.compared (c := .equal) reads fun null => absurd null proper
  refine parse_of_reads (Reads.loosen (d := .comparison) (by decide) ?_)
  simpa [Comparison.symbol] using whole

include spelled

theorem parse_unsigned : parse (equalityText name "" digits) =
    .ok (.binary (.compare .equal) (.field name) (.const ⟨.number, .decimal d⟩)) := by
  have reads := (reads_number spelled).loosen (c := .sum) (by decide)
  simpa [equalityText] using parse_equality plain visible reads (by simp [Value.null])

theorem parse_signed (sign : String) (op : UnaryOp) (known : (sign, op) ∈ prefixes) :
    parse (equalityText name sign digits) =
      .ok (.binary (.compare .equal) (.field name)
        (.unary op (.const ⟨.number, .decimal d⟩))) := by
  have operand := (reads_number spelled).loosen (c := .signed) (by decide)
  have reads := (operand.prefixed known).loosen (c := .sum) (by decide)
  rw [← String.toList_append] at reads
  simpa [equalityText, String.append_assoc] using parse_equality plain visible reads nofun

end

/-! ## Comparing with what was read -/

section

variable {s : Schema} {name : String}

theorem Filter.compile_of_parse {text : String} {e : Expr} (parsed : parse text = .ok e)
    (r : Resolver) :
    (Filter.text text).compile r = withText (some text) (compileTo r (some text) e) := by
  simp only [Filter.compile, Filter.expr, parseExpression, parsed, Filter.expression?]

theorem compileField_number (lookup : Lookup) (number : s.kind? name = some .number) :
    ∃ declared, s.canonical? name = some declared ∧
      compileField (s.resolver lookup) name = .ok ⟨.number, .field declared⟩ := by
  obtain ⟨declared, known, -⟩ := Option.bind_eq_some_iff.mp number
  have kind : s.kind? declared = some .number := by rw [← Schema.kind?_canonical known, number]
  refine ⟨declared, known, ?_⟩
  simp [compileField, Schema.resolver, known, kind]

theorem testNonNull_constant {x : Payload} {u : ℚ} (value : x.value? = some u) (c : Decimal) :
    Comparison.equal.testNonNull x (.decimal c) = .ok (decide (u = c.toRat)) := by
  obtain ⟨d, left, rfl⟩ := Option.map_eq_some_iff.mp value
  have order : x.Ordered (.decimal c) (compare d.toRat c.toRat) := .number left rfl rfl
  obtain ⟨someLeft, someRight⟩ := order.isNull
  rw [Comparison.testNonNull, someLeft, someRight, if_neg (by decide),
    Comparison.test_of_ordered order, Comparison.holds]
  congr 1
  rw [Bool.eq_iff_iff, beq_iff_eq, compare_eq_iff_eq, decide_eq_true_iff]

def equalityTerm (declared : String) (c : Decimal) : Term :=
  .compare .equal (.field declared) (.constant ⟨.number, .decimal c⟩)

theorem eval_equalityTerm {read : String → Payload → Except Fault Payload} {declared : String}
    {record x : Payload} {u : ℚ} (given : read declared record = .ok x)
    (value : x.value? = some u) (c : Decimal) :
    (equalityTerm declared c).eval read record = .ok (.bool (decide (u = c.toRat))) := by
  have present : x.isNull = false := by
    obtain ⟨d, left, -⟩ := Option.map_eq_some_iff.mp value
    exact Payload.isNull_of_number? left
  simp only [equalityTerm, Term.eval, given, ok_bind, present, Bool.false_eq_true, if_false,
    testNonNull_constant value]
  rfl

variable {lookup : Lookup} {text : String} {e : Expr}

theorem compileExpr_equality {declared : String} {c : Decimal}
    (field : compileField (s.resolver lookup) name = .ok ⟨.number, .field declared⟩)
    (compiled : compileExpr (s.resolver lookup) e = .ok (.ofValue ⟨.number, .decimal c⟩)) :
    compileExpr (s.resolver lookup) (.binary (.compare .equal) (.field name) e) =
      .ok (booleanNode (equalityTerm declared c)) := by
  have meets : Value.meets? .number ⟨.number, .decimal c⟩ = some (.decimal c) := rfl
  rw [compileBinaryExpr_of_nodes (by rw [compileExpr_field, field]) compiled, compileBinary,
    compileComparison_ofValue_eq_ok rfl]
  exact ⟨⟨(nofun : Kind.number ≠ .collection), .inl rfl⟩, .decimal c, meets, rfl⟩

theorem asksFor_of_compiled {c : Decimal} (number : s.kind? name = some .number)
    (parsed : parse text = .ok (.binary (.compare .equal) (.field name) e))
    (compiled : compileExpr (s.resolver lookup) e = .ok (.ofValue ⟨.number, .decimal c⟩)) :
    AsksFor s lookup name text c.toRat := by
  obtain ⟨declared, known, field⟩ := compileField_number lookup number
  refine ⟨⟨equalityTerm declared c, .binary (.compare .equal) (.field name) e, some text,
    s.resolver lookup⟩, ?_, fun record x u read value => ?_⟩
  · rw [Filter.compile_of_parse parsed, withText_eq_ok, compileTo, compileFilter,
      compileExpr_equality field compiled]
    rfl
  · rw [Schema.read_canonical known] at read
    exact congrArg (Except.map Payload.isTrue) (eval_equalityTerm read value c)

theorem refused_of_null (number : s.kind? name = some .number)
    (parsed : parse text = .ok (.binary (.compare .equal) (.field name) e))
    (compiled : compileExpr (s.resolver lookup) e = .ok (.ofValue .null)) :
    (Filter.text text).compile (s.resolver lookup) =
      .error (.filter ⟨.semantic (.comparisonWithNull "=="), some text⟩) := by
  obtain ⟨declared, -, field⟩ := compileField_number lookup number
  rw [Filter.compile_of_parse parsed, compileTo, compileFilter,
    compileBinaryExpr_of_nodes (by rw [compileExpr_field, field]) compiled]
  rfl

end

/-- A numeral without a sign or with a plus sign denotes the number that it spells.  With a minus
sign it denotes the opposite of that number rounded, and if there is no such number, the filter is
refused like one that compares with `NULL`. -/
theorem Filter.compile_signedLiteral (s : Schema) (lookup : Lookup) {name digits : String}
    {d : Decimal} (plain : ']' ∉ name.toList) (visible : ∃ c ∈ name.toList, isBlank c = false)
    (number : s.kind? name = some .number) (spelled : SpellsNumber digits.toList d) :
    AsksFor s lookup name (equalityText name "" digits) d.toRat ∧
    AsksFor s lookup name (equalityText name "+" digits) d.toRat ∧
    (∀ v, Decimal.rounded? d.toRat = some v →
      AsksFor s lookup name (equalityText name "-" digits) (-v)) ∧
    (Decimal.rounded? d.toRat = none →
      (Filter.text (equalityText name "-" digits)).compile (s.resolver lookup) =
        .error (.filter ⟨.semantic (.comparisonWithNull "=="),
          some (equalityText name "-" digits)⟩)) := by
  have constant := compileExpr_const (s.resolver lookup) ⟨.number, .decimal d⟩
  have minus := parse_signed plain visible spelled "-" .negate (by decide)
  have negated := Value.compile_negated (s.resolver lookup) d
  have rounded := Decimal.toRat_negate? d
  rw [Decimal.rounded?_neg] at rounded
  refine ⟨?_, ?_, fun v kept => ?_, fun lost => ?_⟩
  · exact asksFor_of_compiled number (parse_unsigned plain visible spelled) constant
  · refine asksFor_of_compiled number
      (parse_signed plain visible spelled "+" .plus (by decide)) (c := d) ?_
    rw [compileExpr, constant]
    rfl
  · rw [kept, Option.map_some, Option.map_eq_some_iff] at rounded
    obtain ⟨r, result, value⟩ := rounded
    rw [result] at negated
    rw [← value]
    exact asksFor_of_compiled number minus negated
  · rw [lost, Option.map_none, Option.map_eq_none_iff] at rounded
    rw [rounded] at negated
    exact refused_of_null number minus negated

/-! ## A numeral of 29 digits -/

def balanceSchema : Schema := ⟨[("Balance", .number)]⟩

def longDigits : String := "12345678901234567890123456789"

def longNumber : Decimal := ⟨false, 12345678901234567890123456789, 0⟩

theorem longDigits_spell : SpellsNumber longDigits.toList longNumber := by
  have digital : longDigits.toList.all isAsciiDigit = true := rfl
  have spelled : SpellsNumber longDigits.toList _ :=
    .whole (by decide) (List.all_eq_true.mp digital)
  exact spelled

theorem rounded?_longNumber :
    Decimal.rounded? longNumber.toRat = some 12345678901234567890123456790 := by
  have rounds : longNumber.round? = some ⟨false, 1234567890123456789012345679, 1⟩ := by
    decide +kernel
  rw [← Decimal.toRat_round?, rounds, Option.map_some]
  norm_num [Decimal.toRat, Decimal.magnitude]

theorem Filter.compile_signedLiteral_long :
    ']' ∉ "Balance".toList ∧ (∃ c ∈ "Balance".toList, isBlank c = false) ∧
    balanceSchema.kind? "Balance" = some .number ∧ SpellsNumber longDigits.toList longNumber ∧
    AsksFor balanceSchema .byName "Balance" (equalityText "Balance" "-" longDigits)
      (-12345678901234567890123456790) := by
  have plain : ']' ∉ "Balance".toList := by decide
  have visible : ∃ c ∈ "Balance".toList, isBlank c = false := ⟨'B', by decide, by decide⟩
  have number : balanceSchema.kind? "Balance" = some .number := rfl
  have compiled := Filter.compile_signedLiteral balanceSchema .byName plain visible number
    longDigits_spell
  exact ⟨plain, visible, number, longDigits_spell, compiled.2.2.1 _ rounded?_longNumber⟩

theorem Filter.compile_negativeLiteral_notExact :
    ¬ ∀ (s : Schema) (lookup : Lookup) (name digits : String) (d : Decimal),
      ']' ∉ name.toList → (∃ c ∈ name.toList, isBlank c = false) →
      s.kind? name = some .number → SpellsNumber digits.toList d →
      AsksFor s lookup name (equalityText name "-" digits) (-d.toRat) := by
  intro exact
  have plain : ']' ∉ "Balance".toList := by decide
  have visible : ∃ c ∈ "Balance".toList, isBlank c = false := ⟨'B', by decide, by decide⟩
  have number : balanceSchema.kind? "Balance" = some .number := rfl
  have claimed := exact balanceSchema .byName "Balance" longDigits longNumber plain visible number
    longDigits_spell
  have negated : longNumber.negate? = some ⟨true, 1234567890123456789012345679, 1⟩ := by
    decide +kernel
  have compiled := Value.compile_negated (balanceSchema.resolver .byName) longNumber
  rw [negated] at compiled
  have asked := asksFor_of_compiled number
    (parse_signed plain visible longDigits_spell "-" .negate (by decide)) compiled
  have read : balanceSchema.read .byName "Balance"
      (.record [("Balance", .decimal longNumber.opposite)]) = .ok (.decimal longNumber.opposite) :=
    rfl
  have value : (Payload.decimal longNumber.opposite).value? = some (-longNumber.toRat) :=
    congrArg some (Decimal.toRat_opposite longNumber)
  have same := claimed.eq asked read value
  norm_num [longNumber, Decimal.toRat, Decimal.magnitude] at same

end RecordFilter
