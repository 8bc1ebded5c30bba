import RecordFilter.Proofs.NumberValues
import RecordFilter.Proofs.ParsedFilters

/-!
# Encodings of whole numbers

A field of numbers may hold a whole number as it is, as a decimal number or as a text of digits.
What a filter finds depends on the value only, as long as no result of arithmetic is rounded for
one record and not for the other: whole numbers are added, subtracted, multiplied and negated
exactly, and decimal numbers with the digits that are kept.  Patterns are another matter, as they
look at the digits.
-/

namespace RecordFilter

open Number

/-! ## Fields -/

theorem read?_signedDigits (n : ℤ) :
    ∃ d, Decimal.read? (signedDigits n) = some (.finite d) ∧ d.toRat = n := by
  have nonempty : digits n.natAbs ≠ [] := Nat.toDigits_ne_nil
  have spelled := SpellsNumber.whole nonempty fun c => isAsciiDigit_of_mem_digits
  rw [ofDigitChars_digits] at spelled
  rw [← Decimal.toRat_ofInt, Decimal.ofInt]
  unfold signedDigits
  by_cases negative : n < 0
  · rw [if_pos negative, decide_eq_true negative]
    exact ⟨_, read?_minus spelled, rfl⟩
  · rw [if_neg negative, decide_eq_false negative]
    exact ⟨_, read?_spelled spelled, rfl⟩

namespace Payload

/-- The ways to hold a whole number: as it is, as a decimal number, and as the text of its
digits. -/
inductive Encodes (n : ℤ) : Payload → Prop
  | int : Encodes n (.int n)
  | decimal : Encodes n (.decimal (.ofInt n))
  | text : Encodes n (.text (String.ofList (signedDigits n)))

theorem Encodes.normalize {n : ℤ} {p : Payload} (h : p.Encodes n) :
    ∃ q, p.normalize .number = .ok q ∧ q.FitsOrNull .number ∧ q.value? = some (n : ℚ) := by
  cases h with
  | int => exact ⟨.int n, rfl, .inr (.int n), value?_int n⟩
  | decimal =>
      exact ⟨.decimal (.ofInt n), rfl, .inr (.decimal _), congrArg some (Decimal.toRat_ofInt n)⟩
  | text =>
      obtain ⟨d, read, value⟩ := read?_signedDigits n
      refine ⟨.decimal d, ?_, .inr (.decimal d), congrArg some value⟩
      simp [Payload.normalize, isNull, toNumber, read, nullOnFailure, Except.map]

end Payload

/-- Two records hold the same in the fields of a schema, but that they may encode the whole numbers
in fields of numbers in different ways. -/
def Schema.Reencoded (s : Schema) (lookup : Lookup) (x y : Payload) : Prop :=
  ∀ name k, s.declared? name = some k → lookup.find? x name = lookup.find? y name ∨
    (k = .number ∧ ∃ n p q, lookup.find? x name = some p ∧ lookup.find? y name = some q ∧
      p.Encodes n ∧ q.Encodes n)

/-! ## Nodes -/

def AlikeIn (k : Kind) : Except Fault Payload → Except Fault Payload → Prop :=
  UpTo fun p q => k = .number ∧ p.NumbersAgree q

theorem AlikeIn.eq {k : Kind} {o o' : Except Fault Payload} (h : AlikeIn k o o')
    (other : k ≠ .number) : o = o' :=
  UpTo.eq h fun _ _ related => other related.1

/-- Of two different results of which one is a whole number, rounding keeps this number. -/
def RoundingKeeps (o o' : Except Fault Payload) : Prop :=
  ∀ n : ℤ, o = .ok (.int n) ∨ o' = .ok (.int n) → o = o' ∨ (Decimal.ofInt n).survives = true

section

variable {s : Schema} {lookup : Lookup} {x y : Payload}

theorem Schema.Reencoded.read (h : s.Reencoded lookup x y) (name : String) :
    AlikeIn ((s.kind? name).getD .null) (s.read lookup name x) (s.read lookup name y) := by
  unfold Schema.read
  cases known : s.canonical? name with
  | none => exact .same _
  | some declared =>
      obtain ⟨k, found⟩ := Option.isSome_iff_exists.mp (isSome_declared? known)
      rcases h declared k found with same | ⟨rfl, n, p, q, left, right, encodes, encodes'⟩
      · simp only [same]
        exact .same _
      · obtain ⟨p', read, fits, value⟩ := encodes.normalize
        obtain ⟨q', read', fits', value'⟩ := encodes'.normalize
        have kind : (s.kind? name).getD .null = .number := by
          rw [kind?, known, Option.bind_some, found, Option.getD_some]
        simp only [found, left, right, read, read']
        exact .results ⟨kind, fits, fits', value.trans value'.symm⟩

def Node.Steady (s : Schema) (lookup : Lookup) (x y : Payload) (n : Node) : Prop :=
  AlikeIn n.kind (n.term.eval (s.read lookup) x) (n.term.eval (s.read lookup) y)

namespace Node.Steady

theorem ofValue (v : Value) : (Node.ofValue v).Steady s lookup x y := .same _

theorem bind {n : Node} (h : n.Steady s lookup x y) (sound : n.Sound s.kind?)
    (number : n.kind = .number) {related : Payload → Payload → Prop}
    {next next' : Payload → Except Fault Payload}
    (step : ∀ p q, n.term.eval (s.read lookup) x = .ok p → n.term.eval (s.read lookup) y = .ok q →
      p.NumbersAgree q → UpTo related (next p) (next' q)) :
    UpTo related (n.term.eval (s.read lookup) x >>= next)
      (n.term.eval (s.read lookup) y >>= next') := by
  refine UpTo.bind h (fun p given => ⟨number, .refl ?_⟩) fun p q given given' agree =>
    step p q given given' agree.2
  exact (sound.hasKind number).eval_fits (s.keepsKinds lookup) given

end Node.Steady

theorem fold_steady {n m : Node} {operands : List Node} (h : fold n operands = .ok m)
    (steady : m = n → n.Steady s lookup x y) : m.Steady s lookup x y := by
  rcases fold_eq_ok h with ⟨-, rfl⟩ | ⟨-, raw, -, rfl⟩
  · exact steady rfl
  · exact .ofValue _

theorem align_steady {operator : String} {target other aligned : Node} {e : Expr}
    (h : align operator target other e = .ok aligned) (steady : other.Steady s lookup x y) :
    aligned.Steady s lookup x y := by
  rcases align_eq_ok h with ⟨-, rfl⟩ | ⟨-, v, converted, -, -, rfl⟩
  · exact steady
  · exact .ofValue _

/-! ## Operators -/

theorem compileNot_steady {e : Expr} {operand node : Node} (steady : operand.Steady s lookup x y)
    (h : compileUnary .not e operand = .ok node) : node.Steady s lookup x y := by
  obtain ⟨truth, folded⟩ := compileNot_eq_ok h
  refine fold_steady folded fun _ => ?_
  simp only [Node.Steady, booleanNode, Term.eval, AlikeIn.eq steady (by simp [truth])]
  exact .same _

theorem compileNegate_steady {e : Expr} {operand node : Node}
    (steady : operand.Steady s lookup x y) (sound : operand.Sound s.kind?)
    (h : compileUnary .negate e operand = .ok node)
    (kept : RoundingKeeps (node.term.eval (s.read lookup) x) (node.term.eval (s.read lookup) y)) :
    node.Steady s lookup x y := by
  obtain ⟨number, folded⟩ := compileNegate_eq_ok h
  refine fold_steady folded ?_
  rintro rfl
  simp only [Node.Steady, Term.eval] at kept ⊢
  refine steady.bind sound number fun p q given given' agree => ?_
  rw [given, given', ok_bind, ok_bind] at kept
  obtain ⟨p', negated, -⟩ := Payload.negate_fits agree.left
  obtain ⟨q', negated', -⟩ := Payload.negate_fits agree.right
  rw [negated, negated'] at kept ⊢
  have computed := Payload.negate_computed agree.left negated
  have computed' := Payload.negate_computed agree.right negated'
  rw [← agree.value] at computed'
  exact .results ⟨rfl, computed.agree computed' (by simpa [RoundingKeeps] using kept)⟩

theorem compileState_steady {test : StateTest} {e : Expr} {operand node : Node}
    (steady : operand.Steady s lookup x y) (sound : operand.Sound s.kind?)
    (h : compileState test e operand = .ok node) : node.Steady s lookup x y := by
  obtain ⟨measured, folded⟩ := compileState_eq_ok h
  refine fold_steady folded fun _ => ?_
  by_cases number : operand.kind = .number
  · have open' : test.needsLength = false := by
      by_contra needed
      rw [sound.null_iff, number] at measured
      simpa using measured (by simpa using needed)
    refine steady.bind sound number fun p q _ _ agree => ?_
    have same : p.testState test = q.testState test := by
      cases test with
      | isNull | isNotNull => simp only [Payload.testState, agree.isNull]
      | isEmpty | isNotEmpty => cases open'
    rw [same]
    exact .same _
  · simp only [Node.Steady, booleanNode, Term.eval, AlikeIn.eq steady number]
    exact .same _

theorem compileConnective_steady {op : BinaryOp} {left right node : Node} {e f : Expr}
    (steadyLeft : left.Steady s lookup x y) (steadyRight : right.Steady s lookup x y)
    (connective : op = .and ∨ op = .or) (h : compileBinary op left right e f = .ok node) :
    node.Steady s lookup x y := by
  rcases connective with rfl | rfl <;>
  · obtain ⟨truthLeft, truthRight, folded⟩ := compileConnective_eq_ok h
    refine fold_steady folded fun _ => ?_
    simp only [Node.Steady, booleanNode, Term.eval, AlikeIn.eq steadyLeft (by simp [truthLeft]),
      AlikeIn.eq steadyRight (by simp [truthRight])]
    exact .same _

theorem compare_steady {l r : Node} (c : Comparison) (steadyL : l.Steady s lookup x y)
    (steadyR : r.Steady s lookup x y) (soundL : l.Sound s.kind?) (soundR : r.Sound s.kind?)
    (kinds : r.kind = l.kind) : (booleanNode (.compare c l.term r.term)).Steady s lookup x y := by
  by_cases number : l.kind = .number
  · refine steadyL.bind soundL number fun p q _ _ agree => ?_
    rw [agree.isNull]
    split_ifs
    · exact .same _
    · refine steadyR.bind soundR (kinds.trans number) fun p' q' _ _ agree' => ?_
      rw [agree.testNonNull agree']
      exact .same _
  · simp only [Node.Steady, booleanNode, Term.eval, AlikeIn.eq steadyL number,
      AlikeIn.eq steadyR (by rwa [kinds])]
    exact .same _

theorem compileComparison_steady {c : Comparison} {left right node : Node} {e f : Expr}
    (steadyLeft : left.Steady s lookup x y) (steadyRight : right.Steady s lookup x y)
    (soundLeft : left.Sound s.kind?) (soundRight : right.Sound s.kind?)
    (h : compileComparison c left right e f = .ok node) : node.Steady s lookup x y := by
  obtain ⟨someLeft, someRight, l, r, aligned, -, -, folded⟩ := compileComparison_eq_ok h
  obtain ⟨soundL, soundR, kinds, -⟩ :=
    comparisonOperands_sound soundLeft soundRight someLeft someRight aligned
  refine fold_steady folded fun _ => ?_
  rcases alignBoth_eq_ok aligned with ⟨-, rfl, aligned⟩ | ⟨-, rfl, aligned⟩
  · exact compare_steady c steadyLeft (align_steady aligned steadyRight) soundL soundR kinds
  · exact compare_steady c (align_steady aligned steadyLeft) steadyRight soundL soundR kinds

theorem arithmetic_steady {l r : Node} (op : Arithmetic) (steadyL : l.Steady s lookup x y)
    (steadyR : r.Steady s lookup x y) (soundL : l.Sound s.kind?) (soundR : r.Sound s.kind?)
    (numbers : l.kind = .number ∧ r.kind = .number)
    (kept : RoundingKeeps ((Term.arithmetic op l.term r.term).eval (s.read lookup) x)
      ((Term.arithmetic op l.term r.term).eval (s.read lookup) y)) :
    Node.Steady s lookup x y ⟨.number, .arithmetic op l.term r.term⟩ := by
  simp only [Node.Steady, Term.eval] at kept ⊢
  refine steadyL.bind soundL numbers.1 fun p q given given' agree => ?_
  rw [given, given', ok_bind, ok_bind] at kept
  refine steadyR.bind soundR numbers.2 fun p' q' given given' agree' => ?_
  rw [given, given', ok_bind, ok_bind] at kept
  rw [op.apply_eq agree.left agree'.left, op.apply_eq agree.right agree'.right] at kept ⊢
  have computed := op.onNumbers_computed p p'
  have computed' := op.onNumbers_computed q q'
  rw [← agree.value, ← agree'.value] at computed'
  exact .results ⟨rfl, computed.agree computed' (by simpa [RoundingKeeps] using kept)⟩

theorem compileArithmetic_steady {op : Arithmetic} {left right node : Node} {e f : Expr}
    (steadyLeft : left.Steady s lookup x y) (steadyRight : right.Steady s lookup x y)
    (soundLeft : left.Sound s.kind?) (soundRight : right.Sound s.kind?)
    (h : compileArithmetic op left right e f = .ok node)
    (kept : RoundingKeeps (node.term.eval (s.read lookup) x) (node.term.eval (s.read lookup) y)) :
    node.Steady s lookup x y := by
  obtain ⟨someLeft, someRight, l, r, aligned, folded⟩ := compileArithmetic_eq_ok h
  refine fold_steady folded ?_
  rintro rfl
  rcases aligned with ⟨number, rfl, aligned⟩ | ⟨-, number, rfl, aligned⟩
  · obtain ⟨kind, sound⟩ := align_sound soundRight someRight aligned
    exact arithmetic_steady op steadyLeft (align_steady aligned steadyRight) soundLeft sound
      ⟨number, kind.trans number⟩ kept
  · obtain ⟨kind, sound⟩ := align_sound soundLeft someLeft aligned
    exact arithmetic_steady op (align_steady aligned steadyLeft) steadyRight sound soundRight
      ⟨kind.trans number, number⟩ kept

theorem compileAmong_steady {negated : Bool} {left node : Node} {members : List Payload}
    (steady : left.Steady s lookup x y) (sound : left.Sound s.kind?)
    (fit : left.kind ≠ .collection → ∀ p ∈ members, p.Fits left.kind)
    (h : compileAmong negated left members = .ok node) : node.Steady s lookup x y := by
  unfold compileAmong at h
  by_cases number : left.kind = .number
  · have single : left.kind ≠ .collection := by simp [number]
    rw [if_neg (by simpa using single)] at h
    refine fold_steady h fun _ => ?_
    refine steady.bind sound number fun p q _ _ agree => ?_
    have found : (!p.isNull && p.isMember members) = (!q.isNull && q.isMember members) := by
      rw [agree.isNull]
      cases null : q.isNull with
      | true => rfl
      | false => rw [agree.isMember (number ▸ fit single) (agree.isNull.trans null)]
    rw [found]
    exact .same _
  · split_ifs at h <;>
    · refine fold_steady h fun _ => ?_
      simp only [Node.Steady, booleanNode, Term.eval, AlikeIn.eq steady number]
      exact .same _

theorem between_steady {n low high : Node} (negated : Bool) (steady : n.Steady s lookup x y)
    (steadyLow : low.Steady s lookup x y) (steadyHigh : high.Steady s lookup x y)
    (sound : n.Sound s.kind?) (soundLow : low.Sound s.kind?) (soundHigh : high.Sound s.kind?)
    (kinds : low.kind = n.kind ∧ high.kind = n.kind) :
    (booleanNode (.between negated n.term low.term high.term)).Steady s lookup x y := by
  by_cases number : n.kind = .number
  · refine steady.bind sound number fun p q _ _ agree => ?_
    rw [agree.isNull]
    split_ifs with null
    · exact .same _
    refine steadyLow.bind soundLow (kinds.1.trans number) fun l l' _ _ agreeLow => ?_
    refine steadyHigh.bind soundHigh (kinds.2.trans number) fun u u' _ _ agreeHigh => ?_
    rw [agree.isWithin (by simpa [agree.isNull] using null) agreeLow agreeHigh]
    exact .same _
  · simp only [Node.Steady, booleanNode, Term.eval, AlikeIn.eq steady number,
      AlikeIn.eq steadyLow (by rwa [kinds.1]), AlikeIn.eq steadyHigh (by rwa [kinds.2])]
    exact .same _

/-! ## Expressions -/

def Expr.isCalculation : Expr → Bool
  | unary .negate _ | binary (.arithmetic _) _ _ => true
  | _ => false

/-- Wherever an expression calculates a whole number from one of two records, but not from the
other one, rounding keeps this number. -/
def Expr.SurvivesRounding (s : Schema) (lookup : Lookup) (x y : Payload) (e : Expr) : Prop :=
  ∀ node ∈ e.nodes, node.isCalculation = true →
    RoundingKeeps (node.interpret s lookup x) (node.interpret s lookup y)

theorem Expr.SurvivesRounding.mono {e below : Expr} (h : e.SurvivesRounding s lookup x y)
    (subset : below.nodes ⊆ e.nodes) : below.SurvivesRounding s lookup x y :=
  fun node found => h node (subset found)

def Expr.HasNoPattern (e : Expr) : Prop := ∀ left right, .binary .like left right ∉ e.nodes

theorem Expr.HasNoPattern.mono {e below : Expr} (h : e.HasNoPattern)
    (subset : below.nodes ⊆ e.nodes) : below.HasNoPattern :=
  fun left right found => h left right (subset found)

theorem compileExpr_steady (same : s.Reencoded lookup x y) {e : Expr} {node : Node}
    (constants : e.ConstantsFit) (plain : e.HasNoPattern)
    (survives : e.SurvivesRounding s lookup x y)
    (h : compileExpr (s.resolver lookup) e = .ok node) : node.Steady s lookup x y := by
  have kept (calculation : e.isCalculation = true) :
      RoundingKeeps (node.term.eval (s.read lookup) x) (node.term.eval (s.read lookup) y) := by
    have eval := (compileExpr_agrees constants h).eval
    rw [eval, eval]
    exact survives e e.mem_nodes_self calculation
  cases e with
  | const v =>
      rw [compileConst_eq_ok h]
      exact .ofValue v
  | field name =>
      obtain ⟨declared, k, -, found, -, rfl⟩ := compileField_eq_ok (by rwa [compileExpr_field] at h)
      change s.kind? declared = some k at found
      have read := same.read declared
      rwa [found] at read
  | unary op operand =>
      obtain ⟨inner, compiled, h⟩ := compileUnaryExpr_eq_ok h
      have steady := compileExpr_steady same constants.unary (plain.mono Expr.nodes_subset_unary)
        (survives.mono Expr.nodes_subset_unary) compiled
      cases op with
      | not => exact compileNot_steady steady h
      | plus =>
          obtain ⟨-, rfl⟩ := compilePlus_eq_ok h
          exact steady
      | negate =>
          exact compileNegate_steady steady (compileExpr_sound constants.unary compiled) h
            (kept rfl)
  | binary op left right =>
      obtain ⟨l, r, compiledLeft, compiledRight, h⟩ := compileBinaryExpr_eq_ok h
      obtain ⟨constantsLeft, constantsRight⟩ := constants.binary
      have steadyLeft := compileExpr_steady same constantsLeft (plain.mono Expr.nodes_subset_left)
        (survives.mono Expr.nodes_subset_left) compiledLeft
      have steadyRight := compileExpr_steady same constantsRight
        (plain.mono Expr.nodes_subset_right) (survives.mono Expr.nodes_subset_right) compiledRight
      have soundLeft := compileExpr_sound constantsLeft compiledLeft
      have soundRight := compileExpr_sound constantsRight compiledRight
      cases op with
      | and => exact compileConnective_steady steadyLeft steadyRight (.inl rfl) h
      | or => exact compileConnective_steady steadyLeft steadyRight (.inr rfl) h
      | like => exact absurd (Expr.mem_nodes_self _) (plain left right)
      | compare c => exact compileComparison_steady steadyLeft steadyRight soundLeft soundRight h
      | arithmetic op =>
          exact compileArithmetic_steady steadyLeft steadyRight soundLeft soundRight h (kept rfl)
  | state test operand =>
      obtain ⟨inner, compiled, h⟩ := compileStateExpr_eq_ok h
      exact compileState_steady (compileExpr_steady same constants.state
        (plain.mono Expr.nodes_subset_state) (survives.mono Expr.nodes_subset_state) compiled)
        (compileExpr_sound constants.state compiled) h
  | among negated operand first others =>
      obtain ⟨left, firstNode, payloads, rest, compiled, -, compiledFirst, member, members, h⟩ :=
        compileAmongExpr_eq_ok h
      obtain ⟨constantsOperand, constantsValues⟩ := constants.among
      refine compileAmong_steady (compileExpr_steady same constantsOperand
        (plain.mono Expr.nodes_subset_among) (survives.mono Expr.nodes_subset_among) compiled)
        (compileExpr_sound constantsOperand compiled) ?_ h
      intro single p found
      rcases List.mem_append.mp found with found | found
      · exact compileMember_fits (compileExpr_sound constantsValues.cons.1 compiledFirst) single
          member p found
      · exact compileMembers_fit constantsValues.cons.2 single members p found
  | between negated operand lower upper =>
      obtain ⟨left, lowerNode, low, upperNode, high, compiled, -, compiledLower, someLower,
        alignedLower, compiledUpper, someUpper, alignedUpper, folded⟩ := compileBetweenExpr_eq_ok h
      obtain ⟨constantsOperand, constantsLower, constantsUpper⟩ := constants.between
      obtain ⟨kindLow, soundLow⟩ :=
        align_sound (compileExpr_sound constantsLower compiledLower) someLower alignedLower
      obtain ⟨kindHigh, soundHigh⟩ :=
        align_sound (compileExpr_sound constantsUpper compiledUpper) someUpper alignedUpper
      refine fold_steady folded fun _ => between_steady negated
        (compileExpr_steady same constantsOperand (plain.mono Expr.nodes_subset_between)
          (survives.mono Expr.nodes_subset_between) compiled)
        (align_steady alignedLower (compileExpr_steady same constantsLower
          (plain.mono Expr.nodes_subset_lower) (survives.mono Expr.nodes_subset_lower)
          compiledLower))
        (align_steady alignedUpper (compileExpr_steady same constantsUpper
          (plain.mono Expr.nodes_subset_upper) (survives.mono Expr.nodes_subset_upper)
          compiledUpper))
        (compileExpr_sound constantsOperand compiled) soundLow soundHigh ⟨kindLow, kindHigh⟩
  | incomplete op left => exact absurd h compileIncomplete_ne_ok
  | unknown name => exact absurd h compileUnknown_ne_ok

end

/-! ## Filters -/

/-- A filter without patterns gives the same answer, or the same failure, on two records that encode
the same whole numbers, unless a whole number that is calculated from one of them would be rounded
where it is calculated from the other. -/
theorem Predicate.accepts_reencoded (s : Schema) (lookup : Lookup) {filter : Filter}
    {p : Predicate} (constants : filter.ConstantsFit)
    (compiled : filter.compile (s.resolver lookup) = .ok p) (plain : p.source.HasNoPattern)
    {x y : Payload} (same : s.Reencoded lookup x y)
    (survives : p.source.SurvivesRounding s lookup x y) : p.accepts x = p.accepts y := by
  obtain ⟨e, given, compiled⟩ := Filter.compile_eq_ok compiled
  obtain ⟨node, made, truth, rfl⟩ := compileTo_eq_ok compiled
  have steady := compileExpr_steady same (constants.expr given) plain survives made
  exact congrArg (Except.map Payload.isTrue) (AlikeIn.eq steady (by simp [truth]))

/-- `[Total] + [Fee] == [Limit]` -/
def exhaustedFilter : Expr :=
  .binary (.compare .equal) (.binary (.arithmetic .add) (.field "Total") (.field "Fee"))
    (.field "Limit")

def accountSchema : Schema := ⟨[("Total", .number), ("Fee", .number), ("Limit", .number)]⟩

def exhaustedPredicate : Predicate where
  term := .compare .equal (.arithmetic .add (.field "Total") (.field "Fee")) (.field "Limit")
  source := exhaustedFilter
  expression := none
  resolver := accountSchema.resolver .byName

def digitsText (n : ℤ) : Payload := .text (String.ofList (signedDigits n))

def accountRecord (encode : ℤ → Payload) (total : ℤ) : Payload :=
  .record [("Total", encode total), ("Fee", encode 1), ("Limit", encode (total + 1))]

theorem exhaustedFilter_compile :
    (Filter.tree exhaustedFilter).compile (accountSchema.resolver .byName) =
      .ok exhaustedPredicate := rfl

theorem exhaustedFilter_constantsFit : (Filter.tree exhaustedFilter).ConstantsFit := by
  intro v found
  simp [exhaustedFilter, Expr.nodes] at found

theorem exhaustedFilter_hasNoPattern : exhaustedFilter.HasNoPattern := by
  intro left right found
  simp [exhaustedFilter, Expr.nodes] at found

theorem accountRecord_reencoded (total : ℤ) : accountSchema.Reencoded .byName
    (accountRecord .int total) (accountRecord digitsText total) := by
  intro name k declared
  have names : name = "Total" ∨ name = "Fee" ∨ name = "Limit" := by
    by_contra other
    simp only [not_or, ← beq_eq_false_iff_ne] at other
    simp [Schema.declared?, accountSchema, List.lookup_cons, other] at declared
  rcases names with rfl | rfl | rfl <;>
  · cases declared
    exact .inr ⟨rfl, _, _, _, rfl, rfl, .int, .text⟩

theorem Predicate.accepts_reencoded_account :
    (Filter.tree exhaustedFilter).ConstantsFit ∧
    (Filter.tree exhaustedFilter).compile (accountSchema.resolver .byName) =
      .ok exhaustedPredicate ∧
    exhaustedFilter.HasNoPattern ∧
    accountSchema.Reencoded .byName (accountRecord .int (10 ^ 27))
      (accountRecord digitsText (10 ^ 27)) ∧
    exhaustedFilter.SurvivesRounding accountSchema .byName (accountRecord .int (10 ^ 27))
      (accountRecord digitsText (10 ^ 27)) ∧
    exhaustedPredicate.accepts (accountRecord .int (10 ^ 27)) =
      exhaustedPredicate.accepts (accountRecord digitsText (10 ^ 27)) := by
  have survives : exhaustedFilter.SurvivesRounding accountSchema .byName
      (accountRecord .int (10 ^ 27)) (accountRecord digitsText (10 ^ 27)) := by
    intro node found calculation
    have sum : node = .binary (.arithmetic .add) (.field "Total") (.field "Fee") := by
      simp only [exhaustedFilter, Expr.nodes, List.cons_append, List.nil_append, List.mem_cons,
        List.not_mem_nil, or_false] at found
      rcases found with rfl | rfl | rfl | rfl | rfl <;> first | rfl | cases calculation
    subst sum
    have left : (Expr.binary (.arithmetic .add) (.field "Total") (.field "Fee")).interpret
        accountSchema .byName (accountRecord .int (10 ^ 27)) = .ok (.int (10 ^ 27 + 1)) := rfl
    have right : (Expr.binary (.arithmetic .add) (.field "Total") (.field "Fee")).interpret
        accountSchema .byName (accountRecord digitsText (10 ^ 27)) =
          .ok (.decimal ⟨false, 10 ^ 27 + 1, 0⟩) := rfl
    rw [left, right]
    rintro n (whole | whole)
    · cases whole
      exact .inr (Decimal.survives_ofInt (by decide))
    · cases whole
  exact ⟨exhaustedFilter_constantsFit, exhaustedFilter_compile, exhaustedFilter_hasNoPattern,
    accountRecord_reencoded _, survives,
    Predicate.accepts_reencoded accountSchema .byName exhaustedFilter_constantsFit
      exhaustedFilter_compile exhaustedFilter_hasNoPattern (accountRecord_reencoded _) survives⟩

theorem Predicate.accepts_depends_on_encoding :
    ¬ ∀ (s : Schema) (filter : Filter) (p : Predicate), filter.ConstantsFit →
      filter.compile (s.resolver .byName) = .ok p → p.source.HasNoPattern →
      ∀ x y, s.Reencoded .byName x y → p.accepts x = p.accepts y := by
  intro same
  have agree := same accountSchema _ _ exhaustedFilter_constantsFit exhaustedFilter_compile
    exhaustedFilter_hasNoPattern _ _ (accountRecord_reencoded (10 ^ 28))
  have exact : exhaustedPredicate.accepts (accountRecord .int (10 ^ 28)) = .ok true := by
    decide +kernel
  have rounded : exhaustedPredicate.accepts (accountRecord digitsText (10 ^ 28)) = .ok false := by
    decide +kernel
  rw [exact, rounded] at agree
  cases agree

end RecordFilter
