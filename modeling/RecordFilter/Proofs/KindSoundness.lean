import RecordFilter.Proofs.CompileSteps

/-!
# Compiled expressions keep to their kinds

Whatever the compiler makes of an expression is a term of the kind that it reports.  Folding may
turn a term into a constant, of its own kind or Null, and converting replaces a constant by one of
the kind asked for; both keep the kinds right.  The resolvers of schemas read fields as payloads
of their kinds, so that what a compiled filter does to a record is always defined by the kinds of
its fields.
-/

namespace RecordFilter

/-! ## Constants of expressions -/

def Expr.ConstantsFit (e : Expr) : Prop := ∀ v, .const v ∈ e.nodes → v.raw.Fits v.kind

def Expr.AllConstantsFit (es : List Expr) : Prop := ∀ v, .const v ∈ nodesOf es → v.raw.Fits v.kind

namespace Expr

theorem ConstantsFit.const {v : Value} (h : (const v).ConstantsFit) : v.raw.Fits v.kind :=
  h v (mem_nodes_self _)

theorem ConstantsFit.unary {op : UnaryOp} {operand : Expr} (h : (unary op operand).ConstantsFit) :
    operand.ConstantsFit :=
  fun v found => h v (nodes_subset_unary found)

theorem ConstantsFit.binary {op : BinaryOp} {left right : Expr}
    (h : (binary op left right).ConstantsFit) : left.ConstantsFit ∧ right.ConstantsFit :=
  ⟨fun v found => h v (nodes_subset_left found), fun v found => h v (nodes_subset_right found)⟩

theorem ConstantsFit.state {test : StateTest} {operand : Expr}
    (h : (state test operand).ConstantsFit) : operand.ConstantsFit :=
  fun v found => h v (nodes_subset_state found)

theorem ConstantsFit.among {negated : Bool} {operand first : Expr} {others : List Expr}
    (h : (among negated operand first others).ConstantsFit) :
    operand.ConstantsFit ∧ AllConstantsFit (first :: others) :=
  ⟨fun v found => h v (nodes_subset_among found), fun v found => h v (nodes_subset_values found)⟩

theorem ConstantsFit.between {negated : Bool} {operand lower upper : Expr}
    (h : (between negated operand lower upper).ConstantsFit) :
    operand.ConstantsFit ∧ lower.ConstantsFit ∧ upper.ConstantsFit :=
  ⟨fun v found => h v (nodes_subset_between found), fun v found => h v (nodes_subset_lower found),
    fun v found => h v (nodes_subset_upper found)⟩

theorem AllConstantsFit.cons {e : Expr} {es : List Expr} (h : AllConstantsFit (e :: es)) :
    e.ConstantsFit ∧ AllConstantsFit es :=
  ⟨fun v found => h v (List.mem_append_left _ found),
    fun v found => h v (List.mem_append_right _ found)⟩

theorem allConstantsFit_iff {es : List Expr} :
    AllConstantsFit es ↔ ∀ e ∈ es, e.ConstantsFit := by
  induction es with
  | nil => simp [AllConstantsFit, nodesOf]
  | cons e es ih =>
      rw [List.forall_mem_cons, ← ih]
      simp [AllConstantsFit, ConstantsFit, nodesOf, or_imp, forall_and]

end Expr

/-! ## Folding and converting -/

section

variable {kinds : String → Option Kind}

def Node.Sound (kinds : String → Option Kind) (n : Node) : Prop := n.term.HasKind kinds n.kind

theorem Node.Sound.hasKind {n : Node} {k : Kind} (sound : n.Sound kinds) (kind : n.kind = k) :
    n.term.HasKind kinds k :=
  kind ▸ sound

theorem Node.Sound.constant {n : Node} {v : Value} (sound : n.Sound kinds)
    (constant : n.term = .constant v) : v.kind = n.kind ∧ v.raw.Fits n.kind := by
  unfold Node.Sound at sound
  rw [constant] at sound
  cases sound with
  | constant kind fits => exact ⟨kind, fits⟩

theorem Node.Sound.null_iff {n : Node} (sound : n.Sound kinds) :
    n.isNullConstant = true ↔ n.kind = .null := by
  obtain ⟨kind, term⟩ := n
  cases sound with
  | constant kind fits =>
      subst kind
      simp [Node.isNullConstant, Node.constant?, Term.constant?, Value.isNull]
  | field declared some =>
      simpa [Node.isNullConstant, Node.constant?, Term.constant?] using some
  | _ => simp [Node.isNullConstant, Node.constant?, Term.constant?]

theorem Node.Sound.kind_ne_null {n : Node} (sound : n.Sound kinds)
    (some : n.isNullConstant = false) : n.kind ≠ .null :=
  fun null => by simp [sound.null_iff.mpr null] at some

theorem Node.sound_ofValue {v : Value} (fits : v.raw.Fits v.kind) : (ofValue v).Sound kinds :=
  Term.HasKind.constant rfl fits

theorem keepsKinds_null : Term.KeepsKinds kinds fun _ _ => .ok .null := by
  intro name k declared record p read
  cases read
  exact .inl rfl

theorem fold_sound {n m : Node} {operands : List Node} (h : fold n operands = .ok m)
    (sound : n.term.HasKind kinds n.kind) (operator : n.term.isField = false) :
    m.Sound kinds := by
  rcases fold_eq_ok h with ⟨-, rfl⟩ | ⟨-, raw, evaluated, rfl⟩
  · exact sound
  · have fits := sound.eval_fits keepsKinds_null evaluated
    refine Node.sound_ofValue ?_
    cases null : raw.isNull with
    | false => exact fits.fits null
    | true =>
        obtain rfl := Payload.isNull_iff.mp null
        by_cases boolean : n.kind = .boolean
        · -- A folded truth value keeps its kind, so it must not be Null.
          rw [boolean] at sound
          exact absurd rfl (sound.eval_bool operator evaluated)
        · simpa [boolean] using Payload.Fits.null

theorem align_sound {operator : String} {target other aligned : Node} {otherExpr : Expr}
    (sound : other.Sound kinds) (some : other.isNullConstant = false)
    (h : align operator target other otherExpr = .ok aligned) :
    aligned.kind = target.kind ∧ aligned.Sound kinds := by
  rcases align_eq_ok h with ⟨same, rfl⟩ | ⟨differ, v, converted, constant, defined, rfl⟩
  · exact ⟨same, sound⟩
  · obtain ⟨kind, -⟩ := sound.constant constant
    have present : v.isNull = false := by rw [← Node.isNullConstant_eq constant, some]
    obtain ⟨kind', fits⟩ := v.coerce_fits (by rwa [kind]) present defined
    exact ⟨kind', Node.sound_ofValue (by rwa [kind'])⟩

/-! ## Operators -/

theorem compileField_sound {r : Resolver} {name : String} {node : Node}
    (h : compileField r name = .ok node) : node.Sound r.kind? := by
  obtain ⟨declared, kind, -, found, some, rfl⟩ := compileField_eq_ok h
  exact .field found some

theorem compileUnary_sound {op : UnaryOp} {operandExpr : Expr} {operand node : Node}
    (sound : operand.Sound kinds) (h : compileUnary op operandExpr operand = .ok node) :
    node.Sound kinds := by
  cases op with
  | not =>
      obtain ⟨kind, folded⟩ := compileNot_eq_ok h
      exact fold_sound folded (.not (sound.hasKind kind)) rfl
  | negate =>
      obtain ⟨kind, folded⟩ := compileNegate_eq_ok h
      exact fold_sound folded (.negate (sound.hasKind kind)) rfl
  | plus =>
      obtain ⟨-, rfl⟩ := compilePlus_eq_ok h
      exact sound

theorem compileState_sound {test : StateTest} {operandExpr : Expr} {operand node : Node}
    (sound : operand.Sound kinds) (h : compileState test operandExpr operand = .ok node) :
    node.Sound kinds := by
  obtain ⟨measured, folded⟩ := compileState_eq_ok h
  rw [sound.null_iff] at measured
  exact fold_sound folded (.state sound measured) rfl

theorem comparisonOperands_sound {operator : String} {left right l r : Node}
    {leftExpr rightExpr : Expr} (soundLeft : left.Sound kinds) (soundRight : right.Sound kinds)
    (someLeft : left.isNullConstant = false) (someRight : right.isNullConstant = false)
    (h : alignBoth operator left right leftExpr rightExpr = .ok (l, r)) :
    l.Sound kinds ∧ r.Sound kinds ∧ r.kind = l.kind ∧ l.kind ≠ .null := by
  rcases alignBoth_eq_ok h with ⟨-, rfl, aligned⟩ | ⟨-, rfl, aligned⟩
  · obtain ⟨kind, sound⟩ := align_sound soundRight someRight aligned
    exact ⟨soundLeft, sound, kind, soundLeft.kind_ne_null someLeft⟩
  · obtain ⟨kind, sound⟩ := align_sound soundLeft someLeft aligned
    exact ⟨sound, soundRight, kind.symm, by rw [kind]; exact soundRight.kind_ne_null someRight⟩

theorem compileComparison_sound {c : Comparison} {left right node : Node}
    {leftExpr rightExpr : Expr} (soundLeft : left.Sound kinds) (soundRight : right.Sound kinds)
    (h : compileComparison c left right leftExpr rightExpr = .ok node) : node.Sound kinds := by
  obtain ⟨someLeft, someRight, l, r, aligned, single, applies, folded⟩ :=
    compileComparison_eq_ok h
  obtain ⟨soundL, soundR, kind, some⟩ :=
    comparisonOperands_sound soundLeft soundRight someLeft someRight aligned
  exact fold_sound folded (.compare soundL (soundR.hasKind kind) ⟨some, single, applies⟩) rfl

theorem arithmeticOperands_sound {operator : String} {left right l r : Node}
    {leftExpr rightExpr : Expr} (soundLeft : left.Sound kinds) (soundRight : right.Sound kinds)
    (someLeft : left.isNullConstant = false) (someRight : right.isNullConstant = false)
    (aligned : (left.kind = .number ∧ l = left ∧ align operator left right rightExpr = .ok r) ∨
      (left.kind ≠ .number ∧ right.kind = .number ∧ r = right ∧
        align operator right left leftExpr = .ok l)) :
    l.term.HasKind kinds .number ∧ r.term.HasKind kinds .number := by
  rcases aligned with ⟨number, rfl, aligned⟩ | ⟨-, number, rfl, aligned⟩
  · obtain ⟨kind, sound⟩ := align_sound soundRight someRight aligned
    exact ⟨soundLeft.hasKind number, sound.hasKind (kind.trans number)⟩
  · obtain ⟨kind, sound⟩ := align_sound soundLeft someLeft aligned
    exact ⟨sound.hasKind (kind.trans number), soundRight.hasKind number⟩

theorem compileArithmetic_sound {op : Arithmetic} {left right node : Node}
    {leftExpr rightExpr : Expr} (soundLeft : left.Sound kinds) (soundRight : right.Sound kinds)
    (h : compileArithmetic op left right leftExpr rightExpr = .ok node) : node.Sound kinds := by
  obtain ⟨someLeft, someRight, l, r, aligned, folded⟩ := compileArithmetic_eq_ok h
  obtain ⟨numberL, numberR⟩ :=
    arithmeticOperands_sound soundLeft soundRight someLeft someRight aligned
  exact fold_sound folded (.arithmetic numberL numberR) rfl

theorem compileBinary_sound {op : BinaryOp} {left right node : Node} {leftExpr rightExpr : Expr}
    (soundLeft : left.Sound kinds) (soundRight : right.Sound kinds)
    (h : compileBinary op left right leftExpr rightExpr = .ok node) : node.Sound kinds := by
  cases op with
  | compare c => exact compileComparison_sound soundLeft soundRight h
  | arithmetic op => exact compileArithmetic_sound soundLeft soundRight h
  | like =>
      obtain ⟨raw, pattern, -, -, folded⟩ := compileLike_eq_ok h
      exact fold_sound folded (.like soundLeft) rfl
  | and | or =>
      obtain ⟨leftKind, rightKind, folded⟩ := compileConnective_eq_ok h
      have left' := soundLeft.hasKind leftKind
      have right' := soundRight.hasKind rightKind
      first
        | exact fold_sound folded (.both left' right') rfl
        | exact fold_sound folded (.either left' right') rfl

theorem compileMember_fits {negated : Bool} {left value : Node} {valueExpr : Expr}
    {payloads : List Payload} (sound : value.Sound kinds) (single : left.kind ≠ .collection)
    (h : compileMember negated left value valueExpr = .ok payloads) :
    ∀ p ∈ payloads, p.Fits left.kind := by
  obtain ⟨v, constant, some, cases, -⟩ := compileMember_eq_ok h
  rcases cases with ⟨collection, -⟩ | ⟨-, aligned, p, same, evaluated, rfl⟩
  · exact absurd collection single
  · have present : value.isNullConstant = false := by rw [Node.isNullConstant_eq constant, some]
    obtain ⟨kind, sound⟩ := align_sound sound present same
    obtain ⟨w, constant⟩ := align_constant constant same
    obtain ⟨-, fits⟩ := sound.constant constant
    rw [constant] at evaluated
    cases evaluated
    simpa [← kind] using fits

theorem compileAmong_sound {negated : Bool} {left node : Node} {members : List Payload}
    (sound : left.Sound kinds) (fit : left.kind ≠ .collection → ∀ p ∈ members, p.Fits left.kind)
    (h : compileAmong negated left members = .ok node) : node.Sound kinds := by
  unfold compileAmong at h
  split_ifs at h with collection
  · exact fold_sound h (.anyMember (sound.hasKind (beq_iff_eq.mp collection))) rfl
  · have single : left.kind ≠ .collection := by simpa using collection
    exact fold_sound h (.member sound single (fit single)) rfl

theorem compileBetween_sound {operator : String} {negated : Bool}
    {left lowerNode low upperNode high node : Node} {lower upper : Expr}
    (sound : left.Sound kinds) (soundLower : lowerNode.Sound kinds)
    (soundUpper : upperNode.Sound kinds) (ranged : left.kind = .number ∨ left.kind = .timestamp)
    (someLower : lowerNode.isNullConstant = false) (someUpper : upperNode.isNullConstant = false)
    (alignedLower : align operator left lowerNode lower = .ok low)
    (alignedUpper : align operator left upperNode upper = .ok high)
    (h : fold (booleanNode (.between negated left.term low.term high.term)) [left, low, high] =
      .ok node) : node.Sound kinds := by
  obtain ⟨lowKind, soundLow⟩ := align_sound soundLower someLower alignedLower
  obtain ⟨highKind, soundHigh⟩ := align_sound soundUpper someUpper alignedUpper
  exact fold_sound h
    (.between sound (soundLow.hasKind lowKind) (soundHigh.hasKind highKind) ranged) rfl

end

/-! ## Expressions -/

section

variable {r : Resolver}

mutual

/-- Whatever an expression is compiled to is a term of the kind that is reported. -/
theorem compileExpr_sound {e : Expr} {node : Node} (constants : e.ConstantsFit)
    (h : compileExpr r e = .ok node) : node.Sound r.kind? := by
  cases e with
  | const v =>
      obtain rfl := compileConst_eq_ok h
      exact Node.sound_ofValue constants.const
  | field name => exact compileField_sound (by rwa [compileExpr_field] at h)
  | unary op operand =>
      obtain ⟨inner, compiled, h⟩ := compileUnaryExpr_eq_ok h
      exact compileUnary_sound (compileExpr_sound constants.unary compiled) h
  | binary op left right =>
      obtain ⟨leftNode, rightNode, compiledLeft, compiledRight, h⟩ := compileBinaryExpr_eq_ok h
      exact compileBinary_sound (compileExpr_sound constants.binary.1 compiledLeft)
        (compileExpr_sound constants.binary.2 compiledRight) h
  | state test operand =>
      obtain ⟨inner, compiled, h⟩ := compileStateExpr_eq_ok h
      exact compileState_sound (compileExpr_sound constants.state compiled) h
  | among negated operand first others =>
      obtain ⟨left, firstNode, payloads, rest, compiled, -, compiledFirst, member, members, h⟩ :=
        compileAmongExpr_eq_ok h
      -- In a collection any value may be looked for, otherwise only one of the operand's kind.
      have firstFits := constants.among.2.cons
      refine compileAmong_sound (compileExpr_sound constants.among.1 compiled) ?_ h
      intro single p found
      rcases List.mem_append.mp found with found | found
      · exact compileMember_fits (compileExpr_sound firstFits.1 compiledFirst) single member p found
      · exact compileMembers_fit firstFits.2 single members p found
  | between negated operand lower upper =>
      obtain ⟨left, lowerNode, low, upperNode, high, compiled, ranged, compiledLower, someLower,
        alignedLower, compiledUpper, someUpper, alignedUpper, h⟩ := compileBetweenExpr_eq_ok h
      exact compileBetween_sound (compileExpr_sound constants.between.1 compiled)
        (compileExpr_sound constants.between.2.1 compiledLower)
        (compileExpr_sound constants.between.2.2 compiledUpper) ranged someLower someUpper
        alignedLower alignedUpper h
  | incomplete op left => exact absurd h compileIncomplete_ne_ok
  | unknown name => exact absurd h compileUnknown_ne_ok

theorem compileMembers_fit {negated : Bool} {left : Node} {values : List Expr}
    {members : List Payload} (constants : Expr.AllConstantsFit values)
    (single : left.kind ≠ .collection)
    (h : compileMembers r negated left values = .ok members) : ∀ p ∈ members, p.Fits left.kind := by
  cases values with
  | nil =>
      obtain rfl : [] = members := by simpa [compileMembers] using h
      exact nofun
  | cons value values =>
      obtain ⟨node, payloads, rest, compiled, member, others, rfl⟩ := compileMembers_cons_eq_ok h
      intro p found
      rcases List.mem_append.mp found with found | found
      · exact compileMember_fits (compileExpr_sound constants.cons.1 compiled) single member p found
      · exact compileMembers_fit constants.cons.2 single others p found

end

end

/-! ## What is not a field -/

theorem fold_isField {n m : Node} {operands : List Node} (h : fold n operands = .ok m)
    (operator : n.term.isField = false) : m.term.isField = false := by
  rcases fold_eq_ok h with ⟨-, rfl⟩ | ⟨-, raw, -, rfl⟩
  · exact operator
  · rfl

theorem compileBinary_isField {op : BinaryOp} {left right node : Node} {leftExpr rightExpr : Expr}
    (h : compileBinary op left right leftExpr rightExpr = .ok node) :
    node.term.isField = false := by
  cases op with
  | and | or =>
      obtain ⟨-, -, folded⟩ := compileConnective_eq_ok h
      exact fold_isField folded rfl
  | compare c =>
      obtain ⟨-, -, l, r, -, -, -, folded⟩ := compileComparison_eq_ok h
      exact fold_isField folded rfl
  | arithmetic op =>
      obtain ⟨-, -, l, r, -, folded⟩ := compileArithmetic_eq_ok h
      exact fold_isField folded rfl
  | like =>
      obtain ⟨raw, pattern, -, -, folded⟩ := compileLike_eq_ok h
      exact fold_isField folded rfl

theorem compileExpr_isField {r : Resolver} {e : Expr} {node : Node}
    (h : compileExpr r e = .ok node) (boolean : node.kind = .boolean)
    (other : ∀ name, e ≠ .field name) : node.term.isField = false := by
  cases e with
  | const v =>
      obtain rfl := compileConst_eq_ok h
      rfl
  | field name => exact absurd rfl (other name)
  | unary op operand =>
      obtain ⟨inner, -, h⟩ := compileUnaryExpr_eq_ok h
      cases op with
      | not => exact fold_isField (compileNot_eq_ok h).2 rfl
      | negate => exact fold_isField (compileNegate_eq_ok h).2 rfl
      | plus =>
          obtain ⟨number, rfl⟩ := compilePlus_eq_ok h
          rw [number] at boolean
          cases boolean
  | binary op left right =>
      obtain ⟨leftNode, rightNode, -, -, h⟩ := compileBinaryExpr_eq_ok h
      exact compileBinary_isField h
  | state test operand =>
      obtain ⟨inner, -, h⟩ := compileStateExpr_eq_ok h
      exact fold_isField (compileState_eq_ok h).2 rfl
  | among negated operand first others =>
      obtain ⟨left, firstNode, payloads, rest, -, -, -, -, -, h⟩ := compileAmongExpr_eq_ok h
      unfold compileAmong at h
      split_ifs at h <;> exact fold_isField h rfl
  | between negated operand lower upper =>
      obtain ⟨left, lowerNode, low, upperNode, high, -, -, -, -, -, -, -, -, h⟩ :=
        compileBetweenExpr_eq_ok h
      exact fold_isField h rfl
  | incomplete op left => exact absurd h compileIncomplete_ne_ok
  | unknown name => exact absurd h compileUnknown_ne_ok

/-! ## Records of a schema -/

theorem Schema.keepsKinds (s : Schema) (lookup : Lookup) :
    Term.KeepsKinds (s.resolver lookup).kind? (s.resolver lookup).read := by
  intro name k kind record p read
  obtain ⟨declared, known, found⟩ := Option.bind_eq_some_iff.mp kind
  change s.read lookup name record = .ok p at read
  unfold Schema.read at read
  simp only [known, found] at read
  split at read
  · next same _ =>
      cases same
      exact Payload.normalize_fits read
  · cases read
    exact .inl rfl

theorem Schema.read_ne_signaling (s : Schema) (lookup : Lookup) (name : String)
    (record : Payload) : s.read lookup name record ≠ .ok .signaling := by
  intro read
  unfold Schema.read at read
  split at read
  · cases read
  · split at read
    · rcases Payload.normalize_fits read with null | fits
      · cases null
      · cases fits
    · cases read

/-- On every record, what an expression is compiled to gives a payload of the kind that the
compiler reports, or Null.  Expressions of the kind of `NULL` give Null, truth values that are not
fields are never Null, and every operator is applied to operands that fit it. -/
theorem compileExpr_kindSound (s : Schema) (lookup : Lookup) {e : Expr} {node : Node}
    (constants : e.ConstantsFit) (compiled : compileExpr (s.resolver lookup) e = .ok node)
    (record : Payload) :
    (∀ p, node.term.eval (s.resolver lookup).read record = .ok p →
      p.FitsOrNull node.kind ∧ (node.kind = .null → p = .null) ∧
      (node.kind = .boolean → (∀ name, e ≠ .field name) → p ≠ .null)) ∧
    node.term.OperandsFit (s.resolver lookup).read record := by
  have sound := compileExpr_sound constants compiled
  have keeps := s.keepsKinds lookup
  refine ⟨fun p evaluated => ⟨?_, fun null => ?_, fun boolean other => ?_⟩, ?_⟩
  · exact Term.HasKind.eval_fits sound keeps evaluated
  · exact (sound.hasKind null).eval_null keeps evaluated
  · exact (sound.hasKind boolean).eval_bool (compileExpr_isField compiled boolean other) evaluated
  · exact Term.HasKind.operandsFit sound keeps

def ratioFilter : Expr :=
  .binary .and
    (.binary (.compare .greater)
      (.binary (.arithmetic .divide) (.field "price") (.field "Count"))
      (.const ⟨.text, .text "1.5"⟩))
    (.binary .like (.field "Name") (.const ⟨.text, .text "a%"⟩))

def ratioSchema : Schema := ⟨[("Price", .number), ("Count", .number), ("Name", .text)]⟩

def ratioNode : Node :=
  ⟨.boolean, .both
    (.compare .greater (.arithmetic .divide (.field "Price") (.field "Count"))
      (.constant ⟨.number, .decimal ⟨false, 15, -1⟩⟩))
    (.like ['a', '%'] true (.field "Name"))⟩

theorem compileExpr_kindSound_ratio :
    ratioFilter.ConstantsFit ∧
    compileExpr (ratioSchema.resolver .byName) ratioFilter = .ok ratioNode ∧
    (∀ p, ratioNode.term.eval (ratioSchema.resolver .byName).read
        (.record [("Price", .text "3"), ("Count", .list []), ("Name", .null)]) = .ok p →
      p.FitsOrNull .boolean ∧ p ≠ .null) ∧
    ratioNode.term.OperandsFit (ratioSchema.resolver .byName).read
      (.record [("Price", .text "3"), ("Count", .list []), ("Name", .null)]) := by
  have constants : ratioFilter.ConstantsFit := by
    intro v found
    simp only [ratioFilter, Expr.nodes, List.cons_append, List.nil_append, List.mem_cons,
      List.not_mem_nil, reduceCtorEq, false_or, or_false, Expr.const.injEq] at found
    rcases found with rfl | rfl
    · exact .text "1.5"
    · exact .text "a%"
  have compiled : compileExpr (ratioSchema.resolver .byName) ratioFilter = .ok ratioNode := rfl
  obtain ⟨given, operands⟩ := compileExpr_kindSound ratioSchema .byName constants compiled
    (.record [("Price", .text "3"), ("Count", .list []), ("Name", .null)])
  refine ⟨constants, compiled, fun p evaluated => ?_, operands⟩
  obtain ⟨fits, -, boolean⟩ := given p evaluated
  exact ⟨fits, boolean rfl fun name same => by cases same⟩

end RecordFilter
