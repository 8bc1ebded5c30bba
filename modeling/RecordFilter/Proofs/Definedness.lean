import RecordFilter.Predicate.Basic
import RecordFilter.Proofs.InterpreterAgrees

/-!
# Where predicates fail

Nothing but a record can make a compiled filter fail, and only where it is read or converted: a
field that cannot be read, a payload that has no text to hold against a pattern, an element of a
collection that cannot be brought to its own kind.  The fault of a predicate is one of these
faults, and a filter whose fields, texts and elements are defined is defined itself.
-/

namespace RecordFilter

/-! ## Operators on payloads of a kind -/

namespace Payload

theorem FitsOrNull.length_defined {p : Payload} {k : Kind} (fits : p.FitsOrNull k)
    (measured : k = .text ∨ k = .collection ∨ k = .null) (some : p.isNull = false) :
    ∃ n, p.length = .ok n := by
  have fits := fits.fits some
  rcases measured with rfl | rfl | rfl
  · cases fits
    exact ⟨_, rfl⟩
  · cases fits <;> exact ⟨_, rfl⟩
  · rw [fits.eq_null] at some
    cases some

theorem FitsOrNull.testState_defined {p : Payload} {k : Kind} {test : StateTest}
    (fits : p.FitsOrNull k)
    (measured : test.needsLength = true → k = .text ∨ k = .collection ∨ k = .null) :
    ∃ b, p.testState test = .ok b := by
  cases test with
  | isNull | isNotNull => exact ⟨_, rfl⟩
  | isEmpty | isNotEmpty =>
      unfold testState
      split_ifs with null
      · exact ⟨_, rfl⟩
      · obtain ⟨n, length⟩ := fits.length_defined (measured rfl) (by simpa using null)
        rw [length]
        exact ⟨_, rfl⟩

theorem Fits.members_eq {p : Payload} (h : p.Fits .collection) :
    ∃ items, p.items? = some items ∧ p.members = .ok items := by
  cases h <;> exact ⟨_, rfl, rfl⟩

theorem anyIsMember_error {members items : List Payload} {f : Fault}
    (h : anyIsMember members items = .error f) :
    ∃ item ∈ items, item.normalizeElement = .error f := by
  induction items with
  | nil => cases h
  | cons item items ih =>
      rw [anyIsMember] at h
      rcases bind_eq_error.mp h with h | ⟨element, -, h⟩
      · exact ⟨item, List.mem_cons_self, h⟩
      · split_ifs at h
        · cases h
        · obtain ⟨other, found, fails⟩ := ih h
          exact ⟨other, List.mem_cons_of_mem _ found, fails⟩

theorem isWithin_defined {p lower upper : Payload} {k : Kind}
    (ranged : k = .number ∨ k = .timestamp) (fits : p.Fits k)
    (fitsLower : lower.FitsOrNull k) (fitsUpper : upper.FitsOrNull k) :
    ∃ b, p.isWithin lower upper = .ok b := by
  have applies : Comparison.atMost.AppliesTo k := by
    rcases ranged with rfl | rfl <;> exact ⟨nofun, nofun, .inr rfl⟩
  unfold isWithin
  split_ifs with null
  · exact ⟨_, rfl⟩
  · simp only [Bool.or_eq_true, not_or, Bool.not_eq_true] at null
    obtain ⟨above, tested⟩ := Comparison.test_defined applies (fitsLower.fits null.1) fits
    obtain ⟨below, tested'⟩ := Comparison.test_defined applies fits (fitsUpper.fits null.2)
    rw [tested, ok_bind]
    split_ifs
    · exact ⟨below, tested'⟩
    · exact ⟨_, rfl⟩

end Payload

/-! ## Terms -/

namespace Term

section

variable (read : String → Payload → Except Fault Payload) (record : Payload) (f : Fault)

def FailsWith : Term → Prop
  | constant _ => False
  | field name => read name record = .error f
  | not t | negate t | state _ t | member _ _ t => FailsWith t
  | both l r | either l r | compare _ l r | arithmetic _ l r => FailsWith l ∨ FailsWith r
  | like _ _ t => FailsWith t ∨ ∃ p, t.eval read record = .ok p ∧ p.displayed = .error f
  | anyMember _ _ t =>
      FailsWith t ∨ ∃ p items item, t.eval read record = .ok p ∧ p.items? = some items ∧
        item ∈ items ∧ item.normalizeElement = .error f
  | between _ t lower upper => FailsWith t ∨ FailsWith lower ∨ FailsWith upper

variable {read record f} {kinds : String → Option Kind}

/-- A term of a kind fails only with what it meets in the record. -/
theorem HasKind.eval_error {t : Term} {k : Kind} (h : HasKind kinds t k)
    (keeps : KeepsKinds kinds read) (fails : t.eval read record = .error f) :
    t.FailsWith read record f := by
  induction h with
  | constant => cases fails
  | field => exact fails
  | not operand ih => exact ih (bind_pure_eq_error.mp fails)
  | negate operand ih =>
      rcases bind_eq_error.mp fails with fails | ⟨p, given, fails⟩
      · exact ih fails
      · obtain ⟨q, defined, -⟩ := Payload.negate_fits (operand.eval_fits keeps given)
        rw [defined] at fails
        cases fails
  | both left right ihLeft ihRight =>
      rcases bind_eq_error.mp fails with fails | ⟨p, -, fails⟩
      · exact .inl (ihLeft fails)
      split_ifs at fails
      · exact .inr (ihRight (bind_pure_eq_error.mp fails))
      · cases fails
  | either left right ihLeft ihRight =>
      rcases bind_eq_error.mp fails with fails | ⟨p, -, fails⟩
      · exact .inl (ihLeft fails)
      split_ifs at fails
      · cases fails
      · exact .inr (ihRight (bind_pure_eq_error.mp fails))
  | state operand measured ih =>
      rcases bind_eq_error.mp fails with fails | ⟨p, given, fails⟩
      · exact ih fails
      · obtain ⟨b, tested⟩ := (operand.eval_fits keeps given).testState_defined measured
        rw [tested] at fails
        cases fails
  | like operand ih =>
      rcases bind_eq_error.mp fails with fails | ⟨p, given, fails⟩
      · exact .inl (ih fails)
      rw [bind_pure_eq_error, Payload.isLike] at fails
      split_ifs at fails with null
      rw [((operand.eval_fits keeps given).fits (by simpa using null)).patternText] at fails
      exact .inr ⟨p, given, map_eq_error.mp fails⟩
  | compare left right applies ihLeft ihRight =>
      rcases bind_eq_error.mp fails with fails | ⟨p, givenLeft, fails⟩
      · exact .inl (ihLeft fails)
      split_ifs at fails with null
      · cases fails
      rcases bind_eq_error.mp fails with fails | ⟨q, givenRight, fails⟩
      · exact .inr (ihRight fails)
      rw [bind_pure_eq_error, Comparison.testNonNull] at fails
      split_ifs at fails with null'
      simp only [Bool.or_eq_true, not_or, Bool.not_eq_true] at null'
      obtain ⟨b, tested⟩ := Comparison.test_defined applies
        ((left.eval_fits keeps givenLeft).fits null'.1)
        ((right.eval_fits keeps givenRight).fits null'.2)
      rw [tested] at fails
      cases fails
  | @arithmetic op _ _ left right ihLeft ihRight =>
      rcases bind_eq_error.mp fails with fails | ⟨p, givenLeft, fails⟩
      · exact .inl (ihLeft fails)
      rcases bind_eq_error.mp fails with fails | ⟨q, givenRight, fails⟩
      · exact .inr (ihRight fails)
      rw [op.apply_eq (left.eval_fits keeps givenLeft) (right.eval_fits keeps givenRight)] at fails
      cases fails
  | member operand single fit ih => exact ih (bind_pure_eq_error.mp fails)
  | @anyMember negated members _ operand ih =>
      -- The only elements that can fail are those of the record; members are looked up in a set.
      rcases bind_eq_error.mp fails with fails | ⟨p, given, fails⟩
      · exact .inl (ih fails)
      split_ifs at fails with null
      · cases fails
      obtain ⟨items, listed, defined⟩ :=
        ((operand.eval_fits keeps given).fits (by simpa using null)).members_eq
      rw [defined, ok_bind, bind_pure_eq_error] at fails
      obtain ⟨item, found, fails⟩ := Payload.anyIsMember_error fails
      exact .inr ⟨p, items, item, given, listed, found, fails⟩
  | between operand low high ranged ih ihLow ihHigh =>
      rcases bind_eq_error.mp fails with fails | ⟨p, given, fails⟩
      · exact .inl (ih fails)
      split_ifs at fails with null
      · cases fails
      rcases bind_eq_error.mp fails with fails | ⟨q, givenLow, fails⟩
      · exact .inr (.inl (ihLow fails))
      rcases bind_eq_error.mp fails with fails | ⟨r, givenHigh, fails⟩
      · exact .inr (.inr (ihHigh fails))
      obtain ⟨b, within⟩ := Payload.isWithin_defined ranged
        ((operand.eval_fits keeps given).fits (by simpa using null))
        (low.eval_fits keeps givenLow) (high.eval_fits keeps givenHigh)
      rw [within] at fails
      cases fails

end

end Term

/-! ## Expressions -/

namespace Expr

section

variable (s : Schema) (lookup : Lookup) (record : Payload)

def ReadsAtTop : Expr → Prop
  | field name => ∃ p, s.read lookup name record = .ok p
  | binary .like left _ =>
      ∀ p, left.interpret s lookup record = .ok p → ∃ text, p.displayed = .ok text
  | among _ operand _ _ => operand.kind s = .collection →
      ∀ p items, operand.interpret s lookup record = .ok p → p.items? = some items →
        ∀ item ∈ items, ∃ element, item.normalizeElement = .ok element
  | _ => True

def Readable (e : Expr) : Prop := ∀ node ∈ e.nodes, node.ReadsAtTop s lookup record

/-- A fault that the node at the top of an expression meets in what it reads and converts of a
record.  What is converted is no constant, as constants are converted but once. -/
def FailsAtTop (f : Fault) : Expr → Prop
  | field name => s.read lookup name record = .error f
  | binary .like left _ => left.isClosed = false ∧
      ∃ p, left.interpret s lookup record = .ok p ∧ p.displayed = .error f
  | among _ operand _ _ => operand.isClosed = false ∧ operand.kind s = .collection ∧
      ∃ p items item, operand.interpret s lookup record = .ok p ∧ p.items? = some items ∧
        item ∈ items ∧ item.normalizeElement = .error f
  | _ => False

def FailsWith (f : Fault) (e : Expr) : Prop := ∃ node ∈ e.nodes, node.FailsAtTop s lookup record f

variable {s lookup record}

theorem ReadsAtTop.not_failsAtTop {e : Expr} {f : Fault} (reads : e.ReadsAtTop s lookup record) :
    ¬ e.FailsAtTop s lookup record f := by
  intro fails
  unfold FailsAtTop at fails
  split at fails
  · obtain ⟨p, given⟩ := reads
    rw [given] at fails
    cases fails
  · obtain ⟨-, p, given, fails⟩ := fails
    obtain ⟨text, displayed⟩ := reads p given
    rw [displayed] at fails
    cases fails
  · obtain ⟨-, collection, p, items, item, given, listed, found, fails⟩ := fails
    obtain ⟨element, normalized⟩ := reads collection p items given listed item found
    rw [normalized] at fails
    cases fails
  · exact fails

theorem FailsWith.mono {e below : Expr} {f : Fault} (h : below.FailsWith s lookup record f)
    (subset : below.nodes ⊆ e.nodes) : e.FailsWith s lookup record f := by
  obtain ⟨node, found, fails⟩ := h
  exact ⟨node, subset found, fails⟩

theorem FailsWith.top {e : Expr} {f : Fault} (h : e.FailsAtTop s lookup record f) :
    e.FailsWith s lookup record f :=
  ⟨e, mem_nodes_self e, h⟩

end

end Expr

section

variable {s : Schema} {lookup : Lookup} {record : Payload} {f : Fault}

theorem fold_failsWith {n m : Node} {operands : List Node} (h : fold n operands = .ok m)
    (fails : m.term.FailsWith (s.read lookup) record f) :
    n.term.FailsWith (s.read lookup) record f ∧ operands.all Node.isConstant = false := by
  rcases fold_eq_ok h with ⟨none, rfl⟩ | ⟨-, raw, -, rfl⟩
  · exact ⟨fails, none⟩
  · exact fails.elim

theorem align_failsWith {operator : String} {target other aligned : Node} {e : Expr}
    (h : align operator target other e = .ok aligned)
    (fails : aligned.term.FailsWith (s.read lookup) record f) :
    other.term.FailsWith (s.read lookup) record f := by
  rcases align_eq_ok h with ⟨-, rfl⟩ | ⟨-, v, converted, -, -, rfl⟩
  · exact fails
  · exact fails.elim

theorem compileUnary_failsWith {op : UnaryOp} {e : Expr} {operand node : Node}
    (h : compileUnary op e operand = .ok node)
    (fails : node.term.FailsWith (s.read lookup) record f) :
    operand.term.FailsWith (s.read lookup) record f := by
  cases op with
  | not => exact (fold_failsWith (compileNot_eq_ok h).2 fails).1
  | negate => exact (fold_failsWith (compileNegate_eq_ok h).2 fails).1
  | plus =>
      obtain ⟨-, rfl⟩ := compilePlus_eq_ok h
      exact fails

theorem compileBinary_failsWith {op : BinaryOp} {leftExpr rightExpr : Expr}
    {left right node : Node} (agrees : Agrees s lookup leftExpr left)
    (h : compileBinary op left right leftExpr rightExpr = .ok node)
    (fails : node.term.FailsWith (s.read lookup) record f) :
    left.term.FailsWith (s.read lookup) record f ∨
      right.term.FailsWith (s.read lookup) record f ∨
      (Expr.binary op leftExpr rightExpr).FailsAtTop s lookup record f := by
  have operands {l r : Term} : l.FailsWith (s.read lookup) record f ∨
      r.FailsWith (s.read lookup) record f → l.FailsWith (s.read lookup) record f ∨
      r.FailsWith (s.read lookup) record f ∨
      (Expr.binary op leftExpr rightExpr).FailsAtTop s lookup record f :=
    fun fails => fails.imp_right .inl
  cases op with
  | and | or =>
      obtain ⟨-, -, folded⟩ := compileConnective_eq_ok h
      exact operands (fold_failsWith folded fails).1
  | like =>
      obtain ⟨raw, pattern, -, -, folded⟩ := compileLike_eq_ok h
      obtain ⟨fails | ⟨p, given, fails⟩, open'⟩ := fold_failsWith folded fails
      · exact .inl fails
      · refine .inr (.inr ⟨?_, p, ?_, fails⟩)
        · rw [← agrees.constant]
          simpa using open'
        · rw [← agrees.eval, given]
  | compare c =>
      obtain ⟨-, -, l, r, aligned, -, -, folded⟩ := compileComparison_eq_ok h
      rcases alignBoth_eq_ok aligned with ⟨-, rfl, aligned⟩ | ⟨-, rfl, aligned⟩
      · exact operands ((fold_failsWith folded fails).1.imp_right (align_failsWith aligned))
      · exact operands ((fold_failsWith folded fails).1.imp_left (align_failsWith aligned))
  | arithmetic op =>
      obtain ⟨-, -, l, r, aligned, folded⟩ := compileArithmetic_eq_ok h
      rcases aligned with ⟨-, rfl, aligned⟩ | ⟨-, -, rfl, aligned⟩
      · exact operands ((fold_failsWith folded fails).1.imp_right (align_failsWith aligned))
      · exact operands ((fold_failsWith folded fails).1.imp_left (align_failsWith aligned))

theorem compileAmong_failsWith {negated : Bool} {operand first : Expr} {others : List Expr}
    {left node : Node} {members : List Payload} (agrees : Agrees s lookup operand left)
    (some : left.isNullConstant = false) (h : compileAmong negated left members = .ok node)
    (fails : node.term.FailsWith (s.read lookup) record f) :
    left.term.FailsWith (s.read lookup) record f ∨
      (Expr.among negated operand first others).FailsAtTop s lookup record f := by
  unfold compileAmong at h
  split_ifs at h with collection
  · obtain ⟨fails | ⟨p, items, item, given, listed, found, fails⟩, open'⟩ := fold_failsWith h fails
    · exact .inl fails
    · refine .inr ⟨?_, ?_, p, items, item, ?_, listed, found, fails⟩
      · rw [← agrees.constant]
        simpa using open'
      · rw [← agrees.kind some, beq_iff_eq.mp collection]
      · rw [← agrees.eval, given]
  · exact .inl (fold_failsWith h fails).1

theorem compileExpr_failsWith {e : Expr} {node : Node} (constants : e.ConstantsFit)
    (h : compileExpr (s.resolver lookup) e = .ok node)
    (fails : node.term.FailsWith (s.read lookup) record f) : e.FailsWith s lookup record f := by
  cases e with
  | const v =>
      obtain rfl := compileConst_eq_ok h
      exact fails.elim
  | field name =>
      have eval := (compileExpr_agrees constants h).eval record
      obtain ⟨declared, kind, -, -, -, rfl⟩ := compileField_eq_ok (by rwa [compileExpr_field] at h)
      exact .top (eval.symm.trans fails)
  | unary op operand =>
      obtain ⟨inner, compiled, h⟩ := compileUnaryExpr_eq_ok h
      have below := compileExpr_failsWith constants.unary compiled (compileUnary_failsWith h fails)
      exact below.mono Expr.nodes_subset_unary
  | binary op left right =>
      obtain ⟨leftNode, rightNode, compiledLeft, compiledRight, h⟩ := compileBinaryExpr_eq_ok h
      obtain ⟨constantsLeft, constantsRight⟩ := constants.binary
      rcases compileBinary_failsWith (compileExpr_agrees constantsLeft compiledLeft) h fails with
        fails | fails | top
      · exact (compileExpr_failsWith constantsLeft compiledLeft fails).mono Expr.nodes_subset_left
      · exact (compileExpr_failsWith constantsRight compiledRight fails).mono
          Expr.nodes_subset_right
      · exact .top top
  | state test operand =>
      obtain ⟨inner, compiled, h⟩ := compileStateExpr_eq_ok h
      have fails := (fold_failsWith (compileState_eq_ok h).2 fails).1
      exact (compileExpr_failsWith constants.state compiled fails).mono Expr.nodes_subset_state
  | among negated operand first others =>
      obtain ⟨left, firstNode, payloads, rest, compiled, some, -, -, -, h⟩ :=
        compileAmongExpr_eq_ok h
      obtain ⟨constantsOperand, -⟩ := constants.among
      rcases compileAmong_failsWith (compileExpr_agrees constantsOperand compiled) some h fails with
        fails | top
      · exact (compileExpr_failsWith constantsOperand compiled fails).mono Expr.nodes_subset_among
      · exact .top top
  | between negated operand lower upper =>
      obtain ⟨left, lowerNode, low, upperNode, high, compiled, -, compiledLower, -, alignedLower,
        compiledUpper, -, alignedUpper, h⟩ := compileBetweenExpr_eq_ok h
      obtain ⟨constantsOperand, constantsLower, constantsUpper⟩ := constants.between
      obtain ⟨fails | fails | fails, -⟩ := fold_failsWith h fails
      · exact (compileExpr_failsWith constantsOperand compiled fails).mono Expr.nodes_subset_between
      · exact (compileExpr_failsWith constantsLower compiledLower
          (align_failsWith alignedLower fails)).mono Expr.nodes_subset_lower
      · exact (compileExpr_failsWith constantsUpper compiledUpper
          (align_failsWith alignedUpper fails)).mono Expr.nodes_subset_upper
  | incomplete op left => exact absurd h compileIncomplete_ne_ok
  | unknown name => exact absurd h compileUnknown_ne_ok

theorem compileExpr_eval_error {e : Expr} {node : Node} (constants : e.ConstantsFit)
    (h : compileExpr (s.resolver lookup) e = .ok node)
    (fails : node.term.eval (s.read lookup) record = .error f) : e.FailsWith s lookup record f :=
  compileExpr_failsWith constants h
    (Term.HasKind.eval_error (compileExpr_sound constants h) (s.keepsKinds lookup) fails)

/-- Where an expression can be read, what it is compiled to is defined. -/
theorem compileExpr_defined {e : Expr} {node : Node} (constants : e.ConstantsFit)
    (h : compileExpr (s.resolver lookup) e = .ok node) (readable : e.Readable s lookup record) :
    ∃ p, node.term.eval (s.read lookup) record = .ok p := by
  cases given : node.term.eval (s.read lookup) record with
  | ok p => exact ⟨p, rfl⟩
  | error f =>
      obtain ⟨below, found, fails⟩ := compileExpr_eval_error constants h given
      exact absurd fails (readable below found).not_failsAtTop

end

/-! ## Predicates -/

theorem compileTo_eq_ok {r : Resolver} {expression : Option String} {e : Expr} {p : Predicate}
    (h : compileTo r expression e = .ok p) :
    ∃ node, compileExpr r e = .ok node ∧ node.kind = .boolean ∧
      p = ⟨node.term, e, expression, r⟩ := by
  obtain ⟨term, filtered, rfl⟩ := map_eq_ok.mp h
  obtain ⟨node, compiled, checked⟩ := bind_eq_ok.mp filtered
  split_ifs at checked with boolean
  · obtain rfl := pure_eq_ok.mp checked
    exact ⟨node, compiled, beq_iff_eq.mp boolean, rfl⟩
  · exact absurd checked reject_ne_ok

/-- A predicate accepts a record if the interpreter finds the expression true on it, and fails
only if the interpreter fails.  Where all that the expression reads of the record can be read, it
does not fail. -/
theorem Predicate.accepts_eq_interpret (s : Schema) (lookup : Lookup) {expression : Option String}
    {e : Expr} {p : Predicate} (constants : e.ConstantsFit)
    (compiled : compileTo (s.resolver lookup) expression e = .ok p) (record : Payload) :
    p.accepts record = (e.interpret s lookup record).map Payload.isTrue ∧
    (e.Readable s lookup record → ∃ b, p.accepts record = .ok b) := by
  obtain ⟨node, made, -, rfl⟩ := compileTo_eq_ok compiled
  have agrees := compileExpr_agrees constants made
  refine ⟨congrArg (Except.map Payload.isTrue) (agrees.eval record), fun readable => ?_⟩
  obtain ⟨q, given⟩ := compileExpr_defined constants made readable
  exact ⟨q.isTrue, congrArg (Except.map Payload.isTrue) given⟩

/-- `[total] * (2 + 3) in {'50', 7} && [Name] like 'a%'` -/
def fiftyFilter : Expr :=
  .binary .and
    (.among false
      (.binary (.arithmetic .multiply) (.field "total")
        (.binary (.arithmetic .add) (.const ⟨.number, .int 2⟩) (.const ⟨.number, .int 3⟩)))
      (.const ⟨.text, .text "50"⟩) [.const ⟨.number, .int 7⟩])
    (.binary .like (.field "Name") (.const ⟨.text, .text "a%"⟩))

def fiftySchema : Schema := ⟨[("Total", .number), ("Name", .text)]⟩

def fiftyRecord : Payload := .record [("Total", .text "10"), ("Name", .text "Apple")]

def fiftyPredicate : Predicate where
  term := .both
    (.member false [.decimal ⟨false, 50, 0⟩, .int 7]
      (.arithmetic .multiply (.field "Total") (.constant ⟨.number, .int 5⟩)))
    (.like ['a', '%'] true (.field "Name"))
  source := fiftyFilter
  expression := none
  resolver := fiftySchema.resolver .byName

theorem Predicate.accepts_eq_interpret_fifty :
    fiftyFilter.ConstantsFit ∧
    compileTo (fiftySchema.resolver .byName) none fiftyFilter = .ok fiftyPredicate ∧
    fiftyFilter.Readable fiftySchema .byName fiftyRecord ∧
    fiftyPredicate.accepts fiftyRecord =
      (fiftyFilter.interpret fiftySchema .byName fiftyRecord).map Payload.isTrue ∧
    ∃ b, fiftyPredicate.accepts fiftyRecord = .ok b ∧ b = true := by
  have constants : fiftyFilter.ConstantsFit := by
    simpa [Expr.ConstantsFit, fiftyFilter, Expr.nodes, Expr.nodesOf] using
      And.intro (.int 2) ⟨.int 3, .text "50", .int 7, .text "a%"⟩
  have compiled : compileTo (fiftySchema.resolver .byName) none fiftyFilter = .ok fiftyPredicate :=
    rfl
  have readable : fiftyFilter.Readable fiftySchema .byName fiftyRecord := by
    have total : ∃ p, fiftySchema.read .byName "total" fiftyRecord = .ok p :=
      ⟨.decimal ⟨false, 10, 0⟩, rfl⟩
    have name : (Expr.field "Name").interpret fiftySchema .byName fiftyRecord =
      .ok (.text "Apple") := rfl
    have read : ∃ p, fiftySchema.read .byName "Name" fiftyRecord = .ok p := ⟨.text "Apple", rfl⟩
    have text : ∃ text, (Payload.text "Apple").displayed = .ok text := ⟨"Apple", rfl⟩
    simp [Expr.Readable, fiftyFilter, Expr.nodes, Expr.nodesOf, Expr.ReadsAtTop, Expr.kind, total,
      name, read, text]
  obtain ⟨agree, defined⟩ :=
    Predicate.accepts_eq_interpret fiftySchema .byName constants compiled fiftyRecord
  obtain ⟨b, accepted⟩ := defined readable
  have found : (fiftyPredicate.accepts fiftyRecord).toOption = some true := by decide +kernel
  rw [accepted] at found
  exact ⟨constants, compiled, readable, agree, b, accepted, Option.some.inj found⟩

end RecordFilter
