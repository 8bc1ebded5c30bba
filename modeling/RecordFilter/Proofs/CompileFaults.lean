import RecordFilter.Proofs.ParsedFilters
import RecordFilter.Proofs.Unreadable

/-!
# Faults of compiling

Compiling a filter that was parsed either succeeds or reports an error of the filter, with one
exception: a text constant that reads as a timestamp which leaves the calendar in universal time is
a fault.  Nothing else that the compiler does with constants can fail without a report, since the
constants of a parsed filter, and all that they are converted and folded to, hold no whole numbers
and no collections.
-/

namespace RecordFilter

/-! ## Constants -/

namespace Payload

theorem unhashable?_of_isElementary {p : Payload} (plain : p.isElementary = true) :
    p.unhashable? = none := by
  cases p <;> cases plain <;> rfl

theorem isTooLong_of_isElementary {p : Payload} (plain : p.isElementary = true) :
    p.isTooLong = false := by
  cases p <;> cases plain <;> rfl

/-- What has no parts and can be written out is at fault only by itself. -/
theorem Explains.of_isElementary {p : Payload} {f : Fault} (h : p.Explains f)
    (plain : p.isElementary = true) : f = .outsideCalendar ∧ p.leavesCalendar = true := by
  have single := isSingle_of_isElementary plain
  rcases h with ⟨calendar, q, found, leaves⟩ | ⟨-, found⟩ | unwritable
  · rw [parts_of_isSingle single] at found
    exact ⟨calendar, List.mem_singleton.mp found ▸ leaves⟩
  · rw [parts_of_isSingle single] at found
    rw [← List.mem_singleton.mp found] at plain
    cases plain
  · have long := (isTooLong_of_isSingle single unwritable).2
    rw [isTooLong_of_isElementary plain] at long
    cases long

theorem Fits.text_of_leavesCalendar {p : Payload} {k : Kind} (h : p.Fits k)
    (leaves : p.leavesCalendar = true) : k = .text ∧ ∃ t, p = .text t := by
  cases h with
  | text t => exact ⟨rfl, t, rfl⟩
  | _ => cases leaves

theorem negate_isElementary {p q : Payload} (fits : p.Fits .number) (plain : p.isElementary = true)
    (h : p.negate = .ok q) : q.isElementary = true := by
  cases fits with
  | int n => cases plain
  | decimal d =>
      cases h
      cases d.negate? <;> rfl

end Payload

theorem Arithmetic.onNumbers_isElementary (op : Arithmetic) {p q : Payload}
    (hp : p.isElementary = true) (hq : q.isElementary = true) :
    (op.onNumbers p q).isElementary = true := by
  have result (d : Option Decimal) : (ofResult d).isElementary = true := by cases d <;> rfl
  unfold onNumbers
  split
  · cases hp
  · cases hp
  · cases hp
  · split
    · split
      · rfl
      · exact result _
    · rfl

namespace Value

theorem coerce_isElementary {v w : Value} {k : Kind} (plain : v.raw.isElementary = true)
    (h : v.coerce k = .ok w) : w.raw.isElementary = true := by
  unfold coerce at h
  split at h
  · cases h
    exact plain
  · split at h
    · obtain ⟨d, -, rfl⟩ := map_eq_ok.mp h
      rfl
    · obtain ⟨d, -, rfl⟩ := map_eq_ok.mp h
      rfl
    · exact absurd h undefinedConversion_ne_ok
    · obtain ⟨s, -, rfl⟩ := map_eq_ok.mp h
      rfl
    · split at h
      · obtain ⟨m, -, rfl⟩ := map_eq_ok.mp h
        rfl
      · exact absurd h undefinedConversion_ne_ok
    · obtain ⟨b, -, rfl⟩ := map_eq_ok.mp h
      rfl
    · obtain ⟨b, -, rfl⟩ := map_eq_ok.mp h
      rfl
    · exact absurd h undefinedConversion_ne_ok

theorem coerce_error {v : Value} {k : Kind} {f : Fault} (h : v.coerce k = .error f) :
    v.raw.ConvertsUpTo f := by
  have undefined {f : Fault} (h : v.undefinedConversion k = .error f) : v.raw.ConvertsUpTo f := by
    rcases bind_eq_error.mp h with h | ⟨text, -, h⟩
    · exact .inr (.inr (.inr (Payload.displayed_error h)))
    · cases h
      exact .inl ⟨_, rfl⟩
  unfold coerce at h
  split at h
  · cases h
  · split at h
    · exact Payload.toNumber_error (map_eq_error.mp h)
    · exact Payload.toNumber_error (map_eq_error.mp h)
    · exact undefined h
    · exact .inr (.inr (.inr (Payload.displayed_error (map_eq_error.mp h))))
    · split at h
      · next t same =>
          rw [same]
          exact Payload.toMoment_error (p := .text t) (map_eq_error.mp h)
      · exact undefined h
    · exact Payload.toTruth_error (map_eq_error.mp h)
    · exact Payload.toTruth_error (map_eq_error.mp h)
    · exact undefined h

theorem elementPayloads_isElementary {v : Value} {ps : List Payload}
    (plain : v.raw.isElementary = true) (h : elementPayloads v = .ok ps) :
    ∀ p ∈ ps, p.isElementary = true := by
  unfold elementPayloads at h
  split at h
  · split at h
    · next m read =>
        cases h
        have moment : (Payload.ofMoment m).isElementary = true := rfl
        simp [plain, moment]
    · cases h
      simp [plain]
    · cases h
  · cases h
    simp [plain]

theorem elementPayloads_error {v : Value} {f : Fault} (h : elementPayloads v = .error f) :
    f = .outsideCalendar ∧ v.kind = .text ∧ v.raw.leavesCalendar = true := by
  unfold elementPayloads at h
  split at h
  · next t kind raw =>
      split at h
      · cases h
      · cases h
      · next g other read =>
          cases h
          rcases Payload.readMoment_error read with rfl | ⟨calendar, leaves⟩
          · exact absurd rfl (other _)
          · exact ⟨calendar, kind, by rw [raw]; exact leaves⟩
  · cases h

end Value

/-! ## Compiled constants -/

def Node.Elementary (n : Node) : Prop :=
  ∀ v, n.term = .constant v → v.raw.isElementary = true

theorem Node.elementary_ofValue {v : Value} (plain : v.raw.isElementary = true) :
    (ofValue v).Elementary := by
  intro w same
  cases same
  exact plain

theorem align_elementary {operator : String} {target other aligned : Node} {e : Expr}
    (plain : other.Elementary) (h : align operator target other e = .ok aligned) :
    aligned.Elementary := by
  rcases align_eq_ok h with ⟨-, rfl⟩ | ⟨-, v, converted, constant, defined, rfl⟩
  · exact plain
  · exact Node.elementary_ofValue (Value.coerce_isElementary (plain v constant) defined)

theorem fold_elementary {n m : Node} {operands : List Node} (h : fold n operands = .ok m)
    (operator : n.isConstant = false)
    (plain : operands.all Node.isConstant = true →
      ∀ raw, evalClosed n.term = .ok raw → raw.isElementary = true) : m.Elementary := by
  rcases fold_eq_ok h with ⟨-, rfl⟩ | ⟨all, raw, evaluated, rfl⟩
  · intro v constant
    rw [Node.isConstant_iff.mpr ⟨v, constant⟩] at operator
    cases operator
  · exact Node.elementary_ofValue (plain all raw evaluated)

theorem fold_test_elementary {n m : Node} {operands : List Node} (h : fold n operands = .ok m)
    (test : n.term.isTest = true) : m.Elementary := by
  refine fold_elementary h ?_ fun _ raw evaluated => ?_
  · rw [← Bool.not_eq_true, Node.isConstant_iff]
    rintro ⟨v, constant⟩
    rw [constant] at test
    cases test
  · obtain ⟨b, rfl⟩ := Term.eval_of_isTest test evaluated
    rfl

section

variable {r : Resolver} {kinds : String → Option Kind}

theorem compileUnary_elementary {op : UnaryOp} {e : Expr} {operand node : Node}
    (sound : operand.Sound kinds) (plain : operand.Elementary)
    (h : compileUnary op e operand = .ok node) : node.Elementary := by
  cases op with
  | not => exact fold_test_elementary (compileNot_eq_ok h).2 rfl
  | plus =>
      obtain ⟨-, rfl⟩ := compilePlus_eq_ok h
      exact plain
  | negate =>
      obtain ⟨number, folded⟩ := compileNegate_eq_ok h
      refine fold_elementary folded rfl fun constant raw evaluated => ?_
      obtain ⟨v, same⟩ := Node.isConstant_iff.mp (by simpa using constant)
      obtain ⟨-, fits⟩ := sound.constant same
      rw [number] at fits
      simp only [same, evalClosed, Term.eval, ok_bind] at evaluated
      exact Payload.negate_isElementary fits (plain v same) evaluated

theorem compileArithmetic_elementary {op : Arithmetic} {leftExpr rightExpr : Expr}
    {left right node : Node} (soundLeft : left.Sound kinds) (soundRight : right.Sound kinds)
    (plainLeft : left.Elementary) (plainRight : right.Elementary)
    (h : compileArithmetic op left right leftExpr rightExpr = .ok node) : node.Elementary := by
  obtain ⟨someLeft, someRight, l, r, aligned, folded⟩ := compileArithmetic_eq_ok h
  obtain ⟨numberL, numberR⟩ :=
    arithmeticOperands_sound soundLeft soundRight someLeft someRight aligned
  have plain : l.Elementary ∧ r.Elementary := by
    rcases aligned with ⟨-, rfl, aligned⟩ | ⟨-, -, rfl, aligned⟩
    · exact ⟨plainLeft, align_elementary plainRight aligned⟩
    · exact ⟨align_elementary plainLeft aligned, plainRight⟩
  refine fold_elementary folded rfl fun constant raw evaluated => ?_
  simp only [List.all_cons, List.all_nil, Bool.and_true, Bool.and_eq_true,
    Node.isConstant_iff] at constant
  obtain ⟨⟨v, sameL⟩, w, sameR⟩ := constant
  simp only [sameL, sameR] at numberL numberR evaluated
  cases numberL with
  | constant _ fitsL =>
      cases numberR with
      | constant _ fitsR =>
          have evaluated : op.apply v.raw w.raw = .ok raw := evaluated
          rw [op.apply_eq (.inr fitsL) (.inr fitsR)] at evaluated
          cases evaluated
          exact op.onNumbers_isElementary (plain.1 v sameL) (plain.2 w sameR)

theorem compileExpr_elementary {e : Expr} {node : Node} (writable : e.AllWritable)
    (h : compileExpr r e = .ok node) : node.Elementary := by
  cases e with
  | const v =>
      obtain rfl := compileConst_eq_ok h
      refine Node.elementary_ofValue ?_
      cases Expr.allWritable_const.mp writable <;> rfl
  | field name =>
      obtain ⟨declared, kind, -, -, -, rfl⟩ := compileField_eq_ok (by rwa [compileExpr_field] at h)
      intro v constant
      cases constant
  | unary op operand =>
      obtain ⟨inner, compiled, h⟩ := compileUnaryExpr_eq_ok h
      have writable := Expr.allWritable_unary.mp writable
      exact compileUnary_elementary (compileExpr_sound writable.constantsFit compiled)
        (compileExpr_elementary writable compiled) h
  | binary op left right =>
      obtain ⟨leftNode, rightNode, compiledLeft, compiledRight, h⟩ := compileBinaryExpr_eq_ok h
      obtain ⟨-, writableLeft, writableRight⟩ := Expr.allWritable_binary.mp writable
      cases op with
      | and | or => exact fold_test_elementary (compileConnective_eq_ok h).2.2 rfl
      | like =>
          obtain ⟨raw, pattern, -, -, folded⟩ := compileLike_eq_ok h
          exact fold_test_elementary folded rfl
      | compare c =>
          obtain ⟨-, -, l, r, -, -, -, folded⟩ := compileComparison_eq_ok h
          exact fold_test_elementary folded rfl
      | arithmetic op =>
          exact compileArithmetic_elementary
            (compileExpr_sound writableLeft.constantsFit compiledLeft)
            (compileExpr_sound writableRight.constantsFit compiledRight)
            (compileExpr_elementary writableLeft compiledLeft)
            (compileExpr_elementary writableRight compiledRight) h
  | state test operand =>
      obtain ⟨inner, -, h⟩ := compileStateExpr_eq_ok h
      exact fold_test_elementary (compileState_eq_ok h).2 rfl
  | among negated operand first others =>
      obtain ⟨left, firstNode, payloads, rest, -, -, -, -, -, h⟩ := compileAmongExpr_eq_ok h
      unfold compileAmong at h
      split_ifs at h <;> exact fold_test_elementary h rfl
  | between negated operand lower upper =>
      obtain ⟨left, lowerNode, low, upperNode, high, -, -, -, -, -, -, -, -, h⟩ :=
        compileBetweenExpr_eq_ok h
      exact fold_test_elementary h rfl
  | incomplete op left => exact absurd h compileIncomplete_ne_ok
  | unknown name => exact absurd h compileUnknown_ne_ok

end

/-! ## Faults -/

def FaultsOnly {α : Type} (cause : Fault → Prop) (x : Compiling α) : Prop :=
  ∀ f, x = .error (.fault f) → cause f

namespace FaultsOnly

section

variable {α β : Type} {cause : Fault → Prop}

theorem pure (a : α) : FaultsOnly cause (pure a : Compiling α) := nofun

theorem reject (e : CompileError) : FaultsOnly cause (reject e : Compiling α) := nofun

theorem bind {x : Compiling α} {next : α → Compiling β} (hx : FaultsOnly cause x)
    (hnext : ∀ a, x = .ok a → FaultsOnly cause (next a)) : FaultsOnly cause (x >>= next) := by
  intro f h
  rcases bind_eq_error.mp h with h | ⟨a, given, h⟩
  · exact hx f h
  · exact hnext a given f h

theorem orFault {x : Except Fault α} (h : ∀ f, x = .error f → cause f) :
    FaultsOnly cause (orFault x) := by
  intro f fails
  cases x with
  | ok a => cases fails
  | error f =>
      cases fails
      exact h _ rfl

theorem ite {c : Prop} [Decidable c] {x y : Compiling α} (hx : c → FaultsOnly cause x)
    (hy : ¬ c → FaultsOnly cause y) : FaultsOnly cause (if c then x else y) := by
  split_ifs with holds
  · exact hx holds
  · exact hy holds

theorem check {c : Prop} [Decidable c] {e : CompileError} {next : PUnit → Compiling α}
    (hnext : ¬ c → FaultsOnly cause (next ⟨⟩)) :
    FaultsOnly cause (if c then (do let r ← RecordFilter.reject e; next r) else next ⟨⟩) :=
  ite (fun _ => bind (reject e) nofun) hnext

end

end FaultsOnly

def TextLeavesCalendar (nodes : List Expr) (f : Fault) : Prop :=
  f = .outsideCalendar ∧
    ∃ t, .const ⟨.text, .text t⟩ ∈ nodes ∧ (Payload.text t).leavesCalendar = true

theorem FaultsOnly.mono {α : Type} {x : Compiling α} {nodes all : List Expr}
    (h : FaultsOnly (TextLeavesCalendar nodes) x) (subset : nodes ⊆ all) :
    FaultsOnly (TextLeavesCalendar all) x := by
  intro f fails
  obtain ⟨calendar, t, found, leaves⟩ := h f fails
  exact ⟨calendar, t, subset found, leaves⟩

/-! ## Operators -/

section

variable {α : Type} {cause : Fault → Prop}

theorem label_faultsOnly {e : Expr} (writable : e.AllWritable) : FaultsOnly cause (label e) := by
  cases e with
  | const v =>
      refine .ite (fun _ => .pure _) fun _ => .bind (.orFault fun f fails => ?_) fun _ _ => .pure _
      cases Expr.allWritable_const.mp writable <;> cases fails
  | _ => exact .pure _

theorem labelled_faultsOnly {e : Expr} {error : String → CompileError} (writable : e.AllWritable) :
    FaultsOnly cause (do reject (error (← label e)) : Compiling α) :=
  .bind (label_faultsOnly writable) fun _ _ => .reject _

abbrev Term.FailsClosed (t : Term) (f : Fault) : Prop := t.FailsWith (fun _ _ => .ok .null) .null f

/-- Evaluating a term of a kind at once is no fault if nothing but its operands could be one. -/
theorem fold_faultsOnly {n : Node} {operands : List Node} {kinds : String → Option Kind}
    (sound : n.Sound kinds)
    (below : operands.all Node.isConstant = true →
      ∀ f, n.term.FailsClosed f → ∃ operand ∈ operands, operand.term.FailsClosed f) :
    FaultsOnly cause (fold n operands) := by
  refine .ite (fun all => .bind (.orFault fun f fails => ?_) fun _ _ => .pure _) fun _ => .pure _
  obtain ⟨operand, found, fails⟩ :=
    below all f (Term.HasKind.eval_error sound keepsKinds_null fails)
  obtain ⟨v, same⟩ := Node.isConstant_iff.mp (List.all_eq_true.mp all operand found)
  rw [same] at fails
  exact fails.elim

end

theorem requireDivisor_faultsOnly {cause : Fault → Prop} {kinds : String → Option Kind} {n : Node}
    (number : n.term.HasKind kinds .number) (op : Arithmetic) :
    FaultsOnly cause (requireDivisor op n) := by
  unfold requireDivisor
  split
  · next v constant =>
      rw [Node.constant?_eq_some.mp constant] at number
      cases number with
      | constant _ fits =>
          refine .ite (fun signals => ?_) fun _ => .ite (fun _ => .reject _) fun _ => .pure _
          rw [fits.isSignaling] at signals
          cases signals
  · exact .pure _

structure CompiledFrom (s : Schema) (lookup : Lookup) (e : Expr) (n : Node) : Prop where
  writable : e.AllWritable
  compiled : compileExpr (s.resolver lookup) e = .ok n

namespace CompiledFrom

variable {s : Schema} {lookup : Lookup} {e : Expr} {n : Node}

theorem sound (h : CompiledFrom s lookup e n) : n.Sound s.kind? :=
  compileExpr_sound h.writable.constantsFit h.compiled

theorem elementary (h : CompiledFrom s lookup e n) : n.Elementary :=
  compileExpr_elementary h.writable h.compiled

theorem eq_const (h : CompiledFrom s lookup e n) {v : Value} (constant : n.term = .constant v)
    (text : v.kind = .text) : e = .const v := by
  have agrees := compileExpr_agrees h.writable.constantsFit h.compiled
  have some : n.isNullConstant = false := by
    rw [Node.isNullConstant_eq constant, Value.isNull, text]
    rfl
  have kind : e.kind s = .text := by
    rw [← agrees.kind some, ← (h.sound.constant constant).1, text]
  have closed : e.isClosed = true := by
    rw [← agrees.constant, Node.isConstant_iff.mpr ⟨v, constant⟩]
  cases e with
  | const w =>
      obtain rfl := compileConst_eq_ok h.compiled
      cases constant
      rfl
  | field name => cases closed
  | unary op operand => cases op <;> cases kind
  | binary op left right => cases op <;> cases kind
  | _ => cases kind

theorem leavesCalendar (h : CompiledFrom s lookup e n) {v : Value} (constant : n.term = .constant v)
    (leaves : v.raw.leavesCalendar = true) : TextLeavesCalendar e.nodes .outsideCalendar := by
  obtain ⟨kind, raw⟩ := v
  obtain ⟨same, fits⟩ := h.sound.constant constant
  obtain ⟨text, t, rfl⟩ := fits.text_of_leavesCalendar leaves
  obtain rfl : kind = .text := same.trans text
  rw [h.eq_const constant rfl]
  exact ⟨rfl, t, Expr.mem_nodes_self _, leaves⟩

theorem align_faultsOnly (h : CompiledFrom s lookup e n) (operator : String) (target : Node) :
    FaultsOnly (TextLeavesCalendar e.nodes) (align operator target n e) := by
  refine .ite (fun _ => .pure _) fun _ => ?_
  split
  · next v constant =>
      have constant := Node.constant?_eq_some.mp constant
      refine .ite (fun _ => .reject _) fun _ => ?_
      split
      · exact .pure _
      · exact labelled_faultsOnly h.writable
      · next f other fails =>
          intro g same
          cases same
          rcases Value.coerce_error fails with ⟨reason, rfl⟩ | explains
          · exact absurd rfl (other reason)
          · obtain ⟨rfl, leaves⟩ := explains.of_isElementary (h.elementary v constant)
            exact h.leavesCalendar constant leaves
  · exact .reject _

theorem compileUnary_faultsOnly (h : CompiledFrom s lookup e n) (op : UnaryOp) :
    FaultsOnly (TextLeavesCalendar e.nodes) (compileUnary op e n) := by
  cases op with
  | not =>
      refine .ite (fun kind => ?_) fun _ => labelled_faultsOnly h.writable
      exact fold_faultsOnly (.not (h.sound.hasKind (beq_iff_eq.mp kind)))
        fun _ f fails => ⟨n, by simp, fails⟩
  | negate =>
      refine .ite (fun kind => ?_) fun _ => labelled_faultsOnly h.writable
      exact fold_faultsOnly (.negate (h.sound.hasKind (beq_iff_eq.mp kind)))
        fun _ f fails => ⟨n, by simp, fails⟩
  | plus => exact .ite (fun _ => .pure _) fun _ => labelled_faultsOnly h.writable

theorem compileState_faultsOnly (h : CompiledFrom s lookup e n) (test : StateTest) :
    FaultsOnly (TextLeavesCalendar e.nodes) (compileState test e n) := by
  refine .ite (fun _ => labelled_faultsOnly h.writable) fun allowed => ?_
  refine fold_faultsOnly (.state h.sound fun needed => ?_) fun _ f fails => ⟨n, by simp, fails⟩
  rw [← h.sound.null_iff]
  exact measured_of_not_refused allowed needed

theorem compileLike_faultsOnly {leftExpr rightExpr : Expr} {left right : Node}
    (hl : CompiledFrom s lookup leftExpr left) (hr : CompiledFrom s lookup rightExpr right) :
    FaultsOnly (TextLeavesCalendar rightExpr.nodes) (compileLike left right rightExpr) := by
  unfold compileLike
  split
  · next raw constant =>
      have plain := hr.elementary _ (Node.constant?_eq_some.mp constant)
      obtain ⟨pattern, displayed⟩ := Payload.displayed_of_isElementary plain
      rw [displayed]
      refine fold_faultsOnly (.like hl.sound) fun all f fails => ?_
      rcases fails with fails | ⟨p, given, fails⟩
      · exact ⟨left, by simp, fails⟩
      · obtain ⟨v, same⟩ := Node.isConstant_iff.mp (by simpa using all)
        rw [same] at given
        cases given
        obtain ⟨text, displayed⟩ := Payload.displayed_of_isElementary (hl.elementary v same)
        rw [displayed] at fails
        cases fails
  · exact labelled_faultsOnly hr.writable

section

variable {leftExpr rightExpr : Expr} {left right : Node}
  (hl : CompiledFrom s lookup leftExpr left) (hr : CompiledFrom s lookup rightExpr right)

include hl hr

theorem compileComparison_faultsOnly (c : Comparison) :
    FaultsOnly (TextLeavesCalendar (Expr.binary (.compare c) leftExpr rightExpr).nodes)
      (compileComparison c left right leftExpr rightExpr) := by
  unfold compileComparison
  refine .check fun null => ?_
  refine .bind ?_ fun ⟨l, r⟩ aligned => ?_
  · refine .ite (fun _ => .bind ?_ fun _ _ => .pure _) fun _ => .bind ?_ fun _ _ => .pure _
    · exact (hr.align_faultsOnly _ _).mono Expr.nodes_subset_right
    · exact (hl.align_faultsOnly _ _).mono Expr.nodes_subset_left
  · simp only [Bool.or_eq_true, not_or, Bool.not_eq_true] at null
    obtain ⟨soundL, soundR, kind, some⟩ :=
      comparisonOperands_sound hl.sound hr.sound null.1 null.2 aligned
    refine .check fun single => ?_
    refine .check fun ordered => ?_
    refine fold_faultsOnly (.compare soundL (soundR.hasKind kind) ⟨some, ?_, ?_⟩)
      fun _ f fails => ?_
    · simpa using single
    · cases equality : c.isEquality with
      | true => exact .inl rfl
      | false => exact .inr (by simpa [equality] using ordered)
    · rcases fails with fails | fails
      · exact ⟨l, by simp, fails⟩
      · exact ⟨r, by simp, fails⟩

theorem compileArithmetic_faultsOnly (op : Arithmetic) :
    FaultsOnly (TextLeavesCalendar (Expr.binary (.arithmetic op) leftExpr rightExpr).nodes)
      (compileArithmetic op left right leftExpr rightExpr) := by
  unfold compileArithmetic
  refine .check fun null => ?_
  refine .check fun others => ?_
  simp only [Bool.or_eq_true, not_or, Bool.not_eq_true] at null
  have folded {l r : Node}
      (aligned : (left.kind = .number ∧ l = left ∧ align op.symbol left right rightExpr = .ok r) ∨
        (left.kind ≠ .number ∧ right.kind = .number ∧ r = right ∧
          align op.symbol right left leftExpr = .ok l)) :
      FaultsOnly (TextLeavesCalendar (Expr.binary (.arithmetic op) leftExpr rightExpr).nodes)
        (requireDivisor op r >>= fun _ => fold ⟨.number, .arithmetic op l.term r.term⟩ [l, r]) := by
    obtain ⟨numberL, numberR⟩ := arithmeticOperands_sound hl.sound hr.sound null.1 null.2 aligned
    refine .bind (requireDivisor_faultsOnly numberR op) fun _ _ => ?_
    refine fold_faultsOnly (.arithmetic numberL numberR) fun _ f fails => ?_
    rcases fails with fails | fails
    · exact ⟨l, by simp, fails⟩
    · exact ⟨r, by simp, fails⟩
  refine .ite (fun number => ?_) fun other => ?_
  · refine .bind ?_ fun r aligned => ?_
    · exact (hr.align_faultsOnly _ _).mono Expr.nodes_subset_right
    · refine .bind (.pure _) fun pair paired => ?_
      obtain rfl := pure_eq_ok.mp paired
      exact folded (.inl ⟨by simpa using number, rfl, aligned⟩)
  · refine .bind ?_ fun l aligned => ?_
    · exact (hl.align_faultsOnly _ _).mono Expr.nodes_subset_left
    · have other : left.kind ≠ .number := by simpa using other
      refine .bind (.pure _) fun pair paired => ?_
      obtain rfl := pure_eq_ok.mp paired
      exact folded (.inr ⟨other, by simpa [other] using others, rfl, aligned⟩)

theorem compileBinary_faultsOnly (op : BinaryOp) :
    FaultsOnly (TextLeavesCalendar (Expr.binary op leftExpr rightExpr).nodes)
      (compileBinary op left right leftExpr rightExpr) := by
  cases op with
  | compare c => exact compileComparison_faultsOnly hl hr c
  | arithmetic op => exact compileArithmetic_faultsOnly hl hr op
  | like =>
      exact (compileLike_faultsOnly hl hr).mono Expr.nodes_subset_right
  | and =>
      refine .ite (fun kinds => ?_) fun _ => .reject _
      simp only [Bool.and_eq_true, beq_iff_eq] at kinds
      refine fold_faultsOnly (.both (hl.sound.hasKind kinds.1) (hr.sound.hasKind kinds.2))
        fun _ f fails => ?_
      rcases fails with fails | fails
      · exact ⟨left, by simp, fails⟩
      · exact ⟨right, by simp, fails⟩
  | or =>
      refine .ite (fun kinds => ?_) fun _ => .reject _
      simp only [Bool.and_eq_true, beq_iff_eq] at kinds
      refine fold_faultsOnly (.either (hl.sound.hasKind kinds.1) (hr.sound.hasKind kinds.2))
        fun _ f fails => ?_
      rcases fails with fails | fails
      · exact ⟨left, by simp, fails⟩
      · exact ⟨right, by simp, fails⟩

end

/-! ## Membership and ranges -/

theorem requireHashable_faultsOnly {cause : Fault → Prop} {p : Payload}
    (hashable : p.unhashable? = none) : FaultsOnly cause (requireHashable p) := by
  unfold requireHashable
  rw [hashable]
  exact .pure _

theorem mapM_requireHashable_faultsOnly {cause : Fault → Prop} {ps : List Payload}
    (hashable : ∀ p ∈ ps, p.unhashable? = none) :
    FaultsOnly cause (ps.mapM requireHashable) := by
  induction ps with
  | nil => exact .pure _
  | cons p ps ih =>
      rw [List.mapM_cons]
      rw [List.forall_mem_cons] at hashable
      exact .bind (requireHashable_faultsOnly hashable.1) fun _ _ =>
        .bind (ih hashable.2) fun _ _ => .pure _

theorem compileMember_faultsOnly (h : CompiledFrom s lookup e n) (negated : Bool) (left : Node) :
    FaultsOnly (TextLeavesCalendar e.nodes) (compileMember negated left n e) := by
  unfold compileMember
  split
  · exact labelled_faultsOnly h.writable
  · next v constant =>
      have constant := Node.constant?_eq_some.mp constant
      have plain := h.elementary v constant
      refine .ite (fun _ => .reject _) fun _ => .ite (fun collection => ?_) fun single => ?_
      · refine .bind (.orFault fun f fails => ?_) fun ps given =>
          mapM_requireHashable_faultsOnly fun p found => ?_
        · obtain ⟨rfl, text, leaves⟩ := Value.elementPayloads_error fails
          exact h.leavesCalendar constant leaves
        · have plain := Value.elementPayloads_isElementary plain (orFault_eq_ok.mp given)
          exact Payload.unhashable?_of_isElementary (plain p found)
      · refine .bind (h.align_faultsOnly _ _) fun aligned same => ?_
        obtain ⟨w, constant⟩ := align_constant constant same
        have plain := align_elementary h.elementary same w constant
        have evaluated : evalClosed aligned.term = .ok w.raw := by
          rw [constant]
          rfl
        rw [evaluated]
        refine .bind (.pure _) fun p same =>
          .bind (requireHashable_faultsOnly ?_) fun _ _ => .pure _
        cases same
        exact Payload.unhashable?_of_isElementary plain

theorem compileAmong_faultsOnly (h : CompiledFrom s lookup e n) {negated : Bool}
    {members : List Payload} {cause : Fault → Prop}
    (fit : n.kind ≠ .collection → ∀ p ∈ members, p.Fits n.kind) :
    FaultsOnly cause (compileAmong negated n members) := by
  refine .ite (fun collection => ?_) fun single => ?_
  · refine fold_faultsOnly (.anyMember (h.sound.hasKind (beq_iff_eq.mp collection)))
      fun all f fails => ?_
    -- There are no constant collections in a filter.
    rcases fails with fails | ⟨p, items, item, given, listed, -⟩
    · exact ⟨n, by simp, fails⟩
    · obtain ⟨v, same⟩ := Node.isConstant_iff.mp (by simpa using all)
      rw [same] at given
      cases given
      have plain := Payload.isSingle_of_isElementary (h.elementary v same)
      rw [Payload.items?_of_isSingle plain] at listed
      cases listed
  · have single : n.kind ≠ .collection := by simpa using single
    exact fold_faultsOnly (.member h.sound single (fit single)) fun _ f fails => ⟨n, by simp, fails⟩

theorem compileBound_faultsOnly (h : CompiledFrom s lookup e n) (negated : Bool) (left : Node) :
    FaultsOnly (TextLeavesCalendar e.nodes) (compileBound negated left n e) :=
  .ite (fun _ => .reject _) fun _ => h.align_faultsOnly _ _

theorem requireRange_faultsOnly (h : CompiledFrom s lookup e n) {cause : Fault → Prop}
    (negated : Bool) : FaultsOnly cause (requireRange negated n e) := by
  unfold requireRange
  split
  · exact .pure _
  · exact .pure _
  · exact labelled_faultsOnly h.writable
  · exact .reject _

end CompiledFrom

/-! ## Expressions -/

section

variable {s : Schema} {lookup : Lookup}

theorem compileField_faultsOnly {cause : Fault → Prop} (r : Resolver) (name : String) :
    FaultsOnly cause (compileField r name) := by
  unfold compileField
  split
  · exact .reject _
  · split
    · exact .reject _
    · exact .reject _
    · exact .pure _

mutual

/-- Nothing but a text that leaves the calendar is a fault of a tree of the language. -/
theorem compileExpr_faultsOnly {e : Expr} (writable : e.AllWritable) :
    FaultsOnly (TextLeavesCalendar e.nodes) (compileExpr (s.resolver lookup) e) := by
  cases e with
  | const v =>
      rw [compileExpr_const]
      exact .pure _
  | field name =>
      rw [compileExpr_field]
      exact compileField_faultsOnly _ name
  | unary op operand =>
      have writable := Expr.allWritable_unary.mp writable
      rw [compileExpr]
      refine .bind ((compileExpr_faultsOnly writable).mono Expr.nodes_subset_unary)
        fun n compiled => ?_
      have made : CompiledFrom s lookup operand n := ⟨writable, compiled⟩
      exact (made.compileUnary_faultsOnly op).mono Expr.nodes_subset_unary
  | binary op left right =>
      obtain ⟨-, writableLeft, writableRight⟩ := Expr.allWritable_binary.mp writable
      rw [compileExpr]
      refine .bind ((compileExpr_faultsOnly writableLeft).mono Expr.nodes_subset_left)
        fun l compiledLeft => ?_
      refine .bind ((compileExpr_faultsOnly writableRight).mono Expr.nodes_subset_right)
        fun r compiledRight => ?_
      have made : CompiledFrom s lookup left l := ⟨writableLeft, compiledLeft⟩
      exact made.compileBinary_faultsOnly ⟨writableRight, compiledRight⟩ op
  | state test operand =>
      have writable := Expr.allWritable_state.mp writable
      rw [compileExpr]
      refine .bind ((compileExpr_faultsOnly writable).mono Expr.nodes_subset_state)
        fun n compiled => ?_
      have made : CompiledFrom s lookup operand n := ⟨writable, compiled⟩
      exact (made.compileState_faultsOnly test).mono Expr.nodes_subset_state
  | among negated operand first others =>
      have constants := writable.constantsFit.among.2.cons.2
      obtain ⟨writable, writableFirst, writableOthers⟩ := Expr.allWritable_among.mp writable
      have inFirst : first.nodes ⊆ (Expr.among negated operand first others).nodes :=
        List.Subset.trans (List.subset_append_left _ _) Expr.nodes_subset_values
      have inOthers : Expr.nodesOf others ⊆ (Expr.among negated operand first others).nodes :=
        List.Subset.trans (List.subset_append_right _ _) Expr.nodes_subset_values
      rw [compileExpr]
      refine .bind ((compileExpr_faultsOnly writable).mono Expr.nodes_subset_among)
        fun left compiled => ?_
      refine .check fun some => ?_
      refine .bind ((compileExpr_faultsOnly writableFirst).mono inFirst) fun n compiledFirst => ?_
      have made : CompiledFrom s lookup operand left := ⟨writable, compiled⟩
      have madeFirst : CompiledFrom s lookup first n := ⟨writableFirst, compiledFirst⟩
      refine .bind ((madeFirst.compileMember_faultsOnly negated left).mono inFirst)
        fun payloads member => ?_
      refine .bind ((compileMembers_faultsOnly writableOthers).mono inOthers)
        fun rest members => ?_
      refine made.compileAmong_faultsOnly fun single p found => ?_
      rcases List.mem_append.mp found with found | found
      · exact compileMember_fits madeFirst.sound single member p found
      · exact compileMembers_fit constants single members p found
  | between negated operand lower upper =>
      obtain ⟨writable, writableLower, writableUpper⟩ := Expr.allWritable_between.mp writable
      rw [compileExpr]
      refine .bind ((compileExpr_faultsOnly writable).mono Expr.nodes_subset_between)
        fun left compiled => ?_
      have made : CompiledFrom s lookup operand left := ⟨writable, compiled⟩
      refine .bind (made.requireRange_faultsOnly negated) fun _ ranged => ?_
      refine .bind ((compileExpr_faultsOnly writableLower).mono Expr.nodes_subset_lower)
        fun lowerNode compiledLower => ?_
      have madeLower : CompiledFrom s lookup lower lowerNode := ⟨writableLower, compiledLower⟩
      refine .bind ((madeLower.compileBound_faultsOnly negated left).mono Expr.nodes_subset_lower)
        fun low alignedLow => ?_
      refine .bind ((compileExpr_faultsOnly writableUpper).mono Expr.nodes_subset_upper)
        fun upperNode compiledUpper => ?_
      have madeUpper : CompiledFrom s lookup upper upperNode := ⟨writableUpper, compiledUpper⟩
      refine .bind ((madeUpper.compileBound_faultsOnly negated left).mono Expr.nodes_subset_upper)
        fun high alignedHigh => ?_
      obtain ⟨someLow, alignedLow⟩ := compileBound_eq_ok alignedLow
      obtain ⟨someHigh, alignedHigh⟩ := compileBound_eq_ok alignedHigh
      obtain ⟨kindLow, soundLow⟩ := align_sound madeLower.sound someLow alignedLow
      obtain ⟨kindHigh, soundHigh⟩ := align_sound madeUpper.sound someHigh alignedHigh
      refine fold_faultsOnly (.between made.sound (soundLow.hasKind kindLow)
        (soundHigh.hasKind kindHigh) (requireRange_eq_ok ranged)) fun _ f fails => ?_
      rcases fails with fails | fails | fails
      · exact ⟨left, by simp, fails⟩
      · exact ⟨low, by simp, fails⟩
      · exact ⟨high, by simp, fails⟩
  | incomplete op left => exact absurd writable Expr.not_allWritable_incomplete
  | unknown name => exact absurd writable Expr.not_allWritable_unknown

theorem compileMembers_faultsOnly {negated : Bool} {left : Node} {values : List Expr}
    (writable : ∀ value ∈ values, value.AllWritable) :
    FaultsOnly (TextLeavesCalendar (Expr.nodesOf values))
      (compileMembers (s.resolver lookup) negated left values) := by
  cases values with
  | nil =>
      rw [compileMembers]
      exact .pure _
  | cons value values =>
      obtain ⟨writable, others⟩ := List.forall_mem_cons.mp writable
      have inFirst : value.nodes ⊆ Expr.nodesOf (value :: values) := List.subset_append_left _ _
      rw [compileMembers]
      refine .bind ((compileExpr_faultsOnly writable).mono inFirst) fun n compiled => ?_
      have made : CompiledFrom s lookup value n := ⟨writable, compiled⟩
      refine .bind ((made.compileMember_faultsOnly negated left).mono inFirst) fun _ _ => ?_
      refine .bind ((compileMembers_faultsOnly others).mono (List.subset_append_right _ _))
        fun _ _ => .pure _

end

end

/-! ## Filters -/

theorem compileFilter_faultsOnly {s : Schema} {lookup : Lookup} {e : Expr}
    (writable : e.AllWritable) :
    FaultsOnly (TextLeavesCalendar e.nodes) (compileFilter (s.resolver lookup) e) :=
  .bind (compileExpr_faultsOnly writable) fun _ _ => .ite (fun _ => .pure _) fun _ => .reject _

/-- Compiling the text of a filter gives a predicate, or an error that names the text, or meets a
text constant in it that leaves the calendar.  Checking the text reports a success in the first
case, the same error in the second, and is at fault in the third. -/
theorem Filter.compile_text_outcome (s : Schema) (lookup : Lookup) (text : String) :
    match (Filter.text text).compile (s.resolver lookup) with
    | .ok _ =>
        ∃ result, check text (some (s.resolver lookup)) = .ok result ∧ result.isOk = true
    | .error (.filter e) =>
        e.expression = some text ∧
        ∃ result, check text (some (s.resolver lookup)) = .ok result ∧ result.isOk = false ∧
          result.error = some e
    | .error (.fault f) =>
        f = .outsideCalendar ∧
        check text (some (s.resolver lookup)) = .error .outsideCalendar ∧
        ∃ e t, parse text = .ok e ∧ .const ⟨.text, .text t⟩ ∈ e.nodes ∧
          (Payload.text t).leavesCalendar = true := by
  cases parsed : parseExpression text with
  | error e =>
      have named : e.expression = some text := by
        unfold parseExpression at parsed
        split at parsed <;> cases parsed
        rfl
      simp only [Filter.compile, Filter.expr, check, parsed]
      exact ⟨named, _, rfl, rfl, rfl⟩
  | ok e =>
      have given := parseExpression_eq_ok parsed
      have faults : FaultsOnly (TextLeavesCalendar e.nodes) (compileFilter (s.resolver lookup) e) :=
        compileFilter_faultsOnly (allWritable_of_parse given)
      simp only [Filter.compile, Filter.expr, check, parsed, compileTo]
      cases compiled : compileFilter (s.resolver lookup) e with
      | ok term => exact ⟨_, rfl, rfl⟩
      | error failure =>
          cases failure with
          | rejected reason => exact ⟨rfl, _, rfl, rfl, rfl⟩
          | fault f =>
              obtain ⟨rfl, t, found, leaves⟩ := faults f compiled
              exact ⟨rfl, rfl, e, t, given, found, leaves⟩

def beforeCalendarText : String := "[D] > '0001-01-01T00:00+01:00'"

def dateSchema : Schema := ⟨[("D", .timestamp)]⟩

theorem Filter.compile_text_not_reported :
    ¬ ∀ (s : Schema) (text : String) (failure : QueryFailure),
      (Filter.text text).compile (s.resolver .byName) = .error failure →
        ∃ e, failure = .filter e := by
  intro reported
  have fails : ((Filter.text beforeCalendarText).compile (dateSchema.resolver .byName)).map
      (fun _ => ()) = .error (.fault .outsideCalendar) := by
    decide +kernel
  obtain ⟨e, same⟩ := reported _ _ _ (map_eq_error.mp fails)
  cases same

end RecordFilter
