import RecordFilter.Proofs.LinearOrder
import RecordFilter.Proofs.Membership

/-!
# Lists of values are disjunctions

An operand that is no collection is in a list of values if it equals one of them.  For a list, the
payloads of the values are put into a set once, and what the operand gives is looked up there;
comparing evaluates the operand again for each value.  Both are accepted together and have the same
answers, and so neither the order nor the repetition of values matters.
-/

namespace RecordFilter

/-! ## Members and values -/

namespace Payload

theorem isMember_append (p : Payload) (members others : List Payload) :
    p.isMember (members ++ others) = (p.isMember members || p.isMember others) := by
  unfold isMember
  rw [List.any_append, Bool.and_or_distrib_left]

theorem isMember_congr {members others : List Payload} (same : ∀ m, m ∈ members ↔ m ∈ others)
    (p : Payload) : p.isMember members = p.isMember others := by
  have found : (members.any fun m => m.same p) = others.any fun m => m.same p := by
    rw [Bool.eq_iff_iff]
    simp only [List.any_eq_true, same]
  rw [isMember, isMember, found]

theorem Fits.isFindable_of_same {p q : Payload} {k : Kind} (fits : q.Fits k)
    (single : k ≠ .collection) (same : q.same p = true) : p.isFindable = true := by
  cases p with
  | list | tuple | record | mapping | value | signaling =>
      cases fits <;> first | cases same | exact absurd rfl single
  | _ => rfl

theorem Fits.isMember_single {q : Payload} {k : Kind} (fits : q.Fits k) (single : k ≠ .collection)
    (p : Payload) : p.isMember [q] = p.same q := by
  rw [isMember, p.same_comm q, List.any_cons, List.any_nil, Bool.or_false]
  cases same : q.same p with
  | false => exact Bool.and_false _
  | true => rw [fits.isFindable_of_same single same, Bool.and_self]

theorem Fits.meetsSignal_eq {p q q' : Payload} {k : Kind} (fits : q.Fits k) (fits' : q'.Fits k) :
    Comparison.meetsSignal p q = Comparison.meetsSignal p q' := by
  have numbers : q.numeral?.isSome = q'.numeral?.isSome := by
    cases fits <;> cases fits' <;> rfl
  rw [Comparison.meetsSignal, Comparison.meetsSignal, numbers, fits.isSignaling, fits'.isSignaling]

end Payload

def Term.equalsAny (k : Kind) (t start : Term) (payloads : List Payload) : Term :=
  payloads.foldl (fun u q => .either u (.compare .equal t (.constant ⟨k, q⟩))) start

section

variable {read : String → Payload → Except Fault Payload} {record : Payload} {t start : Term}
  {k : Kind} {members payloads : List Payload} {p q : Payload} {f : Fault}

namespace Term

theorem eval_equal_of_error (given : t.eval read record = .error f) :
    (compare .equal t (.constant ⟨k, q⟩)).eval read record = .error f := by
  rw [eval, given]
  rfl

theorem eval_equal_of_signal (given : t.eval read record = .ok p)
    (signals : Comparison.meetsSignal p q = true) :
    (compare .equal t (.constant ⟨k, q⟩)).eval read record = .error .undefinedComparison := by
  have present : (p.isNull || q.isNull) = false := by
    cases p <;> cases q <;> first | rfl | cases signals
  rw [eval, given, ok_bind, if_neg (by simp [(Bool.or_eq_false_iff.mp present).1])]
  simp [eval, Comparison.testNonNull, present, Comparison.test, signals, Except.bind, bind]

theorem eval_equal_constant (fits : q.Fits k) (some : k ≠ .null) (single : k ≠ .collection)
    (told : ∀ p, t.eval read record = .ok p → Comparison.meetsSignal p q = false) :
    (compare .equal t (.constant ⟨k, q⟩)).eval read record =
      (member false [q] t).eval read record := by
  cases given : t.eval read record with
  | error f =>
      rw [eval_equal_of_error given, eval, given]
      rfl
  | ok p =>
      simp only [eval, given, ok_bind]
      split_ifs with null
      · rw [null]
        rfl
      · have tested : Comparison.equal.testNonNull p q = .ok (p.same q) := by
          rw [Comparison.testNonNull, if_neg (by simp [null, fits.isNull some]), Comparison.test,
            told p given]
          rfl
        rw [tested, fits.isMember_single single, ok_bind]
        simp [null]

theorem eval_either_member (members others : List Payload) (t : Term) :
    (either (member false members t) (member false others t)).eval read record =
      (member false (members ++ others) t).eval read record := by
  simp only [eval]
  cases t.eval read record with
  | error f => rfl
  | ok p =>
      simp only [ok_bind, Payload.isMember_append, Bool.and_or_distrib_left]
      cases !p.isNull && p.isMember members <;> rfl

theorem eval_either_congr {u u' v v' : Term} (left : u.eval read record = u'.eval read record)
    (right : v.eval read record = v'.eval read record) :
    (either u v).eval read record = (either u' v').eval read record := by
  rw [eval, eval, left, right]

theorem eval_equalsAny_of_error (given : start.eval read record = .error f) :
    (equalsAny k t start payloads).eval read record = .error f := by
  induction payloads generalizing start with
  | nil => exact given
  | cons q payloads ih =>
      refine ih ?_
      rw [eval, given]
      rfl

theorem eval_equalsAny (fits : ∀ q ∈ payloads, q.Fits k) (some : k ≠ .null)
    (single : k ≠ .collection)
    (told : ∀ p, t.eval read record = .ok p →
      ∀ q ∈ payloads, Comparison.meetsSignal p q = false)
    (given : start.eval read record = (member false members t).eval read record) :
    (equalsAny k t start payloads).eval read record =
      (member false (members ++ payloads) t).eval read record := by
  induction payloads generalizing start members with
  | nil => rw [List.append_nil, ← given, equalsAny, List.foldl_nil]
  | cons q payloads ih =>
      obtain ⟨first, others⟩ := List.forall_mem_cons.mp fits
      have equal := eval_equal_constant first some single
        fun p evaluated => told p evaluated q List.mem_cons_self
      have joined := (eval_either_congr given equal).trans (eval_either_member members [q] t)
      have rest := ih others
        (fun p evaluated q found => told p evaluated q (List.mem_cons_of_mem _ found)) joined
      rwa [List.append_assoc, List.singleton_append] at rest

end Term

end

def StandsFor (r : Resolver) (left : Node) (value : Expr) (q : Payload) : Prop :=
  ∃ node aligned k, compileExpr r value = .ok node ∧ node.isNullConstant = false ∧
    align (amongSymbol false) left node value = .ok aligned ∧ aligned.term = .constant ⟨k, q⟩

section

variable {r : Resolver} {left : Node} {value : Expr} {q : Payload}

theorem StandsFor.compiles (h : StandsFor r left value q) :
    ∃ node, compileExpr r value = .ok node := by
  obtain ⟨node, -, -, compiled, -⟩ := h
  exact ⟨node, compiled⟩

theorem StandsFor.unique {q' : Payload} (h : StandsFor r left value q)
    (h' : StandsFor r left value q') : q = q' := by
  obtain ⟨node, aligned, k, compiled, -, same, constant⟩ := h
  obtain ⟨node', aligned', k', compiled', -, same', constant'⟩ := h'
  cases compiled.symm.trans compiled'
  cases same.symm.trans same'
  cases constant.symm.trans constant'
  rfl

theorem StandsFor.fits (h : StandsFor r left value q) (constants : value.ConstantsFit) :
    q.Fits left.kind := by
  obtain ⟨node, aligned, k, compiled, some, same, constant⟩ := h
  obtain ⟨kind, sound⟩ := align_sound (compileExpr_sound constants compiled) some same
  exact kind ▸ (sound.constant constant).2

theorem Payload.Fits.unhashable? {p : Payload} {k : Kind} (h : p.Fits k)
    (single : k ≠ .collection) : p.unhashable? = none := by
  cases h with
  | list | tuple | set => exact absurd rfl single
  | _ => rfl

theorem compileMember_single_iff {node : Node} {payloads : List Payload}
    (constants : value.ConstantsFit) (single : left.kind ≠ .collection)
    (compiled : compileExpr r value = .ok node) :
    compileMember false left node value = .ok payloads ↔
      ∃ q, StandsFor r left value q ∧ payloads = [q] := by
  constructor
  · intro h
    obtain ⟨v, constant, some, alternatives, -⟩ := compileMember_eq_ok h
    rcases alternatives with ⟨collection, -⟩ | ⟨-, aligned, q, same, evaluated, rfl⟩
    · exact absurd collection single
    · obtain ⟨⟨k, raw⟩, constant'⟩ := align_constant constant same
      rw [constant'] at evaluated
      cases evaluated
      have present : node.isNullConstant = false := by rw [Node.isNullConstant_eq constant, some]
      exact ⟨raw, ⟨node, aligned, k, compiled, present, same, constant'⟩, rfl⟩
  · rintro ⟨q, stands, rfl⟩
    have hashable := (stands.fits constants).unhashable? single
    obtain ⟨node', aligned, k, compiled', some, same, constant⟩ := stands
    cases compiled.symm.trans compiled'
    obtain ⟨v, given⟩ : ∃ v, node.term = .constant v := by
      rcases align_eq_ok same with ⟨-, rfl⟩ | ⟨-, v, -, given, -, -⟩
      · exact ⟨_, constant⟩
      · exact ⟨v, given⟩
    rw [Node.isNullConstant_eq given] at some
    rw [compileMember, Node.constant?_eq_some.mpr given]
    simp only [some, single, beq_iff_eq, if_false, same, ok_bind, constant, Bool.false_eq_true]
    simp [evalClosed, Term.eval, orFault, requireHashable, hashable]

theorem compileMembers_single_iff {values : List Expr} {members : List Payload}
    (constants : Expr.AllConstantsFit values) (single : left.kind ≠ .collection) :
    compileMembers r false left values = .ok members ↔
      List.Forall₂ (StandsFor r left) values members := by
  induction values generalizing members with
  | nil =>
      rw [compileMembers, List.forall₂_nil_left_iff]
      constructor
      · rintro ⟨⟩
        rfl
      · rintro rfl
        rfl
  | cons value values ih =>
      obtain ⟨first, others⟩ := constants.cons
      rw [List.forall₂_cons_left_iff]
      constructor
      · intro h
        obtain ⟨node, payloads, rest, compiled, member, below, rfl⟩ := compileMembers_cons_eq_ok h
        obtain ⟨q, stands, rfl⟩ := (compileMember_single_iff first single compiled).mp member
        exact ⟨q, rest, stands, (ih others).mp below, rfl⟩
      · rintro ⟨q, rest, stands, below, rfl⟩
        obtain ⟨node, compiled⟩ := stands.compiles
        have member := (compileMember_single_iff first single compiled).mpr ⟨q, stands, rfl⟩
        rw [compileMembers, compiled, ok_bind, member, ok_bind, (ih others).mpr below]
        rfl

end

/-! ### Acceptance -/

def Expr.equalsAny (x first : Expr) (others : List Expr) : Expr :=
  others.foldl (fun e value => .binary .or e (.binary (.compare .equal) x value))
    (.binary (.compare .equal) x first)

section

variable {r : Resolver} {x : Expr} {left : Node} (constants : x.ConstantsFit)
  (compiled : compileExpr r x = .ok left) (some : left.isNullConstant = false)
  (single : left.kind ≠ .collection)

include constants compiled some single

theorem StandsFor.equal {value : Expr} {q : Payload} (h : StandsFor r left value q)
    (fits : value.ConstantsFit) :
    CompilesAs r (.binary (.compare .equal) x value)
      (.compare .equal left.term (.constant ⟨left.kind, q⟩)) := by
  obtain ⟨node, aligned, k, compiledValue, someValue, same, constant⟩ := h
  have operands := operands_of_align constants fits compiled compiledValue some someValue same
    single
  have compares := operands.compares .equal ⟨operands.single.1, single, .inl rfl⟩
  rw [constant] at compares
  exact compares.congr fun read record => by simp only [Term.eval]

theorem compilesAs_equalsAny {values : List Expr} {payloads : List Payload} {e : Expr}
    {start : Term} (given : CompilesAs r e start)
    (stand : List.Forall₂ (StandsFor r left) values payloads)
    (fits : Expr.AllConstantsFit values) :
    CompilesAs r
      (values.foldl (fun e value => .binary .or e (.binary (.compare .equal) x value)) e)
      (left.term.equalsAny left.kind start payloads) := by
  induction stand generalizing e start with
  | nil => exact given
  | cons first others ih =>
      have equal := first.equal constants compiled some single fits.cons.1
      exact ih (given.either equal) fits.cons.2

omit constants in
theorem compilesAs_among {first : Expr} {others : List Expr} {members : List Payload}
    (stand : List.Forall₂ (StandsFor r left) (first :: others) members)
    (fits : Expr.AllConstantsFit (first :: others)) :
    CompilesAs r (.among false x first others) (.member false members left.term) := by
  obtain ⟨q, payloads, stands, below, rfl⟩ := List.forall₂_cons_left_iff.mp stand
  obtain ⟨node, compiledFirst⟩ := stands.compiles
  have member := (compileMember_single_iff fits.cons.1 single compiledFirst).mpr ⟨q, stands, rfl⟩
  have members := (compileMembers_single_iff fits.cons.2 single).mpr below
  obtain ⟨n, folded⟩ :
      ∃ n, fold (booleanNode (.member false (q :: payloads) left.term)) [left] = .ok n := by
    refine fold_accepted fun constant => ?_
    obtain ⟨v, same⟩ := Node.isConstant_iff.mp (by simpa using constant)
    rw [same]
    exact ⟨_, rfl⟩
  refine ⟨n, ?_, fold_means folded (by simp [Term.isClosed])⟩
  rw [compileExpr, compiled, ok_bind, if_neg (by simp [some]), compiledFirst, ok_bind, member,
    ok_bind, members, ok_bind, compileAmong, if_neg (by simpa using single)]
  exact folded

end

theorem StandsFor.isClosed {r : Resolver} {left : Node} {value : Expr} {q : Payload}
    (h : StandsFor r left value q) : value.isClosed = true := by
  obtain ⟨node, aligned, k, compiled, -, same, constant⟩ := h
  rw [← ((compileExpr_partsFold compiled).folds compiled).constant, ← align_isConstant same]
  exact Node.isConstant_iff.mpr ⟨_, constant⟩

theorem stands_of_equal {r : Resolver} {x value : Expr} {node : Node} (constants : x.ConstantsFit)
    (fits : value.ConstantsFit) (closed : value.isClosed = true)
    (h : compileExpr r (.binary (.compare .equal) x value) = .ok node) :
    ∃ left, compileExpr r x = .ok left ∧ left.isNullConstant = false ∧
      ∃ q, StandsFor r left value q := by
  obtain ⟨left, right, y, z, compiled, compiledValue, some, someValue, aligned, -, -⟩ :=
    operands_of_compileExpr constants fits h
  obtain ⟨v, rfl⟩ := foldsTo_of_isClosed closed compiledValue
  rcases alignBoth_eq_ok aligned with ⟨-, rfl, same⟩ | ⟨byRight, -, -⟩
  · obtain ⟨⟨k, q⟩, constant⟩ := align_constant rfl same
    have renamed := (align_renamed _ (amongSymbol false) y (.ofValue v) value).eq_ok same
    exact ⟨y, compiled, some, q, .ofValue v, z, k, compiledValue, someValue, renamed, constant⟩
  · simp [Node.isConstant, Node.constant?, Node.ofValue, Term.constant?] at byRight

theorem exists_forall₂_iff {α β : Type} {related : α → β → Prop} {as : List α} :
    (∃ bs, List.Forall₂ related as bs) ↔ ∀ a ∈ as, ∃ b, related a b := by
  induction as with
  | nil => simp
  | cons a as ih =>
      rw [List.forall_mem_cons, ← ih]
      constructor
      · rintro ⟨_, _ | ⟨head, tail⟩⟩
        exact ⟨⟨_, head⟩, _, tail⟩
      · rintro ⟨⟨b, head⟩, bs, tail⟩
        exact ⟨b :: bs, .cons head tail⟩

theorem mem_of_stand {r : Resolver} {left : Node} {values : List Expr} {members : List Payload}
    (stand : List.Forall₂ (StandsFor r left) values members) (q : Payload) :
    q ∈ members ↔ ∃ value ∈ values, StandsFor r left value q := by
  induction stand with
  | nil => simp
  | @cons value p values members first others ih =>
      have only : q = p ↔ StandsFor r left value q :=
        ⟨fun same => same ▸ first, fun stands => stands.unique first⟩
      rw [List.mem_cons, List.exists_mem_cons_iff, ih, only]

theorem fits_of_stand {r : Resolver} {left : Node} {values : List Expr} {members : List Payload}
    (stand : List.Forall₂ (StandsFor r left) values members)
    (fits : Expr.AllConstantsFit values) : ∀ q ∈ members, q.Fits left.kind := by
  intro q member
  obtain ⟨value, listed, stands⟩ := (mem_of_stand stand q).mp member
  exact stands.fits (Expr.allConstantsFit_iff.mp fits value listed)

/-! ### Filters -/

section

variable {r : Resolver} {text : Option String} {x first : Expr} {others : List Expr}
  (constants : x.ConstantsFit) (fits : Expr.AllConstantsFit (first :: others))
  (single : ∀ node, compileExpr r x = .ok node → node.kind ≠ .collection)

include fits single

/-- In an accepted list each value stands for a payload, and the operand is looked up among
these. -/
theorem stand_of_among {p : Predicate}
    (accepted : compileTo r text (.among false x first others) = .ok p) :
    ∃ left members, compileExpr r x = .ok left ∧ left.isNullConstant = false ∧
      List.Forall₂ (StandsFor r left) (first :: others) members ∧
      ∀ record, p.accepts record =
        ((Term.member false members left.term).eval r.read record).map Payload.isTrue := by
  obtain ⟨node, compiled, -, -⟩ := compileTo_eq_ok accepted
  obtain ⟨left, firstNode, payloads, rest, compiledLeft, some, compiledFirst, member, members, -⟩ :=
    compileAmongExpr_eq_ok compiled
  have single := single left compiledLeft
  obtain ⟨q, stands, rfl⟩ :=
    (compileMember_single_iff fits.cons.1 single compiledFirst).mp member
  have stand : List.Forall₂ (StandsFor r left) (first :: others) (q :: rest) :=
    .cons stands ((compileMembers_single_iff fits.cons.2 single).mp members)
  exact ⟨left, q :: rest, compiledLeft, some, stand,
    (compilesAs_among compiledLeft some single stand fits).accepts_eq accepted⟩

include constants

theorem among_accepted_iff :
    (∃ p, compileTo r text (.among false x first others) = .ok p) ↔
      ∀ value ∈ first :: others, value.isClosed = true ∧
        ∃ q, compileTo r text (.binary (.compare .equal) x value) = .ok q := by
  have each := Expr.allConstantsFit_iff.mp fits
  constructor
  · rintro ⟨p, accepted⟩ value member
    obtain ⟨left, members, compiled, some, stand, -⟩ := stand_of_among fits single accepted
    obtain ⟨q, stands⟩ := exists_forall₂_iff.mp ⟨members, stand⟩ value member
    have equal := stands.equal constants compiled some (single left compiled) (each value member)
    obtain ⟨p', made, -⟩ := equal.accepted text
    exact ⟨stands.isClosed, p', made⟩
  · intro equal
    have stands (value : Expr) (member : value ∈ first :: others) :
        ∃ left, compileExpr r x = .ok left ∧ left.isNullConstant = false ∧
          ∃ q, StandsFor r left value q := by
      obtain ⟨closed, p, accepted⟩ := equal value member
      obtain ⟨node, compiled, -, -⟩ := compileTo_eq_ok accepted
      exact stands_of_equal constants (each value member) closed compiled
    obtain ⟨left, compiled, some, -⟩ := stands first List.mem_cons_self
    obtain ⟨members, stand⟩ :
        ∃ members, List.Forall₂ (StandsFor r left) (first :: others) members := by
      refine exists_forall₂_iff.mpr fun value member => ?_
      obtain ⟨left', compiled', -, stands⟩ := stands value member
      cases compiled.symm.trans compiled'
      exact stands
    obtain ⟨p, made, -⟩ :=
      (compilesAs_among compiled some (single left compiled) stand fits).accepted text
    exact ⟨p, made⟩

theorem equalsAny_of_among {p : Predicate}
    (accepted : compileTo r text (.among false x first others) = .ok p) :
    ∃ q, compileTo r text (x.equalsAny first others) = .ok q ∧
      ∀ record, q.accepts record = p.accepts record ∨
        q.accepts record = .error .undefinedComparison ∧
          ∃ name, r.read name record = .ok .signaling := by
  obtain ⟨left, members, compiled, some, stand, answers⟩ := stand_of_among fits single accepted
  have single := single left compiled
  have sound := compileExpr_sound constants compiled
  have present : left.kind ≠ .null := fun null => by simp [sound.null_iff.mpr null] at some
  have members_fit := fits_of_stand stand fits
  obtain ⟨payload, payloads, stands, below, rfl⟩ := List.forall₂_cons_left_iff.mp stand
  obtain ⟨fits_first, fits_others⟩ := List.forall_mem_cons.mp members_fit
  have start := stands.equal constants compiled some single fits.cons.1
  obtain ⟨q, made, accepts⟩ :=
    (compilesAs_equalsAny constants compiled some single start below fits.cons.2).accepted text
  refine ⟨q, made, fun record => ?_⟩
  rw [accepts record, answers record]
  by_cases signals : ∃ p, left.term.eval r.read record = .ok p ∧
      Comparison.meetsSignal p payload = true
  · -- The first comparison cannot be made, and the others are not asked for.
    obtain ⟨p, evaluated, signals⟩ := signals
    have fails := Term.eval_equal_of_signal (k := left.kind) evaluated signals
    simp only [Comparison.meetsSignal, fits_first.isSignaling, Bool.false_and, Bool.or_false,
      Bool.and_eq_true, Payload.isSignaling_iff] at signals
    obtain ⟨rfl, -⟩ := signals
    rw [Term.eval_equalsAny_of_error fails]
    exact .inr ⟨rfl, sound.eval_signaling evaluated⟩
  · have told : ∀ p, left.term.eval r.read record = .ok p →
        Comparison.meetsSignal p payload = false := by
      simpa using signals
    have first := Term.eval_equal_constant fits_first present single told
    refine .inl (congrArg _ ?_)
    exact Term.eval_equalsAny fits_others present single (fun p evaluated q member =>
      (fits_others q member).meetsSignal_eq fits_first ▸ told p evaluated) first

omit constants in
theorem among_of_same_values {p : Predicate} {first' : Expr} {others' : List Expr}
    (same : ∀ value, value ∈ first' :: others' ↔ value ∈ first :: others)
    (accepted : compileTo r text (.among false x first others) = .ok p) :
    ∃ q, compileTo r text (.among false x first' others') = .ok q ∧
      ∀ record, q.accepts record = p.accepts record := by
  obtain ⟨left, members, compiled, some, stand, answers⟩ := stand_of_among fits single accepted
  have fits' : Expr.AllConstantsFit (first' :: others') := by
    refine Expr.allConstantsFit_iff.mpr fun value member => ?_
    exact Expr.allConstantsFit_iff.mp fits value ((same value).mp member)
  obtain ⟨members', stand'⟩ :
      ∃ members', List.Forall₂ (StandsFor r left) (first' :: others') members' :=
    exists_forall₂_iff.mpr fun value member =>
      exists_forall₂_iff.mp ⟨members, stand⟩ value ((same value).mp member)
  have found (payload : Payload) : payload.isMember members' = payload.isMember members := by
    refine Payload.isMember_congr (fun q => ?_) payload
    rw [mem_of_stand stand, mem_of_stand stand']
    simp only [same]
  obtain ⟨q, made, accepts⟩ :=
    (compilesAs_among compiled some (single left compiled) stand' fits').accepted text
  refine ⟨q, made, fun record => ?_⟩
  rw [accepts, answers]
  simp only [Term.eval, found]

end

/-- An operand that is no collection is in a list of values if it equals one of them.  The list is
accepted if no value has a field in it and the operand can be compared with each value, and then it
has the same answers as the disjunction of the comparisons, and as every list of the same values.
Only a signaling number cannot be compared, while it is in no list; by a schema no field is read as
one. -/
theorem compileTo_among (r : Resolver) (text : Option String) {x first : Expr} {others : List Expr}
    (constants : (Expr.among false x first others).ConstantsFit)
    (single : ∀ node, compileExpr r x = .ok node → node.kind ≠ .collection) :
    ((∃ p, compileTo r text (.among false x first others) = .ok p) ↔
      ∀ value ∈ first :: others, value.isClosed = true ∧
        ∃ q, compileTo r text (.binary (.compare .equal) x value) = .ok q) ∧
    ∀ p, compileTo r text (.among false x first others) = .ok p →
      (∃ q, compileTo r text (x.equalsAny first others) = .ok q ∧
        ∀ record, q.accepts record = p.accepts record ∨
          q.accepts record = .error .undefinedComparison ∧
            ∃ name, r.read name record = .ok .signaling) ∧
      ∀ first' others', (∀ value, value ∈ first' :: others' ↔ value ∈ first :: others) →
        ∃ q, compileTo r text (.among false x first' others') = .ok q ∧
          ∀ record, q.accepts record = p.accepts record := by
  obtain ⟨constantsLeft, fits⟩ := constants.among
  exact ⟨among_accepted_iff constantsLeft fits single, fun p accepted =>
    ⟨equalsAny_of_among constantsLeft fits single accepted,
      fun first' others' same => among_of_same_values fits single same accepted⟩⟩

def quotedPrice : Expr := .const ⟨.text, .text "2.5"⟩

def roundPrice : Expr := .const ⟨.number, .int 2⟩

def amongPrices : Expr := .among false (.field "Price") quotedPrice [roundPrice]

def amongPricesPredicate : Predicate where
  term := .member false [.decimal ⟨false, 25, -1⟩, .int 2] (.field "Price")
  source := amongPrices
  expression := none
  resolver := priceSchema.resolver .byName

theorem compileTo_among_prices :
    amongPrices.ConstantsFit ∧
    (∀ node, compileExpr (priceSchema.resolver .byName) (.field "Price") = .ok node →
      node.kind ≠ .collection) ∧
    compileTo (priceSchema.resolver .byName) none amongPrices = .ok amongPricesPredicate ∧
    amongPricesPredicate.accepts priceRecord = .ok true ∧
    (∃ q, compileTo (priceSchema.resolver .byName) none
        ((Expr.field "Price").equalsAny quotedPrice [roundPrice]) = .ok q ∧
      q.accepts priceRecord = .ok true) ∧
    ∃ q, compileTo (priceSchema.resolver .byName) none
        (.among false (.field "Price") roundPrice [quotedPrice, roundPrice]) = .ok q ∧
      q.accepts priceRecord = .ok true := by
  have constants : amongPrices.ConstantsFit := by
    simpa [Expr.ConstantsFit, amongPrices, quotedPrice, roundPrice, Expr.nodes, Expr.nodesOf] using
      And.intro (Payload.Fits.text "2.5") (Payload.Fits.int 2)
  have single : ∀ node, compileExpr (priceSchema.resolver .byName) (.field "Price") = .ok node →
      node.kind ≠ .collection := by
    intro node compiled
    cases compiled
    decide
  have accepted : compileTo (priceSchema.resolver .byName) none amongPrices =
      .ok amongPricesPredicate := rfl
  have holds : amongPricesPredicate.accepts priceRecord = .ok true := rfl
  obtain ⟨-, answers⟩ := compileTo_among (priceSchema.resolver .byName) none constants single
  obtain ⟨⟨q, spelled, agrees⟩, reordered⟩ := answers amongPricesPredicate accepted
  obtain ⟨q', made, agrees'⟩ := reordered roundPrice [quotedPrice, roundPrice] fun value => by
    simp only [List.mem_cons, List.not_mem_nil, or_false]
    tauto
  have agrees : q.accepts priceRecord = amongPricesPredicate.accepts priceRecord := by
    refine (agrees priceRecord).resolve_right ?_
    rintro ⟨-, name, read⟩
    exact priceSchema.read_ne_signaling .byName name priceRecord read
  exact ⟨constants, single, accepted, holds, ⟨q, spelled, agrees.trans holds⟩,
    q', made, (agrees' priceRecord).trans holds⟩

end RecordFilter
