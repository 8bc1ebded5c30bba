import RecordFilter.Proofs.InterpreterAgrees
import RecordFilter.Proofs.KeptConstants

/-!
# Compiling a constant and its literal

A field is compared with a constant, and with what is read from the literal of the constant, by
terms that give the same on every record, as long as the constant keeps its meaning there.  What is
put together from such terms gives the same as well.
-/

namespace RecordFilter

/-! ## Payloads in terms -/

namespace Payload

theorem Interchangeable.testNonNull {p q : Payload} (h : p.Interchangeable q) (c : Comparison)
    (x : Payload) : c.testNonNull x p = c.testNonNull x q := by
  rw [Comparison.testNonNull, Comparison.testNonNull, h.null, h.right]

theorem Interchangeable.isWithin {p p' q q' : Payload} (hp : p.Interchangeable p')
    (hq : q.Interchangeable q') (x : Payload) : x.isWithin p q = x.isWithin p' q' := by
  simp only [Payload.isWithin, hp.null, hq.null, hp.left, hq.right]

def SameMembers (ps qs : List Payload) : Prop :=
  ∀ x, ps.any (fun member => same member x) = qs.any fun member => same member x

theorem SameMembers.append {ps ps' qs qs' : List Payload} (h : SameMembers ps qs)
    (h' : SameMembers ps' qs') : SameMembers (ps ++ ps') (qs ++ qs') := by
  intro x
  rw [List.any_append, List.any_append, h x, h' x]

theorem SameMembers.isMember {ps qs : List Payload} (h : SameMembers ps qs) (x : Payload) :
    x.isMember ps = x.isMember qs := by
  rw [Payload.isMember, Payload.isMember, h x]

theorem SameMembers.anyIsMember {ps qs : List Payload} (h : SameMembers ps qs)
    (items : List Payload) : anyIsMember ps items = anyIsMember qs items := by
  induction items with
  | nil => rfl
  | cons item items ih => simp only [Payload.anyIsMember, h.isMember, ih]

end Payload

/-! ## Nodes that cannot be told apart -/

section

variable {read : String → Payload → Except Fault Payload}

structure Node.Interchangeable (read : String → Payload → Except Fault Payload) (m n : Node) :
    Prop where
  kind : m.kind = n.kind
  constant : m.constant? = n.constant?
  eval : ∀ record, m.term.eval read record = n.term.eval read record

namespace Node.Interchangeable

theorem refl (n : Node) : n.Interchangeable read n := ⟨rfl, rfl, fun _ => rfl⟩

theorem isConstant {m n : Node} (h : m.Interchangeable read n) : m.isConstant = n.isConstant := by
  rw [Node.isConstant, Node.isConstant, h.constant]

theorem eq_of_isConstant {m n : Node} (h : m.Interchangeable read n)
    (constant : m.isConstant = true) : m = n := by
  obtain ⟨v, left⟩ := Node.isConstant_iff.mp constant
  have right : n.term = .constant v := by
    rw [← Node.constant?_eq_some, ← h.constant, Node.constant?_eq_some, left]
  obtain ⟨kind, term⟩ := m
  obtain ⟨kind', term'⟩ := n
  simp only at left right
  rw [left, right, show kind = kind' from h.kind]

end Node.Interchangeable

theorem fold_alike {m n : Node} {operands operands' : List Node} (h : m.Interchangeable read n)
    (same : operands.all Node.isConstant = operands'.all Node.isConstant)
    (closed : operands.all Node.isConstant = true → m = n) :
    Alike (Node.Interchangeable read) (fold m operands) (fold n operands') := by
  -- Folding looks at the operands only to see whether all are constants.
  cases all : operands.all Node.isConstant with
  | true =>
      obtain rfl := closed all
      have agree : fold m operands = fold m operands' := by rw [fold, fold, ← same]
      rw [agree]
      exact .refl .refl _
  | false =>
      rw [fold_of_open all, fold_of_open (same ▸ all)]
      exact .ok h

/-! ## Operators on conditions -/

theorem compileNot_alike {m n : Node} {e f : Expr} (h : m.Interchangeable read n) :
    Alike (Node.Interchangeable read) (compileUnary .not e m) (compileUnary .not f n) := by
  by_cases boolean : m.kind = .boolean
  · have unfolded (m : Node) (e : Expr) (boolean : m.kind = .boolean) :
        compileUnary .not e m = fold (booleanNode (.not m.term)) [m] := by
      simp [compileUnary, boolean]
    rw [unfolded m e boolean, unfolded n f (h.kind ▸ boolean)]
    refine fold_alike ⟨rfl, rfl, fun record => ?_⟩ (by simp [h.isConstant]) fun constant => ?_
    · simp only [booleanNode, Term.eval, h.eval]
    · rw [h.eq_of_isConstant (by simpa using constant)]
  · refine .of_ne_ok (fun a compiled => ?_) fun b compiled => ?_
    · exact boolean (compileNot_eq_ok compiled).1
    · exact boolean (h.kind ▸ (compileNot_eq_ok compiled).1)

theorem compileConnective_alike {op : BinaryOp} {make : Term → Term → Term} {l l' r r' : Node}
    (hl : l.Interchangeable read l') (hr : r.Interchangeable read r')
    (open' : ∀ s t, (make s t).constant? = none)
    (congr : ∀ record, (make l.term r.term).eval read record =
      (make l'.term r'.term).eval read record) :
    Alike (Node.Interchangeable read) (compileConnective op (make l.term r.term) l r)
      (compileConnective op (make l'.term r'.term) l' r') := by
  by_cases boolean : l.kind = .boolean ∧ r.kind = .boolean
  · have boolean' : l'.kind = .boolean ∧ r'.kind = .boolean := by rwa [← hl.kind, ← hr.kind]
    have agree : (booleanNode (make l.term r.term)).Interchangeable read
        (booleanNode (make l'.term r'.term)) :=
      ⟨rfl, (open' _ _).trans (open' _ _).symm, congr⟩
    simp only [compileConnective, boolean, boolean', beq_self_eq_true, Bool.and_self, if_true]
    refine fold_alike agree (by simp [hl.isConstant, hr.isConstant]) fun constant => ?_
    simp only [List.all_cons, List.all_nil, Bool.and_true, Bool.and_eq_true] at constant
    rw [hl.eq_of_isConstant constant.1, hr.eq_of_isConstant constant.2]
  · refine .of_ne_ok (fun a compiled => ?_) fun b compiled => ?_
    · obtain ⟨left, right, -⟩ := compileConnective_eq_ok compiled
      exact boolean ⟨left, right⟩
    · obtain ⟨left, right, -⟩ := compileConnective_eq_ok compiled
      exact boolean ⟨hl.kind.trans left, hr.kind.trans right⟩

end

/-! ## Comparisons with constants -/

section

variable {s : Schema} {lookup : Lookup}

theorem compileField_bind_alike {name : String} {next next' : Node → Compiling Node}
    {related : Node → Node → Prop}
    (step : ∀ declared k, s.kind? name = some k → k ≠ .null →
      Alike related (next ⟨k, .field declared⟩) (next' ⟨k, .field declared⟩)) :
    Alike related (compileField (s.resolver lookup) name >>= next)
      (compileField (s.resolver lookup) name >>= next') := by
  refine .bind_self fun node compiled => ?_
  obtain ⟨declared, k, known, found, some, rfl⟩ := compileField_eq_ok compiled
  change s.canonical? name = .some declared at known
  change s.kind? declared = .some k at found
  have self := Schema.canonical?_idem known
  refine step declared k ?_ some
  simpa [Schema.kind?, known, self] using found

theorem compileComparison_alike {c : Comparison} {name : String} {v : Value}
    (wellFormed : v.WellFormed)
    (keeps : ∀ k, s.kind? name = some k → k ≠ .collection → v.Keeps k) :
    Alike (Node.Interchangeable (s.read lookup))
      (compileExpr (s.resolver lookup) (.binary (.compare c) (.field name) (.const v)))
      (compileExpr (s.resolver lookup) (.binary (.compare c) (.field name) v.reread)) := by
  obtain ⟨w, compiled, read⟩ := v.compile_reread (s.resolver lookup) wellFormed
  simp only [compileExpr, compiled, ok_bind, compileBinary]
  refine compileField_bind_alike fun declared k known some => ?_
  by_cases applies : k ≠ .collection ∧ (c.isEquality = true ∨ k.isOrdered = true)
  · refine .of_eq_ok (read.meets? (keeps k known applies.1) some applies.1)
      (fun a => (compileComparison_ofValue_eq_ok rfl).trans (and_iff_right applies))
      (fun b => (compileComparison_ofValue_eq_ok rfl).trans (and_iff_right applies))
      fun p q h => ⟨rfl, rfl, fun record => ?_⟩
    simp only [booleanNode, Term.eval, ok_bind, h.testNonNull]
  · refine .of_ne_ok (fun a made => ?_) fun b made => ?_
    · exact applies ((compileComparison_ofValue_eq_ok rfl).mp made).1
    · exact applies ((compileComparison_ofValue_eq_ok rfl).mp made).1

theorem compileBound_alike {negated : Bool} {target : Node} {v w : Value} {e f : Expr}
    (met : Option.Rel Payload.Interchangeable (v.meets? target.kind) (w.meets? target.kind)) :
    Alike (fun m n => ∃ p q, p.Interchangeable q ∧ m = .ofValue ⟨target.kind, p⟩ ∧
        n = .ofValue ⟨target.kind, q⟩)
      (compileBound negated target (.ofValue v) e) (compileBound negated target (.ofValue w) f) :=
  .of_eq_ok met (fun _ => compileBound_ofValue_eq_ok) (fun _ => compileBound_ofValue_eq_ok)
    fun p q h => ⟨p, q, h, rfl, rfl⟩

theorem compileRange_alike {negated : Bool} {name : String} {low high : Value}
    (wellFormed : low.WellFormed ∧ high.WellFormed)
    (keeps : ∀ k, s.kind? name = some k → k = .number ∨ k = .timestamp →
      low.Keeps k ∧ high.Keeps k) :
    Alike (Node.Interchangeable (s.read lookup))
      (compileExpr (s.resolver lookup) (.between negated (.field name) (.const low) (.const high)))
      (compileExpr (s.resolver lookup)
        (.between negated (.field name) low.reread high.reread)) := by
  obtain ⟨lowest, compiledLow, readLow⟩ := low.compile_reread (s.resolver lookup) wellFormed.1
  obtain ⟨highest, compiledHigh, readHigh⟩ := high.compile_reread (s.resolver lookup) wellFormed.2
  simp only [compileExpr, compiledLow, compiledHigh, ok_bind]
  refine compileField_bind_alike fun declared k known some => ?_
  refine .bind_self fun _ ranged => ?_
  have single : k ≠ .collection := by
    rintro rfl
    simpa using requireRange_eq_ok ranged
  obtain ⟨keepsLow, keepsHigh⟩ := keeps k known (requireRange_eq_ok ranged)
  refine .bind (compileBound_alike (readLow.meets? keepsLow some single)) fun l l' _ lower => ?_
  refine .bind (compileBound_alike (readHigh.meets? keepsHigh some single)) fun h h' _ upper => ?_
  obtain ⟨p, p', lower, rfl, rfl⟩ := lower
  obtain ⟨q, q', upper, rfl, rfl⟩ := upper
  have field : (Node.mk k (.field declared)).isConstant = false := rfl
  refine fold_alike ⟨rfl, rfl, fun record => ?_⟩ (by simp [field]) (by simp [field])
  simp only [booleanNode, Node.ofValue, Term.eval, ok_bind, lower.isWithin upper]

section

variable {negated : Bool} {target : Node} {e f : Expr}

theorem compileMember_of_collection (collection : target.kind = .collection) {v : Value}
    (plain : v.kind = .boolean ∨ v.kind = .number) (hashable : v.raw.unhashable? = none) :
    compileMember negated target (.ofValue v) e = .ok [v.raw] := by
  obtain ⟨kind, raw⟩ := v
  rcases plain with rfl | rfl <;>
    simp [compileMember, Node.ofValue, Node.constant?, Term.constant?, Value.isNull, collection,
      elementPayloads, orFault, requireHashable, hashable]

theorem compileMember_number_alike (collection : target.kind = .collection) {d r : Decimal}
    (value : r.toRat = d.toRat) :
    Alike Payload.SameMembers
      (compileMember negated target (.ofValue ⟨.number, .decimal d⟩) e)
      (compileMember negated target (.ofValue ⟨.number, .decimal r⟩) f) := by
  rw [compileMember_of_collection collection (.inr rfl) (by simp [Payload.unhashable?]),
    compileMember_of_collection collection (.inr rfl) (by simp [Payload.unhashable?])]
  exact .ok fun x => by simp [(Decimal.interchangeable value).same]

theorem compileMember_collection_alike (collection : target.kind = .collection) {v w : Value}
    (read : v.ReadAs w) (keeps : v.Keeps .collection) :
    Alike Payload.SameMembers (compileMember negated target (.ofValue v) e)
      (compileMember negated target (.ofValue w) f) := by
  cases read with
  | same v =>
      have alone : compileMember negated target (.ofValue v) e =
          compileMember negated target (.ofValue v) f := by
        simp [compileMember, Node.ofValue, Node.constant?, Term.constant?, collection]
      rw [alone]
      exact .refl (fun _ _ => rfl) _
  | boolean b =>
      rw [compileMember_of_collection collection (.inl rfl) (by simp [Payload.unhashable?]),
        compileMember_of_collection collection (.inr rfl) (by simp [Payload.unhashable?])]
      exact .ok fun x => by simp [Payload.same_bool]
  | plain unsigned =>
      exact compileMember_number_alike collection
        (Decimal.sameValue_iff.mp (Decimal.sameValue_writtenOut unsigned))
  | negated signed rounded =>
      obtain ⟨r, same, value⟩ := keeps signed
      cases rounded.symm.trans same
      exact compileMember_number_alike collection (Decimal.sameValue_iff.mp value)
  | lost signed overflow =>
      obtain ⟨r, same, -⟩ := keeps signed
      cases overflow.symm.trans same
  | moment valid => exact absurd rfl keeps.1

theorem compileMember_single_alike (single : target.kind ≠ .collection) {v w : Value}
    (met : Option.Rel Payload.Interchangeable (v.meets? target.kind) (w.meets? target.kind)) :
    Alike Payload.SameMembers (compileMember negated target (.ofValue v) e)
      (compileMember negated target (.ofValue w) f) := by
  have made {v : Value} {e : Expr} (ps : List Payload) :
      compileMember negated target (.ofValue v) e = .ok ps ↔ ∃ p, v.meets? target.kind = some p ∧
        p.unhashable? = none ∧ ps = [p] := compileMember_ofValue_eq_ok single
  generalize same : v.meets? target.kind = o, same' : w.meets? target.kind = o' at met
  cases met with
  | none => exact .of_ne_ok (fun ps => by simp [made, same]) fun ps => by simp [made, same']
  | @some p q h =>
      cases hashable : p.unhashable? with
      | none =>
          rw [(made [p]).mpr ⟨p, same, hashable, rfl⟩,
            (made [q]).mpr ⟨q, same', h.hashable ▸ hashable, rfl⟩]
          exact .ok fun x => by simp [h.same]
      | some name =>
          have hashable' := h.hashable ▸ hashable
          exact .of_ne_ok (fun ps => by simp [made, same, hashable]) fun ps => by
            simp [made, same', hashable']

theorem compileMember_alike {v w : Value} (read : v.ReadAs w) (keeps : v.Keeps target.kind)
    (some : target.kind ≠ .null) :
    Alike Payload.SameMembers (compileMember negated target (.ofValue v) e)
      (compileMember negated target (.ofValue w) f) := by
  by_cases collection : target.kind = .collection
  · exact compileMember_collection_alike collection read (collection ▸ keeps)
  · exact compileMember_single_alike collection (read.meets? keeps some collection)

end

theorem compileMembers_alike {r : Resolver} {negated : Bool} {target : Node} {values : List Value}
    (wellFormed : ∀ v ∈ values, v.WellFormed) (keeps : ∀ v ∈ values, v.Keeps target.kind)
    (some : target.kind ≠ .null) :
    Alike Payload.SameMembers (compileMembers r negated target (values.map .const))
      (compileMembers r negated target (values.map Value.reread)) := by
  induction values with
  | nil => exact .ok fun x => rfl
  | cons v values ih =>
      rw [List.forall_mem_cons] at wellFormed keeps
      obtain ⟨w, compiled, read⟩ := v.compile_reread r wellFormed.1
      simp only [List.map_cons, compileMembers, compileExpr_const, compiled, ok_bind]
      refine .bind (compileMember_alike read keeps.1 some) fun ps qs _ first => ?_
      refine .bind (ih wellFormed.2 keeps.2) fun ps' qs' _ others => ?_
      exact .ok (first.append others)

theorem compileAmong_alike {negated : Bool} {name : String} {first : Value} {others : List Value}
    (wellFormed : ∀ v ∈ first :: others, v.WellFormed)
    (keeps : ∀ k, s.kind? name = some k → ∀ v ∈ first :: others, v.Keeps k) :
    Alike (Node.Interchangeable (s.read lookup))
      (compileExpr (s.resolver lookup)
        (.among negated (.field name) (.const first) (others.map .const)))
      (compileExpr (s.resolver lookup)
        (.among negated (.field name) first.reread (others.map Value.reread))) := by
  rw [List.forall_mem_cons] at wellFormed
  obtain ⟨w, compiled, read⟩ := first.compile_reread (s.resolver lookup) wellFormed.1
  simp only [compileExpr, compiled, ok_bind]
  refine compileField_bind_alike fun declared k known some => ?_
  obtain ⟨keepsFirst, keepsOthers⟩ := List.forall_mem_cons.mp (keeps k known)
  have field : (Node.mk k (.field declared)).isNullConstant = false := rfl
  simp only [field, Bool.false_eq_true, if_false]
  refine .bind (compileMember_alike read keepsFirst some) fun ps qs _ listed => ?_
  refine .bind (compileMembers_alike wellFormed.2 keepsOthers some) fun ps' qs' _ others => ?_
  have same := listed.append others
  have operand : (Node.mk k (.field declared)).isConstant = false := rfl
  unfold compileAmong
  split
  · refine fold_alike ⟨rfl, rfl, fun record => ?_⟩ (by simp [operand]) (by simp [operand])
    simp only [booleanNode, Term.eval, same.anyIsMember]
  · refine fold_alike ⟨rfl, rfl, fun record => ?_⟩ (by simp [operand]) (by simp [operand])
    simp only [booleanNode, Term.eval, same.isMember]

end

end RecordFilter
