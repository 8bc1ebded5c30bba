import RecordFilter.Proofs.Definedness
import RecordFilter.Proofs.NodeInvariants

/-!
# A predicate sees the fields that it names

A compiled expression reads a record only through the fields that the expression refers to, under
their declared names.  Two records that give the same for these, or fail alike, are not told apart:
a predicate gives the same answer for both, or fails for both in the same way.  This holds for any
resolver.
-/

namespace RecordFilter

theorem Expr.mem_fieldNames {e : Expr} {name : String} :
    name ∈ e.fieldNames ↔ .field name ∈ e.nodes := by
  have named (node : Expr) : node.fieldName? = some name ↔ node = .field name := by
    cases node <;> simp [fieldName?]
  simp [fieldNames, List.mem_filterMap, named]

section

variable (read : String → Payload → Except Fault Payload) (x y : Payload)

/-- Operators see of a record only what their operands give on it. -/
theorem Node.invariant_blind :
    Node.Invariant fun n => n.term.eval read x = n.term.eval read y where
  constant v := rfl
  not h _ := by simp only [booleanNode, Term.eval, h]
  negate h _ := by simp only [Term.eval, h]
  both hm hn _ := by simp only [booleanNode, Term.eval, hm, hn]
  either hm hn _ := by simp only [booleanNode, Term.eval, hm, hn]
  state test h := by simp only [booleanNode, Term.eval, h]
  like pattern h := by simp only [booleanNode, Term.eval, h]
  compare c hm hn _ _ := by simp only [booleanNode, Term.eval, hm, hn]
  arithmetic op hm hn _ := by simp only [Term.eval, hm, hn]
  member negated members h _ := by simp only [booleanNode, Term.eval, h]
  anyMember negated members h _ := by simp only [booleanNode, Term.eval, h]
  between negated h hLow hHigh _ _ := by simp only [booleanNode, Term.eval, h, hLow, hHigh]

end

/-- Records on which the fields of an expression give the same, or fail alike, give the same answer,
or the same failure. -/
theorem compileTo_seesNamedFields (r : Resolver) {text : Option String} {e : Expr} {p : Predicate}
    (accepted : compileTo r text e = .ok p) {x y : Payload}
    (same : ∀ name ∈ e.fieldNames, ∀ declared, r.canonical? name = some declared →
      r.read declared x = r.read declared y) :
    p.accepts x = p.accepts y := by
  obtain ⟨node, compiled, -, rfl⟩ := compileTo_eq_ok accepted
  have blind : node.term.eval r.read x = node.term.eval r.read y := by
    refine (Node.invariant_blind r.read x y).compileExpr e (fun name found n field => ?_) compiled
    obtain ⟨declared, k, known, -, -, rfl⟩ := compileField_eq_ok field
    exact same name (Expr.mem_fieldNames.mpr found) declared known
  exact congrArg (Except.map Payload.isTrue) blind

def memberSchema : Schema := ⟨[("Active", .boolean), ("Since", .timestamp), ("Note", .text)]⟩

def activeOrNew : Expr := .binary .or (.field "active") (.state .isNull (.field "SINCE"))

def activeOrNewPredicate : Predicate where
  term := .either (.field "Active") (.state .isNull (.field "Since"))
  source := activeOrNew
  expression := none
  resolver := memberSchema.resolver .byAttribute

def memberWithNote (note : Payload) : Payload :=
  .object [("Active", .bool false),
    ("Since", .timestamp ⟨.midnight ⟨1, 1, 1⟩, some 3600000000⟩), ("Note", note)]

theorem compileTo_seesNamedFields_member :
    compileTo (memberSchema.resolver .byAttribute) none activeOrNew = .ok activeOrNewPredicate ∧
    (∀ name ∈ activeOrNew.fieldNames, ∀ declared,
      (memberSchema.resolver .byAttribute).canonical? name = some declared →
      (memberSchema.resolver .byAttribute).read declared (memberWithNote (.text "new")) =
        (memberSchema.resolver .byAttribute).read declared (memberWithNote (.int 5))) ∧
    activeOrNewPredicate.accepts (memberWithNote (.text "new")) = .error .outsideCalendar ∧
    activeOrNewPredicate.accepts (memberWithNote (.int 5)) = .error .outsideCalendar := by
  have accepted : compileTo (memberSchema.resolver .byAttribute) none activeOrNew =
      .ok activeOrNewPredicate := rfl
  have named : activeOrNew.fieldNames = ["active", "SINCE"] := by decide
  have active : memberSchema.canonical? "active" = some "Active" := by decide +kernel
  have since : memberSchema.canonical? "SINCE" = some "Since" := by decide +kernel
  have same : ∀ name ∈ activeOrNew.fieldNames, ∀ declared,
      (memberSchema.resolver .byAttribute).canonical? name = some declared →
      (memberSchema.resolver .byAttribute).read declared (memberWithNote (.text "new")) =
        (memberSchema.resolver .byAttribute).read declared (memberWithNote (.int 5)) := by
    simp only [named, List.forall_mem_cons, Schema.resolver, active, since, Option.some.injEq,
      forall_eq', List.not_mem_nil, false_implies, implies_true, and_true]
    exact ⟨rfl, rfl⟩
  have fails : activeOrNewPredicate.accepts (memberWithNote (.text "new")) =
      .error .outsideCalendar := rfl
  exact ⟨accepted, same, fails,
    (compileTo_seesNamedFields (memberSchema.resolver .byAttribute) accepted same).symm.trans
      fails⟩

end RecordFilter
