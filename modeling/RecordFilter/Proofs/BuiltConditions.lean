import RecordFilter.Condition
import RecordFilter.Proofs.InterchangeableNodes
import RecordFilter.Proofs.ParsedFilters

/-!
# Conditions and their texts

The text of a built condition is compiled like the condition itself, and accepts the same records,
as long as its constants keep their meaning in the text.  Each comparison of the condition is
followed to the term that it is compiled to, with its constants and with those that are read back.
-/

namespace RecordFilter

/-! ## Built conditions -/

namespace Condition

/-- The conditions that are built: comparisons of a field with payloads, parsed filters, and what is
combined from them. -/
inductive Built : Condition → Prop
  | compare {c : Comparison} {name : String} {p : Payload} {condition : Condition}
      (made : Condition.compare (.compare c) name p = .ok condition) : Built condition
  | like {before after name : String} {p : Payload} {condition : Condition}
      (made : like before after name p = .ok condition) : Built condition
  | among {negated : Bool} {name : String} {values : Payload} {condition : Condition}
      (made : among negated name values = .ok condition) : Built condition
  | between {negated : Bool} {name : String} {low high : Payload} {condition : Condition}
      (made : between negated name low high = .ok condition) : Built condition
  | state (test : StateTest) (name : String) : Built (state test name)
  | raw {text : String} {condition : Condition} (made : raw text = .ok condition) :
      Built condition
  | opposite {c : Condition} (built : Built c) : Built c.opposite
  | both {a b : Condition} (left : Built a) (right : Built b) : Built (a.both b)
  | either {a b : Condition} (left : Built a) (right : Built b) : Built (a.either b)

theorem Built.combine {op : BinaryOp} {method : String} {cs : List Condition} {c : Condition}
    (connective : op = .and ∨ op = .or) (all : ∀ c ∈ cs, c.Built)
    (h : combine op method cs = .ok c) : c.Built := by
  cases cs with
  | nil => cases h
  | cons first others =>
      cases h
      rw [List.forall_mem_cons] at all
      obtain ⟨built, all⟩ := all
      induction others generalizing first with
      | nil => exact built
      | cons second others ih =>
          rw [List.forall_mem_cons] at all
          refine ih _ ?_ all.2
          rcases connective with rfl | rfl
          · exact .both built all.1
          · exact .either built all.1

theorem orFault_eq_ok {α : Type} {x : Except Fault α} {a : α} : orFault x = .ok a ↔ x = .ok a := by
  cases x <;> simp [orFault]

theorem literal_eq_ok {p : Payload} {e : Expr} (h : literal p = .ok e) :
    ∃ v, Value.ofPayload p = .ok v ∧ e = .const v := by
  unfold literal at h
  split at h
  · cases h
  · obtain ⟨v, made, rfl⟩ := map_eq_ok.mp h
    exact ⟨v, orFault_eq_ok.mp made, rfl⟩

theorem literals_eq_ok {ps : List Payload} {es : List Expr} (h : ps.mapM literal = .ok es) :
    ∃ values : List Value, es = values.map .const := by
  rw [mapM_eq_ok] at h
  induction h with
  | nil => exact ⟨[], rfl⟩
  | cons made _ ih =>
      obtain ⟨v, -, rfl⟩ := literal_eq_ok made
      obtain ⟨values, rfl⟩ := ih
      exact ⟨v :: values, rfl⟩

end Condition

/-! ## Faithful trees -/

namespace Expr

def HoldsAgainst (s : Schema) (k : Kind) (v : Value) : Expr → Prop
  | binary (.compare _) (field name) right =>
      s.kind? name = some k ∧ k ≠ .collection ∧ right = const v
  | among _ (field name) first others => s.kind? name = some k ∧ const v ∈ first :: others
  | between _ (field name) lower upper =>
      s.kind? name = some k ∧ (k = .number ∨ k = .timestamp) ∧ (lower = const v ∨ upper = const v)
  | _ => False

/-- A tree can be told from its text: fields have names that are not blank, constants are of the
sorts that have literals, and wherever one is held against a field it keeps its meaning. -/
def Faithful (s : Schema) (e : Expr) : Prop :=
  ∀ node ∈ e.nodes, node.Legible ∧ ∀ k v, node.HoldsAgainst s k v → v.Keeps k

theorem Faithful.allLegible {s : Schema} {e : Expr} (h : e.Faithful s) : e.AllLegible :=
  fun node found => (h node found).1

theorem HoldsAgainst.mem_nodes {s : Schema} {k : Kind} {v : Value} {e : Expr}
    (h : e.HoldsAgainst s k v) : const v ∈ e.nodes := by
  unfold HoldsAgainst at h
  split at h
  · obtain ⟨-, -, rfl⟩ := h
    exact nodes_subset_right (mem_nodes_self _)
  · exact nodes_subset_values (nodes_subset_nodesOf h.2 (mem_nodes_self _))
  · obtain ⟨-, -, rfl | rfl⟩ := h
    · exact nodes_subset_lower (mem_nodes_self _)
    · exact nodes_subset_upper (mem_nodes_self _)
  · exact h.elim

theorem faithful_unary {s : Schema} {op : UnaryOp} {operand : Expr} :
    (unary op operand).Faithful s ↔ operand.Faithful s := by
  rw [Faithful, nodes, List.forall_mem_cons]
  exact and_iff_right ⟨trivial, fun _ _ => False.elim⟩

theorem faithful_connective {s : Schema} {op : BinaryOp} {left right : Expr}
    (connective : op = .and ∨ op = .or) :
    (binary op left right).Faithful s ↔ left.Faithful s ∧ right.Faithful s := by
  rw [Faithful, nodes, List.forall_mem_cons, List.forall_mem_append]
  refine and_iff_right ?_
  rcases connective with rfl | rfl <;> exact ⟨trivial, fun _ _ => False.elim⟩

theorem faithful_compare {s : Schema} {c : Comparison} {name : String} {v : Value}
    (visible : ∃ c ∈ name.toList, Text.isBlank c = false) (wellFormed : v.WellFormed)
    (present : const v = const .null → c ≠ .equal ∧ c ≠ .notEqual)
    (keeps : ∀ k, s.kind? name = some k → k ≠ .collection → v.Keeps k) :
    (binary (.compare c) (field name) (const v)).Faithful s := by
  simp only [Faithful, nodes, List.mem_cons, List.cons_append, List.nil_append]
  rintro node (rfl | rfl | rfl | ⟨⟨⟩⟩)
  · refine ⟨present, ?_⟩
    rintro k w ⟨known, single, same⟩
    cases same
    exact keeps k known single
  · exact ⟨visible, fun _ _ => False.elim⟩
  · exact ⟨wellFormed, fun _ _ => False.elim⟩

theorem AllWritable.faithful {e : Expr} (h : e.AllWritable) (s : Schema) : e.Faithful s := by
  refine fun node found => ⟨h.allLegible node found, fun k v held => ?_⟩
  have literal : v.Literal := h _ (nodes_subset_of_mem e found held.mem_nodes)
  cases literal with
  | null | text => exact trivial
  | number plain => exact fun signed => absurd (plain.symm.trans signed) (by decide)

end Expr

/-! ## Compiling conditions and texts -/

namespace Condition

theorem compare_eq_ok {op : BinaryOp} {name : String} {p : Payload} {c : Condition}
    (h : Condition.compare op name p = .ok c) :
    ∃ v, Value.ofPayload p = .ok v ∧ c.expr = .binary op (.field name) (.const v) := by
  obtain ⟨right, made, h⟩ := bind_eq_ok.mp h
  obtain ⟨v, constant, rfl⟩ := literal_eq_ok made
  cases h
  exact ⟨v, constant, rfl⟩

theorem like_eq_ok {before after name : String} {p : Payload} {c : Condition}
    (h : like before after name p = .ok c) :
    ∃ pattern, c.expr = .binary .like (.field name) (.const ⟨.text, .text pattern⟩) := by
  obtain ⟨text, -, h⟩ := bind_eq_ok.mp h
  cases h
  exact ⟨_, rfl⟩

theorem among_eq_ok {negated : Bool} {name : String} {values : Payload} {c : Condition}
    (h : among negated name values = .ok c) :
    ∃ (first : Value) (others : List Value),
      c.expr = .among negated (.field name) (.const first) (others.map .const) := by
  obtain ⟨payloads, -, h⟩ := bind_eq_ok.mp h
  obtain ⟨es, made, h⟩ := bind_eq_ok.mp h
  obtain ⟨constants, rfl⟩ := literals_eq_ok made
  cases constants with
  | nil => cases h
  | cons first others =>
      cases h
      exact ⟨first, others, rfl⟩

theorem between_eq_ok {negated : Bool} {name : String} {low high : Payload} {c : Condition}
    (h : between negated name low high = .ok c) :
    ∃ lower upper, c.expr = .between negated (.field name) (.const lower) (.const upper) := by
  obtain ⟨l, madeLow, h⟩ := bind_eq_ok.mp h
  obtain ⟨u, madeHigh, h⟩ := bind_eq_ok.mp h
  obtain ⟨lower, -, rfl⟩ := literal_eq_ok madeLow
  obtain ⟨upper, -, rfl⟩ := literal_eq_ok madeHigh
  cases h
  exact ⟨lower, upper, rfl⟩

theorem compile_eq_ok {c : Condition} {r : Resolver} {p : Predicate} (h : c.compile r = .ok p) :
    ∃ text, compileTo r text c.expr = .ok p := by
  unfold compile at h
  split at h
  · cases h
  · next s written =>
      split at h
      · next made =>
          cases h
          exact ⟨some s, withText_eq_ok.mp made⟩
      · cases h

theorem raw_eq_ok {text : String} {c : Condition} (h : raw text = .ok c) :
    parse text = .ok c.expr := by
  unfold raw at h
  split at h
  · next e parsed =>
      cases h
      exact parseExpression_eq_ok parsed
  · cases h

theorem raw_faithful {text : String} {c : Condition} (h : raw text = .ok c) (s : Schema) :
    c.expr.Faithful s :=
  (allWritable_of_parse (raw_eq_ok h)).faithful s

section

variable {s : Schema} {lookup : Lookup}

/-- A built condition is compiled like the tree that its text is parsed to. -/
theorem Built.compile_alike {c : Condition} (built : c.Built) (faithful : c.expr.Faithful s) :
    Alike (Node.Interchangeable (s.read lookup)) (compileExpr (s.resolver lookup) c.expr)
      (compileExpr (s.resolver lookup) c.expr.reread) := by
  -- Patterns, tests and parsed filters have no constants that their texts change.
  have unread {e : Expr} (same : e.reread = e) :
      Alike (Node.Interchangeable (s.read lookup)) (compileExpr (s.resolver lookup) e)
        (compileExpr (s.resolver lookup) e.reread) := by
    rw [same]
    exact .refl .refl _
  induction built with
  | @compare c name p condition made =>
      obtain ⟨v, -, same⟩ := compare_eq_ok made
      rw [same] at faithful ⊢
      obtain ⟨-, held⟩ := faithful _ (Expr.mem_nodes_self _)
      have wellFormed : v.WellFormed :=
        faithful.allLegible _ (Expr.nodes_subset_right (Expr.mem_nodes_self _))
      exact compileComparison_alike wellFormed fun k known single => held k v ⟨known, single, rfl⟩
  | like made =>
      obtain ⟨pattern, same⟩ := like_eq_ok made
      rw [same]
      exact unread rfl
  | among made =>
      obtain ⟨first, others, same⟩ := among_eq_ok made
      rw [same] at faithful ⊢
      obtain ⟨-, held⟩ := faithful _ (Expr.mem_nodes_self _)
      have listed {v : Value} (found : v ∈ first :: others) :
          Expr.const v ∈ .const first :: others.map .const := List.mem_map_of_mem found
      rw [Expr.reread, Expr.rereadAll_eq_map, List.map_map]
      refine compileAmong_alike (fun v found => ?_) fun k known v found => ?_
      · exact faithful.allLegible.value (listed found) _ (Expr.mem_nodes_self _)
      · exact held k v ⟨known, listed found⟩
  | between made =>
      obtain ⟨lower, upper, same⟩ := between_eq_ok made
      rw [same] at faithful ⊢
      obtain ⟨-, held⟩ := faithful _ (Expr.mem_nodes_self _)
      have wellFormed : lower.WellFormed ∧ upper.WellFormed :=
        ⟨faithful.allLegible _ (Expr.nodes_subset_lower (Expr.mem_nodes_self _)),
          faithful.allLegible _ (Expr.nodes_subset_upper (Expr.mem_nodes_self _))⟩
      exact compileRange_alike wellFormed fun k known ranged =>
        ⟨held k lower ⟨known, ranged, .inl rfl⟩, held k upper ⟨known, ranged, .inr rfl⟩⟩
  | state test name => exact unread rfl
  | raw made => exact unread (allWritable_of_parse (raw_eq_ok made)).reread_eq
  | @opposite c built ih =>
      have inner := ih (Expr.faithful_unary.mp faithful)
      simp only [Condition.opposite, Expr.reread, compileExpr]
      exact inner.bind fun m n _ h => compileNot_alike h
  | @both a b left right ihLeft ihRight =>
      obtain ⟨left, right⟩ := (Expr.faithful_connective (.inl rfl)).mp faithful
      have left := ihLeft left
      have right := ihRight right
      simp only [Condition.both, Expr.reread, compileExpr]
      refine left.bind fun l l' _ hl => right.bind fun r r' _ hr => ?_
      refine compileConnective_alike hl hr (fun _ _ => rfl) fun record => ?_
      simp only [Term.eval, hl.eval, hr.eval]
  | @either a b left right ihLeft ihRight =>
      obtain ⟨left, right⟩ := (Expr.faithful_connective (.inr rfl)).mp faithful
      have left := ihLeft left
      have right := ihRight right
      simp only [Condition.either, Expr.reread, compileExpr]
      refine left.bind fun l l' _ hl => right.bind fun r r' _ hr => ?_
      refine compileConnective_alike hl hr (fun _ _ => rfl) fun record => ?_
      simp only [Term.eval, hl.eval, hr.eval]

end

/-! ## Using conditions and texts -/

def AcceptAlike (p q : Predicate) : Prop := ∀ record, p.accepts record = q.accepts record

theorem compileTo_alike {r : Resolver} {e f : Expr} {x y : Option String}
    (h : Alike (Node.Interchangeable r.read) (compileExpr r e) (compileExpr r f)) :
    Alike AcceptAlike (compileTo r x e) (compileTo r y f) := by
  unfold compileTo compileFilter
  generalize compileExpr r e = made, compileExpr r f = made' at h
  cases h with
  | error e f => exact .error e f
  | @ok m n h =>
      simp only [ok_bind, ← h.kind]
      split
      · refine .ok fun record => ?_
        exact congrArg (Except.map Payload.isTrue) (h.eval record)
      · exact .error _ _

theorem withText_alike {α β : Type} {related : α → β → Prop} {made : Compiling α}
    {made' : Compiling β} {x y : Option String} (h : Alike related made made') :
    Alike related (withText x made) (withText y made') := by
  cases h with
  | ok h => exact .ok h
  | error e f => cases e <;> cases f <;> exact .error _ _

/-- A built condition whose constants keep their meaning compiles exactly if its text does, and then
both accept the same records. -/
theorem compile_text_iff (s : Schema) (lookup : Lookup) {c : Condition} {text : String}
    (built : c.Built) (faithful : c.expr.Faithful s) (written : c.text = .ok text) :
    ((∃ p, (Filter.text text).compile (s.resolver lookup) = .ok p) ↔
      ∃ q, c.compile (s.resolver lookup) = .ok q) ∧
    ∀ p q, (Filter.text text).compile (s.resolver lookup) = .ok p →
      c.compile (s.resolver lookup) = .ok q → ∀ record, p.accepts record = q.accepts record := by
  have parsed : (Filter.text text).expr = .ok c.expr.reread := by
    simp [Filter.expr, parseExpression, parse_of_print faithful.allLegible written]
  have nodes : Alike (Node.Interchangeable (s.resolver lookup).read)
      (compileExpr (s.resolver lookup) c.expr) (compileExpr (s.resolver lookup) c.expr.reread) :=
    built.compile_alike faithful
  have alike : Alike AcceptAlike (withText none (compileTo (s.resolver lookup) (some text) c.expr))
      (withText (some text) (compileTo (s.resolver lookup) (some text) c.expr.reread)) :=
    withText_alike (compileTo_alike nodes)
  simp only [Filter.compile, Filter.expression?, parsed, compile, written]
  generalize withText none _ = made, withText (some text) _ = made' at alike
  cases alike with
  | error e f => simp
  | @ok p q h =>
      refine ⟨by simp, ?_⟩
      rintro _ _ ⟨⟩ ⟨⟩ record
      exact (h record).symm

/-- `[Total] < -5 && [Active] == 1 && !([At] > '2024-03-01 08:30:00')` -/
def recentCondition : Condition :=
  .both
    (.both
      ⟨.binary (.compare .less) (.field "Total") (.const ⟨.number, .decimal ⟨true, 5, 0⟩⟩)⟩
      ⟨.binary (.compare .equal) (.field "Active") (.const ⟨.boolean, .bool true⟩)⟩)
    (.opposite ⟨.binary (.compare .greater) (.field "At")
      (.const ⟨.timestamp, .ofMoment ⟨⟨2024, 3, 1⟩, 8, 30, 0, 0⟩⟩)⟩)

def recentText : String := "[Total] < -5 && [Active] == 1 && !([At] > '2024-03-01 08:30:00')"

def recentSchema : Schema := ⟨[("Total", .number), ("Active", .boolean), ("At", .timestamp)]⟩

theorem recentCondition_built : recentCondition.Built :=
  .both (.both (@Built.compare .less "Total" (.int (-5)) _ rfl)
      (@Built.compare .equal "Active" (.bool true) _ rfl))
    (.opposite (@Built.compare .greater "At" (.ofMoment ⟨⟨2024, 3, 1⟩, 8, 30, 0, 0⟩) _ rfl))

theorem recentCondition_faithful : recentCondition.expr.Faithful recentSchema := by
  have total : recentSchema.kind? "Total" = some .number := rfl
  have active : recentSchema.kind? "Active" = some .boolean := rfl
  have moment : recentSchema.kind? "At" = some .timestamp := rfl
  refine (Expr.faithful_connective (.inl rfl)).mpr
    ⟨(Expr.faithful_connective (.inl rfl)).mpr ⟨?_, ?_⟩, Expr.faithful_unary.mpr ?_⟩
  · refine Expr.faithful_compare ⟨'T', by decide⟩ (.number _) nofun fun k known _ => ?_
    cases total.symm.trans known
    exact fun _ => ⟨⟨true, 5, 0⟩, by decide, by decide⟩
  · refine Expr.faithful_compare ⟨'A', by decide⟩ (.boolean _) nofun fun k known _ => ?_
    cases active.symm.trans known
    exact ⟨nofun, nofun⟩
  · refine Expr.faithful_compare ⟨'A', by decide⟩ (.timestamp (by decide)) nofun fun k known _ => ?_
    cases moment.symm.trans known
    exact ⟨nofun, fun _ => ⟨by decide, rfl⟩⟩

theorem compile_text_iff_recent :
    recentCondition.Built ∧ recentCondition.expr.Faithful recentSchema ∧
    recentCondition.text = .ok recentText ∧
    ∃ p q, (Filter.text recentText).compile (recentSchema.resolver .byName) = .ok p ∧
      recentCondition.compile (recentSchema.resolver .byName) = .ok q ∧
      ∀ record, p.accepts record = q.accepts record := by
  have written : recentCondition.text = .ok recentText := rfl
  have compiled : ∃ q, recentCondition.compile (recentSchema.resolver .byName) = .ok q := ⟨_, rfl⟩
  obtain ⟨compiles, accepts⟩ := compile_text_iff recentSchema .byName recentCondition_built
    recentCondition_faithful written
  obtain ⟨p, made⟩ := compiles.mpr compiled
  obtain ⟨q, made'⟩ := compiled
  exact ⟨recentCondition_built, recentCondition_faithful, written, p, q, made, made',
    accepts p q made made'⟩

theorem compile_text_not_iff :
    ¬ ∀ (s : Schema) (lookup : Lookup) (c : Condition) (text : String),
      c.Built → c.text = .ok text →
      ((∃ p, (Filter.text text).compile (s.resolver lookup) = .ok p) ↔
        ∃ q, c.compile (s.resolver lookup) = .ok q) ∧
      ∀ p q, (Filter.text text).compile (s.resolver lookup) = .ok p →
        c.compile (s.resolver lookup) = .ok q → ∀ record, p.accepts record = q.accepts record := by
  intro claim
  have built : Condition.Built ⟨.binary (.compare .equal) (.field "n")
      (.const ⟨.boolean, .bool true⟩)⟩ := @Built.compare .equal "n" (.bool true) _ rfl
  obtain ⟨⟨compiles, -⟩, -⟩ := claim ⟨[("n", .number)]⟩ .byName _ "[n] == 1" built rfl
  have legible : (Expr.binary (.compare .equal) (.field "n")
      (.const ⟨.boolean, .bool true⟩)).AllLegible :=
    (Expr.faithful_compare (s := ⟨[]⟩) ⟨'n', by decide⟩ (.boolean _) nofun nofun).allLegible
  have parsed : parse "[n] == 1" = .ok (.binary (.compare .equal) (.field "n")
      (.const ⟨.number, .decimal (.ofInt 1)⟩)) := parse_of_print legible rfl
  have compiled : ∃ p, (Filter.text "[n] == 1").compile
      ((⟨[("n", .number)]⟩ : Schema).resolver .byName) = .ok p := by
    simp only [Filter.compile, Filter.expr, parseExpression, parsed]
    exact ⟨_, rfl⟩
  obtain ⟨q, made⟩ := compiles compiled
  cases made

end Condition

end RecordFilter
