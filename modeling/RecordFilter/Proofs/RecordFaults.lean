import RecordFilter.Proofs.ParsedFilters
import RecordFilter.Proofs.Unreadable

/-!
# Records that a predicate fails on

A predicate answers for every record of any shape, except for four: a record that holds a timestamp
which leaves the calendar in universal time; one where a whole number has to be written out
that is too long; one with a signaling number in a boolean field; and one where a mapping has to be
written out whose keys cannot be sorted, or are nothing that a document can name a member by.  A
number that is too long is in the record, or a filter calculates it from the record and holds it
against a pattern.  Payloads that are none of the types a field is declared with are known by
their texts here, so that they never fail by themselves.
-/

namespace RecordFilter

/-! ## Results of operators -/

namespace Payload

theorem negate_isSingle {p q : Payload} (h : p.negate = .ok q) : q.isSingle = true := by
  unfold negate at h
  split at h
  · cases h
    rfl
  · next d =>
      cases h
      cases d.negate? <;> rfl
  · cases h
    rfl
  · cases h
    rfl
  · cases h
    rfl
  · cases h
    rfl
  · cases h
    rfl
  · cases h
    rfl
  · split at h <;> cases h
    rfl

theorem FitsOrNull.isSingle {p : Payload} {k : Kind} (h : p.FitsOrNull k)
    (other : k ≠ .collection) : p.isSingle = true := by
  rcases h with rfl | fits
  · rfl
  · cases fits <;> first | rfl | exact absurd rfl other

end Payload

/-- What a calculation gives, if anything, holds no other payload. -/
def GivesSingle (x : Except Fault Payload) : Prop := ∀ p, x = .ok p → p.isSingle = true

namespace GivesSingle

theorem pure {p : Payload} (single : p.isSingle = true) : GivesSingle (pure p) := by
  intro q h
  rwa [← pure_eq_ok.mp h]

theorem truth (b : Bool) : GivesSingle (Pure.pure (.bool b)) := pure rfl

theorem bind {α : Type} {x : Except Fault α} {next : α → Except Fault Payload}
    (h : ∀ a, GivesSingle (next a)) : GivesSingle (x >>= next) := by
  intro p given
  obtain ⟨a, -, given⟩ := bind_eq_ok.mp given
  exact h a p given

theorem ite {c : Prop} [Decidable c] {x y : Except Fault Payload} (hx : GivesSingle x)
    (hy : GivesSingle y) : GivesSingle (if c then x else y) := by
  split_ifs
  · exact hx
  · exact hy

end GivesSingle

namespace Expr

section

variable {s : Schema} {lookup : Lookup} {record : Payload}

open GivesSingle

theorem interpret_binary_single (op : BinaryOp) (left right : Expr) :
    GivesSingle ((binary op left right).interpret s lookup record) := by
  cases op with
  | arithmetic op =>
      exact bind fun p => bind fun q => pure ((op.onNumbers_fits p q).isSingle nofun)
  | and => exact bind fun _ => ite (bind fun _ => truth _) (truth _)
  | or => exact bind fun _ => ite (truth _) (bind fun _ => truth _)
  | compare c =>
      exact bind fun _ => ite (truth _) (bind fun _ => ite (truth _) (bind fun _ => truth _))
  | like =>
      exact bind fun _ => ite (truth _) (bind fun _ => bind fun _ => bind fun _ => truth _)

theorem interpret_state_single (test : StateTest) (operand : Expr) :
    GivesSingle ((state test operand).interpret s lookup record) := by
  cases test with
  | isNull | isNotNull => exact bind fun _ => truth _
  | isEmpty | isNotEmpty => exact bind fun _ => ite (truth _) (bind fun _ => truth _)

theorem interpret_among_single (negated : Bool) (operand first : Expr) (others : List Expr) :
    GivesSingle ((among negated operand first others).interpret s lookup record) :=
  bind fun _ => ite (truth _) (bind fun _ => bind fun _ =>
    ite (bind fun _ => bind fun _ => truth _) (bind fun _ => truth _))

theorem interpret_between_single (negated : Bool) (operand lower upper : Expr) :
    GivesSingle ((between negated operand lower upper).interpret s lookup record) :=
  bind fun _ => ite (truth _) (bind fun _ => bind fun _ =>
    ite (truth _) (bind fun _ => ite (bind fun _ => truth _) (truth _)))

theorem interpret_of_open {e : Expr} (fields : e.isClosed = false) {p : Payload}
    (h : e.interpret s lookup record = .ok p) :
    (∃ name, s.read lookup name record = .ok p) ∨ p.isSingle = true := by
  cases e with
  | const v => cases fields
  | field name => exact .inl ⟨name, by rwa [interpret_field] at h⟩
  | unary op operand =>
      cases op with
      | plus => exact interpret_of_open (by simpa using fields) (by rwa [interpret] at h)
      | not => exact .inr (bind (fun _ => truth _) p h)
      | negate =>
          exact .inr (bind (fun _ => ite (pure rfl) fun _ => Payload.negate_isSingle) p h)
  | binary op left right => exact .inr (interpret_binary_single op left right p h)
  | state test operand => exact .inr (interpret_state_single test operand p h)
  | among negated operand first others =>
      exact .inr (interpret_among_single negated operand first others p h)
  | between negated operand lower upper =>
      exact .inr (interpret_between_single negated operand lower upper p h)
  | incomplete op left | unknown name =>
      cases h
      exact .inr rfl

/-! ## Causes -/

def MatchesTooLong (s : Schema) (lookup : Lookup) (record : Payload) (e : Expr) : Prop :=
  ∃ left right p, .binary .like left right ∈ e.nodes ∧
    left.interpret s lookup record = .ok p ∧ p.isTooLong = true

theorem parts_of_open {e : Expr} (fields : e.isClosed = false) {p : Payload}
    (h : e.interpret s lookup record = .ok p) :
    p.parts ⊆ record.parts ∨ p.isSingle = true := by
  rcases interpret_of_open fields h with ⟨name, given⟩ | single
  · exact (Schema.read_eq_ok given).imp_right Payload.isSingle_of_isElementary
  · exact .inr single

/-- Every fault that an expression meets in a record comes from the record, but for numbers that
are too long only when a filter calculates them. -/
theorem FailsWith.explained {e : Expr} {f : Fault} (h : e.FailsWith s lookup record f) :
    record.Explains f ∨ (f = .tooManyDigits ∧ e.MatchesTooLong s lookup record) := by
  obtain ⟨node, found, fails⟩ := h
  unfold FailsAtTop at fails
  split at fails
  · exact .inl (Schema.read_error fails)
  · next left right =>
      obtain ⟨fields, p, given, fails⟩ := fails
      have unwritable := Payload.displayed_error fails
      rcases parts_of_open fields given with parts | single
      · exact .inl (.inr (.inr (unwritable.mono parts)))
      · obtain ⟨digits, long⟩ := Payload.isTooLong_of_isSingle single unwritable
        exact .inr ⟨digits, left, right, p, found, given, long⟩
  · obtain ⟨fields, -, p, items, item, given, listed, member, fails⟩ := fails
    have explains := Payload.normalizeElement_error fails
    rcases parts_of_open fields given with parts | single
    · refine .inl (explains.mono ?_)
      have within := List.Subset.trans (Payload.partsOf_subset listed) parts
      exact List.Subset.trans (Payload.parts_subset_partsOf member) within
    · rw [Payload.items?_of_isSingle single] at listed
      cases listed
  · exact fails.elim

end

end Expr

/-! ## Predicates -/

theorem Predicate.accepts_error {s : Schema} {lookup : Lookup} {filter : Filter} {p : Predicate}
    (constants : filter.ConstantsFit) (compiled : filter.compile (s.resolver lookup) = .ok p)
    {record : Payload} {f : Fault} (fails : p.accepts record = .error f) :
    p.source.FailsWith s lookup record f := by
  obtain ⟨e, given, compiled⟩ := Filter.compile_eq_ok compiled
  obtain ⟨node, made, -, rfl⟩ := compileTo_eq_ok compiled
  exact compileExpr_eval_error (constants.expr given) made (map_eq_error.mp fails)

/-- On every record a predicate accepts or refuses, unless the record holds a timestamp that leaves
the calendar, a signaling number, or a mapping with keys that cannot be sorted or written, or
a number has to be written out that is too long: one in the record, or one that the filter holds
against a pattern. -/
theorem Predicate.accepts_or_explained (s : Schema) (lookup : Lookup) {filter : Filter}
    {p : Predicate} (constants : filter.ConstantsFit)
    (compiled : filter.compile (s.resolver lookup) = .ok p) (record : Payload) :
    (∃ b, p.accepts record = .ok b) ∨
    (p.accepts record = .error .outsideCalendar ∧
      ∃ q ∈ record.parts, q.leavesCalendar = true) ∨
    (p.accepts record = .error .tooManyDigits ∧
      ((∃ q ∈ record.parts, q.isTooLong = true) ∨
        p.source.MatchesTooLong s lookup record)) ∨
    (p.accepts record = .error .undefinedComparison ∧ .signaling ∈ record.parts) ∨
    (∃ f, p.accepts record = .error f ∧ ∃ q ∈ record.parts, q.KeysFail f) := by
  cases given : p.accepts record with
  | ok b => exact .inl ⟨b, rfl⟩
  | error f =>
      rcases (p.accepts_error constants compiled given).explained with explains | ⟨rfl, long⟩
      · rcases explains with ⟨rfl, leaves⟩ | ⟨rfl, signals⟩ | ⟨rfl, long⟩ | keys
        · exact .inr (.inl ⟨rfl, leaves⟩)
        · exact .inr (.inr (.inr (.inl ⟨rfl, signals⟩)))
        · exact .inr (.inr (.inl ⟨rfl, .inl long⟩))
        · exact .inr (.inr (.inr (.inr ⟨f, rfl, keys⟩)))
      · exact .inr (.inr (.inl ⟨rfl, .inr long⟩))

/-- `[Total] * [Total] like '1%' && [At] is null` -/
def squareFilter : Expr :=
  .binary .and
    (.binary .like (.binary (.arithmetic .multiply) (.field "Total") (.field "Total"))
      (.const ⟨.text, .text "1%"⟩))
    (.state .isNull (.field "At"))

def squareSchema : Schema := ⟨[("Total", .number), ("At", .timestamp)]⟩

def squarePredicate : Predicate where
  term := .both
    (.like ['1', '%'] false (.arithmetic .multiply (.field "Total") (.field "Total")))
    (.state .isNull (.field "At"))
  source := squareFilter
  expression := none
  resolver := squareSchema.resolver .byName

/-- One in the morning of the first day there is, one hour east of universal time. -/
def squareRecord (total : Int) : Payload :=
  .record [("Total", .int total), ("At", .timestamp ⟨.midnight ⟨1, 1, 1⟩, some 3600000000⟩)]

theorem squareFilter_constantsFit : (Filter.tree squareFilter).ConstantsFit := by
  intro v found
  simp only [squareFilter, Expr.nodes, List.cons_append, List.nil_append, List.mem_cons,
    List.not_mem_nil, reduceCtorEq, false_or, or_false, Expr.const.injEq] at found
  subst found
  exact .text "1%"

theorem squareFilter_compile :
    (Filter.tree squareFilter).compile (squareSchema.resolver .byName) = .ok squarePredicate := rfl

theorem squarePredicate_outsideCalendar :
    squarePredicate.accepts (squareRecord 12) = .error .outsideCalendar := by
  decide +kernel

theorem Predicate.accepts_or_explained_square :
    (Filter.tree squareFilter).ConstantsFit ∧
    (Filter.tree squareFilter).compile (squareSchema.resolver .byName) = .ok squarePredicate ∧
    squarePredicate.accepts (squareRecord 12) = .error .outsideCalendar ∧
    ∃ q ∈ (squareRecord 12).parts, q.leavesCalendar = true := by
  have fails := squarePredicate_outsideCalendar
  refine ⟨squareFilter_constantsFit, squareFilter_compile, fails, ?_⟩
  have explained := Predicate.accepts_or_explained squareSchema .byName squareFilter_constantsFit
    squareFilter_compile (squareRecord 12)
  rw [fails] at explained
  rcases explained with ⟨b, given⟩ | ⟨-, leaves⟩ | ⟨given, -⟩ | ⟨given, -⟩ | ⟨f, same, keys⟩
  · cases given
  · exact leaves
  · cases given
  · cases given
  · cases same
    obtain ⟨q, found, entries, rfl, -⟩ := keys
    simp [squareRecord, Payload.parts, Payload.partsOfFields] at found

theorem Predicate.accepts_not_total :
    ¬ ∀ (s : Schema) (filter : Filter) (p : Predicate), filter.ConstantsFit →
      filter.compile (s.resolver .byName) = .ok p → ∀ record, ∃ b, p.accepts record = .ok b := by
  intro total
  obtain ⟨b, given⟩ := total squareSchema _ _ squareFilter_constantsFit squareFilter_compile
    (squareRecord 12)
  rw [squarePredicate_outsideCalendar] at given
  cases given

/-- The square has 4401 digits, the number in the record but half as many. -/
example : squarePredicate.accepts (squareRecord (10 ^ 2200)) = .error .tooManyDigits := by
  decide +kernel

/-- Keys that are texts have no order to keys that are numbers. -/
example : (Payload.mapping [(.int 1, .text "a"), (.text "b", .int 2)]).displayed =
    .error (.operands (.unordered "<" "str" "int")) := by
  decide +kernel

example : (Payload.mapping [(.tuple [.int 1], .null)]).displayed =
    .error (.operands (.unwritableKey "tuple")) := by
  decide +kernel

example : Payload.normalize .boolean .signaling = .error .undefinedComparison := rfl

end RecordFilter
