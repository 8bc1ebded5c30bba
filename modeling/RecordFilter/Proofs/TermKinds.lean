import RecordFilter.Proofs.Kinds

/-!
# Terms of a kind

A term has a kind if its operators are applied to terms of the kinds that they ask for.  Where
fields are read as payloads of their declared kinds or as Null, the same holds of all terms: on
every record a term of a kind gives a payload of that kind, or Null, and no test that is not a
field gives Null.  So every operator meets operands that it is defined for.
-/

namespace RecordFilter

def StateTest.needsLength : StateTest → Bool
  | isEmpty | isNotEmpty => true
  | isNull | isNotNull => false

/-! ## Signaling numbers -/

theorem Arithmetic.ofResult_ne_signaling (result : Option Decimal) :
    ofResult result ≠ .signaling := by
  cases result <;> nofun

theorem Arithmetic.onNumerals_ne_signaling (op : Arithmetic) (x y : Numeral) :
    op.onNumerals x y ≠ .signaling := by
  unfold onNumerals
  split
  · exact ofResult_ne_signaling _
  · split
    · nofun
    · nofun
    · next given =>
        -- Only a quotient is more than an infinity or no number, and then it is zero.
        cases op <;> simp only [onNonFinite, Option.map_eq_some_iff, reduceCtorEq, and_false,
          exists_false] at given
        unfold Numeral.divideNonFinite? at given
        split at given <;> cases given
    · nofun

theorem Arithmetic.quotient_ne_signaling (dividend : Numeral) (q : Payload) :
    quotient dividend q ≠ .ok .signaling := by
  unfold quotient
  split
  · exact fun same => onNumerals_ne_signaling _ _ _ (Except.ok.inj same)
  · nofun

theorem Arithmetic.onFloatsOrOthers_ne_signaling (op : Arithmetic) (p q : Payload) :
    op.onFloatsOrOthers p q ≠ .ok .signaling := by
  have others : op.onOthers p q ≠ .ok .signaling := by
    unfold onOthers undefined
    split
    · nofun
    · nofun
    · split_ifs <;> nofun
    · split
      · nofun
      · nofun
      · nofun
      · nofun
      · split_ifs <;> nofun
    · nofun
  intro same
  unfold onFloatsOrOthers at same
  split_ifs at same
  · obtain ⟨x, -, same⟩ := bind_eq_ok.mp same
    obtain ⟨y, -, same⟩ := bind_eq_ok.mp same
    split at same
    · have float := pure_eq_ok.mp same
      unfold onFloats at float
      split at float <;> cases float
    · exact others same
  · exact others same

theorem Arithmetic.apply_ne_signaling (op : Arithmetic) (p q : Payload) :
    op.apply p q ≠ .ok .signaling := by
  unfold apply
  split_ifs
  · nofun
  · nofun
  · nofun
  · unfold divideBy
    split
    · exact quotient_ne_signaling _ _
    · split
      · exact quotient_ne_signaling _ _
      · nofun
    · exact quotient_ne_signaling _ _
    · nofun
  · split
    · cases op with
      | divide => exact fun same => ofResult_ne_signaling _ (Except.ok.inj same)
      | _ => exact nofun
    · split
      · exact fun same => onNumerals_ne_signaling _ _ _ (Except.ok.inj same)
      · exact op.onFloatsOrOthers_ne_signaling p q

theorem Payload.negate_ne_signaling (p : Payload) : p.negate ≠ .ok .signaling := by
  cases p with
  | decimal d => exact fun same => Arithmetic.ofResult_ne_signaling _ (Except.ok.inj same)
  | irregular x => cases x <;> nofun
  | float x =>
      cases x with
      | finite => nofun
      | nonFinite x => cases x <;> nofun
  | _ => nofun

namespace Term

/-! ## Kinds of terms -/

section

variable (kinds : String → Option Kind)

inductive HasKind : Term → Kind → Prop
  | constant {v : Value} {k : Kind} (kind : v.kind = k) (fits : v.raw.Fits k) :
      HasKind (.constant v) k
  | field {name : String} {k : Kind} (declared : kinds name = some k) (some : k ≠ .null) :
      HasKind (.field name) k
  | not {t : Term} (operand : HasKind t .boolean) : HasKind (.not t) .boolean
  | negate {t : Term} (operand : HasKind t .number) : HasKind (.negate t) .number
  | both {l r : Term} (left : HasKind l .boolean) (right : HasKind r .boolean) :
      HasKind (.both l r) .boolean
  | either {l r : Term} (left : HasKind l .boolean) (right : HasKind r .boolean) :
      HasKind (.either l r) .boolean
  | state {test : StateTest} {t : Term} {k : Kind} (operand : HasKind t k)
      (measured : test.needsLength = true → k = .text ∨ k = .collection ∨ k = .null) :
      HasKind (.state test t) .boolean
  | like {pattern : List Char} {t : Term} {k : Kind} (operand : HasKind t k) :
      HasKind (.like pattern (k == .text) t) .boolean
  | compare {c : Comparison} {l r : Term} {k : Kind} (left : HasKind l k) (right : HasKind r k)
      (applies : c.AppliesTo k) : HasKind (.compare c l r) .boolean
  | arithmetic {op : Arithmetic} {l r : Term} (left : HasKind l .number)
      (right : HasKind r .number) : HasKind (.arithmetic op l r) .number
  | member {negated : Bool} {members : List Payload} {t : Term} {k : Kind} (operand : HasKind t k)
      (single : k ≠ .collection) (fit : ∀ m ∈ members, m.Fits k) :
      HasKind (.member negated members t) .boolean
  | anyMember {negated : Bool} {members : List Payload} {t : Term}
      (operand : HasKind t .collection) : HasKind (.anyMember negated members t) .boolean
  | between {negated : Bool} {t lower upper : Term} {k : Kind} (operand : HasKind t k)
      (low : HasKind lower k) (high : HasKind upper k) (ranged : k = .number ∨ k = .timestamp) :
      HasKind (.between negated t lower upper) .boolean

def KeepsKinds (read : String → Payload → Except Fault Payload) : Prop :=
  ∀ name k, kinds name = some k → ∀ record p, read name record = .ok p → p.FitsOrNull k

end

/-! ## What terms give -/

def isField : Term → Bool
  | field _ => true
  | _ => false

def isTest : Term → Bool
  | constant _ | field _ | negate _ | arithmetic _ _ _ => false
  | _ => true

section

variable {kinds : String → Option Kind} {read : String → Payload → Except Fault Payload}
  {record : Payload}

theorem eval_of_isTest {t : Term} (test : t.isTest = true) {p : Payload}
    (h : t.eval read record = .ok p) : ∃ b, p = .bool b := by
  cases t with
  | constant | field | negate | arithmetic => cases test
  | not operand | state test operand | like pattern isText operand
  | member negated members operand =>
      simp only [eval, bind_eq_ok, pure_eq_ok] at h
      grind
  | both left right | either left right | compare c left right | anyMember negated members operand
  | between negated operand lower upper =>
      obtain ⟨q, -, h⟩ := bind_eq_ok.mp h
      split_ifs at h <;> simp only [bind_eq_ok, pure_eq_ok] at h <;> grind

theorem HasKind.eval_fits {t : Term} {k : Kind} (h : HasKind kinds t k)
    (keeps : KeepsKinds kinds read) {p : Payload} (evaluated : t.eval read record = .ok p) :
    p.FitsOrNull k := by
  have tested : ∀ {t : Term} {p : Payload}, t.isTest = true → t.eval read record = .ok p →
      p.FitsOrNull .boolean := by
    intro t p test evaluated
    obtain ⟨b, rfl⟩ := eval_of_isTest test evaluated
    exact .inr (.bool b)
  induction h generalizing p with
  | constant _ fits =>
      cases evaluated
      exact .inr fits
  | field declared _ => exact keeps _ _ declared record p evaluated
  | negate _ ih =>
      obtain ⟨q, given, negated⟩ := bind_eq_ok.mp evaluated
      obtain ⟨q', defined, fits⟩ := Payload.negate_fits (ih given)
      rw [defined] at negated
      cases negated
      exact fits
  | @arithmetic op _ _ _ _ ihLeft ihRight =>
      obtain ⟨q, given, evaluated⟩ := bind_eq_ok.mp evaluated
      obtain ⟨q', given', evaluated⟩ := bind_eq_ok.mp evaluated
      rw [op.apply_eq (ihLeft given) (ihRight given')] at evaluated
      cases evaluated
      exact op.onNumbers_fits q q'
  | _ => exact tested rfl evaluated

theorem HasKind.eval_null {t : Term} (h : HasKind kinds t .null) (keeps : KeepsKinds kinds read)
    {p : Payload} (evaluated : t.eval read record = .ok p) : p = .null := by
  rcases h.eval_fits keeps evaluated with null | fits
  · exact null
  · exact fits.eq_null

theorem HasKind.eval_signaling {t : Term} {k : Kind} (h : HasKind kinds t k)
    (evaluated : t.eval read record = .ok .signaling) :
    ∃ name, read name record = .ok .signaling := by
  cases h with
  | constant _ fits =>
      have signals := fits.isSignaling
      rw [Except.ok.inj evaluated] at signals
      cases signals
  | field => exact ⟨_, evaluated⟩
  | negate =>
      obtain ⟨p, -, negated⟩ := bind_eq_ok.mp evaluated
      exact absurd negated p.negate_ne_signaling
  | arithmetic =>
      obtain ⟨p, -, evaluated⟩ := bind_eq_ok.mp evaluated
      obtain ⟨q, -, evaluated⟩ := bind_eq_ok.mp evaluated
      exact absurd evaluated (Arithmetic.apply_ne_signaling _ p q)
  | _ =>
      obtain ⟨b, same⟩ := eval_of_isTest rfl evaluated
      cases same

theorem HasKind.eval_bool {t : Term} (h : HasKind kinds t .boolean)
    (noField : t.isField = false) {p : Payload} (evaluated : t.eval read record = .ok p) :
    p ≠ .null := by
  cases t with
  | field name => cases noField
  | constant v =>
      cases evaluated
      cases h with
      | constant _ fits =>
          intro null
          rw [null] at fits
          cases fits
  | negate _ | arithmetic _ _ _ => cases h
  | _ =>
      obtain ⟨b, rfl⟩ := eval_of_isTest rfl evaluated
      exact Payload.noConfusion

end

/-! ## What operators are applied to -/

section

variable (read : String → Payload → Except Fault Payload) (record : Payload)

def Gives (k : Kind) (t : Term) : Prop := ∀ p, t.eval read record = .ok p → p.FitsOrNull k

/-- On a record, every operator in a term is applied to payloads of one kind that it is defined for,
or to Null. -/
def OperandsFit : Term → Prop
  | constant _ | field _ => True
  | not t => OperandsFit t ∧ Gives read record .boolean t
  | negate t => OperandsFit t ∧ Gives read record .number t
  | both l r | either l r =>
      OperandsFit l ∧ OperandsFit r ∧ Gives read record .boolean l ∧ Gives read record .boolean r
  | state test t =>
      OperandsFit t ∧
        (test.needsLength = true → Gives read record .text t ∨ Gives read record .collection t)
  | like _ isText t => OperandsFit t ∧ (isText = true → Gives read record .text t)
  | compare c l r =>
      OperandsFit l ∧ OperandsFit r ∧
        ∃ k, c.AppliesTo k ∧ Gives read record k l ∧ Gives read record k r
  | arithmetic _ l r =>
      OperandsFit l ∧ OperandsFit r ∧ Gives read record .number l ∧ Gives read record .number r
  | member _ members t =>
      OperandsFit t ∧ ∃ k, k ≠ .collection ∧ Gives read record k t ∧ ∀ m ∈ members, m.Fits k
  | anyMember _ _ t => OperandsFit t ∧ Gives read record .collection t
  | between _ t lower upper =>
      OperandsFit t ∧ OperandsFit lower ∧ OperandsFit upper ∧
        ∃ k, (k = .number ∨ k = .timestamp) ∧
          Gives read record k t ∧ Gives read record k lower ∧ Gives read record k upper

variable {read record} {kinds : String → Option Kind}

theorem HasKind.gives {t : Term} {k : Kind} (h : HasKind kinds t k)
    (keeps : KeepsKinds kinds read) : Gives read record k t :=
  fun _ evaluated => h.eval_fits keeps evaluated

theorem HasKind.operandsFit {t : Term} {k : Kind} (h : HasKind kinds t k)
    (keeps : KeepsKinds kinds read) : t.OperandsFit read record := by
  induction h with
  | constant | field => trivial
  | not operand ih | negate operand ih => exact ⟨ih, operand.gives keeps⟩
  | both left right ihLeft ihRight | either left right ihLeft ihRight
  | arithmetic left right ihLeft ihRight =>
      exact ⟨ihLeft, ihRight, left.gives keeps, right.gives keeps⟩
  | state operand measured ih =>
      refine ⟨ih, fun needed => ?_⟩
      rcases measured needed with rfl | rfl | rfl
      · exact .inl (operand.gives keeps)
      · exact .inr (operand.gives keeps)
      · exact .inl fun p evaluated => .inl (operand.eval_null keeps evaluated)
  | like operand ih =>
      refine ⟨ih, fun text => ?_⟩
      obtain rfl := beq_iff_eq.mp text
      exact operand.gives keeps
  | compare left right applies ihLeft ihRight =>
      exact ⟨ihLeft, ihRight, _, applies, left.gives keeps, right.gives keeps⟩
  | member operand single fit ih => exact ⟨ih, _, single, operand.gives keeps, fit⟩
  | anyMember operand ih => exact ⟨ih, operand.gives keeps⟩
  | between operand low high ranged ih ihLow ihHigh =>
      exact ⟨ih, ihLow, ihHigh, _, ranged, operand.gives keeps, low.gives keeps, high.gives keeps⟩

end

end Term

end RecordFilter
