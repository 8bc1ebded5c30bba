import RecordFilter.Proofs.LinearOrder
import RecordFilter.Proofs.Membership

/-!
# Elements of collections

A collection is tested for constants by looking up each of its elements, brought to the kind it has
by itself, in one set of the payloads of all constants.  Payloads of different kinds lie side by
side in this set.  Those of one kind are equal if their values are, and the set holds a timestamp
for each text that reads as one.  But a truth value equals the number one or zero, and so it is
found where the number was written, and the other way round.
-/

namespace RecordFilter

/-! ## Equality of a constant and an element -/

namespace Payload

/-- Two payloads of one kind have the same value.  A collection that no set can hold, such as a
tuple of lists, is not looked for. -/
inductive EqualIn : Kind → Payload → Payload → Prop
  | number {p q : Payload} {d e : Decimal} (left : Arithmetic.number? p = some d)
      (right : Arithmetic.number? q = some e) (value : d.toRat = e.toRat) : EqualIn .number p q
  | text (s : String) : EqualIn .text (.text s) (.text s)
  | timestamp {m n : Moment} (instant : m.ticks = n.ticks) :
      EqualIn .timestamp (.ofMoment m) (.ofMoment n)
  | boolean (b : Bool) : EqualIn .boolean (.bool b) (.bool b)
  | collection {p q : Payload} (left : p.Fits .collection) (right : q.Fits .collection)
      (findable : q.isFindable = true) (items : p.same q = true) : EqualIn .collection p q

inductive CountsAs : Payload → Payload → Prop
  | truth {b : Bool} {q : Payload} {e : Decimal} (number : Arithmetic.number? q = some e)
      (value : e.toRat = if b then 1 else 0) : CountsAs (.bool b) q
  | number {p : Payload} {d : Decimal} {b : Bool} (number : Arithmetic.number? p = some d)
      (value : d.toRat = if b then 1 else 0) : CountsAs p (.bool b)

def Settled (p : Payload) : Prop := p.kind? = none ∨ ∃ k, p.Fits k

theorem normalizeElement_settled {p q : Payload} (h : p.normalizeElement = .ok q) : q.Settled := by
  unfold normalizeElement at h
  split at h
  · next kind =>
      cases h
      exact .inl kind
  · next kind =>
      cases h
      cases p <;> first | exact .inr ⟨_, .null⟩ | cases kind
  · next kind =>
      cases h
      refine .inr ⟨.collection, ?_⟩
      cases p <;> first | constructor | cases kind
  · next k _ _ kind =>
      rcases normalize_fits h with rfl | fits
      · exact .inr ⟨.null, .null⟩
      · exact .inr ⟨k, fits⟩

/-! ### Numbers and truth values -/

theorem kind?_of_numeral? {p : Payload} {x : Numeral} (h : p.numeral? = some x) :
    p.kind? ≠ none := by
  cases p with
  | record | mapping | object | foreign | value => cases h
  | _ => simp [kind?]

theorem Settled.of_numeral? {p : Payload} (settled : p.Settled) {x : Numeral}
    (h : p.numeral? = some x) :
    (∃ b, p = .bool b) ∨ ∃ d, Arithmetic.number? p = some d := by
  rcases settled with none | ⟨k, fits⟩
  · exact absurd none (kind?_of_numeral? h)
  · cases fits with
    | bool b => exact .inl ⟨b, rfl⟩
    | int | decimal => exact .inr ⟨_, rfl⟩
    | _ => cases h

theorem same_numerals_iff {p q : Payload} {d e : Decimal} (left : p.numeral? = some (.finite d))
    (right : q.numeral? = some (.finite e)) : p.same q = true ↔ d.toRat = e.toRat := by
  rw [same_eq_sameNumerals left, sameNumerals, left, right, ← Decimal.sameValue_iff]
  simp [Numeral.same, Numeral.compare?, Decimal.sameValue]

theorem toRat_ofBool (b : Bool) :
    (Decimal.ofInt (if b then 1 else 0)).toRat = if b then 1 else 0 := by
  cases b <;> simp [Decimal.ofInt, Decimal.toRat, Decimal.magnitude]

theorem same_of_numeral? {p element : Payload} {d : Decimal} (left : p.numeral? = some (.finite d))
    (settled : element.Settled) (same : p.same element = true) :
    (∃ b, element = .bool b ∧ d.toRat = if b then 1 else 0) ∨
      ∃ e, Arithmetic.number? element = some e ∧ d.toRat = e.toRat := by
  have numeral : ∃ x, element.numeral? = some x := by
    rw [same_eq_sameNumerals left, sameNumerals, left] at same
    cases given : element.numeral? with
    | none => simp [given] at same
    | some x => exact ⟨x, rfl⟩
  obtain ⟨x, numeral⟩ := numeral
  rcases settled.of_numeral? numeral with ⟨b, rfl⟩ | ⟨e, number⟩
  · rw [same_numerals_iff left rfl, toRat_ofBool] at same
    exact .inl ⟨b, rfl, same⟩
  · exact .inr ⟨e, number, (same_numerals_iff left (number?_numeral? number)).mp same⟩

/-! ### All kinds -/

theorem EqualIn.same {k : Kind} {p q : Payload} (h : EqualIn k p q) : p.same q = true := by
  cases h with
  | number left right value =>
      exact (same_numerals_iff (number?_numeral? left) (number?_numeral? right)).mpr value
  | text s => simp [Payload.same]
  | timestamp instant => simp [Payload.same, ofMoment, Timestamp.same, Timestamp.instant, instant]
  | boolean b => exact (same_numerals_iff rfl rfl).mpr rfl
  | collection _ _ _ items => exact items

theorem isFindable_of_number? {p : Payload} {d : Decimal} (h : Arithmetic.number? p = some d) :
    p.isFindable = true := by
  cases p with
  | int | decimal => rfl
  | _ => cases h

theorem EqualIn.isFindable {k : Kind} {p q : Payload} (h : EqualIn k p q) :
    q.isFindable = true := by
  cases h with
  | number left right value => exact isFindable_of_number? right
  | collection _ _ findable _ => exact findable
  | _ => rfl

theorem CountsAs.isFindable {p q : Payload} (h : p.CountsAs q) : q.isFindable = true := by
  cases h with
  | truth number value => exact isFindable_of_number? number
  | number number value => rfl

theorem CountsAs.same {p q : Payload} (h : p.CountsAs q) : p.same q = true := by
  cases h with
  | @truth b _ _ number value =>
      refine (same_numerals_iff rfl (number?_numeral? number)).mpr ?_
      rw [toRat_ofBool, value]
  | @number _ _ b number value =>
      refine (same_numerals_iff (number?_numeral? number) rfl).mpr ?_
      rw [toRat_ofBool, value]

theorem same_iff {p element : Payload} {k : Kind} (fits : p.Fits k) (some : k ≠ .null)
    (settled : element.Settled) :
    p.same element = true ∧ element.isFindable = true ↔
      EqualIn k p element ∨ p.CountsAs element := by
  refine ⟨fun ⟨same, findable⟩ => ?_, fun h => ?_⟩
  swap
  · rcases h with equal | counts
    · exact ⟨equal.same, equal.isFindable⟩
    · exact ⟨counts.same, counts.isFindable⟩
  cases fits with
  | null => exact absurd rfl some
  | bool b =>
      rcases same_of_numeral? rfl settled same with ⟨b', rfl, value⟩ | ⟨e, number, value⟩
      · rw [toRat_ofBool] at value
        have equal : b = b' := by cases b <;> cases b' <;> simp at value ⊢
        exact .inl (equal ▸ .boolean b)
      · rw [toRat_ofBool] at value
        exact .inr (.truth number value.symm)
  | int | decimal =>
      rcases same_of_numeral? rfl settled same with ⟨b, rfl, value⟩ | ⟨e, number, value⟩
      · exact .inr (.number rfl value)
      · exact .inl (.number rfl number value)
  | text s =>
      cases element with
      | text t =>
          obtain rfl : s = t := by simpa [Payload.same] using same
          exact .inl (.text s)
      | _ => simp [Payload.same, numeral?] at same
  | moment m =>
      cases element with
      | timestamp u =>
          rcases settled with none | ⟨k, fits⟩
          · cases none
          · cases fits with
            | moment n =>
                refine .inl (.timestamp ?_)
                simpa [Payload.same, ofMoment, Timestamp.same, Timestamp.instant] using same
      | _ => simp [Payload.same, ofMoment, numeral?] at same
  | list | tuple | set =>
      have right : element.Fits .collection := by
        cases element with
        | list | tuple | set => constructor
        | _ => simp [Payload.same, numeral?] at same
      refine .inl (.collection ?_ right findable same)
      constructor

theorem isMember_iff {members : List Payload} {p : Payload} :
    p.isMember members = true ↔
      ∃ m ∈ members, m.same p = true ∧ p.isFindable = true := by
  rw [isMember, Bool.and_eq_true, List.any_eq_true]
  constructor
  · rintro ⟨findable, m, member, same⟩
    exact ⟨m, member, same, findable⟩
  · rintro ⟨m, member, same, findable⟩
    exact ⟨findable, m, member, same⟩

/-- If a collection has been searched, an element was found exactly if one of the items, brought to
its kind, is a member of the set. -/
theorem anyIsMember_iff {members items : List Payload} {b : Bool}
    (h : anyIsMember members items = .ok b) :
    b = true ↔ ∃ item ∈ items, ∃ element, item.normalizeElement = .ok element ∧
      element.isMember members = true := by
  induction items with
  | nil =>
      cases h
      simp
  | cons item items ih =>
      obtain ⟨element, normalized, h⟩ := bind_eq_ok.mp h
      rw [List.exists_mem_cons_iff]
      split_ifs at h with member
      · rw [← pure_eq_ok.mp h]
        exact iff_of_true rfl (.inl ⟨element, normalized, member⟩)
      · rw [ih h, or_iff_right]
        rintro ⟨element', normalized', member'⟩
        cases normalized.symm.trans normalized'
        exact member member'

end Payload

/-! ## Constants -/

namespace Value

def ReadsAs (v : Value) (m : Moment) : Prop :=
  ∃ s, v.kind = .text ∧ v.raw = .text s ∧ readMoment s = .ok m

/-- An element has the kind of a constant and the same value, or it is the timestamp that the
constant reads as. -/
def SameAs (v : Value) (element : Payload) : Prop :=
  Payload.EqualIn v.kind v.raw element ∨
    ∃ m, v.ReadsAs m ∧ Payload.EqualIn .timestamp (.ofMoment m) element

theorem readsAs_text {s : String} {m : Moment} :
    ReadsAs ⟨.text, .text s⟩ m ↔ readMoment s = .ok m := by
  simp [ReadsAs]

theorem mem_elementPayloads {v : Value} {payloads : List Payload}
    (h : elementPayloads v = .ok payloads) (q : Payload) :
    q ∈ payloads ↔ q = v.raw ∨ ∃ m, v.ReadsAs m ∧ q = .ofMoment m := by
  obtain ⟨kind, raw⟩ := v
  unfold elementPayloads at h
  split at h
  · next s given givenRaw =>
      dsimp only at given givenRaw
      subst given givenRaw
      simp only [readsAs_text]
      split at h
      · next m read =>
          cases h
          simp [read]
      · next reason read =>
          cases h
          simp [read]
      · cases h
  · next other =>
      cases h
      have unread (m : Moment) : ¬ ReadsAs ⟨kind, raw⟩ m := by
        rintro ⟨s, isText, rawText, -⟩
        exact other s isText rawText
      simp [unread]

theorem found_iff {v : Value} {element : Payload} (fits : v.raw.Fits v.kind)
    (some : v.kind ≠ .null) (settled : element.Settled) :
    (∃ q, (q = v.raw ∨ ∃ m, v.ReadsAs m ∧ q = .ofMoment m) ∧
        q.same element = true ∧ element.isFindable = true) ↔
      v.SameAs element ∨ v.raw.CountsAs element := by
  have moment (m : Moment) :
      (Payload.ofMoment m).same element = true ∧ element.isFindable = true ↔
        Payload.EqualIn .timestamp (.ofMoment m) element := by
    rw [Payload.same_iff (.moment m) nofun settled, or_iff_left]
    intro counts
    cases counts with
    | number number => cases number
  constructor
  · rintro ⟨q, rfl | ⟨m, reads, rfl⟩, same⟩
    · rcases (Payload.same_iff fits some settled).mp same with equal | counts
      · exact .inl (.inl equal)
      · exact .inr counts
    · exact .inl (.inr ⟨m, reads, (moment m).mp same⟩)
  · rintro ((equal | ⟨m, reads, equal⟩) | counts)
    · exact ⟨v.raw, .inl rfl, equal.same, equal.isFindable⟩
    · exact ⟨.ofMoment m, .inr ⟨m, reads, rfl⟩, equal.same, equal.isFindable⟩
    · exact ⟨v.raw, .inl rfl, counts.same, counts.isFindable⟩

end Value

def FoldsTo (r : Resolver) (e : Expr) (v : Value) : Prop :=
  ∃ node, compileExpr r e = .ok node ∧ node.constant? = some v

theorem FoldsTo.unique {r : Resolver} {e : Expr} {v w : Value} (h : FoldsTo r e v)
    (h' : FoldsTo r e w) : v = w := by
  obtain ⟨node, compiled, constant⟩ := h
  obtain ⟨node', compiled', constant'⟩ := h'
  cases compiled.symm.trans compiled'
  exact Option.some.inj (constant.symm.trans constant')

theorem FoldsTo.fits {r : Resolver} {e : Expr} {v : Value} (h : FoldsTo r e v)
    (constants : e.ConstantsFit) : v.raw.Fits v.kind := by
  obtain ⟨node, compiled, constant⟩ := h
  obtain ⟨kind, fits⟩ := (compileExpr_sound constants compiled).constant
    (Node.constant?_eq_some.mp constant)
  rwa [kind]

/-! ## Sets of payloads -/

section

variable {r : Resolver} {left : Node} (collection : left.kind = .collection)

include collection

theorem compileMember_collection {node : Node} {value : Expr} {payloads : List Payload}
    (compiled : compileExpr r value = .ok node)
    (h : compileMember false left node value = .ok payloads) :
    ∃ v, FoldsTo r value v ∧ v.kind ≠ .null ∧ elementPayloads v = .ok payloads := by
  obtain ⟨v, constant, some, alternatives, -⟩ := compileMember_eq_ok h
  rcases alternatives with ⟨-, listed⟩ | ⟨single, -⟩
  · refine ⟨v, ⟨node, compiled, Node.constant?_eq_some.mpr constant⟩, ?_, listed⟩
    simpa [Value.isNull] using some
  · exact absurd collection single

theorem compileMembers_collection {values : List Expr} {members : List Payload}
    (fits : Expr.AllConstantsFit values)
    (h : compileMembers r false left values = .ok members) {element : Payload}
    (settled : element.Settled) :
    element.isMember members = true ↔
      ∃ value ∈ values, ∃ v, FoldsTo r value v ∧
        (v.SameAs element ∨ v.raw.CountsAs element) := by
  rw [Payload.isMember_iff]
  induction values generalizing members with
  | nil =>
      obtain rfl : [] = members := by simpa [compileMembers] using h
      simp
  | cons value values ih =>
      obtain ⟨node, payloads, rest, compiled, member, others, rfl⟩ := compileMembers_cons_eq_ok h
      obtain ⟨v, folds, some, listed⟩ := compileMember_collection collection compiled member
      have here := v.found_iff (folds.fits fits.cons.1) some settled
      simp only [← v.mem_elementPayloads listed] at here
      have only : (∃ w, FoldsTo r value w ∧ (w.SameAs element ∨ w.raw.CountsAs element)) ↔
          v.SameAs element ∨ v.raw.CountsAs element := by
        constructor
        · rintro ⟨w, folds', same⟩
          cases folds.unique folds'
          exact same
        · intro same
          exact ⟨v, folds, same⟩
      rw [List.exists_mem_cons_iff, ← ih fits.cons.2 others, only, ← here]
      simp only [List.mem_append, or_and_right, exists_or]

end

theorem Term.eval_anyMember_iff {read : String → Payload → Except Fault Payload}
    {record : Payload} {members : List Payload} {t : Term} {v : Payload}
    (h : (anyMember false members t).eval read record = .ok v) :
    v.isTrue = true ↔ ∃ y items, t.eval read record = .ok y ∧ y.members = .ok items ∧
      ∃ item ∈ items, ∃ element, item.normalizeElement = .ok element ∧
        element.isMember members = true := by
  obtain ⟨y, given, h⟩ := bind_eq_ok.mp h
  split_ifs at h with null
  · rw [← pure_eq_ok.mp h]
    rw [Payload.isNull_iff.mp null] at given
    refine iff_of_false nofun ?_
    rintro ⟨y, items, given', listed, -⟩
    cases given.symm.trans given'
    cases listed
  obtain ⟨items, listed, h⟩ := bind_eq_ok.mp h
  obtain ⟨found, searched, h⟩ := bind_eq_ok.mp h
  rw [← pure_eq_ok.mp h, Bool.bne_false]
  change found = true ↔ _
  rw [Payload.anyIsMember_iff searched]
  constructor
  · intro found
    exact ⟨y, items, given, listed, found⟩
  · rintro ⟨y', items', given', listed', found⟩
    cases given.symm.trans given'
    cases listed.symm.trans listed'
    exact found

/-! ## Filters -/

/-- An accepted test of a collection field looks each item up in the payloads of the values. -/
theorem compileTo_anyMember {r : Resolver} {text : Option String} {name declared : String}
    {first : Expr} {others : List Expr} {p : Predicate}
    (known : r.canonical? name = some declared) (collection : r.kind? declared = some .collection)
    (accepted : compileTo r text (.among false (.field name) first others) = .ok p) :
    ∃ members, compileMembers r false ⟨.collection, .field declared⟩ (first :: others) =
        .ok members ∧
      ∀ record, p.accepts record =
        ((Term.anyMember false members (.field declared)).eval r.read record).map
          Payload.isTrue := by
  obtain ⟨node, compiled, -, rfl⟩ := compileTo_eq_ok accepted
  obtain ⟨left, firstNode, payloads, rest, compiledLeft, -, compiledFirst, member, members, h⟩ :=
    compileAmongExpr_eq_ok compiled
  rw [compileExpr_field] at compiledLeft
  obtain ⟨declared', kind, known', found, -, rfl⟩ := compileField_eq_ok compiledLeft
  cases known.symm.trans known'
  cases collection.symm.trans found
  refine ⟨payloads ++ rest, ?_, fun record => ?_⟩
  · rw [compileMembers, compiledFirst, ok_bind, member, ok_bind, members]
    rfl
  · have opened : compileAmong false ⟨.collection, .field declared⟩ (payloads ++ rest) =
        .ok (booleanNode (.anyMember false (payloads ++ rest) (.field declared))) := rfl
    cases opened.symm.trans h
    rfl

/-- A collection field is accepted for a list of constants if one of its items, brought to its own
kind, is the same as one of the constants: it has the kind of the constant and the same value, or is
the timestamp that the constant reads as.  Beyond that a truth value is accepted for the number one
or zero, and such a number for a truth value. -/
theorem compileTo_collection_iff (r : Resolver) {text : Option String} {name declared : String}
    {first : Expr} {others : List Expr} {p : Predicate} {record : Payload} {b : Bool}
    (known : r.canonical? name = some declared) (collection : r.kind? declared = some .collection)
    (fits : Expr.AllConstantsFit (first :: others))
    (accepted : compileTo r text (.among false (.field name) first others) = .ok p)
    (answer : p.accepts record = .ok b) :
    b = true ↔ ∃ y items, r.read declared record = .ok y ∧ y.members = .ok items ∧
      ∃ item ∈ items, ∃ element, item.normalizeElement = .ok element ∧
        ∃ value ∈ first :: others, ∃ v, FoldsTo r value v ∧
          (v.SameAs element ∨ v.raw.CountsAs element) := by
  obtain ⟨members, compiled, accepts⟩ := compileTo_anyMember known collection accepted
  rw [accepts] at answer
  obtain ⟨v, evaluated, rfl⟩ := map_eq_ok.mp answer
  have each {item element : Payload} (normalized : item.normalizeElement = .ok element) :
      element.isMember members = true ↔
        ∃ value ∈ first :: others, ∃ v, FoldsTo r value v ∧
          (v.SameAs element ∨ v.raw.CountsAs element) :=
    compileMembers_collection rfl fits compiled (Payload.normalizeElement_settled normalized)
  rw [Term.eval_anyMember_iff evaluated]
  constructor
  · rintro ⟨y, items, given, listed, item, mem, element, normalized, member⟩
    exact ⟨y, items, given, listed, item, mem, element, normalized, (each normalized).mp member⟩
  · rintro ⟨y, items, given, listed, item, mem, element, normalized, matched⟩
    exact ⟨y, items, given, listed, item, mem, element, normalized, (each normalized).mpr matched⟩

def daySchema : Schema := ⟨[("Days", .collection)]⟩

def onMayDay : Expr := .among false (.field "days") (.const ⟨.text, .text "2024-05-01"⟩) []

def mayDay : Date := ⟨2024, 5, 1⟩

def onMayDayPredicate : Predicate where
  term := .anyMember false [.text "2024-05-01", .ofMoment (.midnight mayDay)] (.field "Days")
  source := onMayDay
  expression := none
  resolver := daySchema.resolver .byName

def dayRecord : Payload := .record [("Days", .list [.null, .int 1, .date mayDay])]

theorem compileTo_collection_iff_mayDay :
    (daySchema.resolver .byName).canonical? "days" = some "Days" ∧
    (daySchema.resolver .byName).kind? "Days" = some .collection ∧
    Expr.AllConstantsFit [.const ⟨.text, .text "2024-05-01"⟩] ∧
    compileTo (daySchema.resolver .byName) none onMayDay = .ok onMayDayPredicate ∧
    onMayDayPredicate.accepts dayRecord = .ok true ∧
    ∃ y items, daySchema.read .byName "Days" dayRecord = .ok y ∧ y.members = .ok items ∧
      ∃ item ∈ items, ∃ element, item.normalizeElement = .ok element ∧
        ∃ value ∈ [Expr.const ⟨.text, .text "2024-05-01"⟩], ∃ v,
          FoldsTo (daySchema.resolver .byName) value v ∧
            (v.SameAs element ∨ v.raw.CountsAs element) := by
  have known : (daySchema.resolver .byName).canonical? "days" = some "Days" := by decide +kernel
  have collection : (daySchema.resolver .byName).kind? "Days" = some .collection := rfl
  have fits : Expr.AllConstantsFit [.const ⟨.text, .text "2024-05-01"⟩] := by
    simpa [Expr.AllConstantsFit, Expr.nodes, Expr.nodesOf] using Payload.Fits.text "2024-05-01"
  have accepted : compileTo (daySchema.resolver .byName) none onMayDay =
      .ok onMayDayPredicate := rfl
  have holds : onMayDayPredicate.accepts dayRecord = .ok true := rfl
  exact ⟨known, collection, fits, accepted, holds,
    (compileTo_collection_iff (daySchema.resolver .byName) known collection fits accepted
      holds).mp rfl⟩

def flagSchema : Schema := ⟨[("Flags", .collection)]⟩

def one : Value := ⟨.number, .decimal (.ofInt 1)⟩

def flagIsOne : Expr := .among false (.field "Flags") (.const one) []

def flagIsOnePredicate : Predicate where
  term := .anyMember false [one.raw] (.field "Flags")
  source := flagIsOne
  expression := none
  resolver := flagSchema.resolver .byName

theorem compileTo_collection_crosses_kinds :
    compileTo (flagSchema.resolver .byName) none flagIsOne = .ok flagIsOnePredicate ∧
    flagIsOnePredicate.accepts (.record [("Flags", .list [.bool true])]) = .ok true ∧
    ∀ element, (Payload.bool true).normalizeElement = .ok element → ¬ one.SameAs element := by
  refine ⟨rfl, rfl, fun element normalized => ?_⟩
  cases normalized
  rintro (equal | ⟨m, ⟨s, text, -⟩, -⟩)
  · cases equal with
    | number _ right => cases right
  · cases text

end RecordFilter
