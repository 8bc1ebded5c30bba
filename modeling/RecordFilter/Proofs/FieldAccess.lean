import RecordFilter.Proofs.NodeInvariants
import RecordFilter.Proofs.Definedness

/-!
# Two ways to read a field

A resolver reads a field either directly or as a value whose payload is then taken out.  With a
schema both ways agree: they go by the declared name that is meant, they fail alike, and the value
is Null exactly if the payload is, or else holds the payload and the declared kind.  Only
a collection comes as a tuple in a value, and no operator can tell its members in a tuple from the
same members in another collection.  So filters may use either way.
-/

namespace RecordFilter

/-! ## Values of fields -/

namespace Value

/-- How a value carries what was read from a field of a kind. -/
inductive Carries (k : Kind) : Payload → Value → Prop
  | null : Carries k .null .null
  | single {p : Payload} (fits : p.Fits k) (some : k ≠ .null) (single : k ≠ .collection) :
      Carries k p ⟨k, p⟩
  | collection {p : Payload} {items : List Payload} (kind : k = .collection)
      (listed : p.items? = some items) : Carries k p ⟨k, .tuple items⟩

theorem Carries.isNull {k : Kind} {p : Payload} {v : Value} (h : Carries k p v) :
    v.isNull = p.isNull := by
  cases h with
  | null => rfl
  | single fits some =>
      rw [fits.isNull some]
      simp [Value.isNull, some]
  | collection kind listed =>
      subst kind
      cases p <;> first | rfl | cases listed

end Value

namespace Schema

variable {s : Schema} {lookup : Lookup} {name declared : String} {record : Payload}

theorem read_canonical (known : s.canonical? name = some declared) :
    s.read lookup name record = s.read lookup declared record := by
  simp only [read, known, canonical?_idem known]

theorem kind?_canonical (known : s.canonical? name = some declared) :
    s.kind? name = s.kind? declared := by
  simp only [kind?, known, canonical?_idem known]

theorem isSome_kind? (known : s.canonical? name = some declared) :
    (s.kind? name).isSome = true := by
  rw [kind?, known]
  exact isSome_declared? known

theorem value_canonical (known : s.canonical? name = some declared) :
    s.value lookup name record = s.value lookup declared record := by
  simp only [value, kind?_canonical known, read_canonical known]

theorem read_of_unknown (unknown : s.kind? name = none) :
    s.read lookup name record = .ok .null := by
  unfold read
  split
  · rfl
  · next declared known =>
      have undeclared : s.declared? declared = none := by simpa [kind?, known] using unknown
      rw [undeclared]

theorem value_carries (s : Schema) (lookup : Lookup) (name : String) (record : Payload) :
    (∃ f, s.read lookup name record = .error f ∧ s.value lookup name record = .error f) ∨
    ∃ p v, s.read lookup name record = .ok p ∧ s.value lookup name record = .ok v ∧
      v.Carries ((s.kind? name).getD .null) p := by
  unfold value
  cases known : s.kind? name with
  | none => exact .inr ⟨.null, .null, read_of_unknown known, rfl, .null⟩
  | some k =>
      simp only [Option.getD_some]
      cases given : s.read lookup name record with
      | error f => exact .inl ⟨f, rfl, rfl⟩
      | ok p =>
          rw [ok_bind]
          refine .inr ⟨p, ?_⟩
          rcases s.keepsKinds lookup name k known record p given with rfl | fits
          · exact ⟨.null, rfl, rfl, .null⟩
          by_cases collection : k = .collection
          · subst collection
            obtain ⟨items, listed, members⟩ := fits.members_eq
            refine ⟨⟨.collection, .tuple items⟩, rfl, ?_, .collection rfl listed⟩
            simp [fits.isNull, Value.ofCollection, members, Except.map]
          by_cases null : k = .null
          · subst null
            rw [fits.eq_null]
            exact ⟨.null, rfl, rfl, .null⟩
          · refine ⟨⟨k, p⟩, rfl, ?_, .single fits null collection⟩
            simp [fits.isNull null, collection]

end Schema

/-! ## Resolvers that read values -/

def Resolver.readingValues (r : Resolver) : Resolver :=
  { r with read := fun name record => (r.value name record).map (·.raw) }

theorem compileField_congr {r r' : Resolver} (names : r'.canonical? = r.canonical?)
    (kinds : r'.kind? = r.kind?) (name : String) : compileField r' name = compileField r name := by
  rw [compileField, compileField, names, kinds]

mutual

theorem compileExpr_congr {r r' : Resolver} (names : r'.canonical? = r.canonical?)
    (kinds : r'.kind? = r.kind?) (e : Expr) : compileExpr r' e = compileExpr r e := by
  match e with
  | .const v => rw [compileExpr_const, compileExpr_const]
  | .field name => rw [compileExpr_field, compileExpr_field, compileField_congr names kinds]
  | .unary op operand => simp only [compileExpr, compileExpr_congr names kinds operand]
  | .binary op left right =>
      simp only [compileExpr, compileExpr_congr names kinds left,
        compileExpr_congr names kinds right]
  | .state test operand => simp only [compileExpr, compileExpr_congr names kinds operand]
  | .among negated operand first others =>
      simp only [compileExpr, compileExpr_congr names kinds operand,
        compileExpr_congr names kinds first, compileMembers_congr names kinds negated _ others]
  | .between negated operand lower upper =>
      simp only [compileExpr, compileExpr_congr names kinds operand,
        compileExpr_congr names kinds lower, compileExpr_congr names kinds upper]
  | .incomplete op left => simp only [compileExpr, compileExpr_congr names kinds left]
  | .unknown name => simp only [compileExpr]

theorem compileMembers_congr {r r' : Resolver} (names : r'.canonical? = r.canonical?)
    (kinds : r'.kind? = r.kind?) (negated : Bool) (left : Node) (values : List Expr) :
    compileMembers r' negated left values = compileMembers r negated left values := by
  match values with
  | [] => rfl
  | value :: values =>
      simp only [compileMembers, compileExpr_congr names kinds value,
        compileMembers_congr names kinds negated left values]

end

/-- A filter is accepted or refused, for the same reason, whichever way its fields are read, and
compiled to the same term. -/
theorem compileTo_readingValues (r : Resolver) (text : Option String) (e : Expr) :
    compileTo r.readingValues text e =
      (compileTo r text e).map fun p => { p with resolver := r.readingValues } := by
  have compiled : compileExpr r.readingValues e = compileExpr r e := by
    apply compileExpr_congr <;> rfl
  have same : compileFilter r.readingValues e = compileFilter r e := by
    rw [compileFilter, compileFilter, compiled]
  rw [compileTo, compileTo, same]
  cases compileFilter r e <;> rfl

/-! ## Collections in values -/

namespace Payload

variable {p : Payload} {items : List Payload}

theorem items?_eq_some :
    p.items? = some items ↔
      p = list items ∨ p = tuple items ∨ ∃ isFrozen, p = set isFrozen items := by
  cases p <;> simp [items?]

theorem isNull_of_items? (h : p.items? = some items) : p.isNull = false := by
  rcases items?_eq_some.mp h with rfl | rfl | ⟨_, rfl⟩ <;> rfl

theorem members_of_items? (h : p.items? = some items) : p.members = (tuple items).members := by
  rcases items?_eq_some.mp h with rfl | rfl | ⟨_, rfl⟩ <;> rfl

theorem testState_of_items? (h : p.items? = some items) (test : StateTest) :
    p.testState test = (tuple items).testState test := by
  rcases items?_eq_some.mp h with rfl | rfl | ⟨_, rfl⟩ <;> cases test <;> rfl

theorem isLike_of_items? (h : p.items? = some items) (pattern : List Char) :
    p.isLike pattern false = (tuple items).isLike pattern false := by
  rcases items?_eq_some.mp h with rfl | rfl | ⟨_, rfl⟩ <;> rfl

end Payload

def ReadAlike (k : Kind) : Except Fault Payload → Except Fault Payload → Prop :=
  UpTo fun p q => k = .collection ∧ ∃ items, p.items? = some items ∧ q = .tuple items

theorem ReadAlike.eq {k : Kind} {x y : Except Fault Payload} (h : ReadAlike k x y)
    (single : k ≠ .collection) : x = y :=
  UpTo.eq h fun _ _ related => single related.1

theorem ReadAlike.bind_eq {k : Kind} {x y : Except Fault Payload} (h : ReadAlike k x y)
    {next : Payload → Except Fault Payload}
    (step : ∀ p items, k = .collection → p.items? = some items → next p = next (.tuple items)) :
    (x >>= next) = (y >>= next) := by
  refine UpTo.bind_eq h ?_
  rintro p _ ⟨kind, items, listed, rfl⟩
  exact step p items kind listed

theorem Value.Carries.readAlike {k : Kind} {p : Payload} {v : Value} (h : v.Carries k p) :
    ReadAlike k (.ok p) (.ok v.raw) := by
  cases h with
  | null | single => exact .same _
  | collection kind listed => exact .results ⟨kind, _, listed, rfl⟩

section

variable (read read' : String → Payload → Except Fault Payload)

/-- Operators cannot tell collections with the same members apart, and other payloads are the
same. -/
theorem Node.invariant_readAlike :
    Node.Invariant fun n => ∀ record,
      ReadAlike n.kind (n.term.eval read record) (n.term.eval read' record) where
  constant v record := .same _
  not h truth record := by
    simp only [booleanNode, Term.eval, (h record).eq (by simp [truth])]
    exact .same _
  negate h number record := by
    simp only [Term.eval, (h record).eq (by simp [number])]
    exact .same _
  both hm hn truth record := by
    simp only [booleanNode, Term.eval, (hm record).eq (by simp [truth]),
      (hn record).eq (by simp [truth])]
    exact .same _
  either hm hn truth record := by
    simp only [booleanNode, Term.eval, (hm record).eq (by simp [truth]),
      (hn record).eq (by simp [truth])]
    exact .same _
  state test h record := by
    simp only [booleanNode, Term.eval]
    rw [(h record).bind_eq fun p items _ listed => by rw [Payload.testState_of_items? listed]]
    exact .same _
  like pattern h record := by
    simp only [booleanNode, Term.eval]
    rw [(h record).bind_eq fun p items kind listed => by
      rw [kind]
      exact congrArg (· >>= _) (Payload.isLike_of_items? listed pattern)]
    exact .same _
  compare c hm hn kinds single record := by
    simp only [booleanNode, Term.eval, (hm record).eq single, (hn record).eq (kinds ▸ single)]
    exact .same _
  arithmetic op hm hn numbers record := by
    simp only [Term.eval, (hm record).eq (by simp [numbers]), (hn record).eq (by simp [numbers])]
    exact .same _
  member negated members h single record := by
    simp only [booleanNode, Term.eval, (h record).eq single]
    exact .same _
  anyMember negated members h collection record := by
    simp only [booleanNode, Term.eval]
    rw [(h record).bind_eq fun p items _ listed => by
      rw [Payload.isNull_of_items? listed, Payload.members_of_items? listed]
      rfl]
    exact .same _
  between negated h hLow hHigh kinds single record := by
    simp only [booleanNode, Term.eval, (h record).eq single, (hLow record).eq (kinds.1 ▸ single),
      (hHigh record).eq (kinds.2 ▸ single)]
    exact .same _

end

/-! ## Filters -/

/-- Reading fields directly and taking them from values is the same: both go by the declared name,
fail alike, and the value carries the payload and the kind of the field.  A filter is accepted or
refused, for the same reason, whichever way its resolver reads, and gives the same answers. -/
theorem Schema.fieldAccess_agrees (s : Schema) (lookup : Lookup) :
    (∀ name declared, s.canonical? name = some declared →
      s.canonical? declared = some declared ∧ s.kind? name = s.kind? declared ∧
      (s.kind? name).isSome = true ∧
      ∀ record, s.read lookup name record = s.read lookup declared record ∧
        s.value lookup name record = s.value lookup declared record) ∧
    (∀ name record,
      (∃ f, s.read lookup name record = .error f ∧ s.value lookup name record = .error f) ∨
      ∃ p v, s.read lookup name record = .ok p ∧ s.value lookup name record = .ok v ∧
        (v.isNull = true ↔ p = .null) ∧ v.Carries ((s.kind? name).getD .null) p) ∧
    ∀ text e,
      (∀ failure, compileTo (s.resolver lookup).readingValues text e = .error failure ↔
        compileTo (s.resolver lookup) text e = .error failure) ∧
      ∀ p, compileTo (s.resolver lookup) text e = .ok p →
        ∃ q, compileTo (s.resolver lookup).readingValues text e = .ok q ∧
          ∀ record, q.accepts record = p.accepts record := by
  refine ⟨fun name declared known => ?_, fun name record => ?_, fun text e => ⟨?_, ?_⟩⟩
  · exact ⟨canonical?_idem known, kind?_canonical known, isSome_kind? known,
      fun record => ⟨read_canonical known, value_canonical known⟩⟩
  · rcases s.value_carries lookup name record with fails | ⟨p, v, given, made, carries⟩
    · exact .inl fails
    · exact .inr ⟨p, v, given, made, by rw [carries.isNull, Payload.isNull_iff], carries⟩
  · intro failure
    rw [compileTo_readingValues, map_eq_error]
  · intro p accepted
    refine ⟨_, by rw [compileTo_readingValues, accepted]; rfl, fun record => ?_⟩
    obtain ⟨node, compiled, truth, rfl⟩ := compileTo_eq_ok accepted
    have alike := (Node.invariant_readAlike (s.read lookup)
      (s.resolver lookup).readingValues.read).compileExpr e (fun name _ n field record => ?_)
      compiled record
    · have same := alike.eq (by simp [truth])
      exact congrArg (Except.map Payload.isTrue) same.symm
    · obtain ⟨declared, k, known, found, -, rfl⟩ := compileField_eq_ok field
      change s.kind? declared = some k at found
      change ReadAlike k (s.read lookup declared record)
        ((s.value lookup declared record).map (·.raw))
      rcases s.value_carries lookup declared record with
        ⟨f, given, made⟩ | ⟨p, v, given, made, carries⟩
      · rw [given, made]
        exact .same _
      · rw [given, made]
        rw [found] at carries
        exact carries.readAlike

def tagSchema : Schema := ⟨[("Tags", .collection), ("tags", .number)]⟩

def taggedRed : Expr := .among false (.field "TAGS") (.const ⟨.text, .text "red"⟩) []

def taggedRedPredicate : Predicate where
  term := .anyMember false [.text "red"] (.field "Tags")
  source := taggedRed
  expression := none
  resolver := tagSchema.resolver .byName

def taggedRecord : Payload :=
  .record [("Tags", .set false [.text "blue", .text "red"]), ("tags", .int 2)]

theorem Schema.fieldAccess_agrees_tags :
    tagSchema.canonical? "TAGS" = some "Tags" ∧
    tagSchema.read .byName "TAGS" taggedRecord = tagSchema.read .byName "Tags" taggedRecord ∧
    tagSchema.value .byName "TAGS" taggedRecord =
      .ok ⟨.collection, .tuple [.text "blue", .text "red"]⟩ ∧
    compileTo (tagSchema.resolver .byName) none taggedRed = .ok taggedRedPredicate ∧
    ∃ q, compileTo (tagSchema.resolver .byName).readingValues none taggedRed = .ok q ∧
      q.accepts taggedRecord = .ok true := by
  obtain ⟨names, -, filters⟩ := Schema.fieldAccess_agrees tagSchema .byName
  have known : tagSchema.canonical? "TAGS" = some "Tags" := by decide +kernel
  have accepted : compileTo (tagSchema.resolver .byName) none taggedRed =
      .ok taggedRedPredicate := rfl
  have answer : taggedRedPredicate.accepts taggedRecord = .ok true := rfl
  obtain ⟨-, -, -, same⟩ := names "TAGS" "Tags" known
  obtain ⟨read, value⟩ := same taggedRecord
  obtain ⟨q, accepted', agrees⟩ := (filters none taggedRed).2 taggedRedPredicate accepted
  exact ⟨known, read, value.trans rfl, accepted, q, accepted', (agrees taggedRecord).trans answer⟩

end RecordFilter
