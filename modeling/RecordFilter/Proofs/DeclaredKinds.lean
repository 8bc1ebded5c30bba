import Mathlib.Data.List.Nodup
import RecordFilter.Proofs.InferredSchemas
import RecordFilter.Resolver.DeclaredType

/-!
# Declared types and their payloads

The kind of a declared type is the one that its payloads are of by themselves, except that a truth
value may stand for a number.  So a payload of the type is read as a payload of the kind and not as
Null.  What is asked of it is that it is not Null itself, that a number is finite, and that a
timestamp lies on the calendar.

Three tables meet here: the kinds of the named types, the kinds of payloads, and the conversions of
payloads to a kind.  They are tied together by the payloads that a named type has.
-/

namespace RecordFilter

open Payload

/-! ## Payloads of a type -/

/-- The payloads of a named type.  Truth values are whole numbers, these may stand for
floating-point numbers, and a timestamp is a date too.  A payload of a derived type is one of the
type that it is derived from. -/
def TypeName.admits : TypeName → Payload → Bool
  | int, .int _ | int, .bool _ | intSubclass, .int _ | bool, .bool _ => true
  | float, .float _ | float, .int _ | float, .bool _ => true
  | decimal, .decimal _ | decimal, .irregular _ | decimal, .signaling => true
  | text, .text _ | textSubclass, .text _ => true
  | datetime, .timestamp _ | date, .date _ | date, .timestamp _ => true
  | list, .list _ | listSubclass, .list _ | tuple, .tuple _ => true
  | set, .set false _ | frozenset, .set true _ | dict, .record _ | dict, .mapping _ => true
  | none, .null | object, _ | any, _ => true
  | _, _ => false

namespace DeclaredType

/-- A payload is one of a declared type.  The arguments of a generic type only say what is in a
container, which counts here whatever is in it. -/
inductive Holds (p : Payload) : DeclaredType → Prop
  | named {name : TypeName} (admitted : name.admits p = true) : Holds p (named name)
  | generic {name : TypeName} {arguments : List DeclaredType} (admitted : name.admits p = true) :
      Holds p (generic name arguments)
  | absent {type : DeclaredType} (null : p = .null) : Holds p (optional type)
  | optional {type : DeclaredType} (inner : Holds p type) : Holds p (optional type)
  | union {types : List DeclaredType} {type : DeclaredType} (member : type ∈ types)
      (inner : Holds p type) : Holds p (union types)
  | annotated {type : DeclaredType} {remarks : List String} (inner : Holds p type) :
      Holds p (annotated type remarks)

theorem holds_none_iff {p : Payload} : Holds p (named .none) ↔ p = .null := by
  constructor
  · rintro ⟨admitted⟩
    cases p <;> first | rfl | cases admitted
  · rintro rfl
    exact .named rfl

theorem holds_optional_iff {p : Payload} {type : DeclaredType} :
    Holds p (optional type) ↔ Holds p type ∨ Holds p (named .none) := by
  rw [holds_none_iff]
  constructor
  · rintro (_ | _ | null | inner)
    · exact .inr null
    · exact .inl inner
  · rintro (inner | null)
    · exact .optional inner
    · exact .absent null

theorem holds_union_iff {p : Payload} {types : List DeclaredType} :
    Holds p (union types) ↔ ∃ type ∈ types, Holds p type := by
  constructor
  · rintro (_ | _ | _ | _ | ⟨member, inner⟩)
    exact ⟨_, member, inner⟩
  · rintro ⟨type, member, inner⟩
    exact .union member inner

mutual

theorem holds_iff_members (p : Payload) (type : DeclaredType) :
    Holds p type ↔ ∃ member ∈ type.members, Holds p member := by
  cases type with
  | optional type =>
      rw [holds_optional_iff, holds_iff_members p type]
      simp [members, or_and_right, exists_or]
  | union types => rw [holds_union_iff, members, holdsAny_iff_members p types]
  | _ => simp [members]

theorem holdsAny_iff_members (p : Payload) (types : List DeclaredType) :
    (∃ type ∈ types, Holds p type) ↔ ∃ member ∈ membersOf types, Holds p member := by
  cases types with
  | nil => simp [membersOf]
  | cons type types =>
      have first := holds_iff_members p type
      have others := holdsAny_iff_members p types
      simp only [membersOf, List.mem_cons, List.mem_append, or_and_right, exists_or,
        exists_eq_left, first, others]

end

/-! ## The same type -/

mutual

theorem map_type_alternatives (type : DeclaredType) :
    type.alternatives.map Alternative.type = type.members := by
  cases type with
  | optional type => rw [alternatives, List.map_append, map_type_alternatives type]; rfl
  | union types => rw [alternatives, map_type_alternativesOf types, members]
  | _ => rfl

theorem map_type_alternativesOf (types : List DeclaredType) :
    (alternativesOf types).map Alternative.type = membersOf types := by
  cases types with
  | nil => rfl
  | cons type types =>
      rw [alternativesOf, List.map_append, map_type_alternatives type,
        map_type_alternativesOf types, membersOf]

end

theorem holds_iff_alternatives {p : Payload} {type : DeclaredType} :
    Holds p type ↔ ∃ a ∈ type.alternatives, Holds p a.type := by
  rw [holds_iff_members, ← map_type_alternatives]
  simp

def Alternative.KeepsPayloads (a : Alternative) : Prop :=
  ∀ other, a.isSame other = true → ∀ p, Holds p a.type ↔ Holds p other

theorem holds_of_isSameUnion {type other : DeclaredType}
    (each : ∀ a ∈ type.alternatives, a.KeepsPayloads)
    (same : isSameUnion type.alternatives other = true) (p : Payload) :
    Holds p type ↔ Holds p other := by
  simp only [isSameUnion, Bool.and_eq_true, List.all_eq_true, List.any_eq_true] at same
  rw [holds_iff_alternatives, holds_iff_members p other]
  constructor
  · rintro ⟨a, found, holds⟩
    obtain ⟨member, listed, alike⟩ := same.1 a found
    exact ⟨member, listed, (each a found member alike p).mp holds⟩
  · rintro ⟨member, listed, holds⟩
    obtain ⟨a, found, alike⟩ := same.2 member listed
    exact ⟨a, found, (each a found member alike p).mpr holds⟩

theorem eq_none_of_isNone {type : DeclaredType} (none : type.isNone = true) :
    type = named .none := by
  unfold isNone at none
  split at none
  · rfl
  · cases none

theorem holds_annotated_iff {p : Payload} {type : DeclaredType} {remarks : List String} :
    Holds p (annotated type remarks) ↔ Holds p type := by
  constructor
  · rintro (_ | _ | _ | _ | _ | inner)
    exact inner
  · exact .annotated

mutual

theorem alternatives_keepPayloads (type : DeclaredType) :
    ∀ a ∈ type.alternatives, a.KeepsPayloads := by
  cases type with
  | named name =>
      rintro a (_ | ⟨_, ⟨⟩⟩) other same p
      cases other <;> simp at same
      rw [same]
  | generic name arguments =>
      rintro a (_ | ⟨_, ⟨⟩⟩) other same p
      cases other <;> simp at same
      obtain ⟨rfl, -⟩ := same
      constructor <;> rintro (_ | admitted) <;> exact .generic admitted
  | optional type =>
      rw [alternatives, List.forall_mem_append, List.forall_mem_singleton]
      refine ⟨alternatives_keepPayloads type, fun other same p => ?_⟩
      rw [eq_none_of_isNone same]
  | union types => exact alternativesOf_keepPayloads types
  | annotated type remarks =>
      rintro a (_ | ⟨_, ⟨⟩⟩) other same p
      cases other <;> simp at same
      rw [holds_annotated_iff, holds_annotated_iff]
      exact holds_of_isSameUnion (alternatives_keepPayloads type) same.2 p
  | classVariable type =>
      rintro a (_ | ⟨_, ⟨⟩⟩) other same p
      cases other <;> simp at same
      constructor <;> nofun
  | literal =>
      rintro a (_ | ⟨_, ⟨⟩⟩) other same p
      cases other <;> simp at same
      exact Iff.rfl

theorem alternativesOf_keepPayloads (types : List DeclaredType) :
    ∀ a ∈ alternativesOf types, a.KeepsPayloads := by
  cases types with
  | nil => nofun
  | cons type types =>
      rw [alternativesOf, List.forall_mem_append]
      exact ⟨alternatives_keepPayloads type, alternativesOf_keepPayloads types⟩

end

/-! ## The kind of a type -/

theorem eq_null_of_isNone {p : Payload} {type : DeclaredType} (none : type.isNone = true)
    (holds : Holds p type) : p = .null := by
  rw [eq_none_of_isNone none] at holds
  exact holds_none_iff.mp holds

/-- A type with a kind has an alternative of this kind that all its payloads but Null are of. -/
theorem exists_alternative {type : DeclaredType} {k : Kind} {p : Payload}
    (declared : unionKind? type.alternatives = some k) (holds : Holds p type) (some : p ≠ .null) :
    ∃ a ∈ type.alternatives, a.kind = .some k ∧ Holds p a.type := by
  obtain ⟨b, found, holds⟩ := holds_iff_alternatives.mp holds
  have present : b ∈ type.alternatives.filter (!·.type.isNone) := by
    refine List.mem_filter.mpr ⟨found, ?_⟩
    rw [Bool.not_eq_true']
    exact Bool.eq_false_iff.mpr fun none => some (eq_null_of_isNone none holds)
  unfold unionKind? at declared
  split at declared
  · cases declared
  · next first rest only =>
      split_ifs at declared with all
      have listed : first ∈ type.alternatives :=
        (List.mem_filter.mp (only ▸ List.mem_cons_self)).1
      refine ⟨first, listed, declared, ?_⟩
      rw [only] at present
      rcases List.mem_cons.mp present with rfl | other
      · exact holds
      · have same := List.all_eq_true.mp all b other
        exact (alternatives_keepPayloads type first listed b.type same p).mpr holds

mutual

theorem exists_admits_of_alternative {k : Kind} {p : Payload} (some : p ≠ .null)
    (type : DeclaredType) : ∀ a ∈ type.alternatives, a.kind = .some k → Holds p a.type →
      ∃ name : TypeName, name.kind? = .some k ∧ name.admits p = true := by
  cases type with
  | named name =>
      rintro a (_ | ⟨_, ⟨⟩⟩) declared ⟨admitted⟩
      exact ⟨name, declared, admitted⟩
  | generic name arguments =>
      rintro a (_ | ⟨_, ⟨⟩⟩) declared (_ | admitted)
      exact ⟨name, declared, admitted⟩
  | optional type =>
      rw [alternatives, List.forall_mem_append, List.forall_mem_singleton]
      exact ⟨exists_admits_of_alternative some type, nofun⟩
  | union types => exact exists_admits_of_alternatives some types
  | annotated type remarks =>
      rintro a (_ | ⟨_, ⟨⟩⟩) declared holds
      obtain ⟨b, found, kind, inner⟩ :=
        exists_alternative declared (holds_annotated_iff.mp holds) some
      exact exists_admits_of_alternative some type b found kind inner
  | classVariable type | literal =>
      rintro a (_ | ⟨_, ⟨⟩⟩) declared
      cases declared

theorem exists_admits_of_alternatives {k : Kind} {p : Payload} (some : p ≠ .null)
    (types : List DeclaredType) : ∀ a ∈ alternativesOf types, a.kind = .some k → Holds p a.type →
      ∃ name : TypeName, name.kind? = .some k ∧ name.admits p = true := by
  cases types with
  | nil => nofun
  | cons type types =>
      rw [alternativesOf, List.forall_mem_append]
      exact ⟨exists_admits_of_alternative some type, exists_admits_of_alternatives some types⟩

end

theorem exists_admits {type : DeclaredType} {k : Kind} {p : Payload}
    (declared : type.kind? = some k) (holds : Holds p type) (some : p ≠ .null) :
    ∃ name : TypeName, name.kind? = .some k ∧ name.admits p = true := by
  obtain ⟨a, found, kind, holds⟩ := exists_alternative declared holds some
  exact exists_admits_of_alternative some type a found kind holds

end DeclaredType

/-! ## Reading a payload as the kind of its type -/

namespace Payload

structure IsPresent (p : Payload) : Prop where
  notNull : p ≠ .null
  finite : p.isFinite = true
  dated : ∀ t, p = timestamp t → t.universal? ≠ none

theorem IsPresent.normalize_own {p : Payload} (present : p.IsPresent) {k : Kind}
    (own : p.kind? = some k) : ∃ q, p.normalize k = .ok q ∧ q.Fits k := by
  by_cases isText : k = .text
  · subst isText
    obtain ⟨s, rfl⟩ := text_of_kind? own
    exact ⟨.text s, rfl, .text s⟩
  refine Payload.normalize_own own ⟨present.finite, ?_⟩
  cases p with
  | text s =>
      cases own
      exact absurd rfl isText
  | timestamp t =>
      rw [leavesCalendar, Option.isNone_eq_false_iff, Option.isSome_iff_ne_none]
      exact present.dated t rfl
  | _ => rfl

end Payload

namespace TypeName

theorem kind?_of_admits {name : TypeName} {k : Kind} {p : Payload} (declared : name.kind? = some k)
    (admitted : name.admits p = true) : p.kind? = some k ∨ ∃ b, p = .bool b ∧ k = .number := by
  cases name <;> cases declared <;> cases p <;>
    first | exact .inl rfl | exact .inr ⟨_, rfl, rfl⟩ | cases admitted

theorem kind?_ne_null {name : TypeName} {k : Kind} (declared : name.kind? = some k) :
    k ≠ .null := by
  cases name <;> cases declared <;> decide

theorem normalize_of_admits {name : TypeName} {k : Kind} {p : Payload}
    (declared : name.kind? = some k) (admitted : name.admits p = true) (present : p.IsPresent) :
    ∃ q, p.normalize k = .ok q ∧ q.Fits k ∧ q ≠ .null := by
  have read : ∃ q, p.normalize k = .ok q ∧ q.Fits k := by
    rcases kind?_of_admits declared admitted with own | ⟨b, rfl, rfl⟩
    · exact present.normalize_own own
    · exact ⟨_, rfl, .decimal _⟩
  obtain ⟨q, normalized, fits⟩ := read
  refine ⟨q, normalized, fits, fun null => ?_⟩
  have some := fits.isNull (kind?_ne_null declared)
  rw [null] at some
  cases some

end TypeName

/-! ## Schemas of declared types -/

namespace DeclaredType

theorem plainAll_eq (types : List DeclaredType) : plainAll types = types.map plain := by
  induction types with
  | nil => rfl
  | cons type types ih => rw [plainAll, ih, List.map_cons]

theorem Holds.plain {p : Payload} {type : DeclaredType} (holds : Holds p type) :
    Holds p type.plain := by
  induction holds with
  | named admitted => exact .named admitted
  | generic admitted => exact .generic admitted
  | absent null => exact .absent null
  | optional _ ih => exact .optional ih
  | union member _ ih =>
      rw [DeclaredType.plain, plainAll_eq]
      exact .union (List.mem_map_of_mem member) ih
  | annotated _ ih => exact ih

end DeclaredType

namespace Schema

theorem mem_insert {s : Schema} {name : String} {kind : Kind} {field : String × Kind}
    (listed : field ∈ (s.insert name kind).fields) : field = (name, kind) ∨ field ∈ s.fields := by
  unfold insert at listed
  split_ifs at listed
  · obtain ⟨old, found, same⟩ := List.mem_map.mp listed
    split_ifs at same
    · exact .inl same.symm
    · exact .inr (same ▸ found)
  · rw [List.mem_append, List.mem_singleton] at listed
    exact listed.symm

theorem mem_insertAll {fields : List (String × Kind)} {s : Schema} {field : String × Kind}
    (listed : field ∈ (fields.foldl (fun s field => s.insert field.1 field.2) s).fields) :
    field ∈ s.fields ∨ field ∈ fields := by
  induction fields generalizing s with
  | nil => exact .inl listed
  | cons first fields ih =>
      rcases ih listed with old | new
      · rcases mem_insert old with rfl | old
        · exact .inr List.mem_cons_self
        · exact .inl old
      · exact .inr (List.mem_cons_of_mem _ new)

/-- A schema declares nothing but what it is made of. -/
theorem mem_ofList {fields : List (String × Kind)} {field : String × Kind}
    (listed : field ∈ (ofList fields).fields) : field ∈ fields :=
  (mem_insertAll listed).resolve_left List.not_mem_nil

theorem declared?_ofDeclaredTypes {attributes : List (String × DeclaredType)} {name : String}
    {k : Kind} (declared : (ofDeclaredTypes attributes).declared? name = some k) :
    ∃ type, (name, type) ∈ attributes ∧ type.kind? = some k := by
  have listed : (name, k) ∈ (ofDeclaredTypes attributes).fields := by
    obtain ⟨before, behind, same, -⟩ := List.lookup_eq_some_iff.mp declared
    rw [same]
    exact List.mem_append_right _ List.mem_cons_self
  obtain ⟨⟨name', type⟩, found, kind⟩ := List.mem_filterMap.mp (mem_ofList listed)
  dsimp only at kind
  split_ifs at kind
  obtain ⟨k', own, same⟩ := Option.map_eq_some_iff.mp kind
  cases same
  exact ⟨type, found, own⟩

def ReadsAttribute (s : Schema) (asked : String) (record : Payload) : Prop :=
  ∃ q v, (s.resolver .byAttribute).read asked record = .ok q ∧
    (s.resolver .byAttribute).value asked record = .ok v ∧ q ≠ .null ∧ v.isNull = false

section

variable {attributes : List (String × DeclaredType)} {name asked : String} {type : DeclaredType}
  {p record : Payload} (distinct : (attributes.map Prod.fst).Nodup)
  (listed : (name, type) ∈ attributes) (holds : type.Holds p) (present : p.IsPresent)
  (found : Lookup.byAttribute.find? record name = some p)

include distinct listed holds present found

theorem readsAttribute_of_holds
    (known : (ofDeclaredTypes attributes).canonical? asked = some name) :
    (ofDeclaredTypes attributes).ReadsAttribute asked record := by
  obtain ⟨k, declared⟩ := Option.isSome_iff_exists.mp (isSome_declared? known)
  obtain ⟨type', listed', kind⟩ := declared?_ofDeclaredTypes declared
  cases List.inj_on_of_nodup_map distinct listed listed' rfl
  obtain ⟨named, own, admitted⟩ := DeclaredType.exists_admits kind holds present.notNull
  obtain ⟨q, normalized, -, some⟩ := TypeName.normalize_of_admits own admitted present
  have read : (ofDeclaredTypes attributes).read .byAttribute asked record = .ok q := by
    simp only [Schema.read, known, declared, found, normalized]
  rcases (ofDeclaredTypes attributes).value_carries .byAttribute asked record with
    ⟨f, failed, -⟩ | ⟨q', v, read', value, carried⟩
  · cases read.symm.trans failed
  · cases read.symm.trans read'
    refine ⟨q, v, read, value, some, carried.isNull.trans ?_⟩
    exact Bool.eq_false_iff.mpr fun null => some (isNull_iff.mp null)

theorem readsAttribute_ofClass (known : (ofClass attributes).canonical? asked = some name) :
    (ofClass attributes).ReadsAttribute asked record := by
  refine readsAttribute_of_holds ?_ (List.mem_map.mpr ⟨_, listed, rfl⟩) holds.plain present found
    known
  rw [List.map_map]
  exact distinct

end

end Schema

/-- A payload that is there and is one of a declared type with a kind is read as this kind and not
as Null, and is of this kind by itself unless it is a truth value among numbers.  The kind stays
the same where the type may also be Null or is remarked on.  So a resolver that is made from the
types of a class never reads such an attribute as Null. -/
theorem DeclaredType.kind?_suits_payloads {type : DeclaredType} {p : Payload}
    (holds : type.Holds p) (present : p.IsPresent) :
    (∀ k, type.kind? = some k →
      (∃ q, p.normalize k = .ok q ∧ q.Fits k ∧ q ≠ .null) ∧
      (p.kind? = some k ∨ ∃ b, p = .bool b ∧ k = .number)) ∧
    ((optional type).kind? = type.kind? ∧ (union [type, named .none]).kind? = type.kind? ∧
      ∀ remarks, (annotated type remarks).kind? = type.kind?) ∧
    ∀ attributes name, (attributes.map Prod.fst).Nodup → (name, type) ∈ attributes →
      ∀ s ∈ [Schema.ofDeclaredTypes attributes, Schema.ofClass attributes], ∀ asked record,
        s.canonical? asked = some name → Lookup.byAttribute.find? record name = some p →
        s.ReadsAttribute asked record := by
  refine ⟨?_, ⟨kind?_optional type, kind?_union_none type, kind?_annotated type⟩, ?_⟩
  · intro k declared
    obtain ⟨name, own, admitted⟩ := exists_admits declared holds present.notNull
    exact ⟨TypeName.normalize_of_admits own admitted present,
      TypeName.kind?_of_admits own admitted⟩
  · intro attributes name distinct listed s made asked record known found
    rcases List.mem_pair.mp made with rfl | rfl
    · exact Schema.readsAttribute_of_holds distinct listed holds present found known
    · exact Schema.readsAttribute_ofClass distinct listed holds present found known

def birthday : DeclaredType := .union [.annotated (.optional (.named .date)) ["day"], .named .none]

def personAttributes : List (String × DeclaredType) := [("_key", .named .int), ("Born", birthday)]

def bornAt : Payload := .timestamp ⟨⟨⟨1990, 5, 17⟩, 6, 30, 0, 0⟩, some 7200000000⟩

theorem DeclaredType.kind?_suits_payloads_birthday :
    birthday.kind? = some .timestamp ∧
    (∃ q, bornAt.normalize .timestamp = .ok q ∧ q.Fits .timestamp ∧ q ≠ .null) ∧
    (Schema.ofDeclaredTypes personAttributes).ReadsAttribute "BORN" (.object [("Born", bornAt)]) ∧
    (Schema.ofClass personAttributes).ReadsAttribute "BORN" (.object [("Born", bornAt)]) := by
  have holds : birthday.Holds bornAt :=
    .union List.mem_cons_self (.annotated (.optional (.named rfl)))
  have present : bornAt.IsPresent :=
    ⟨nofun, rfl, fun t same => by cases same; decide +kernel⟩
  obtain ⟨kinds, -, reads⟩ := kind?_suits_payloads holds present
  have kind : birthday.kind? = some .timestamp := rfl
  have listed : ("Born", birthday) ∈ personAttributes := List.mem_cons_of_mem _ List.mem_cons_self
  have read := reads personAttributes "Born" (by decide) listed
  refine ⟨kind, (kinds _ kind).1, ?_, ?_⟩
  · exact read _ List.mem_cons_self "BORN" _ (by decide +kernel) rfl
  · exact read _ (List.mem_cons_of_mem _ List.mem_cons_self) "BORN" _ (by decide +kernel) rfl

end RecordFilter
