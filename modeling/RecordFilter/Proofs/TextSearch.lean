import RecordFilter.Proofs.LoweredTexts
import RecordFilter.Proofs.Outcomes
import RecordFilter.Search

/-!
# What text search finds

A search keeps the records in one of whose searched fields the text is found, both in lower case.
So a record is found if a field holds the text as it is, unless a capital sigma gets another lower
form in the one than in the other: at the end of a word it does.
-/

namespace RecordFilter

open Text

theorem occursIn_iff {wanted text : List Char} :
    occursIn wanted text = true ↔ wanted <:+: text := by
  induction text with
  | nil => rw [occursIn, List.isEmpty_iff, List.infix_nil]
  | cons c text ih =>
      rw [occursIn, Bool.or_eq_true, List.isPrefixOf_iff_prefix, ih, List.infix_cons_iff]

namespace Resolver

variable (r : Resolver)

/-- A field is searched if a chosen name means it; without a choice all names are chosen. -/
def Searches (chosen : List String) (declared : String) : Prop :=
  ∃ name ∈ if chosen.isEmpty then r.fieldNames else chosen, r.canonical? name = some declared

def Shows (record : Payload) (declared : String) (text : String) : Prop :=
  ∃ p, r.read declared record = .ok p ∧ p.displayed = .ok text

def Readable (chosen : List String) (record : Payload) : Prop :=
  ∀ declared, r.Searches chosen declared → ∃ text, r.Shows record declared text

/-- The text of some searched field of a record, in lower case, contains the text looked for, in
lower case too. -/
def Finds (chosen : List String) (wanted : List Char) (record : Payload) : Prop :=
  ∃ declared text, r.Searches chosen declared ∧ r.Shows record declared text ∧
    lowerText wanted <:+: lowerText text.toList

theorem mem_searchedFields {chosen : List String} {declared : String} :
    declared ∈ searchedFields r chosen ↔ r.Searches chosen declared :=
  List.mem_filterMap

theorem Shows.unique {r : Resolver} {record : Payload} {declared text text' : String}
    (h : r.Shows record declared text) (h' : r.Shows record declared text') : text = text' := by
  obtain ⟨p, read, displayed⟩ := h
  obtain ⟨p', read', displayed'⟩ := h'
  cases read.symm.trans read'
  cases displayed.symm.trans displayed'
  rfl

end Resolver

section

variable {r : Resolver} {record : Payload} {needle : List Char}

theorem fieldContains_of_shows {declared text : String} (some : needle ≠ [])
    (shows' : r.Shows record declared text) :
    fieldContains r needle declared record = .ok (occursIn needle (lowerText text.toList)) := by
  obtain ⟨p, read, displayed⟩ := shows'
  rw [fieldContains, read, ok_bind]
  cases p with
  | null =>
      cases displayed
      have none : occursIn needle (lowerText "".toList) = false := by
        rw [Bool.eq_false_iff, ne_eq, occursIn_iff]
        exact fun h => some (List.infix_nil.mp h)
      rw [none]
      rfl
  | _ =>
      rw [displayed]
      rfl

theorem anyFieldContains_eq {names : List String} (some : needle ≠ [])
    (readable : ∀ name ∈ names, ∃ text, r.Shows record name text) :
    ∃ b, anyFieldContains r needle record names = .ok b ∧
      (b = true ↔ ∃ name text, name ∈ names ∧ r.Shows record name text ∧
        needle <:+: lowerText text.toList) := by
  induction names with
  | nil => exact ⟨false, rfl, by simp⟩
  | cons name names ih =>
      rw [List.forall_mem_cons] at readable
      obtain ⟨⟨text, first⟩, others⟩ := readable
      obtain ⟨b, rest, iff⟩ := ih others
      rw [anyFieldContains, fieldContains_of_shows some first, ok_bind, rest]
      cases here : occursIn needle (lowerText text.toList) with
      | true =>
          exact ⟨true, rfl, iff_of_true rfl
            ⟨name, text, List.mem_cons_self, first, occursIn_iff.mp here⟩⟩
      | false =>
          refine ⟨b, rfl, iff.trans ⟨?_, ?_⟩⟩
          · rintro ⟨name', text', listed, shown, found⟩
            exact ⟨name', text', List.mem_cons_of_mem _ listed, shown, found⟩
          · rintro ⟨name', text', listed, shown, found⟩
            rcases List.mem_cons.mp listed with rfl | later
            · rw [shown.unique first, ← occursIn_iff, here] at found
              cases found
            · exact ⟨name', text', later, shown, found⟩

theorem filterFound_eq {α : Type} {names : List String} {record : α → Payload} {items : List α}
    {finds : α → Bool} (answers : ∀ item ∈ items, found r needle names (record item) =
      .ok (finds item)) :
    filterFound r needle names record items = .ok (items.filter finds) := by
  induction items with
  | nil => rfl
  | cons item items ih =>
      rw [List.forall_mem_cons] at answers
      rw [filterFound, answers.1, ok_bind, ih answers.2, ok_bind, List.filter_cons]
      rfl

end

/-! ## Records that are read by a schema -/

namespace Schema

variable (s : Schema) (lookup : Lookup)

theorem read_null (name : String) : s.read lookup name .null = .ok .null := by
  have none (declared : String) : lookup.find? .null declared = none := by cases lookup <;> rfl
  rw [read]
  split
  · rfl
  · rw [none]
    split
    · next same => cases same
    · rfl

variable {s lookup}

theorem not_finds_null {chosen : List String} {wanted : List Char} (some : wanted ≠ []) :
    ¬ (s.resolver lookup).Finds chosen wanted .null := by
  rintro ⟨declared, text, -, ⟨p, read, displayed⟩, found⟩
  cases read.symm.trans (s.read_null lookup declared)
  cases displayed
  exact lowerText_ne_nil some (List.infix_nil.mp found)

theorem found_eq {chosen : List String} {wanted : List Char} {record : Payload}
    (some : wanted ≠ []) (readable : (s.resolver lookup).Readable chosen record) :
    ∃ b, found (s.resolver lookup) (lowerText wanted)
        (searchedFields (s.resolver lookup) chosen) record = .ok b ∧
      (b = true ↔ (s.resolver lookup).Finds chosen wanted record) := by
  have fields : ∀ name ∈ searchedFields (s.resolver lookup) chosen,
      ∃ text, (s.resolver lookup).Shows record name text := fun name listed =>
    readable name ((s.resolver lookup).mem_searchedFields.mp listed)
  obtain ⟨b, answer, iff⟩ := anyFieldContains_eq (lowerText_ne_nil some) fields
  simp only [Resolver.mem_searchedFields] at iff
  rw [found]
  cases here : record.isNull with
  | true =>
      cases record with
      | null => exact ⟨false, rfl, iff_of_false nofun (not_finds_null some)⟩
      | _ => cases here
  | false => exact ⟨b, answer, iff⟩

/-- If all searched fields can be read and have a text, a search keeps the records in which the text
is found. -/
theorem searchText_eq {α : Type} {t : String} {chosen : List String} {record : α → Payload}
    {items : List α} (visible : isBlankText t.toList = false)
    (readable : ∀ item ∈ items, (s.resolver lookup).Readable chosen (record item)) :
    ∃ finds : α → Bool,
      searchText (s.resolver lookup) (some t) chosen record items = .ok (items.filter finds) ∧
      ∀ item ∈ items,
        finds item = true ↔ (s.resolver lookup).Finds chosen t.toList (record item) := by
  have some : t.toList ≠ [] := by
    intro none
    rw [none] at visible
    cases visible
  let names := searchedFields (s.resolver lookup) chosen
  let finds (item : α) : Bool :=
    ((found (s.resolver lookup) (lowerText t.toList) names (record item)).toOption).getD false
  have each : ∀ item ∈ items,
      found (s.resolver lookup) (lowerText t.toList) names (record item) = .ok (finds item) ∧
      (finds item = true ↔ (s.resolver lookup).Finds chosen t.toList (record item)) := by
    intro item listed
    obtain ⟨b, answer, iff⟩ := found_eq some (readable item listed)
    have same : finds item = b := by
      change ((found _ _ names _).toOption).getD false = b
      rw [answer]
      rfl
    rw [same]
    exact ⟨answer, iff⟩
  refine ⟨finds, ?_, fun item listed => (each item listed).2⟩
  rw [searchText, if_neg (by simp [visible])]
  exact filterFound_eq fun item listed => (each item listed).1

end Schema

/-- A search for a text that is not blank keeps, in their order, the records in which it is found,
if the searched fields can be read and have a text.  A record is found in which a searched field
holds the text as it is, with capital sigmas that end a word exactly where they do in the text
itself. -/
theorem searchText_finds {α : Type} (s : Schema) (lookup : Lookup) (t : String)
    (chosen : List String) (record : α → Payload) (items : List α)
    (visible : isBlankText t.toList = false)
    (readable : ∀ item ∈ items, (s.resolver lookup).Readable chosen (record item)) :
    ∃ finds : α → Bool,
      searchText (s.resolver lookup) (some t) chosen record items = .ok (items.filter finds) ∧
      (∀ item ∈ items,
        finds item = true ↔ (s.resolver lookup).Finds chosen t.toList (record item)) ∧
      ∀ item ∈ items, ∀ declared text before after,
        (s.resolver lookup).Searches chosen declared →
        (s.resolver lookup).Shows (record item) declared text →
        text.toList = before ++ t.toList ++ after → KeepsSigmas before t.toList after →
        finds item = true := by
  obtain ⟨finds, kept, iff⟩ := Schema.searchText_eq visible readable
  refine ⟨finds, kept, iff, ?_⟩
  intro item listed declared text before after searched shown split keeps
  refine (iff item listed).mpr ⟨declared, text, searched, shown, ?_⟩
  rw [split]
  exact lowerText_infix keeps

/-! ## Names of streets -/

def streets : Resolver := Schema.resolver ⟨[("Street", .text)]⟩ .byName

def street (name : String) : Payload := .record [("Street", .text name)]

theorem streets_shows (name : String) : streets.Shows (street name) "Street" name :=
  ⟨.text name, rfl, rfl⟩

theorem streets_searches : streets.Searches [] "Street" := ⟨"Street", by decide, by decide⟩

theorem streets_readable (name : String) : streets.Readable [] (street name) := by
  rintro declared ⟨chosen, listed, canonical⟩
  obtain rfl : chosen = "Street" := List.mem_singleton.mp listed
  cases canonical
  exact ⟨name, streets_shows name⟩

theorem searchText_finds_street :
    isBlankText "ΟΔΟΣ".toList = false ∧ streets.Readable [] (street "ΟΔΟΣ ΑΘΗΝΑΣ") ∧
    KeepsSigmas [] "ΟΔΟΣ".toList " ΑΘΗΝΑΣ".toList ∧
    searchText streets (some "ΟΔΟΣ") [] id [street "ΟΔΟΣ ΑΘΗΝΑΣ"] =
      .ok [street "ΟΔΟΣ ΑΘΗΝΑΣ"] := by
  have visible : isBlankText "ΟΔΟΣ".toList = false := by decide
  have readable := streets_readable "ΟΔΟΣ ΑΘΗΝΑΣ"
  have keeps : KeepsSigmas [] "ΟΔΟΣ".toList " ΑΘΗΝΑΣ".toList := by
    intro first second same
    have placed : first = ['Ο', 'Δ', 'Ο'] ∧ second = [] := by
      rcases first with _ | ⟨a, _ | ⟨b, _ | ⟨c, _ | ⟨d, first⟩⟩⟩⟩ <;> simp_all
      exact ⟨same.1.symm, same.2.1.symm, same.2.2.1.symm⟩
    rw [placed.1, placed.2]
    decide +kernel
  obtain ⟨finds, kept, -, found⟩ := searchText_finds ⟨[("Street", .text)]⟩ .byName "ΟΔΟΣ" [] id
    [street "ΟΔΟΣ ΑΘΗΝΑΣ"] visible (List.forall_mem_singleton.mpr readable)
  have here : finds (street "ΟΔΟΣ ΑΘΗΝΑΣ") = true :=
    found _ (List.mem_singleton_self _) "Street" "ΟΔΟΣ ΑΘΗΝΑΣ" [] " ΑΘΗΝΑΣ".toList
      streets_searches (streets_shows _) (by decide) keeps
  rw [List.filter_cons, if_pos here] at kept
  exact ⟨visible, readable, keeps, kept⟩

/-- Not every text is found where it stands: a sigma at the end of a word has another lower form
within a longer word. -/
theorem searchText_not_finds :
    ¬ ∀ (s : Schema) (lookup : Lookup) (t : String) (chosen : List String) (items : List Payload),
      isBlankText t.toList = false →
      (∀ item ∈ items, (s.resolver lookup).Readable chosen item) →
      ∀ item ∈ items, ∀ declared text, (s.resolver lookup).Searches chosen declared →
        (s.resolver lookup).Shows item declared text → t.toList <:+: text.toList →
        ∃ kept, searchText (s.resolver lookup) (some t) chosen id items = .ok kept ∧
          item ∈ kept := by
  intro claim
  obtain ⟨kept, search, listed⟩ := claim ⟨[("Street", .text)]⟩ .byName "ΟΔΟΣ" []
    [street "ΟΔΟΣΗΜΟ"] (by decide) (List.forall_mem_singleton.mpr (streets_readable _))
    (street "ΟΔΟΣΗΜΟ") (List.mem_singleton_self _) "Street" "ΟΔΟΣΗΜΟ" streets_searches
    (streets_shows _) ⟨[], "ΗΜΟ".toList, by decide⟩
  have missed : found streets (lowerText "ΟΔΟΣ".toList) (searchedFields streets [])
      (street "ΟΔΟΣΗΜΟ") = .ok false := by
    have lowered : occursIn (lowerText "ΟΔΟΣ".toList) (lowerText "ΟΔΟΣΗΜΟ".toList) = false := by
      decide +kernel
    have field : fieldContains streets (lowerText "ΟΔΟΣ".toList) "Street" (street "ΟΔΟΣΗΜΟ") =
        .ok (occursIn (lowerText "ΟΔΟΣ".toList) (lowerText "ΟΔΟΣΗΜΟ".toList)) :=
      fieldContains_of_shows (lowerText_ne_nil (by decide)) (streets_shows "ΟΔΟΣΗΜΟ")
    rw [lowered] at field
    rw [found, if_neg (by decide)]
    change anyFieldContains _ _ _ ["Street"] = _
    rw [anyFieldContains, field]
    rfl
  have none : searchText streets (some "ΟΔΟΣ") [] id [street "ΟΔΟΣΗΜΟ"] = .ok [] := by
    rw [searchText, if_neg (by decide), filterFound, id, missed]
    rfl
  cases none.symm.trans search
  exact List.not_mem_nil listed

end RecordFilter
