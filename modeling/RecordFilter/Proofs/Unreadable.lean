import RecordFilter.Proofs.Kinds

/-!
# What cannot be read

Four things that a record may hold make reading it fail, and the failure is not caught: a timestamp,
or a text that reads as one, that leaves the calendar when it is brought to universal time;
a whole number that is too long to be written out; a signaling number; and a mapping whose keys
cannot be put in order or have no text.  Whatever is asked of a payload, a fault that is
not a failed conversion comes from such a part of it.
-/

namespace RecordFilter

open Text

/-! ## Parts of payloads -/

namespace Payload

mutual

/-- A payload and all that it holds, at any depth. -/
def parts : Payload → List Payload
  | list items => list items :: partsOf items
  | tuple items => tuple items :: partsOf items
  | set isFrozen items => set isFrozen items :: partsOf items
  | record fields => record fields :: partsOfFields fields
  | mapping entries => mapping entries :: partsOfEntries entries
  | object attributes => object attributes :: partsOfFields attributes
  | value kind raw => value kind raw :: parts raw
  | p => [p]

def partsOf : List Payload → List Payload
  | [] => []
  | p :: ps => parts p ++ partsOf ps

def partsOfFields : List (String × Payload) → List Payload
  | [] => []
  | (_, p) :: fields => parts p ++ partsOfFields fields

def partsOfEntries : List (Payload × Payload) → List Payload
  | [] => []
  | (key, p) :: entries => parts key ++ (parts p ++ partsOfEntries entries)

end

theorem mem_parts_self (p : Payload) : p ∈ p.parts := by
  cases p <;> simp [parts]

theorem parts_subset_partsOf {p : Payload} {ps : List Payload} (found : p ∈ ps) :
    p.parts ⊆ partsOf ps := by
  induction ps with
  | nil => cases found
  | cons q ps ih =>
      rcases List.mem_cons.mp found with rfl | found
      · exact List.subset_append_left _ _
      · exact List.Subset.trans (ih found) (List.subset_append_right _ _)

theorem partsOf_subset {p : Payload} {items : List Payload} (listed : p.items? = some items) :
    partsOf items ⊆ p.parts := by
  cases p <;> cases listed <;> exact List.subset_cons_self _ _

theorem parts_subset_of_lookup {name : String} {p : Payload} {fields : List (String × Payload)}
    (found : fields.lookup name = some p) : p.parts ⊆ partsOfFields fields := by
  induction fields with
  | nil => cases found
  | cons field fields ih =>
      rw [List.lookup_cons] at found
      split at found
      · cases found
        exact List.subset_append_left _ _
      · exact List.Subset.trans (ih found) (List.subset_append_right _ _)

theorem parts_subset_entry (key p : Payload) (entries : List (Payload × Payload)) :
    p.parts ⊆ partsOfEntries ((key, p) :: entries) :=
  List.Subset.trans (List.subset_append_left _ _) (List.subset_append_right _ _)

theorem partsOfEntries_subset_cons (key p : Payload) (entries : List (Payload × Payload)) :
    partsOfEntries entries ⊆ partsOfEntries ((key, p) :: entries) :=
  List.Subset.trans (List.subset_append_right _ _) (List.subset_append_right _ _)

theorem parts_subset_of_itemNamed? {name : String} {p : Payload}
    {entries : List (Payload × Payload)} (found : itemNamed? name entries = some p) :
    p.parts ⊆ partsOfEntries entries := by
  induction entries with
  | nil => cases found
  | cons entry entries ih =>
      obtain ⟨key, q⟩ := entry
      rw [itemNamed?] at found
      split at found
      · cases found
        exact parts_subset_entry ..
      · exact List.Subset.trans (ih found) (partsOfEntries_subset_cons ..)

theorem find?_parts {lookup : Lookup} {record p : Payload} {name : String}
    (found : lookup.find? record name = some p) : p.parts ⊆ record.parts := by
  unfold Lookup.find? at found
  split at found
  · exact List.Subset.trans (parts_subset_of_lookup found) (List.subset_cons_self _ _)
  · exact List.Subset.trans (parts_subset_of_itemNamed? found) (List.subset_cons_self _ _)
  · exact List.Subset.trans (parts_subset_of_lookup found) (List.subset_cons_self _ _)
  · cases found

/-! ## Causes of faults -/

def leavesCalendar : Payload → Bool
  | timestamp t => t.universal?.isNone
  | text s => (Timestamp.readIso? (trim s.toList)).any fun t => t.universal?.isNone
  | _ => false

def isTooLong : Payload → Bool
  | int n => integerBound ≤ n.natAbs
  | _ => false

def TooLongIn (ps : List Payload) (f : Fault) : Prop :=
  f = .tooManyDigits ∧ ∃ q ∈ ps, q.isTooLong = true

/-- A fault comes from putting the keys of a mapping in order, or from writing one of them. -/
def KeysFail (p : Payload) (f : Fault) : Prop :=
  ∃ entries, p = mapping entries ∧
    (requireOrder (entries.map (·.1)) = .error f ∨ ∃ entry ∈ entries, keyText entry.1 = .error f)

def UnwritableIn (ps : List Payload) (f : Fault) : Prop :=
  TooLongIn ps f ∨ ∃ q ∈ ps, q.KeysFail f

/-- A payload holds something that a fault comes from. -/
def Explains (p : Payload) (f : Fault) : Prop :=
  (f = .outsideCalendar ∧ ∃ q ∈ p.parts, q.leavesCalendar = true) ∨
  (f = .undefinedComparison ∧ .signaling ∈ p.parts) ∨ UnwritableIn p.parts f

theorem TooLongIn.mono {ps qs : List Payload} {f : Fault} (h : TooLongIn ps f) (subset : ps ⊆ qs) :
    TooLongIn qs f := by
  obtain ⟨digits, q, found, long⟩ := h
  exact ⟨digits, q, subset found, long⟩

theorem UnwritableIn.mono {ps qs : List Payload} {f : Fault} (h : UnwritableIn ps f)
    (subset : ps ⊆ qs) : UnwritableIn qs f := by
  rcases h with long | ⟨q, found, keys⟩
  · exact .inl (long.mono subset)
  · exact .inr ⟨q, subset found, keys⟩

theorem Explains.mono {p q : Payload} {f : Fault} (h : p.Explains f) (subset : p.parts ⊆ q.parts) :
    q.Explains f := by
  rcases h with ⟨calendar, r, found, leaves⟩ | ⟨undefined, found⟩ | unwritable
  · exact .inl ⟨calendar, r, subset found, leaves⟩
  · exact .inr (.inl ⟨undefined, subset found⟩)
  · exact .inr (.inr (unwritable.mono subset))

theorem integerText_error {n : Int} {f : Fault} (h : integerText n = .error f) :
    f = .tooManyDigits ∧ (int n).isTooLong = true := by
  unfold integerText at h
  split at h
  · cases h
  · next long =>
      cases h
      exact ⟨rfl, by simpa [isTooLong] using long⟩

/-! ## Texts in messages -/

mutual

theorem shown_error {p : Payload} {f : Fault} (h : p.shown = .error f) : TooLongIn p.parts f := by
  cases p with
  | int n =>
      obtain ⟨digits, long⟩ := integerText_error h
      exact ⟨digits, _, mem_parts_self _, long⟩
  | list items | tuple items | set isFrozen items =>
      rw [shown, bind_pure_eq_error] at h
      exact (shownItems_error h).mono (List.subset_cons_self _ _)
  | record fields =>
      rw [shown, bind_pure_eq_error] at h
      exact (shownFields_error h).mono (List.subset_cons_self _ _)
  | mapping entries =>
      rw [shown, bind_pure_eq_error] at h
      exact (shownEntries_error h).mono (List.subset_cons_self _ _)
  | value kind raw =>
      rw [shown, bind_pure_eq_error] at h
      exact (shown_error h).mono (List.subset_cons_self _ _)
  | _ => cases h

theorem shownItems_error {ps : List Payload} {f : Fault} (h : shownItems ps = .error f) :
    TooLongIn (partsOf ps) f := by
  cases ps with
  | nil => cases h
  | cons p ps =>
      rw [shownItems, bind_eq_error] at h
      rcases h with h | ⟨text, -, h⟩
      · exact (shown_error h).mono (List.subset_append_left _ _)
      · exact (shownItems_error (bind_pure_eq_error.mp h)).mono (List.subset_append_right _ _)

theorem shownFields_error {fields : List (String × Payload)} {f : Fault}
    (h : shownFields fields = .error f) : TooLongIn (partsOfFields fields) f := by
  cases fields with
  | nil => cases h
  | cons field fields =>
      obtain ⟨name, p⟩ := field
      rw [shownFields, bind_eq_error] at h
      rcases h with h | ⟨text, -, h⟩
      · exact (shown_error h).mono (List.subset_append_left _ _)
      · exact (shownFields_error (bind_pure_eq_error.mp h)).mono (List.subset_append_right _ _)

theorem shownEntries_error {entries : List (Payload × Payload)} {f : Fault}
    (h : shownEntries entries = .error f) : TooLongIn (partsOfEntries entries) f := by
  cases entries with
  | nil => cases h
  | cons entry entries =>
      obtain ⟨key, p⟩ := entry
      rw [shownEntries, bind_eq_error] at h
      rcases h with h | ⟨name, -, h⟩
      · exact (shown_error h).mono (List.subset_append_left _ _)
      rw [bind_eq_error] at h
      rcases h with h | ⟨text, -, h⟩
      · exact (shown_error h).mono (parts_subset_entry ..)
      · exact (shownEntries_error (bind_pure_eq_error.mp h)).mono (partsOfEntries_subset_cons ..)

end

end Payload

/-! ## Documents -/

namespace Json

mutual

def integers : Json → List Int
  | int n => [n]
  | array items => integersOf items
  | object members => integersOfMembers members
  | _ => []

def integersOf : List Json → List Int
  | [] => []
  | j :: js => integers j ++ integersOf js

def integersOfMembers : List (String × Json) → List Int
  | [] => []
  | (_, j) :: members => integers j ++ integersOfMembers members

end

theorem mem_integersOfMembers {n : Int} {members : List (String × Json)} :
    n ∈ integersOfMembers members ↔ ∃ member ∈ members, n ∈ member.2.integers := by
  induction members with
  | nil => simp [integersOfMembers]
  | cons member members ih => simp [integersOfMembers, ih]

def IsShort (j : Json) : Prop := ∀ n ∈ j.integers, n.natAbs < integerBound

theorem isShort_of_noIntegers {j : Json} (none : j.integers = []) : j.IsShort := by
  intro n found
  rw [none] at found
  cases found

theorem isShort_array_iff {items : List Json} :
    (array items).IsShort ↔ ∀ item ∈ items, item.IsShort := by
  change (∀ n ∈ integersOf items, n.natAbs < integerBound) ↔ _
  induction items with
  | nil => exact iff_of_true nofun nofun
  | cons item items ih => rw [integersOf, List.forall_mem_append, List.forall_mem_cons, ih, IsShort]

theorem isShort_object_iff {members : List (String × Json)} :
    (object members).IsShort ↔ ∀ member ∈ members, member.2.IsShort := by
  constructor
  · intro short member listed n inside
    exact short n (mem_integersOfMembers.mpr ⟨member, listed, inside⟩)
  · intro each n found
    obtain ⟨member, listed, inside⟩ := mem_integersOfMembers.mp found
    exact each member listed n inside

mutual

theorem IsShort.compact {j : Json} (short : j.IsShort) : ∃ text, j.compact = .ok text := by
  cases j with
  | int n =>
      have bound := short n (List.mem_singleton_self n)
      exact ⟨_, by rw [Json.compact, integerText, if_pos bound]⟩
  | array items =>
      obtain ⟨texts, written⟩ := compactItems_of_isShort (isShort_array_iff.mp short)
      exact ⟨_, by rw [Json.compact, written]; rfl⟩
  | object members =>
      obtain ⟨texts, written⟩ := compactMembers_of_isShort (isShort_object_iff.mp short)
      exact ⟨_, by rw [Json.compact, written]; rfl⟩
  | _ => exact ⟨_, rfl⟩

theorem compactItems_of_isShort {js : List Json} (short : ∀ j ∈ js, j.IsShort) :
    ∃ texts, compactItems js = .ok texts := by
  cases js with
  | nil => exact ⟨_, rfl⟩
  | cons j js =>
      obtain ⟨first, others⟩ := List.forall_mem_cons.mp short
      obtain ⟨text, written⟩ := first.compact
      obtain ⟨texts, rest⟩ := compactItems_of_isShort others
      exact ⟨_, by rw [compactItems, written, rest]; rfl⟩

theorem compactMembers_of_isShort {members : List (String × Json)}
    (short : ∀ member ∈ members, member.2.IsShort) :
    ∃ texts, compactMembers members = .ok texts := by
  cases members with
  | nil => exact ⟨_, rfl⟩
  | cons member members =>
      obtain ⟨first, others⟩ := List.forall_mem_cons.mp short
      obtain ⟨text, written⟩ := first.compact
      obtain ⟨texts, rest⟩ := compactMembers_of_isShort others
      exact ⟨_, by rw [compactMembers, written, rest]; rfl⟩

end

theorem not_isShort_of_compact {j : Json} {f : Fault} (h : j.compact = .error f) :
    ¬ j.IsShort := by
  intro short
  obtain ⟨text, written⟩ := short.compact
  cases h.symm.trans written

end Json

namespace Payload

/-! ## Documents of entries -/

theorem namedMembers_error {entries : List (Payload × Except Fault Json)} {f : Fault}
    (h : namedMembers entries = .error f) :
    ∃ entry ∈ entries, keyText entry.1 = .error f ∨ entry.2 = .error f := by
  induction entries with
  | nil => cases h
  | cons entry entries ih =>
      obtain ⟨key, item⟩ := entry
      rw [namedMembers, bind_eq_error] at h
      rcases h with h | ⟨name, -, h⟩
      · exact ⟨_, List.mem_cons_self, .inl h⟩
      rcases bind_eq_error.mp h with h | ⟨j, -, h⟩
      · exact ⟨_, List.mem_cons_self, .inr h⟩
      · obtain ⟨entry, listed, fails⟩ := ih (bind_pure_eq_error.mp h)
        exact ⟨entry, List.mem_cons_of_mem _ listed, fails⟩

theorem mem_of_namedMembers {entries : List (Payload × Except Fault Json)}
    {members : List (String × Json)} (h : namedMembers entries = .ok members)
    {member : String × Json} (found : member ∈ members) :
    ∃ entry ∈ entries, entry.2 = .ok member.2 := by
  induction entries generalizing members with
  | nil =>
      cases h
      cases found
  | cons entry entries ih =>
      obtain ⟨key, item⟩ := entry
      rw [namedMembers, bind_eq_ok] at h
      obtain ⟨name, -, h⟩ := h
      obtain ⟨j, given, h⟩ := bind_eq_ok.mp h
      obtain ⟨rest, others, made⟩ := bind_eq_ok.mp h
      cases made
      rcases List.mem_cons.mp found with rfl | later
      · exact ⟨_, List.mem_cons_self, given⟩
      · obtain ⟨entry, listed, given⟩ := ih others later
        exact ⟨entry, List.mem_cons_of_mem _ listed, given⟩

theorem sortedDocument_error {entries : List (Payload × Except Fault Json)} {f : Fault}
    (h : sortedDocument entries = .error f) :
    requireOrder (entries.map (·.1)) = .error f ∨
      ∃ entry ∈ entries, keyText entry.1 = .error f ∨ entry.2 = .error f := by
  rcases bind_eq_error.mp h with h | ⟨⟨⟩, -, h⟩
  · exact .inl h
  · obtain ⟨entry, listed, fails⟩ := namedMembers_error (bind_pure_eq_error.mp h)
    exact .inr ⟨entry, List.mem_mergeSort.mp listed, fails⟩

theorem isShort_sortedDocument {entries : List (Payload × Except Fault Json)} {j : Json}
    (short : ∀ entry ∈ entries, ∀ j, entry.2 = .ok j → j.IsShort)
    (h : sortedDocument entries = .ok j) : j.IsShort := by
  obtain ⟨⟨⟩, -, h⟩ := bind_eq_ok.mp h
  obtain ⟨members, named, made⟩ := bind_eq_ok.mp h
  cases made
  refine Json.isShort_object_iff.mpr fun member found => ?_
  obtain ⟨entry, listed, given⟩ := mem_of_namedMembers named found
  exact short entry (List.mem_mergeSort.mp listed) _ given

theorem requireOrder_texts (names : List String) : requireOrder (names.map text) = .ok () := by
  induction names with
  | nil => rfl
  | cons name names ih =>
      cases names with
      | nil => rfl
      | cons next names => exact ih

theorem map_fst_fieldDocuments (fields : List (String × Payload)) :
    (fieldDocuments fields).map (·.1) = (fields.map (·.1)).map text := by
  induction fields with
  | nil => rfl
  | cons field fields ih => exact congrArg (text field.1 :: ·) ih

theorem map_fst_entryDocuments (entries : List (Payload × Payload)) :
    (entryDocuments entries).map (·.1) = entries.map (·.1) := by
  induction entries with
  | nil => rfl
  | cons entry entries ih => exact congrArg (entry.1 :: ·) ih

theorem sortedDocument_fields_error {fields : List (String × Payload)} {f : Fault}
    (h : sortedDocument (fieldDocuments fields) = .error f) :
    ∃ entry ∈ fieldDocuments fields, entry.2 = .error f := by
  have names := map_fst_fieldDocuments fields
  rcases sortedDocument_error h with order | ⟨entry, listed, key | item⟩
  · rw [names, requireOrder_texts] at order
    cases order
  · have named : entry.1 ∈ (fields.map (·.1)).map text := names ▸ List.mem_map_of_mem listed
    obtain ⟨name, -, same⟩ := List.mem_map.mp named
    rw [← same] at key
    cases key
  · exact ⟨entry, listed, item⟩

theorem sortedDocument_entries_error {entries : List (Payload × Payload)} {f : Fault}
    (h : sortedDocument (entryDocuments entries) = .error f) :
    (mapping entries).KeysFail f ∨ ∃ entry ∈ entryDocuments entries, entry.2 = .error f := by
  have keys := map_fst_entryDocuments entries
  rcases sortedDocument_error h with order | ⟨entry, listed, key | item⟩
  · exact .inl ⟨entries, rfl, .inl (keys ▸ order)⟩
  · have known : entry.1 ∈ entries.map (·.1) := keys ▸ List.mem_map_of_mem listed
    obtain ⟨origin, listed, same⟩ := List.mem_map.mp known
    exact .inl ⟨entries, rfl, .inr ⟨origin, listed, by rwa [same]⟩⟩
  · exact .inr ⟨entry, listed, item⟩

mutual

theorem isShort_document {p : Payload} {j : Json} (h : p.document = .ok j) : j.IsShort := by
  cases p with
  | int n =>
      obtain ⟨text, written, made⟩ := bind_eq_ok.mp h
      cases made
      intro m found
      obtain rfl := List.mem_singleton.mp found
      unfold integerText at written
      split at written
      · assumption
      · cases written
  | list items | tuple items =>
      obtain ⟨js, documents, made⟩ := bind_eq_ok.mp h
      cases made
      exact Json.isShort_array_iff.mpr (isShort_itemsDocument documents)
  | record fields => exact isShort_sortedDocument (isShort_fieldDocuments fields) h
  | mapping entries => exact isShort_sortedDocument (isShort_entryDocuments entries) h
  | set isFrozen items | value kind raw =>
      obtain ⟨texts, -, made⟩ := bind_eq_ok.mp h
      cases made
      exact Json.isShort_of_noIntegers rfl
  | _ =>
      cases h
      exact Json.isShort_of_noIntegers rfl

theorem isShort_itemsDocument {ps : List Payload} {js : List Json}
    (h : itemsDocument ps = .ok js) : ∀ j ∈ js, j.IsShort := by
  cases ps with
  | nil =>
      cases h
      exact nofun
  | cons p ps =>
      obtain ⟨j, first, h⟩ := bind_eq_ok.mp h
      obtain ⟨rest, others, made⟩ := bind_eq_ok.mp h
      cases made
      exact List.forall_mem_cons.mpr ⟨isShort_document first, isShort_itemsDocument others⟩

theorem isShort_fieldDocuments (fields : List (String × Payload)) :
    ∀ entry ∈ fieldDocuments fields, ∀ j, entry.2 = .ok j → j.IsShort := by
  cases fields with
  | nil => exact nofun
  | cons field fields =>
      obtain ⟨name, p⟩ := field
      exact List.forall_mem_cons.mpr ⟨fun _ => isShort_document, isShort_fieldDocuments fields⟩

theorem isShort_entryDocuments (entries : List (Payload × Payload)) :
    ∀ entry ∈ entryDocuments entries, ∀ j, entry.2 = .ok j → j.IsShort := by
  cases entries with
  | nil => exact nofun
  | cons entry entries =>
      obtain ⟨key, p⟩ := entry
      exact List.forall_mem_cons.mpr ⟨fun _ => isShort_document, isShort_entryDocuments entries⟩

end

/-! ## Displayed texts -/

theorem compact_ne_error {entries : List (Payload × Except Fault Json)} {j : Json} {f : Fault}
    (short : ∀ entry ∈ entries, ∀ j, entry.2 = .ok j → j.IsShort)
    (made : sortedDocument entries = .ok j) : j.compact ≠ .error f :=
  fun failed => Json.not_isShort_of_compact failed (isShort_sortedDocument short made)

mutual

theorem displayed_error {p : Payload} {f : Fault} (h : p.displayed = .error f) :
    UnwritableIn p.parts f := by
  cases p with
  | int n =>
      obtain ⟨digits, long⟩ := integerText_error h
      exact .inl ⟨digits, _, mem_parts_self _, long⟩
  | list items | tuple items | set isFrozen items =>
      rw [displayed, bind_pure_eq_error] at h
      exact (displayedItems_error h).mono (List.subset_cons_self _ _)
  | record fields =>
      rw [displayed, bind_eq_error] at h
      rcases h with h | ⟨j, made, h⟩
      · exact (fieldDocuments_error fields (sortedDocument_fields_error h)).mono
          (List.subset_cons_self _ _)
      · exact absurd h (compact_ne_error (isShort_fieldDocuments fields) made)
  | mapping entries =>
      rw [displayed, bind_eq_error] at h
      rcases h with h | ⟨j, made, h⟩
      · rcases sortedDocument_entries_error h with keys | fails
        · exact .inr ⟨_, mem_parts_self _, keys⟩
        · exact (entryDocuments_error entries fails).mono (List.subset_cons_self _ _)
      · exact absurd h (compact_ne_error (isShort_entryDocuments entries) made)
  | value kind raw => exact (displayed_error (p := raw) h).mono (List.subset_cons_self _ _)
  | _ => cases h

theorem displayedItems_error {ps : List Payload} {f : Fault} (h : displayedItems ps = .error f) :
    UnwritableIn (partsOf ps) f := by
  cases ps with
  | nil => cases h
  | cons p ps =>
      rw [displayedItems] at h
      split at h
      · exact (displayedItems_error h).mono (List.subset_append_right _ _)
      · rcases bind_eq_error.mp h with h | ⟨text, -, h⟩
        · exact (displayed_error h).mono (List.subset_append_left _ _)
        · exact (displayedItems_error (bind_pure_eq_error.mp h)).mono (List.subset_append_right _ _)

theorem document_error {p : Payload} {f : Fault} (h : p.document = .error f) :
    UnwritableIn p.parts f := by
  cases p with
  | int n =>
      obtain ⟨digits, long⟩ := integerText_error (bind_pure_eq_error.mp h)
      exact .inl ⟨digits, _, mem_parts_self _, long⟩
  | list items | tuple items =>
      rw [document, bind_pure_eq_error] at h
      exact (itemsDocument_error h).mono (List.subset_cons_self _ _)
  | record fields =>
      exact (fieldDocuments_error fields (sortedDocument_fields_error h)).mono
        (List.subset_cons_self _ _)
  | mapping entries =>
      rcases sortedDocument_entries_error h with keys | fails
      · exact .inr ⟨_, mem_parts_self _, keys⟩
      · exact (entryDocuments_error entries fails).mono (List.subset_cons_self _ _)
  | set isFrozen items =>
      rw [document, bind_pure_eq_error] at h
      exact .inl ((shownItems_error h).mono (List.subset_cons_self _ _))
  | value kind raw =>
      rw [document, bind_pure_eq_error] at h
      exact (displayed_error h).mono (List.subset_cons_self _ _)
  | _ => cases h

theorem itemsDocument_error {ps : List Payload} {f : Fault} (h : itemsDocument ps = .error f) :
    UnwritableIn (partsOf ps) f := by
  cases ps with
  | nil => cases h
  | cons p ps =>
      rw [itemsDocument, bind_eq_error] at h
      rcases h with h | ⟨j, -, h⟩
      · exact (document_error h).mono (List.subset_append_left _ _)
      · exact (itemsDocument_error (bind_pure_eq_error.mp h)).mono (List.subset_append_right _ _)

theorem fieldDocuments_error (fields : List (String × Payload)) {f : Fault}
    (h : ∃ entry ∈ fieldDocuments fields, entry.2 = .error f) :
    UnwritableIn (partsOfFields fields) f := by
  obtain ⟨entry, listed, fails⟩ := h
  cases fields with
  | nil => cases listed
  | cons field fields =>
      obtain ⟨name, p⟩ := field
      rcases List.mem_cons.mp listed with rfl | later
      · exact (document_error fails).mono (List.subset_append_left _ _)
      · exact (fieldDocuments_error fields ⟨entry, later, fails⟩).mono
          (List.subset_append_right _ _)

theorem entryDocuments_error (entries : List (Payload × Payload)) {f : Fault}
    (h : ∃ entry ∈ entryDocuments entries, entry.2 = .error f) :
    UnwritableIn (partsOfEntries entries) f := by
  obtain ⟨entry, listed, fails⟩ := h
  cases entries with
  | nil => cases listed
  | cons origin entries =>
      obtain ⟨key, p⟩ := origin
      rcases List.mem_cons.mp listed with rfl | later
      · exact (document_error fails).mono (parts_subset_entry ..)
      · exact (entryDocuments_error entries ⟨entry, later, fails⟩).mono
          (partsOfEntries_subset_cons ..)

end

/-! ## Conversions -/

def ConvertsUpTo (p : Payload) (f : Fault) : Prop := (∃ e, f = .conversion e) ∨ p.Explains f

theorem shown_convertsUpTo {α : Type} {p : Payload} {e : String → ConversionError} {f : Fault}
    (h : (do let text ← p.shown; failed (e text) : Except Fault α) = .error f) :
    p.ConvertsUpTo f := by
  rcases bind_eq_error.mp h with h | ⟨text, -, h⟩
  · exact .inr (.inr (.inr (.inl (shown_error h))))
  · cases h
    exact .inl ⟨_, rfl⟩

theorem toNumber_error {p : Payload} {f : Fault} (h : p.toNumber = .error f) :
    p.ConvertsUpTo f := by
  unfold toNumber at h
  split at h
  · cases h
  · cases h
  · cases h
  · exact shown_convertsUpTo h
  · exact shown_convertsUpTo h
  · split at h
    · cases h
    · exact shown_convertsUpTo h
  · split at h
    · cases h
    · exact shown_convertsUpTo h
    · cases h
      exact .inl ⟨_, rfl⟩
  · cases h
    exact .inl ⟨_, rfl⟩

theorem readMoment_error {s : String} {f : Fault} (h : readMoment s = .error f) :
    (f = .conversion (.textNotTimestamp s)) ∨
    (f = .outsideCalendar ∧ (text s).leavesCalendar = true) := by
  unfold readMoment at h
  dsimp only at h
  split at h
  · next t read =>
      split at h
      · cases h
      · next outside =>
          cases h
          exact .inr ⟨rfl, by simp [leavesCalendar, read, outside]⟩
  · split at h
    · cases h
    · cases h
      exact .inl rfl

theorem toMoment_error {p : Payload} {f : Fault} (h : p.toMoment = .error f) :
    p.ConvertsUpTo f := by
  unfold toMoment at h
  split at h
  · next t =>
      split at h
      · cases h
      · next outside =>
          cases h
          exact .inr (.inl ⟨rfl, _, mem_parts_self _, by simp [leavesCalendar, outside]⟩)
  · cases h
  · rcases readMoment_error h with conversion | ⟨calendar, leaves⟩
    · exact .inl ⟨_, conversion⟩
    · exact .inr (.inl ⟨calendar, _, mem_parts_self _, leaves⟩)
  · cases h
    exact .inl ⟨_, rfl⟩

theorem toTruth_error {p : Payload} {f : Fault} (h : p.toTruth = .error f) :
    p.ConvertsUpTo f := by
  unfold toTruth at h
  split at h
  · cases h
  · split_ifs at h
    exact shown_convertsUpTo h
  · split_ifs at h
    exact shown_convertsUpTo h
  · cases h
    exact .inr (.inr (.inl ⟨rfl, mem_parts_self _⟩))
  · split at h
    · cases h
    · exact shown_convertsUpTo h
  · exact shown_convertsUpTo h

theorem nullOnFailure_error {α : Type} {p : Payload} {x : Except Fault α} {make : α → Payload}
    {f : Fault} (cause : ∀ g, x = .error g → p.ConvertsUpTo g)
    (h : nullOnFailure (x.map make) = .error f) : p.Explains f := by
  cases x with
  | ok a => cases h
  | error g =>
      rcases cause g rfl with ⟨e, rfl⟩ | explains
      · cases h
      · cases g <;> cases h <;> exact explains

/-- Whatever kind a payload is brought to, only a part of it makes that fail. -/
theorem normalize_error {k : Kind} {p : Payload} {f : Fault} (h : p.normalize k = .error f) :
    p.Explains f := by
  unfold normalize at h
  split at h
  · cases h
  cases k with
  | null | collection => cases h
  | boolean => exact nullOnFailure_error (fun _ => toTruth_error) h
  | timestamp => exact nullOnFailure_error (fun _ => toMoment_error) h
  | number =>
      dsimp only at h
      split at h
      · cases h
      · exact nullOnFailure_error (fun _ => toNumber_error) h
  | text =>
      dsimp only at h
      split at h
      · cases h
      · exact .inr (.inr (displayed_error (map_eq_error.mp h)))

theorem normalizeElement_error {p : Payload} {f : Fault} (h : p.normalizeElement = .error f) :
    p.Explains f := by
  unfold normalizeElement at h
  split at h
  · cases h
  · cases h
  · cases h
  · exact normalize_error h

/-! ## Results of conversions -/

def isSingle : Payload → Bool
  | null | bool _ | int _ | float _ | decimal _ | irregular _ | signaling | text _ | timestamp _
  | date _ => true
  | _ => false

def isElementary : Payload → Bool
  | null | bool _ | decimal _ | text _ | timestamp _ => true
  | _ => false

theorem parts_of_isSingle {p : Payload} (single : p.isSingle = true) : p.parts = [p] := by
  cases p <;> cases single <;> rfl

theorem isTooLong_of_isSingle {p : Payload} (single : p.isSingle = true) {f : Fault}
    (unwritable : UnwritableIn p.parts f) : f = .tooManyDigits ∧ p.isTooLong = true := by
  rw [parts_of_isSingle single] at unwritable
  rcases unwritable with ⟨digits, q, found, long⟩ | ⟨q, found, entries, rfl, -⟩
  · rw [List.mem_singleton.mp found] at long
    exact ⟨digits, long⟩
  · rw [← List.mem_singleton.mp found] at single
    cases single

theorem items?_of_isSingle {p : Payload} (single : p.isSingle = true) : p.items? = none := by
  cases p <;> cases single <;> rfl

theorem isSingle_of_isElementary {p : Payload} (plain : p.isElementary = true) :
    p.isSingle = true := by
  cases p <;> cases plain <;> rfl

theorem displayed_of_isElementary {p : Payload} (plain : p.isElementary = true) :
    ∃ text, p.displayed = .ok text := by
  cases p <;> cases plain <;> exact ⟨_, rfl⟩

theorem normalize_eq_ok {k : Kind} {p q : Payload} (h : p.normalize k = .ok q) :
    q = p ∨ q.isElementary = true := by
  rcases brought_of_normalize h with rfl | brought
  · exact .inr rfl
  · cases brought with
    | whole | collection => exact .inl rfl
    | number | text | timestamp | boolean => exact .inr rfl

end Payload

/-! ## Fields -/

namespace Schema

variable {s : Schema} {lookup : Lookup} {name : String} {record : Payload}

theorem read_error {f : Fault} (h : s.read lookup name record = .error f) : record.Explains f := by
  unfold read at h
  split at h
  · cases h
  · split at h
    · next found => exact (Payload.normalize_error h).mono (Payload.find?_parts found)
    · cases h

theorem read_eq_ok {p : Payload} (h : s.read lookup name record = .ok p) :
    p.parts ⊆ record.parts ∨ p.isElementary = true := by
  unfold read at h
  split at h
  · cases h
    exact .inr rfl
  · split at h
    · next found =>
        rcases Payload.normalize_eq_ok h with rfl | plain
        · exact .inl (Payload.find?_parts found)
        · exact .inr plain
    · cases h
      exact .inr rfl

end Schema

end RecordFilter
