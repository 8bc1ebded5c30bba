import RecordFilter.Command.Files
import RecordFilter.Proofs.InferredSchemas

/-!
# Columns and inferred fields

Without a schema the fields that can be filtered are suggested by the rows of a table, while its
columns are the names in a header or the names of all records.  Records of documents suggest exactly
the columns.  A table of separated values does so if its header names each column once, if it has
rows at all, and if no row has surplus cells: those become a field of their own.  The fields of
a table cannot be found only if a text in it leaves the calendar.
-/

namespace RecordFilter

open Payload

namespace Row

def names (r : Row) : List String := r.entries.map (·.1)

theorem names_of_whole {r : Row} (whole : r.surplus = []) : r.names = r.fields.map (·.1) := by
  simp [names, entries, whole]

theorem names_of_surplus {r : Row} (surplus : r.surplus ≠ []) :
    r.names = r.fields.map (·.1) ++ [surplusName] := by
  simp [names, entries, surplus]

end Row

/-! ## Names and faults of inferred schemas -/

namespace Schema

variable {parseText : Bool} {samples : List Payload}

theorem names_of_infer {s : Schema} (named : ∀ entries, .mapping entries ∉ samples)
    (h : infer parseText samples = .ok s) :
    s.names = (samples.flatMap Payload.keys).eraseDups := by
  rw [infer, mapM_sampleFields named, ok_bind] at h
  obtain ⟨fields, found, made⟩ := bind_eq_ok.mp h
  cases made
  rw [keys_eq]
  refine (map_of_mapM _ id (fun name field chosen => ?_) found).trans (List.map_id _)
  obtain ⟨kind, -, made⟩ := bind_eq_ok.mp chosen
  cases made
  rfl

theorem infer_error {f : Fault} (named : ∀ entries, .mapping entries ∉ samples)
    (h : infer parseText samples = .error f) :
    f = .outsideCalendar ∧ parseText = true ∧
      ∃ fields, .record fields ∈ samples ∧ ∃ name s, (name, .text s) ∈ fields ∧
        (Payload.text s).leavesCalendar = true := by
  rw [infer, mapM_sampleFields named, ok_bind] at h
  obtain ⟨name, -, failed⟩ := mapM_eq_error (bind_pure_eq_error.mp h)
  obtain ⟨calendar, p, found, own, leaves, parsed⟩ :=
    inferKind_error (bind_pure_eq_error.mp failed)
  obtain ⟨s, rfl⟩ := text_of_kind? own
  obtain ⟨fields, listed, member⟩ := mem_entriesOf.mp (mem_valuesOf.mp found).1
  exact ⟨calendar, parsed, fields, listed, name, s, member, leaves⟩

end Schema

/-! ## Tables of records -/

namespace RecordTable

/-- A table whose columns are the fields that its rows suggest. -/
structure IsPlain (t : RecordTable) : Prop where
  distinct : t.columns.Nodup
  filled : t.rows = [] → t.columns = []
  whole : ∀ row ∈ t.rows, row.surplus ≠ [] → Row.surplusName ∈ t.columns

theorem not_mapping_mem (t : RecordTable) (entries : List (Payload × Payload)) :
    .mapping entries ∉ t.rows.map Row.shown := by
  simp [Row.shown]

def names (t : RecordTable) : List String := (t.rows.flatMap Row.names).eraseDups

theorem names_of_schema {t : RecordTable} {s : Schema} (h : t.schema = .ok s) :
    s.names = t.names := by
  rw [Schema.names_of_infer t.not_mapping_mem h, names, List.flatMap_map]
  rfl

theorem isPlain_of_names {t : RecordTable} (same : t.names = t.columns) : t.IsPlain where
  distinct := same ▸ nodup_eraseDups _
  filled none := by rw [← same, names, none]; rfl
  whole row found surplus := by
    rw [← same, names, List.mem_eraseDups, List.mem_flatMap]
    refine ⟨row, found, ?_⟩
    rw [Row.names_of_surplus surplus]
    exact List.mem_append_right _ (List.mem_singleton_self _)

theorem names_of_isPlain {t : RecordTable} (plain : t.IsPlain)
    (header : ∀ row ∈ t.rows, row.fields.map (·.1) = t.columns) : t.names = t.columns := by
  have known : ∀ row ∈ t.rows, ∃ more, row.names = t.columns ++ more ∧ more ⊆ t.columns := by
    intro row found
    by_cases whole : row.surplus = []
    · refine ⟨[], ?_, List.nil_subset _⟩
      rw [Row.names_of_whole whole, header row found, List.append_nil]
    · refine ⟨[Row.surplusName], ?_,
        List.cons_subset.mpr ⟨plain.whole row found whole, List.nil_subset _⟩⟩
      rw [Row.names_of_surplus whole, header row found]
  rw [names]
  cases rows : t.rows with
  | nil => exact (plain.filled rows).symm
  | cons row others =>
      rw [rows] at known
      obtain ⟨more, first, within⟩ := known row List.mem_cons_self
      rw [List.flatMap_cons, first, List.append_assoc]
      -- The first row has all columns, and the others have no names besides.
      refine eraseDups_append_of_subset plain.distinct (List.append_subset.mpr ⟨within, ?_⟩)
      intro name found
      obtain ⟨other, listed, member⟩ := List.mem_flatMap.mp found
      obtain ⟨more, same, within⟩ := known other (List.mem_cons_of_mem row listed)
      rw [same] at member
      exact (List.mem_append.mp member).elim id fun extra => within extra

end RecordTable

/-! ## Records of documents -/

theorem rowsOfObjects_surplus {items : List Json} {index : Nat} {rows : List Row}
    (h : rowsOfObjects index items = .ok rows) : ∀ row ∈ rows, row.surplus = [] := by
  induction items generalizing index rows with
  | nil =>
      cases h
      exact List.forall_mem_nil _
  | cons item items ih =>
      cases item with
      | object members =>
          obtain ⟨others, read, made⟩ := bind_eq_ok.mp h
          cases made
          exact List.forall_mem_cons.mpr ⟨rfl, ih read⟩
      | _ => cases h

theorem tableOfObjects_names {format : RecordFormat} {items : List Json} {t : RecordTable}
    (h : tableOfObjects format items = .ok t) : t.format = format ∧ t.names = t.columns := by
  obtain ⟨rows, read, made⟩ := bind_eq_ok.mp h
  cases made
  have whole := rowsOfObjects_surplus read
  refine ⟨rfl, ?_⟩
  rw [RecordTable.names, fieldNamesOf, Schema.namesIn, List.map_flatten, List.map_map,
    List.flatMap_def, List.map_congr_left fun row found => Row.names_of_whole (whole row found)]
  rfl

/-! ## Separated values -/

theorem map_fst_zip_append_drop {α β : Type} (as : List α) (bs : List β) :
    (as.zip bs).map (·.1) ++ as.drop bs.length = as := by
  induction as generalizing bs with
  | nil => simp
  | cons a as ih =>
      cases bs with
      | nil => rfl
      | cons b bs =>
          exact congrArg (a :: ·) (ih bs)

theorem names_rowOfCells (header cells : List String) :
    (rowOfCells header cells).fields.map (·.1) = header.eraseDups := by
  rw [rowOfCells, names_distinctFields, List.map_append, List.map_map, List.map_map]
  exact congrArg List.eraseDups
    ((congrArg _ (List.map_id _)).trans (map_fst_zip_append_drop header cells))

theorem tableOfRows_names {rows : List (List String)} {t : RecordTable}
    (h : tableOfRows rows = t) (plain : t.IsPlain) : t.names = t.columns := by
  refine RecordTable.names_of_isPlain plain fun row found => ?_
  subst h
  cases rows with
  | nil => cases found
  | cons header rows =>
      obtain ⟨cells, -, rfl⟩ := List.mem_map.mp found
      exact (names_rowOfCells header cells).trans (eraseDups_of_nodup plain.distinct)

/-! ## Tables as they are loaded -/

theorem loadDocument_names {text : List Char} {t : RecordTable} (h : loadDocument text = .ok t) :
    t.format = .json ∧ t.names = t.columns := by
  unfold loadDocument at h
  dsimp only at h
  split_ifs at h <;> obtain ⟨document, -, h⟩ := bind_eq_ok.mp h
  all_goals
    obtain ⟨items, -, h⟩ := bind_eq_ok.mp h
    exact tableOfObjects_names h

theorem loadLines_names {text : List Char} {t : RecordTable} (h : loadLines text = .ok t) :
    t.format = .jsonLines ∧ t.names = t.columns := by
  obtain ⟨items, -, h⟩ := bind_eq_ok.mp h
  exact tableOfObjects_names h

/-- A table of records of documents is always plain, and a plain table suggests its columns. -/
theorem loadRecords_names {format : RecordFormat} {text : List Char} {t : RecordTable}
    (h : loadRecords format text = .ok t) :
    (t.format ≠ .csv → t.IsPlain) ∧ (t.names = t.columns ↔ t.IsPlain) := by
  cases format with
  | json =>
      have same := (loadDocument_names h).2
      have plain := RecordTable.isPlain_of_names same
      exact ⟨fun _ => plain, fun _ => plain, fun _ => same⟩
  | jsonLines =>
      have same := (loadLines_names h).2
      have plain := RecordTable.isPlain_of_names same
      exact ⟨fun _ => plain, fun _ => plain, fun _ => same⟩
  | csv =>
      simp only [loadRecords, loadSeparated] at h
      split at h
      · next rows read =>
          obtain table := Except.ok.inj h
          refine ⟨fun other => absurd ?_ other, RecordTable.isPlain_of_names,
            tableOfRows_names table⟩
          subst table
          cases rows <;> rfl
      · cases h

def RecordTable.HasTextOffCalendar (t : RecordTable) : Prop :=
  ∃ row ∈ t.rows, ∃ name s, (name, .text s) ∈ row.entries ∧
    (Payload.text s).leavesCalendar = true

/-- The fields of a loaded table are its columns exactly if the table is plain; they are found
unless a text of separated values leaves the calendar. -/
theorem resolverFor_fieldNames (l : Libraries) {e : Environment} {w : Workspace} {s : Selection}
    {t : RecordTable} (loaded : loadTable e w s = .ok t) :
    (t.format ≠ .csv → t.IsPlain) ∧
      ((∃ r, resolverFor l w none t = .ok r ∧ (r.fieldNames = t.columns ↔ t.IsPlain)) ∨
        (t.format = .csv ∧ t.HasTextOffCalendar ∧
          resolverFor l w none t = .error (.fault .outsideCalendar))) := by
  obtain ⟨text, -, read⟩ := bind_eq_ok.mp loaded
  have records := mapError_eq_ok.mp read
  obtain ⟨documents, names⟩ := loadRecords_names records
  refine ⟨documents, ?_⟩
  unfold resolverFor
  cases suggested : t.schema with
  | ok schema =>
      refine .inl ⟨schema.resolver .byName, rfl, ?_⟩
      change schema.names = t.columns ↔ _
      rw [RecordTable.names_of_schema suggested, names]
  | error f =>
      obtain ⟨rfl, parsed, fields, listed, name, s, member, leaves⟩ :=
        Schema.infer_error t.not_mapping_mem suggested
      obtain ⟨row, found, shown⟩ := List.mem_map.mp listed
      cases shown
      exact .inr ⟨by simpa using parsed, ⟨row, found, name, s, member, leaves⟩, rfl⟩

/-! ## Rows of other lengths than the header -/

def folderWith (text : String) : Workspace :=
  ⟨["", "data"], [], [(["", "data", "table.csv"], Text.encode text.toList)]⟩

def fromTable : Selection := ⟨some "table.csv", none, none, none, none⟩

def fieldsAndColumns (text : String) : Option (List String × List String) :=
  (loadTable ⟨none, none, []⟩ (folderWith text) fromTable).toOption.bind fun t =>
    (resolverFor .standard (folderWith text) none t).toOption.map fun r => (r.fieldNames, t.columns)

theorem of_fieldsAndColumns {text : String} {fields columns : List String}
    (seen : fieldsAndColumns text = some (fields, columns)) :
    ∃ t r, loadTable ⟨none, none, []⟩ (folderWith text) fromTable = .ok t ∧
      resolverFor .standard (folderWith text) none t = .ok r ∧ r.fieldNames = fields ∧
      t.columns = columns := by
  obtain ⟨t, loaded, found⟩ := Option.bind_eq_some_iff.mp seen
  obtain ⟨r, resolved, same⟩ := Option.map_eq_some_iff.mp found
  cases same
  exact ⟨t, r, toOption_eq_some.mp loaded, toOption_eq_some.mp resolved, rfl, rfl⟩

theorem resolverFor_fieldNames_shortRow :
    ∃ t, loadTable ⟨none, none, []⟩ (folderWith "A,B\n1\n") fromTable = .ok t ∧
      t.columns = ["A", "B"] ∧ (t.format ≠ .csv → t.IsPlain) ∧
      ((∃ r, resolverFor .standard (folderWith "A,B\n1\n") none t = .ok r ∧
          (r.fieldNames = t.columns ↔ t.IsPlain)) ∨
        (t.format = .csv ∧ t.HasTextOffCalendar ∧
          resolverFor .standard (folderWith "A,B\n1\n") none t =
            .error (.fault .outsideCalendar))) := by
  have seen : fieldsAndColumns "A,B\n1\n" = some (["A", "B"], ["A", "B"]) := by decide +kernel
  obtain ⟨t, r, loaded, -, -, columns⟩ := of_fieldsAndColumns seen
  exact ⟨t, loaded, columns, resolverFor_fieldNames .standard loaded⟩

theorem resolverFor_fieldNames_ne_columns :
    ¬ ∀ (l : Libraries) (e : Environment) (w : Workspace) (s : Selection) (t : RecordTable)
        (r : Resolver), loadTable e w s = .ok t → resolverFor l w none t = .ok r →
      r.fieldNames = t.columns := by
  intro claim
  have seen : fieldsAndColumns "A\n1,2\n" = some (["A", "None"], ["A"]) := by decide +kernel
  obtain ⟨t, r, loaded, resolved, fields, columns⟩ := of_fieldsAndColumns seen
  have same := claim _ _ _ _ t r loaded resolved
  rw [fields, columns] at same
  exact absurd same (by decide)

end RecordFilter
