import RecordFilter.Proofs.FirstAppearances
import RecordFilter.Proofs.SeparatedValues
import RecordFilter.Proofs.WrittenFiles
import RecordFilter.Proofs.WrittenLines

/-!
# Exported tables

Rows that give a text for each column are exported to a file that has the same columns and the same
texts when it is loaded, in the same order.  What cannot come back is a carriage return, which is
read as an end of a line, a cell longer than the reader takes, and a first name that begins
like the mark of a file; every other text does.
-/

namespace RecordFilter

open Payload

namespace Row

def GivesTexts (columns : List String) (row : Row) : Prop :=
  ∀ name ∈ columns, ∃ s, row.entries.lookup name = some (.text s)

def textOf (row : Row) (name : String) : String :=
  match row.entries.lookup name with
  | some (.text s) => s
  | _ => ""

def only (columns : List String) (row : Row) : Row :=
  ⟨columns.map fun name => (name, (row.entries.lookup name).getD .null), []⟩

end Row

/-! ## Exported cells -/

theorem lookup_cellTexts {name s : String} {fields : List (String × Payload)}
    {texts : List (String × String)} (found : fields.lookup name = some (.text s))
    (written : cellTexts fields = .ok texts) : texts.lookup name = some s := by
  induction fields generalizing texts with
  | nil => cases found
  | cons field fields ih =>
      obtain ⟨name', p⟩ := field
      obtain ⟨text, displayed, written⟩ := bind_eq_ok.mp written
      obtain ⟨others, rest, made⟩ := bind_eq_ok.mp written
      cases made
      rw [List.lookup_cons] at found ⊢
      split at found
      · cases found
        cases displayed
        rfl
      · exact ih found rest

theorem exportRow_eq_ok {columns : List String} {row : Row} {cells : List String}
    (gives : row.GivesTexts columns) (written : exportRow columns row = .ok cells) :
    cells = columns.map row.textOf := by
  obtain ⟨texts, displayed, made⟩ := bind_eq_ok.mp written
  cases made
  refine List.map_congr_left fun name listed => ?_
  obtain ⟨s, found⟩ := gives name listed
  rw [lookup_cellTexts found displayed, Row.textOf, found]
  rfl

theorem texts_eq {columns : List String} {rows : List Row} {cells : List (List String)}
    (gives : ∀ row ∈ rows, row.GivesTexts columns) (texts : Texts columns rows cells) :
    cells = rows.map fun row => columns.map row.textOf := by
  induction texts with
  | nil => rfl
  | cons exported _ ih =>
      rw [List.forall_mem_cons] at gives
      rw [exportRow_eq_ok gives.1 exported, ih gives.2, List.map_cons]

theorem content_of_writeExport {w after : Workspace} {file : String} {columns : List String}
    {rows : List Row} {artifact : Artifact} (gives : ∀ row ∈ rows, row.GivesTexts columns)
    (written : writeExport w file columns rows = .ok (after, artifact)) :
    after.read (.ofString file) =
      .ok (Text.encode (Csv.tableText columns (rows.map fun row => columns.map row.textOf))) := by
  obtain ⟨stored, none, -⟩ := writeExport_eq_ok written
  obtain ⟨cells, texts, whole⟩ := exportTable_whole none
  rw [(Workspace.stores_of_writeWithFolders stored).content, whole, texts_eq gives texts]

/-! ## Rows under a header -/

section

variable {header cells : List String}

theorem rowOfCells_eq (distinct : header.Nodup) (long : cells.length = header.length) :
    rowOfCells header cells = ⟨header.zip (cells.map Payload.text), []⟩ := by
  have none : header.drop cells.length = [] := List.drop_eq_nil_of_le (Nat.le_of_eq long.symm)
  have names : ((header.zip (cells.map Payload.text)).map (·.1)).Nodup := by
    rw [List.map_fst_zip (by simp [long])]
    exact distinct
  rw [rowOfCells, none, List.map_nil, List.append_nil, List.drop_eq_nil_of_le (Nat.le_of_eq long)]
  change Row.mk (distinctFields ((header.zip cells).map (Prod.map id Payload.text))) [] = _
  rw [← List.zip_map_right, distinctFields_of_nodup names]

theorem rowOfCells_inj {cells' : List String} (distinct : header.Nodup)
    (long : cells.length = header.length) (long' : cells'.length = header.length) :
    rowOfCells header cells = rowOfCells header cells' ↔ cells = cells' := by
  constructor
  · intro same
    rw [rowOfCells_eq distinct long, rowOfCells_eq distinct long', Row.mk.injEq] at same
    have texts := congrArg (List.map Prod.snd) same.1
    rw [List.map_snd_zip (by simp [long]), List.map_snd_zip (by simp [long'])] at texts
    exact (List.map_inj_right fun _ _ => Payload.text.inj).mp texts
  · intro same
    rw [same]

theorem rowOfCells_texts {row : Row} (distinct : header.Nodup) (gives : row.GivesTexts header) :
    rowOfCells header (header.map row.textOf) = row.only header := by
  rw [rowOfCells_eq distinct (List.length_map _), Row.only, List.map_map,
    ← List.map_prod_left_eq_zip]
  refine congrArg (Row.mk · []) (List.map_congr_left fun name listed => ?_)
  obtain ⟨s, found⟩ := gives name listed
  simp [Row.textOf, found]

end

/-! ## Tables that come back -/

def exportedTexts (columns : List String) (rows : List Row) : List String :=
  columns ++ rows.flatMap fun row => columns.map row.textOf

/-- An exported table whose texts come back from a file: none holds a carriage return or is longer
than the reader takes, and the first name does not begin like the mark of a file, unless it is in
quotes. -/
structure ComesBack (columns : List String) (rows : List Row) : Prop where
  unbroken : ∀ text ∈ exportedTexts columns rows, '\r' ∉ text.toList
  short : ∀ text ∈ exportedTexts columns rows, text.length ≤ Csv.cellLimit
  unmarked : ∀ first ∈ columns.head?, first.toList.head? = some Text.mark →
    first.toList.any Csv.needsQuotes = true

def textRows (columns : List String) (rows : List Row) : List (List String) :=
  rows.map fun row => columns.map row.textOf

theorem comesBack_iff (columns : List String) (rows : List Row) :
    ComesBack columns rows ↔ Csv.Survives columns (textRows columns rows) := by
  have all (property : String → Prop) :
      (∀ cells ∈ columns :: textRows columns rows, ∀ cell ∈ cells, property cell) ↔
        ∀ text ∈ exportedTexts columns rows, property text := by
    simp only [exportedTexts, textRows, List.forall_mem_cons, List.forall_mem_append,
      List.mem_flatMap, List.mem_map]
    refine and_congr_right' ⟨?_, ?_⟩
    · rintro each text ⟨row, found, listed⟩
      exact each _ ⟨row, found, rfl⟩ text (List.mem_map.mpr listed)
    · rintro each _ ⟨row, found, rfl⟩ text listed
      exact each text ⟨row, found, List.mem_map.mp listed⟩
  have marked (first : String) : ¬ Csv.IsMarked first ↔
      (first.toList.head? = some Text.mark → first.toList.any Csv.needsQuotes = true) := by
    rw [Csv.IsMarked, not_and, ← ne_eq, Bool.ne_false_iff]
  constructor
  · rintro ⟨unbroken, short, unmarked⟩
    exact ⟨(all _).mpr unbroken, (all _).mpr short, fun first h =>
      (marked first).mpr (unmarked first h)⟩
  · rintro ⟨unbroken, short, unmarked⟩
    exact ⟨(all _).mp unbroken, (all _).mp short, fun first h =>
      (marked first).mp (unmarked first h)⟩

section

variable {columns : List String} {rows : List Row}

theorem textRows_ne_nil (filled : columns ≠ []) : ∀ cells ∈ textRows columns rows, cells ≠ [] := by
  intro cells found
  obtain ⟨row, -, rfl⟩ := List.mem_map.mp found
  simpa using filled

theorem tableOfRows_of_filled {header : List String} {cells : List (List String)}
    (filled : ∀ row ∈ cells, row ≠ []) :
    tableOfRows (header :: cells) = ⟨.csv, header, cells.map (rowOfCells header)⟩ := by
  have kept : cells.filter (!·.isEmpty) = cells := by
    rw [List.filter_eq_self]
    intro row found
    simpa using filled row found
  rw [tableOfRows, kept]

theorem map_rowOfCells_textRows (distinct : columns.Nodup)
    (gives : ∀ row ∈ rows, row.GivesTexts columns) :
    (textRows columns rows).map (rowOfCells columns) = rows.map (Row.only columns) := by
  rw [textRows, List.map_map]
  exact List.map_congr_left fun row found => rowOfCells_texts distinct (gives row found)

/-- What is exported is loaded as it was exactly if its texts come back. -/
theorem loadSeparated_tableText_iff (distinct : columns.Nodup) (filled : columns ≠ [])
    (named : "" ∉ columns) (gives : ∀ row ∈ rows, row.GivesTexts columns) :
    loadSeparated (Text.normalizeNewlines (Text.unmarked
        (Csv.tableText columns (textRows columns rows)))) =
        .ok ⟨.csv, columns, rows.map (Row.only columns)⟩ ↔
      ComesBack columns rows := by
  have other : columns ≠ [""] := fun same => named (same ▸ List.mem_singleton_self "")
  have cells : ∀ cells ∈ textRows columns rows, cells ≠ [] := textRows_ne_nil filled
  rw [comesBack_iff, ← Csv.rows_tableText_iff filled other cells, loadSeparated,
    ← map_rowOfCells_textRows distinct gives]
  constructor
  · intro loaded
    rw [Csv.rows_tableText filled other cells] at loaded ⊢
    split_ifs at loaded ⊢ with fits
    have normalized : ∀ row ∈ (textRows columns rows).map fun row => row.map Csv.normalizedCell,
        row ≠ [] := by
      simpa using cells
    have table := Except.ok.inj loaded
    rw [tableOfRows_of_filled normalized, RecordTable.mk.injEq] at table
    obtain ⟨-, header, body⟩ := table
    -- both tables have the header now, under which a row is told by its cells
    rw [header, List.map_map, List.map_inj_left] at body
    have same : (textRows columns rows).map (fun row => row.map Csv.normalizedCell) =
        textRows columns rows := by
      rw [Csv.map_eq_self]
      intro row found
      obtain ⟨source, -, rfl⟩ := List.mem_map.mp found
      exact (rowOfCells_inj distinct (by simp) (by simp)).mp (body _ found)
    rw [header, same]
  · intro read
    rw [read]
    exact congrArg Except.ok (tableOfRows_of_filled cells)

end

/-- A table that is exported to a file and loaded from it has the same columns and the same texts in
the same rows exactly if its texts come back. -/
theorem loadTable_of_writeExport {e : Environment} {w after : Workspace} {s : Selection}
    {file : String} {columns : List String} {rows : List Row} {artifact : Artifact}
    (filled : columns ≠ []) (distinct : columns.Nodup) (named : "" ∉ columns)
    (gives : ∀ row ∈ rows, row.GivesTexts columns)
    (written : writeExport w file columns rows = .ok (after, artifact))
    (input : s.input = some file) (isFile : file ≠ dash) (format : recordFormat s = .csv) :
    loadTable e after s = .ok ⟨.csv, columns, rows.map (Row.only columns)⟩ ↔
      ComesBack columns rows := by
  have selects : Selects after s file .csv (Csv.tableText columns (textRows columns rows)) :=
    ⟨input, isFile, format, content_of_writeExport gives written⟩
  rw [selects.loadTable_eq, mapError_eq_ok]
  exact loadSeparated_tableText_iff distinct filled named gives

/-! ## A table of notes -/

def noteFolder : Workspace := ⟨["", "notes"], [], []⟩

def noteFile : Selection := ⟨some "notes.csv", none, none, none, none⟩

def noteRow (note : String) : Row := ⟨[("Name", .text "Ann"), ("Note", .text note)], []⟩

theorem noteRow_givesTexts (note : String) :
    ∀ row ∈ [noteRow note], row.GivesTexts ["Name", "Note"] := by
  rw [List.forall_mem_singleton]
  exact List.forall_mem_cons.mpr
    ⟨⟨"Ann", rfl⟩, List.forall_mem_singleton.mpr
      ⟨note, by simp [noteRow, Row.entries, List.lookup_cons]⟩⟩

theorem writeExport_note (note : String)
    (written :
      (writeExport noteFolder "notes.csv" ["Name", "Note"] [noteRow note]).toOption.isSome) :
    ∃ after artifact, writeExport noteFolder "notes.csv" ["Name", "Note"] [noteRow note] =
      .ok (after, artifact) := by
  obtain ⟨⟨after, artifact⟩, made⟩ := Option.isSome_iff_exists.mp written
  exact ⟨after, artifact, toOption_eq_some.mp made⟩

theorem loadTable_of_writeExport_lines :
    ∃ after artifact,
      writeExport noteFolder "notes.csv" ["Name", "Note"] [noteRow "so, \"this\"\nis it"] =
        .ok (after, artifact) ∧
      loadTable ⟨none, none, []⟩ after noteFile =
        .ok ⟨.csv, ["Name", "Note"],
          [noteRow "so, \"this\"\nis it"].map (Row.only ["Name", "Note"])⟩ := by
  obtain ⟨after, artifact, written⟩ := writeExport_note "so, \"this\"\nis it" (by decide +kernel)
  have comesBack : ComesBack ["Name", "Note"] [noteRow "so, \"this\"\nis it"] :=
    ⟨by decide, by decide, fun first named marked => by cases named; cases marked⟩
  exact ⟨after, artifact, written, (loadTable_of_writeExport (by decide) (by decide) (by decide)
    (noteRow_givesTexts _) written rfl (by decide) (by decide +kernel)).mpr comesBack⟩

theorem loadTable_of_writeExport_not_same :
    ¬ ∀ (e : Environment) (w after : Workspace) (s : Selection) (file : String)
        (columns : List String) (rows : List Row) (artifact : Artifact),
      columns ≠ [] → columns.Nodup → "" ∉ columns → (∀ row ∈ rows, row.GivesTexts columns) →
      writeExport w file columns rows = .ok (after, artifact) →
      s.input = some file → file ≠ dash → recordFormat s = .csv →
      loadTable e after s = .ok ⟨.csv, columns, rows.map (Row.only columns)⟩ := by
  intro claim
  have gives := noteRow_givesTexts "this\ris it"
  have isFile : "notes.csv" ≠ dash := by decide
  have format : recordFormat noteFile = .csv := by decide +kernel
  obtain ⟨after, artifact, written⟩ := writeExport_note "this\ris it" (by decide +kernel)
  have loaded := claim ⟨none, none, []⟩ _ _ noteFile _ _ _ _ (by decide) (by decide) (by decide)
    gives written rfl isFile format
  have selects : Selects after noteFile "notes.csv" .csv
      (Csv.tableText ["Name", "Note"] (textRows ["Name", "Note"] [noteRow "this\ris it"])) :=
    ⟨rfl, isFile, format, content_of_writeExport gives written⟩
  rw [selects.loadTable_eq, mapError_eq_ok] at loaded
  have back := (loadSeparated_tableText_iff (by decide) (by decide) (by decide) gives).mp loaded
  exact back.unbroken "this\ris it" (by decide) (by decide)

end RecordFilter
