import Mathlib.Tactic.SplitIfs
import RecordFilter.Command.Files
import RecordFilter.Proofs.EncodedTexts

/-!
# Files that were written

A file that was written is there under the same path, with the bytes that were written: writing
makes no other place of the path a file, and takes away no folder on the way.  Where writing fails,
all files are as they were, and folders may have been made.
-/

namespace RecordFilter

namespace Workspace

variable {w : Workspace} {place target : Place} {bytes : List Nat}

theorem fileAt?_putFile_self (w : Workspace) (target : Place) (bytes : List Nat) :
    (w.putFile target bytes).fileAt? target = some bytes := by
  have others : (w.files.filter (·.1 != target)).lookup target = none := by
    rw [List.lookup_eq_none_iff]
    intro file found
    have other := bne_iff_ne.mp (List.mem_filter.mp found).2
    simpa using Ne.symm other
  simp [fileAt?, putFile, List.lookup_append, others]

theorem fileAt?_putFile_of_ne (other : place ≠ target) :
    (w.putFile target bytes).fileAt? place = w.fileAt? place := by
  have kept : (w.files.filter (·.1 != target)).lookup place = w.files.lookup place := by
    induction w.files with
    | nil => rfl
    | cons file files ih =>
        rw [List.filter_cons]
        split_ifs with kept
        · rw [List.lookup_cons, List.lookup_cons, ih]
        · have same : file.1 = target := by simpa using kept
          rw [List.lookup_cons, ih, same, beq_eq_false_iff_ne.mpr other]
  have last : [(target, bytes)].lookup place = none := by
    simp [List.lookup_cons, beq_eq_false_iff_ne.mpr other]
  rw [fileAt?, fileAt?, putFile, List.lookup_append, kept, last, Option.or_none]

theorem isFolderAt_putFile (folder : w.isFolderAt place = true) :
    (w.putFile target bytes).isFolderAt place = true := by
  simp only [isFolderAt, putFile, Bool.or_eq_true, List.any_append, List.any_eq_true,
    List.mem_filter] at folder ⊢
  rcases folder with (here | listed) | ⟨file, found, within⟩
  · exact .inl (.inl here)
  · exact .inl (.inr listed)
  · by_cases same : file.1 = target
    · refine .inr (.inr ⟨(target, bytes), List.mem_singleton_self _, ?_⟩)
      rw [← same]
      exact within
    · exact .inr (.inl ⟨file, ⟨found, by simpa using same⟩, within⟩)

theorem walk_putFile {names : List String} {last : Place} (free : w.isFolderAt target = false)
    (led : w.walk place names = .ok last) :
    (w.putFile target bytes).walk place names = .ok last := by
  induction names generalizing place with
  | nil => exact led
  | cons name names ih =>
      rw [walk] at led ⊢
      by_cases file : (w.fileAt? place).isSome
      · rw [if_pos file] at led
        cases led
      by_cases folder : w.isFolderAt place = true
      · have other : place ≠ target := by
          rintro rfl
          rw [free] at folder
          cases folder
        rw [if_neg file, if_neg (by simp [folder])] at led
        rw [fileAt?_putFile_of_ne other, if_neg file, isFolderAt_putFile folder]
        simp only [Bool.not_true, Bool.false_eq_true, if_false]
        split_ifs at led ⊢ <;> exact ih led
      · rw [if_neg file, if_pos (by simpa using folder)] at led
        cases led

theorem write_eq_ok {p : Path} {after : Workspace} (written : w.write p bytes = .ok after) :
    ∃ target, after = w.putFile target bytes ∧ after.resolve p = .ok target := by
  unfold write at written
  split at written
  · cases written
  · next target led =>
      split_ifs at written with folder missing
      cases written
      exact ⟨target, rfl, walk_putFile (Bool.eq_false_iff.mpr folder) led⟩

theorem read_of_write {p : Path} {after : Workspace} (written : w.write p bytes = .ok after) :
    after.read p = .ok bytes := by
  obtain ⟨target, rfl, again⟩ := write_eq_ok written
  rw [read, again]
  simp only [fileAt?_putFile_self]

/-! ### Other files -/

structure Keeps (w after : Workspace) : Prop where
  files : ∀ place, after.fileAt? place = w.fileAt? place
  folders : ∀ place, w.isFolderAt place = true → after.isFolderAt place = true

namespace Keeps

theorem refl (w : Workspace) : w.Keeps w := ⟨fun _ => rfl, fun _ => id⟩

theorem trans {between after : Workspace} (first : w.Keeps between)
    (second : between.Keeps after) : w.Keeps after where
  files place := (second.files place).trans (first.files place)
  folders place folder := second.folders place (first.folders place folder)

end Keeps

/-- A path leads to a file with the bytes, and every other file is what it was before. -/
structure Stores (w : Workspace) (p : Path) (bytes : List Nat) (after : Workspace) : Prop where
  content : after.read p = .ok bytes
  others : ∃ target, after.resolve p = .ok target ∧
    ∀ place ≠ target, after.fileAt? place = w.fileAt? place

theorem Stores.of_keeps {p : Path} {between after : Workspace} (keeps : w.Keeps between)
    (stores : between.Stores p bytes after) : w.Stores p bytes after := by
  obtain ⟨content, target, led, others⟩ := stores
  exact ⟨content, target, led, fun place other => (others place other).trans (keeps.files place)⟩

theorem stores_of_write {p : Path} {after : Workspace} (written : w.write p bytes = .ok after) :
    w.Stores p bytes after := by
  obtain ⟨target, rfl, again⟩ := write_eq_ok written
  exact ⟨read_of_write written, target, again, fun place other => fileAt?_putFile_of_ne other⟩

theorem keeps_makeFolder (w : Workspace) (p : Path) :
    w.Keeps (Change.of w (w.makeFolder p)).after := by
  unfold makeFolder
  split
  · exact .refl w
  · split_ifs
    · exact .refl w
    · exact .refl w
    · refine ⟨fun _ => rfl, fun place folder => ?_⟩
      simp only [Change.of, isFolderAt, List.any_append, Bool.or_eq_true] at folder ⊢
      rcases folder with (here | listed) | within
      · exact .inl (.inl here)
      · exact .inl (.inr (.inl listed))
      · exact .inr within
    · exact .refl w

theorem keeps_makeFolders (count : Nat) (w : Workspace) (p : Path) :
    w.Keeps (makeFolders count w p).after := by
  induction count generalizing p with
  | zero =>
      rw [makeFolders]
      · exact keeps_makeFolder w p
      · exact fun _ _ _ => nofun
  | succ count ih =>
      unfold makeFolders
      split
      · next same =>
          cases same
          unfold Change.andThen
          split
          · exact (ih p.parent).trans (keeps_makeFolder _ p)
          · exact ih p.parent
      · exact keeps_makeFolder w p

/-- A file is written as a whole, or all files are as they were. -/
theorem writeWithFolders_cases (w : Workspace) (p : Path) (bytes : List Nat) :
    (∃ e, (w.writeWithFolders p bytes).result = .error e ∧
      w.Keeps (w.writeWithFolders p bytes).after) ∨
    ((w.writeWithFolders p bytes).result = .ok (w.writeWithFolders p bytes).after ∧
      w.Stores p bytes (w.writeWithFolders p bytes).after) := by
  have keeps := keeps_makeFolders p.parent.parts.length w p.parent
  unfold writeWithFolders Change.andThen
  dsimp only
  split
  · cases written : (makeFolders p.parent.parts.length w p.parent).after.write p bytes with
    | ok after => exact .inr ⟨rfl, .of_keeps keeps (stores_of_write written)⟩
    | error e => exact .inl ⟨e, rfl, keeps⟩
  · next e failed => exact .inl ⟨e, by rw [Change.result, failed], keeps⟩

theorem stores_of_writeWithFolders {p : Path} {after : Workspace}
    (written : (w.writeWithFolders p bytes).result = .ok after) : w.Stores p bytes after := by
  rcases writeWithFolders_cases w p bytes with ⟨e, failed, -⟩ | ⟨same, stores⟩
  · cases written.symm.trans failed
  · cases written.symm.trans same
    exact stores

end Workspace

/-! ## Exports -/

theorem writeExport_eq_ok {w after : Workspace} {file : String} {columns : List String}
    {rows : List Row} {artifact : Artifact}
    (written : writeExport w file columns rows = .ok (after, artifact)) :
    (w.writeWithFolders (.ofString file) (exportTable columns rows).bytes).result = .ok after ∧
      (exportTable columns rows).problem = none ∧
      artifact.rowsWritten = rows.length ∧
      artifact.bytesWritten = (exportTable columns rows).bytes.length := by
  obtain ⟨after', stored, written⟩ := bind_eq_ok.mp written
  dsimp only at written
  split at written
  · cases written
  · next none =>
      obtain ⟨place, -, made⟩ := bind_eq_ok.mp written
      cases made
      exact ⟨mapError_eq_ok.mp stored, none, rfl, rfl⟩

/-! ## Tables of files -/

structure Selects (w : Workspace) (s : Selection) (file : String) (format : RecordFormat)
    (text : List Char) : Prop where
  input : s.input = some file
  named : file ≠ dash
  format : recordFormat s = format
  content : w.read (.ofString file) = .ok (Text.encode text)

theorem Selects.loadTable_eq {e : Environment} {w : Workspace} {s : Selection} {file : String}
    {format : RecordFormat} {text : List Char} (selects : Selects w s file format text) :
    loadTable e w s =
      (loadRecords format (Text.normalizeNewlines (Text.unmarked text))).mapError
        (Failure.records file) := by
  have chosen : inputFile? s = some file := by
    rw [inputFile?, selects.input, Option.filter_some, if_pos (by simpa using selects.named)]
  have input : inputText e w s = .ok (Text.normalizeNewlines (Text.unmarked text)) := by
    have bytes : readBytes w (.ofString file) = .ok (Text.encode text) :=
      mapError_eq_ok.mpr selects.content
    rw [inputText, chosen]
    dsimp only
    rw [bytes, ok_bind]
    exact mapError_eq_ok.mpr (Text.fileText_encode text)
  rw [loadTable, input, ok_bind, selects.format, sourceName, chosen]
  rfl

end RecordFilter
