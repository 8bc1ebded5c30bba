import RecordFilter.Proofs.CommandEndings
import RecordFilter.Proofs.ShortNumbers
import RecordFilter.Proofs.WrittenFiles
import RecordFilter.Proofs.WrittenLines

/-!
# Files that commands leave

A command that writes its matches to a file, and succeeds, leaves the file with the header and a row
for each of the first matches.  If it fails it leaves all files as they are, except in two cases:
half a pair in a text that is to be written breaks off the file, and the file is there as a whole
when what the command has done cannot be printed.  This holds for all libraries that commands can
run with.
-/

namespace RecordFilter

/-! ## Tables that break off -/

def Text.HasHalf (text : List Char) : Prop := ∃ c ∈ text, isHalf c = true

/-- What is written of a table when its header, or one of its rows, holds half a pair: the lines
before. -/
inductive BrokenOff (columns : List String) (rows : List Row) : List Char → Prop
  | header (half : Text.HasHalf (Csv.lineText columns)) : BrokenOff columns rows []
  | row {before behind : List Row} {row : Row} {texts : List (List String)} {cells : List String}
      (split : rows = before ++ row :: behind) (written : Texts columns before texts)
      (exported : exportRow columns row = .ok cells) (half : Text.HasHalf (Csv.lineText cells)) :
      BrokenOff columns rows (Csv.tableText columns texts)

theorem lineBytes_eq_error {cells : List String} {problem : ExportProblem}
    (h : lineBytes cells = .error problem) : Text.HasHalf (Csv.lineText cells) := by
  cases encoded : Text.encodeWhole (Csv.lineText cells) with
  | ok bytes =>
      rw [lineBytes, encoded] at h
      cases h
  | error e => exact Text.encodeWhole_eq_error encoded

theorem brokenOff_of_problem {columns : List String} {rows : List Row} {problem : ExportProblem}
    (writable : ∀ row ∈ rows, row.IsWritable)
    (h : (exportTable columns rows).problem = some problem) :
    ∃ text, BrokenOff columns rows text ∧
      (exportTable columns rows).bytes = Text.encode text := by
  rcases exportTable_broken h with ⟨header, nothing⟩ |
    ⟨before, row, behind, texts, split, written, stops, bytes⟩
  · exact ⟨[], .header (lineBytes_eq_error header), nothing⟩
  · obtain ⟨cells, exported⟩ : ∃ cells, exportRow columns row = .ok cells :=
      exportRow_ok (writable row (by simp [split]))
    rw [rowBytes, exported] at stops
    exact ⟨_, .row split written exported (lineBytes_eq_error stops), bytes⟩

/-! ## Matches -/

namespace Command

def selection? : Command → Option Selection
  | filter _ s | search _ _ s => some s
  | _ => none

end Command

inductive Asks (l : Libraries) (e : Environment) (w : Workspace) (profile : Profile)
    (t : RecordTable) : Command → (Row → Except Fault Bool) → Prop
  | filter {expression : String} {s : Selection} {r : Resolver} {p : Predicate}
      (resolved : resolverFor l w (schemaPath e profile s.schema) t = .ok r)
      (compiled : (Filter.text expression).compile r = .ok p) :
      Asks l e w profile t (.filter expression s) fun row => p.accepts row.record
  | search {text : String} {named : List String} {s : Selection} {r : Resolver}
      (resolved : resolverFor l w (schemaPath e profile s.schema) t = .ok r)
      (filled : Text.isBlankText text.toList = false) :
      Asks l e w profile t (.search text named s) fun row =>
        found r (Text.lowerText text.toList) (searchedFields r (searchFields profile named))
          row.record
  | searchBlank {text : String} {named : List String} {s : Selection} {r : Resolver}
      (resolved : resolverFor l w (schemaPath e profile s.schema) t = .ok r)
      (blank : Text.isBlankText text.toList = true) :
      Asks l e w profile t (.search text named s) fun _ => .ok true

structure Kept {α : Type} (test : α → Except Fault Bool) (items kept : List α) : Prop where
  answered : ∀ item ∈ items, ∃ b, test item = .ok b
  eq : kept = items.filter fun item => (test item).toOption == some true

structure Matches (l : Libraries) (e : Environment) (w : Workspace) (profile : Profile)
    (command : Command) (s : Selection) (t : RecordTable) (rows : List Row) : Prop where
  loaded : loadTable e w s = .ok t
  kept : ∃ test, Asks l e w profile t command test ∧ Kept test t.rows rows

section

variable {α : Type} {test : α → Except Fault Bool} {record : α → Payload} {items kept : List α}

theorem Kept.cons {item : α} {others : Except Fault (List α)}
    (h : (do
      let holds ← test item
      let rest ← others
      return if holds then item :: rest else rest) = .ok kept)
    (tested : ∀ rest, others = .ok rest → Kept test items rest) :
    Kept test (item :: items) kept := by
  obtain ⟨holds, answer, h⟩ := bind_eq_ok.mp h
  obtain ⟨rest, made, h⟩ := bind_eq_ok.mp h
  cases h
  obtain ⟨answered, eq⟩ := tested rest made
  refine ⟨List.forall_mem_cons.mpr ⟨⟨holds, answer⟩, answered⟩, ?_⟩
  rw [List.filter_cons, answer, ← eq]
  cases holds <;> rfl

theorem kept_of_filter {p : Predicate} (h : p.filter record items = .ok kept) :
    Kept (fun item => p.accepts (record item)) items kept := by
  induction items generalizing kept with
  | nil =>
      cases h
      exact ⟨nofun, rfl⟩
  | cons item items ih => exact .cons h fun _ => ih

theorem kept_of_filterFound {r : Resolver} {needle : List Char} {names : List String}
    (h : filterFound r needle names record items = .ok kept) :
    Kept (fun item => found r needle names (record item)) items kept := by
  induction items generalizing kept with
  | nil =>
      cases h
      exact ⟨nofun, rfl⟩
  | cons item items ih => exact .cons h fun _ => ih

end

/-! ## Attempts -/

section

variable {l : Libraries} {e : Environment} {w : Workspace} {profile : Profile} {s : Selection}

/-- An attempt fails before anything is written, or delivers the matches of its command. -/
inductive Delivers (l : Libraries) (e : Environment) (w : Workspace) (profile : Profile)
    (command : Command) (s : Selection) : Attempt → Prop
  | failed (warnings : List String) (failure : Failure) :
      Delivers l e w profile command s ⟨warnings, .error failure, w⟩
  | delivered (warnings : List String) {t : RecordTable} {rows : List Row}
      (found : Matches l e w profile command s t rows) :
      Delivers l e w profile command s ⟨warnings, deliver w profile s t.columns rows,
        afterDelivery w profile s t.columns rows⟩

theorem runFilter_delivers (expression : String) :
    Delivers l e w profile (.filter expression s) s (runFilter l e w profile expression s) := by
  cases run : filterMatches l e w profile expression s with
  | error failure =>
      rw [runFilter, run]
      exact .failed _ failure
  | ok result =>
      obtain ⟨t, loaded, rest⟩ := bind_eq_ok.mp run
      obtain ⟨r, resolved, rest⟩ := bind_eq_ok.mp rest
      obtain ⟨p, compiled, rest⟩ := bind_eq_ok.mp rest
      obtain ⟨rows, accepted, made⟩ := bind_eq_ok.mp rest
      cases made
      rw [runFilter, run]
      exact .delivered _ ⟨loaded, _, .filter resolved (mapError_eq_ok.mp compiled),
        kept_of_filter (mapError_eq_ok.mp accepted)⟩

theorem runSearch_delivers (text : String) (named : List String) :
    Delivers l e w profile (.search text named s) s (runSearch l e w profile text named s) := by
  cases run : searchBasis l e w profile s with
  | error failure =>
      rw [runSearch, run]
      exact .failed _ failure
  | ok result =>
      obtain ⟨t, loaded, rest⟩ := bind_eq_ok.mp run
      obtain ⟨r, resolved, made⟩ := bind_eq_ok.mp rest
      cases made
      rw [runSearch, run]
      dsimp only
      split
      · exact .failed _ _
      · next rows searched =>
          refine .delivered _ ⟨loaded, ?_⟩
          unfold searchText at searched
          dsimp only at searched
          split at searched
          · next blank =>
              cases searched
              exact ⟨_, .searchBlank resolved blank, fun _ _ => ⟨true, rfl⟩, by simp⟩
          · next filled =>
              exact ⟨_, .search resolved (Bool.eq_false_iff.mpr filled),
                kept_of_filterFound searched⟩

theorem runWith_delivers (settings : Settings) {command : Command}
    (selects : command.selection? = some s) :
    Delivers l e w profile command s (runWith l e w settings profile command) := by
  cases command with
  | filter expression s' =>
      cases selects
      exact runFilter_delivers expression
  | search text named s' =>
      cases selects
      exact runSearch_delivers text named
  | _ => cases selects

end

/-! ## Exports -/

/-- What becomes of rows that are to be written to a file: it cannot be opened, or breaks off, or
is written as a whole. -/
theorem writeExport_cases (w : Workspace) (file : String) (columns : List String)
    (rows : List Row) :
    (∃ failure, writeExport w file columns rows = .error failure ∧
      w.Keeps (afterExport w file columns rows)) ∨
    (∃ problem, (exportTable columns rows).problem = some problem ∧
      writeExport w file columns rows = .error problem.failure ∧
      w.Stores (.ofString file) (exportTable columns rows).bytes
        (afterExport w file columns rows)) ∨
    ∃ after artifact, writeExport w file columns rows = .ok (after, artifact) := by
  rcases w.writeWithFolders_cases (.ofString file) (exportTable columns rows).bytes with
    ⟨e, failed, keeps⟩ | ⟨stored, stores⟩
  · rw [writeExport]
    dsimp only
    rw [failed]
    exact .inl ⟨_, rfl, keeps⟩
  · obtain ⟨target, resolved, -⟩ := stores.others
    rw [writeExport]
    dsimp only
    rw [stored]
    cases broken : (exportTable columns rows).problem with
    | some problem => exact .inr (.inl ⟨problem, rfl, rfl, stores⟩)
    | none =>
        refine .inr (.inr ?_)
        simp [Except.mapError, resolved]

/-- The rows that a command is to write: of its matches under its profile, the first ones up to its
limit. -/
inductive Exports (l : Libraries) (e : Environment) (w : Workspace) (settings : Settings)
    (command : Command) (s : Selection) : RecordTable → List Row → List Row → Prop
  | of {config : Config} {limit : Option Nat} {t : RecordTable} {rows : List Row}
      (configured : loadConfig l w = .ok config)
      (found : Matches l e w (config.profile (profileName e settings)) command s t rows)
      (chosen : limitOf (config.profile (profileName e settings)) s.limit = .ok limit) :
      Exports l e w settings command s t rows (limited limit rows)

structure Unprinted (l : Libraries) (settings : Settings) (command : Command)
    (columns : List String) (rows shown : List Row) (text : List Char) (after : Workspace) :
    Prop where
  whole : ∃ texts, Texts columns shown texts ∧ text = Csv.tableText columns texts
  unshown : ∃ form warnings failure, ∃ artifact : Artifact,
    artifact.rowsWritten = shown.length ∧ artifact.bytesWritten = (Text.encode text).length ∧
      l.print settings form (successResult settings command.name.label warnings
        (exportDelivery artifact rows.length after)) = .error failure

theorem mem_of_mem_limited {limit : Option Nat} {rows : List Row} {row : Row}
    (found : row ∈ limited limit rows) : row ∈ rows := by
  unfold limited at found
  split at found
  · exact found
  · exact found
  · exact List.mem_of_mem_take found

section

variable {l : Libraries} {e : Environment} {w : Workspace} {settings : Settings}
  {command : Command} {s : Selection} {t : RecordTable} {rows shown : List Row}

theorem Exports.isWritable (exports : Exports l e w settings command s t rows shown) :
    ∀ row ∈ shown, row.IsWritable := by
  cases exports with
  | of _ found _ =>
      intro row listed
      obtain ⟨test, -, kept⟩ := found.kept
      have matched := mem_of_mem_limited listed
      rw [kept.eq] at matched
      exact isWritable_loadTable found.loaded row (List.mem_filter.mp matched).1

end

/-! ## Endings -/

section

variable {l : Libraries} {e : Environment} {w : Workspace} {settings : Settings}
  {command : Command} {s : Selection} {file : String}

inductive ExportEnding (l : Libraries) (e : Environment) (w : Workspace) (settings : Settings)
    (command : Command) (s : Selection) (file : String) : Ending → Prop
  | untouched {ending : Ending} (status : ending.status ≠ 0) (keeps : w.Keeps ending.workspace) :
      ExportEnding l e w settings command s file ending
  | broken {ending : Ending} {t : RecordTable} {rows shown : List Row} {text : List Char}
      (exports : Exports l e w settings command s t rows shown)
      (half : BrokenOff t.columns shown text) (status : ending.status = 1)
      (stores : w.Stores (.ofString file) (Text.encode text) ending.workspace) :
      ExportEnding l e w settings command s file ending
  | unprinted {ending : Ending} {t : RecordTable} {rows shown : List Row} {text : List Char}
      (exports : Exports l e w settings command s t rows shown)
      (unprinted : Unprinted l settings command t.columns rows shown text ending.workspace)
      (status : ending.status ≠ 0)
      (stores : w.Stores (.ofString file) (Text.encode text) ending.workspace) :
      ExportEnding l e w settings command s file ending
  | written {ending : Ending} {t : RecordTable} {rows shown : List Row}
      {texts : List (List String)} (exports : Exports l e w settings command s t rows shown)
      (whole : Texts t.columns shown texts) (status : ending.status = 0)
      (stores : w.Stores (.ofString file) (Text.encode (Csv.tableText t.columns texts))
        ending.workspace) :
      ExportEnding l e w settings command s file ending

theorem untouched_of_failed {form : OutputForm} {label : String} {warnings : List String}
    {failure : Failure} {remains : Workspace} (keeps : w.Keeps remains) :
    ExportEnding l e w settings command s file
      (finish l settings form label ⟨warnings, .error failure, remains⟩) :=
  .untouched (finishFailure_endsWith ..).ne_zero <|
    (workspace_finishFailure l settings form label remains warnings failure).symm ▸ keeps

theorem ExportProblem.exitCode_failure (problem : ExportProblem) :
    problem.failure.type.exitCode = 1 := by
  cases problem <;> rfl

theorem exportEnding_of_written {form : OutputForm} {warnings : List String} {t : RecordTable}
    {rows shown : List Row} {after : Workspace} {artifact : Artifact} {remains : Workspace}
    (exports : Exports l e w settings command s t rows shown)
    (written : writeExport w file t.columns shown = .ok (after, artifact)) :
    ExportEnding l e w settings command s file (finish l settings form command.name.label
      ⟨warnings, .ok (exportDelivery artifact rows.length after), remains⟩) := by
  obtain ⟨stored, none, rowsWritten, bytesWritten⟩ := writeExport_eq_ok written
  obtain ⟨texts, whole, bytes⟩ := exportTable_whole none
  have stores := Workspace.stores_of_writeWithFolders stored
  rw [bytes] at stores bytesWritten
  cases finish_ends l settings form command.name.label
    ⟨warnings, .ok (exportDelivery artifact rows.length after), remains⟩ with
  | failed result => cases result
  -- the file is there by now; what can still fail is telling so
  | @unprinted _ failure _ result unshown status workspace =>
      cases result
      refine .unprinted exports ⟨⟨texts, whole, rfl⟩, ?_⟩ status.ne_zero (workspace ▸ stores)
      refine ⟨form, warnings, failure, artifact, rowsWritten, bytesWritten, ?_⟩
      rw [workspace]
      exact unshown
  | succeeded result status workspace =>
      cases result
      exact .written exports whole status (workspace ▸ stores)

theorem exportEnding_of_delivers {config : Config} {form : OutputForm} {attempt : Attempt}
    (configured : loadConfig l w = .ok config) (named : s.csv = some file)
    (delivers : Delivers l e w (config.profile (profileName e settings)) command s attempt) :
    ExportEnding l e w settings command s file
      (finish l settings form command.name.label attempt) := by
  cases delivers with
  | failed warnings failure => exact untouched_of_failed (.refl w)
  -- the limit is the last thing that is looked at before the file is opened
  | @delivered warnings t rows found =>
      cases chosen : limitOf (config.profile (profileName e settings)) s.limit with
      | error failure =>
          rw [deliver, afterDelivery, chosen]
          exact untouched_of_failed (.refl w)
      | ok limit =>
          have exports := Exports.of configured found chosen
          rw [deliver, afterDelivery, chosen, named, ok_bind]
          dsimp only
          rcases writeExport_cases w file t.columns (limited limit rows) with
            ⟨failure, failed, keeps⟩ | ⟨problem, broken, failed, stores⟩ |
              ⟨after, artifact, written⟩
          · rw [failed]
            exact untouched_of_failed keeps
          · obtain ⟨text, half, bytes⟩ := brokenOff_of_problem exports.isWritable broken
            rw [failed]
            rw [bytes] at stores
            refine .broken exports half ?_ ((workspace_finishFailure ..).symm ▸ stores)
            exact (finishFailure_endsWith ..).elim (·.trans problem.exitCode_failure) id
          · rw [written]
            exact exportEnding_of_written exports written

theorem runCommand_exportEnding (selects : command.selection? = some s)
    (named : s.csv = some file) :
    ExportEnding l e w settings command s file (runCommand l e w settings command) := by
  have other : ∀ force, command ≠ .configInit force := by
    rintro force rfl
    cases selects
  cases configured : loadConfig l w with
  | error failure =>
      obtain ⟨form, ending⟩ := runCommand_of_failure configured other
      rw [ending]
      exact untouched_of_failed (.refl w)
  | ok config =>
      obtain ⟨form, ending⟩ := runCommand_of_config configured other
      rw [ending]
      exact exportEnding_of_delivers configured named (runWith_delivers settings selects)

inductive InitEnding (l : Libraries) (w : Workspace) (settings : Settings) : Ending → Prop
  | untouched {ending : Ending} (status : ending.status ≠ 0) (keeps : w.Keeps ending.workspace) :
      InitEnding l w settings ending
  | unprinted {ending : Ending} {form : OutputForm} {d : Delivery} {failure : Failure}
      (unshown : l.print settings form
        (successResult settings CommandName.configInit.label [] d) = .error failure)
      (status : ending.status ≠ 0)
      (stores : w.Stores l.configPath (Text.encode configTemplate.toList) ending.workspace) :
      InitEnding l w settings ending
  | written {ending : Ending} (status : ending.status = 0)
      (stores : w.Stores l.configPath (Text.encode configTemplate.toList) ending.workspace) :
      InitEnding l w settings ending

theorem initEnding_of_failed {form : OutputForm} {failure : Failure} {remains : Workspace}
    (keeps : w.Keeps remains) :
    InitEnding l w settings (finish l settings form CommandName.configInit.label
      (.quietly remains (.error failure))) :=
  .untouched (finishFailure_endsWith ..).ne_zero <|
    (workspace_finishFailure l settings form _ remains [] failure).symm ▸ keeps

theorem runCommand_initEnding (force : Bool) :
    InitEnding l w settings (runCommand l e w settings (.configInit force)) := by
  obtain ⟨form, ending⟩ := @runCommand_of_configInit l e w settings force
  rw [ending]
  unfold runConfigInit
  dsimp only
  split
  · exact initEnding_of_failed (.refl w)
  · rcases w.writeWithFolders_cases l.configPath (Text.encode configTemplate.toList) with
      ⟨problem, failed, keeps⟩ | ⟨stored, stores⟩
    · rw [failed]
      exact initEnding_of_failed keeps
    · rw [stored]
      cases finish_ends l settings form CommandName.configInit.label (.quietly _ (.ok _)) with
      | failed result => cases result
      | unprinted result unshown status workspace =>
          cases result
          exact .unprinted unshown status.ne_zero (workspace ▸ stores)
      | succeeded result status workspace =>
          cases result
          exact .written status (workspace ▸ stores)

end

/-- Whatever libraries it runs with, a command that is to write its matches to a file, and ends with
status 0, leaves the file with the header and a row for each of the first matches up to its limit,
in order, and all other files as they were; if it ends with another status, every file is as it
was, except where half a pair breaks off the file, or where it is not printed that the file was
written as a whole.  A new configuration file is written as a whole or not at all, with another
status than 0 only where it is not printed that it was. -/
theorem runCommand_files (l : Libraries) (e : Environment) (w : Workspace) (settings : Settings) :
    (∀ (command : Command) (s : Selection) (file : String),
      command.selection? = some s → s.csv = some file →
      let ending := runCommand l e w settings command
      (ending.status = 0 → ∃ t rows shown texts,
        Exports l e w settings command s t rows shown ∧ Texts t.columns shown texts ∧
        w.Stores (.ofString file) (Text.encode (Csv.tableText t.columns texts))
          ending.workspace) ∧
      (ending.status ≠ 0 → w.Keeps ending.workspace ∨ ∃ t rows shown text,
        Exports l e w settings command s t rows shown ∧
        w.Stores (.ofString file) (Text.encode text) ending.workspace ∧
        (ending.status = 1 ∧ BrokenOff t.columns shown text ∨
          Unprinted l settings command t.columns rows shown text ending.workspace))) ∧
    ∀ force : Bool,
      let ending := runCommand l e w settings (.configInit force)
      let stores :=
        w.Stores l.configPath (Text.encode configTemplate.toList) ending.workspace
      (ending.status = 0 → stores) ∧
      (ending.status ≠ 0 → w.Keeps ending.workspace ∨ stores ∧ ∃ form d failure,
        l.print settings form (successResult settings CommandName.configInit.label [] d) =
          .error failure) := by
  refine ⟨fun command s file selects named => ⟨fun success => ?_, fun failure => ?_⟩,
    fun force => ⟨fun success => ?_, fun failure => ?_⟩⟩
  · cases runCommand_exportEnding selects named with
    | untouched status | unprinted _ _ status => exact absurd success status
    | broken _ _ status => cases success.symm.trans status
    | written exports whole _ stores => exact ⟨_, _, _, _, exports, whole, stores⟩
  · cases runCommand_exportEnding selects named with
    | untouched _ keeps => exact .inl keeps
    | broken exports half status stores =>
        exact .inr ⟨_, _, _, _, exports, stores, .inl ⟨status, half⟩⟩
    | unprinted exports unprinted _ stores =>
        exact .inr ⟨_, _, _, _, exports, stores, .inr unprinted⟩
    | written _ _ status => exact absurd status failure
  · cases runCommand_initEnding force with
    | untouched status | unprinted _ status => exact absurd success status
    | written _ stores => exact stores
  · cases runCommand_initEnding force with
    | untouched _ keeps => exact .inl keeps
    | unprinted unshown _ stores => exact .inr ⟨stores, _, _, _, unshown⟩
    | written status => exact absurd status failure

theorem name_of_selection? {command : Command} {s : Selection}
    (selects : command.selection? = some s) : command.name = .filter ∨ command.name = .search := by
  cases command with
  | filter => exact .inl rfl
  | search => exact .inr rfl
  | _ => cases selects

theorem Unprinted.cause {settings : Settings} {command : Command} {s : Selection}
    {columns : List String} {rows shown : List Row} {text : List Char} {after : Workspace}
    (selects : command.selection? = some s)
    (h : Unprinted Libraries.standard.toBytes settings command columns rows shown text after) :
    (∃ count ∈ [shown.length, rows.length, (Text.encode text).length], integerBound ≤ count) ∨
      ∃ form r p, printed settings form r = .ok p ∧ Text.HasHalf p.output.toList := by
  obtain ⟨form, warnings, failure, artifact, rowsWritten, bytesWritten, unshown⟩ := h.unshown
  rcases bind_eq_error.mp unshown with fault | ⟨p, result, half⟩
  · obtain ⟨f, fault, -⟩ := mapError_eq_error.mp fault
    have uncountable := printed_exportDelivery_error (name_of_selection? selects) fault
    rw [Countable, rowsWritten, bytesWritten] at uncountable
    left
    simp only [List.exists_mem_cons_iff, List.not_mem_nil, false_and, exists_false, or_false]
    omega
  · obtain ⟨e, half, -⟩ := mapError_eq_error.mp (bind_pure_eq_error.mp half)
    exact .inr ⟨form, _, p, mapError_eq_ok.mp result, Text.encodeWhole_eq_error half⟩

/-! ## A folder of bills -/

def billFolder (file : List String) (text : String) : Workspace :=
  ⟨["", "bills"], [], [(["", "bills"] ++ file, Text.encode text.toList)]⟩

def bills : Workspace := billFolder ["in.csv"] "Name,Due\nAnn,5\nBob,7\n"

def billSelection (file : String) (limit : Option Int) : Selection :=
  ⟨some file, none, none, limit, some "out.csv"⟩

def dueBills (file : String) (limit : Option Int) : Command :=
  .filter "[Due] > 4" (billSelection file limit)

def runBills (w : Workspace) (command : Command) : Ending :=
  runCommand Libraries.standard.toBytes ⟨none, none, []⟩ w ⟨none, false, 0, none, none, false⟩
    command

theorem runCommand_files_bills :
    (∃ t rows shown texts,
      Exports Libraries.standard.toBytes ⟨none, none, []⟩ bills
        ⟨none, false, 0, none, none, false⟩ (dueBills "in.csv" (some 1))
        (billSelection "in.csv" (some 1)) t rows shown ∧
      Texts t.columns shown texts ∧
      bills.Stores (.ofString "out.csv") (Text.encode (Csv.tableText t.columns texts))
        (runBills bills (dueBills "in.csv" (some 1))).workspace) ∧
    bills.Keeps (runBills bills (dueBills "in.csv" (some (-1)))).workspace ∧
    bills.Stores Libraries.standard.toBytes.configPath (Text.encode configTemplate.toList)
      (runBills bills (.configInit false)).workspace ∧
    (billFolder ["config", "config.toml"] "").Keeps
      (runBills (billFolder ["config", "config.toml"] "") (.configInit false)).workspace := by
  have files := runCommand_files Libraries.standard.toBytes ⟨none, none, []⟩ bills
    ⟨none, false, 0, none, none, false⟩
  refine ⟨?_, ?_, ?_, ?_⟩
  · exact (files.1 _ _ _ rfl rfl).1 (by decide +kernel)
  · rcases (files.1 (dueBills "in.csv" (some (-1))) _ _ rfl rfl).2 (by decide +kernel) with
      keeps | ⟨_, _, _, _, ⟨_, _, chosen⟩, -⟩
    · exact keeps
    · cases chosen
  · exact (files.2 false).1 (by decide +kernel)
  · rcases ((runCommand_files Libraries.standard.toBytes ⟨none, none, []⟩
      (billFolder ["config", "config.toml"] "") ⟨none, false, 0, none, none, false⟩).2 false).2
      (by decide +kernel) with keeps | ⟨stores, -⟩
    · exact keeps
    · exact absurd stores.content (by decide +kernel)

theorem runCommand_files_not_same :
    ¬ ∀ (l : Libraries) (e : Environment) (w : Workspace) (settings : Settings)
        (command : Command) (s : Selection) (file : String),
      command.selection? = some s → s.csv = some file →
      (runCommand l e w settings command).status ≠ 0 →
      w.Keeps (runCommand l e w settings command).workspace := by
  intro claim
  have keeps := claim Libraries.standard.toBytes ⟨none, none, []⟩
    (billFolder ["in.json"] "[\x7b\"Name\": \"\\ud800\", \"Due\": 5\x7d]")
    ⟨none, false, 0, none, none, false⟩ (dueBills "in.json" none) _ _ rfl rfl (by decide +kernel)
  exact absurd (keeps.files ["", "bills", "out.csv"]) (by decide +kernel)

/-- The folder of a file that cannot be opened stays. -/
example : (afterExport bills "new/.." ["Name"] []).folders = [["", "bills", "new"]] := by
  decide +kernel

/-- The name of a file can be written on the disk but not on an output of bytes. -/
example :
    let file := String.ofList [Text.half 0xDCFF]
    let ending := runBills bills
      (.filter "[Due] > 4" ⟨some "in.csv", none, none, none, some file⟩)
    ending.status = 1 ∧ ending.workspace.read (.ofString file) =
      .ok (Text.encode "Name,Due\r\nAnn,5\r\nBob,7\r\n".toList) := by
  decide +kernel

end RecordFilter
