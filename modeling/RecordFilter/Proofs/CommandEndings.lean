import RecordFilter.Command.Run
import RecordFilter.Proofs.Unreadable

/-!
# Endings of commands

A command ends with status 0 if it succeeds and what it gives can be printed, and with another one
otherwise.  The program itself prints every result with all texts in it; only a number of too many
digits keeps it from that, or half of a pair where the output takes bytes.
-/

namespace RecordFilter

theorem FailureType.exitCode_ne_zero (t : FailureType) : t.exitCode ≠ 0 := by
  cases t <;> decide

/-- The status of a failure, or that of a failure which cannot be reported. -/
def Failure.EndsWith (failure : Failure) (status : Nat) : Prop :=
  status = failure.type.exitCode ∨ status = FailureType.internal.exitCode

theorem Failure.EndsWith.ne_zero {failure : Failure} {status : Nat}
    (h : failure.EndsWith status) : status ≠ 0 := by
  rcases h with rfl | rfl
  · exact failure.type.exitCode_ne_zero
  · exact FailureType.internal.exitCode_ne_zero

section

variable (l : Libraries) (settings : Settings) (form : OutputForm) (label : String)
  (attempt : Attempt)

theorem finishFailure_endsWith (w : Workspace) (warnings : List String) (failure : Failure) :
    failure.EndsWith (finishFailure l settings form label w warnings failure).status := by
  unfold finishFailure
  split
  · exact .inl rfl
  · exact .inr rfl

theorem workspace_finishFailure (w : Workspace) (warnings : List String) (failure : Failure) :
    (finishFailure l settings form label w warnings failure).workspace = w := by
  unfold finishFailure
  split <;> rfl

inductive Ends : Ending → Prop
  | failed {failure : Failure} {ending : Ending} (result : attempt.result = .error failure)
      (status : failure.EndsWith ending.status)
      (workspace : ending.workspace = attempt.remains) : Ends ending
  | unprinted {d : Delivery} {failure : Failure} {ending : Ending} (result : attempt.result = .ok d)
      (unshown : l.print settings form (successResult settings label attempt.warnings d) =
        .error failure)
      (status : failure.EndsWith ending.status) (workspace : ending.workspace = d.workspace) :
      Ends ending
  | succeeded {d : Delivery} {ending : Ending} (result : attempt.result = .ok d)
      (status : ending.status = 0) (workspace : ending.workspace = d.workspace) : Ends ending

theorem finish_ends :
    Ends l settings form label attempt (finish l settings form label attempt) := by
  unfold finish
  split
  · next failure result =>
      exact .failed result (finishFailure_endsWith ..) (workspace_finishFailure ..)
  · next d result =>
      split
      · exact .succeeded result rfl rfl
      · next failure unshown =>
          exact .unprinted result unshown (finishFailure_endsWith ..) (workspace_finishFailure ..)

end

/-! ## Configurations -/

section

variable {l : Libraries} {e : Environment} {w : Workspace} {settings : Settings}
  {command : Command}

theorem runCommand_of_failure {failure : Failure} (configured : loadConfig l w = .error failure)
    (other : ∀ force, command ≠ .configInit force) :
    ∃ form, runCommand l e w settings command =
      finishFailure l settings form command.name.label w [] failure := by
  unfold runCommand
  split
  · next force => exact absurd rfl (other force)
  · next failed =>
      cases configured.symm.trans failed
      exact ⟨_, rfl⟩
  · next read => cases configured.symm.trans read

theorem runCommand_of_configInit (force : Bool) :
    ∃ form, runCommand l e w settings (.configInit force) =
      finish l settings form CommandName.configInit.label (runConfigInit l w force) :=
  ⟨_, rfl⟩

theorem runCommand_of_config {config : Config} (configured : loadConfig l w = .ok config)
    (other : ∀ force, command ≠ .configInit force) :
    ∃ form, runCommand l e w settings command = finish l settings form command.name.label
      (runWith l e w settings (config.profile (profileName e settings)) command) := by
  unfold runCommand
  split
  · next force => exact absurd rfl (other force)
  · next failed => cases configured.symm.trans failed
  · next read =>
      cases configured.symm.trans read
      exact ⟨_, rfl⟩

end

/-! ## Numbers of a result -/

namespace Json

theorem integersOf_eq_flatMap (items : List Json) : integersOf items = items.flatMap integers := by
  induction items with
  | nil => rfl
  | cons item items ih => rw [integersOf, List.flatMap_cons, ih]

@[simp] theorem integers_strings (texts : List String) : (strings texts).integers = [] := by
  simp [strings, integers, integersOf_eq_flatMap, List.flatMap_map]

@[simp] theorem integers_optional_string (s : Option String) :
    (Json.optional Json.string s).integers = [] := by
  cases s <;> rfl

@[simp] theorem integers_optional_strings (texts : Option (List String)) :
    (Json.optional strings texts).integers = [] := by
  cases texts with
  | none => rfl
  | some texts => exact integers_strings texts

@[simp] theorem integers_optional_int (n : Option Int) :
    (Json.optional Json.int n).integers = n.toList := by
  cases n <;> rfl

end Json

def Artifact.counts (a : Artifact) : List Int := [a.rowsWritten, a.bytesWritten]

section

variable {settings : Settings} {form : OutputForm} {label : String} {warnings : List String}
  {d : Delivery} {f : Fault}

theorem integers_successResult :
    (successResult settings label warnings d).document.integers =
      d.data.resultDocument.integers ++ d.artifacts.flatMap Artifact.counts ++
        0 :: d.total.toList := by
  have artifacts : (Json.array (d.artifacts.map Artifact.document)).integers =
      d.artifacts.flatMap Artifact.counts := by
    rw [Json.integers, Json.integersOf_eq_flatMap, List.flatMap_map]
    rfl
  rw [← artifacts]
  simp [successResult, CommandResult.document, Json.integers, Json.integersOfMembers]
  rfl

theorem printed_success_error
    (h : printed settings form (successResult settings label warnings d) = .error f) :
    (∃ n ∈ d.data.resultDocument.integers ++ d.artifacts.flatMap Artifact.counts ++
        0 :: d.total.toList, integerBound ≤ n.natAbs) ∨
      Report.dataBlock (successResult settings label warnings d) = .error f := by
  have failed := map_eq_error.mp h
  cases form with
  | json =>
      have long := Json.not_isShort_of_compact (map_eq_error.mp failed)
      rw [Json.IsShort, integers_successResult] at long
      obtain ⟨n, found, long⟩ := not_forall₂.mp long
      exact .inl ⟨n, found, Nat.not_lt.mp long⟩
  | table => exact .inr (map_eq_error.mp failed)

end

def exportDelivery (artifact : Artifact) (total : Nat) (w : Workspace) : Delivery :=
  ⟨.record [("csv", .text artifact.path), ("rowsWritten", .int artifact.rowsWritten)], [artifact],
    none, some total, w⟩

def Countable (artifact : Artifact) (total : Nat) : Prop :=
  artifact.rowsWritten < integerBound ∧ artifact.bytesWritten < integerBound ∧ total < integerBound

section

variable {settings : Settings} {form : OutputForm} {warnings : List String} {f : Fault}

theorem fieldsTable_export_error {artifact : Artifact}
    (h : Report.fieldsTable [("csv", .text artifact.path),
      ("rowsWritten", .int artifact.rowsWritten)] = .error f) :
    integerBound ≤ artifact.rowsWritten := by
  obtain ⟨entry, listed, failed⟩ := mapM_eq_error (bind_pure_eq_error.mp h)
  simp only [List.mem_cons, List.not_mem_nil, or_false] at listed
  rcases listed with rfl | rfl
  · cases failed
  · simp only [Payload.cellText, Payload.plainText, Payload.shown] at failed
    obtain ⟨-, long⟩ := Payload.integerText_error (bind_pure_eq_error.mp failed)
    simpa [Payload.isTooLong] using long

theorem printed_exportDelivery_error {name : CommandName} {artifact : Artifact} {total : Nat}
    {w : Workspace} (exports : name = .filter ∨ name = .search)
    (h : printed settings form
      (successResult settings name.label warnings (exportDelivery artifact total w)) = .error f) :
    ¬ Countable artifact total := by
  rintro ⟨rows, bytes, few⟩
  rcases printed_success_error h with ⟨n, found, long⟩ | unshown
  · have data : (exportDelivery artifact total w).data.resultDocument.integers =
      [(artifact.rowsWritten : Int)] := rfl
    rw [data] at found
    simp only [exportDelivery, Artifact.counts, List.flatMap_singleton, Option.toList_some,
      List.mem_append, List.mem_cons, List.not_mem_nil, or_false] at found
    omega
  · have few : integerBound ≤ artifact.rowsWritten := by
      rcases exports with rfl | rfl <;> exact fieldsTable_export_error unshown
    exact absurd rows (Nat.not_lt.mpr few)

end

end RecordFilter
