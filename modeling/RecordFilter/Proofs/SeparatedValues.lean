import Mathlib.Tactic.SplitIfs
import RecordFilter.Csv.Reader
import RecordFilter.Csv.Writer
import RecordFilter.Proofs.EncodedTexts

/-!
# Separated values read back

Rows that are written are read as they were, if no cell is too long: a cell that holds nothing
special is read character by character, a cell in quotes has its quotes written twice and read once,
and the reader is back at the start of a row after each line.  Between the two, all ends of
lines become line feeds, inside quotes as well; this changes the cells themselves and nothing else.
-/

namespace RecordFilter.Csv

open Text

/-! ## Single steps -/

section

variable {s s' : State} {c : Char} {rest : List Char}

theorem rowsFrom_of_inside (h : step s c = .ok (s', none)) :
    rowsFrom s (c :: rest) = rowsFrom s' rest := by
  rw [rowsFrom, h, ok_bind]
  dsimp only
  cases rowsFrom s' rest <;> rfl

theorem rowsFrom_of_end {row : List String} (h : step s c = .ok (s', some row)) :
    rowsFrom s (c :: rest) = (rowsFrom s' rest).map (row :: ·) := by
  rw [rowsFrom, h, ok_bind]
  dsimp only
  cases rowsFrom s' rest <;> rfl

theorem rowsFrom_of_error {e : ReadError} (h : step s c = .error e) :
    rowsFrom s (c :: rest) = .error e := by
  rw [rowsFrom, h]
  rfl

def State.take (s : State) (phase : Phase) (text : List Char) : State :=
  ⟨phase, text.reverse ++ s.cell, s.length + text.length, s.row⟩

theorem rowsFrom_of_add {phase : Phase} (h : step s c = (s.add c phase).map fun s => (s, none)) :
    rowsFrom s (c :: rest) =
      if s.length < cellLimit then rowsFrom (s.take phase [c]) rest else .error .cellTooLong := by
  rw [State.add] at h
  split_ifs at h ⊢
  · exact rowsFrom_of_inside h
  · exact rowsFrom_of_error h

theorem needsQuotes_eq_false :
    needsQuotes c = false ↔ c ≠ ',' ∧ c ≠ '"' ∧ c ≠ '\r' ∧ c ≠ '\n' := by
  simp [needsQuotes, and_assoc]

theorem step_of_plain (phase : s.phase = .plain ∨ s.phase = .cellStart ∨ s.phase = .rowStart)
    (plain : needsQuotes c = false) : step s c = (s.add c .plain).map fun s => (s, none) := by
  obtain ⟨comma, quote, return', feed⟩ := needsQuotes_eq_false.mp plain
  have unquoted : stepUnquoted s c = (s.add c .plain).map fun s => (s, none) := by
    simp [stepUnquoted, isNewline, comma, return', feed]
  rcases phase with phase | phase | phase <;> simp [step, phase, quote, unquoted]

theorem step_quoted (phase : s.phase = .quoted) (other : c ≠ '"') :
    step s c = (s.add c .quoted).map fun s => (s, none) := by
  simp [step, phase, other]

theorem step_open (phase : s.phase = .cellStart ∨ s.phase = .rowStart) :
    step s '"' = .ok (s.enter .quoted, none) := by
  rcases phase with phase | phase <;> simp [step, phase]

theorem step_close (phase : s.phase = .quoted) : step s '"' = .ok (s.enter .quoteSeen, none) := by
  simp [step, phase]

theorem step_quote (phase : s.phase = .quoteSeen) :
    step s '"' = (s.add '"' .quoted).map fun s => (s, none) := by
  simp [step, phase]

theorem rowsFrom_comma (phase : s.phase ≠ .quoted) :
    rowsFrom s (',' :: rest) = rowsFrom s.save rest := by
  refine rowsFrom_of_inside ?_
  cases h : s.phase <;> first | exact absurd h phase | simp [step, stepUnquoted, isNewline, h]

theorem rowsFrom_lineFeed (phase : s.phase ≠ .quoted) (begun : s.phase ≠ .afterReturn) :
    rowsFrom s ('\n' :: rest) = (rowsFrom .initial rest).map (s.finish :: ·) := by
  refine rowsFrom_of_end ?_
  cases h : s.phase <;>
    first
    | exact absurd h phase
    | exact absurd h begun
    | simp [step, stepUnquoted, isNewline, newlinePhase, h, State.enter, State.initial]

end

/-! ## Cells -/

def doubled (c : Char) : List Char := if c == '"' then ['"', '"'] else [c]

theorem quoteCell_eq (cell : List Char) : quoteCell cell = '"' :: (cell.flatMap doubled ++ ['"']) :=
  rfl

theorem rowsFrom_flatMap (write : Char → List Char) (phase : Phase) {text : List Char}
    (adds : ∀ c ∈ text, ∀ (s : State) (rest : List Char), s.phase = phase →
      rowsFrom s (write c ++ rest) =
        if s.length < cellLimit then rowsFrom (s.take phase [c]) rest else .error .cellTooLong)
    (s : State) (inside : s.phase = phase) (short : s.length ≤ cellLimit) (rest : List Char) :
    rowsFrom s (text.flatMap write ++ rest) =
      if s.length + text.length ≤ cellLimit then rowsFrom (s.take phase text) rest
      else .error .cellTooLong := by
  -- The bound is on the whole cell, so the length so far goes through the induction.
  induction text generalizing s with
  | nil =>
      rw [List.length_nil, Nat.add_zero, if_pos short]
      subst inside
      rfl
  | cons c text ih =>
      rw [List.forall_mem_cons] at adds
      rw [List.flatMap_cons, List.append_assoc, adds.1 s _ inside]
      by_cases room : s.length < cellLimit
      · rw [if_pos room, ih adds.2 (s.take phase [c]) rfl room]
        simp only [State.take, List.reverse_cons, List.reverse_nil, List.nil_append,
          List.append_assoc, List.cons_append, List.length_cons, List.length_nil, Nat.zero_add,
          Nat.add_assoc, Nat.add_comm 1]
      · rw [if_neg room, if_neg (by rw [List.length_cons]; omega)]

theorem rowsFrom_plain {text : List Char} (plain : ∀ c ∈ text, needsQuotes c = false) (s : State)
    (inside : s.phase = .plain) (short : s.length ≤ cellLimit) (rest : List Char) :
    rowsFrom s (text ++ rest) =
      if s.length + text.length ≤ cellLimit then rowsFrom (s.take .plain text) rest
      else .error .cellTooLong := by
  have read := rowsFrom_flatMap (fun c => [c]) .plain
    (fun c found s rest inside => rowsFrom_of_add (step_of_plain (.inl inside) (plain c found)))
    s inside short rest
  rwa [List.flatMap_singleton'] at read

theorem rowsFrom_doubled {c : Char} (s : State) (rest : List Char) (inside : s.phase = .quoted) :
    rowsFrom s (doubled c ++ rest) =
      if s.length < cellLimit then rowsFrom (s.take .quoted [c]) rest
      else .error .cellTooLong := by
  by_cases quote : c = '"'
  · subst quote
    change rowsFrom s ('"' :: '"' :: rest) = _
    rw [rowsFrom_of_inside (step_close inside)]
    exact rowsFrom_of_add (step_quote rfl)
  · have self : doubled c = [c] := by simp [doubled, quote]
    rw [self]
    exact rowsFrom_of_add (step_quoted inside quote)

theorem rowsFrom_quoteCell {start : Phase} (begins : start = .cellStart ∨ start = .rowStart)
    (cell : List Char) (row : List String) (rest : List Char) :
    rowsFrom ⟨start, [], 0, row⟩ (quoteCell cell ++ rest) =
      if cell.length ≤ cellLimit then rowsFrom ⟨.quoteSeen, cell.reverse, cell.length, row⟩ rest
      else .error .cellTooLong := by
  rw [quoteCell_eq, List.cons_append, rowsFrom_of_inside (step_open begins), List.append_assoc,
    rowsFrom_flatMap doubled .quoted (fun _ _ => rowsFrom_doubled) _ rfl (Nat.zero_le _)]
  simp only [State.enter, State.take, Nat.zero_add, List.append_nil, List.singleton_append]
  rw [rowsFrom_of_inside (step_close rfl)]
  rfl

def phaseAfter (start : Phase) (cell : List Char) : Phase :=
  if cell.any needsQuotes then .quoteSeen else if cell = [] then start else .plain

theorem rowsFrom_cellText {start : Phase} (begins : start = .cellStart ∨ start = .rowStart)
    (cell : List Char) (row : List String) (rest : List Char) :
    rowsFrom ⟨start, [], 0, row⟩ (cellText cell ++ rest) =
      if cell.length ≤ cellLimit then
        rowsFrom ⟨phaseAfter start cell, cell.reverse, cell.length, row⟩ rest
      else .error .cellTooLong := by
  unfold cellText phaseAfter
  by_cases special : cell.any needsQuotes = true
  · rw [if_pos special, if_pos special]
    exact rowsFrom_quoteCell begins cell row rest
  · have plain : ∀ c ∈ cell, needsQuotes c = false := by simpa using special
    rw [if_neg special, if_neg special]
    cases cell with
    | nil => rfl
    | cons c cell =>
        rw [List.forall_mem_cons] at plain
        have room : 0 < cellLimit := by decide
        rw [if_neg (List.cons_ne_nil c cell), List.cons_append,
          rowsFrom_of_add (step_of_plain (.inr begins) plain.1), if_pos room,
          rowsFrom_plain plain.2 (State.take ⟨start, [], 0, row⟩ .plain [c]) rfl room]
        simp only [State.take, List.reverse_cons, List.reverse_nil, List.nil_append,
          List.append_nil, List.length_cons, List.length_nil, Nat.zero_add, Nat.add_comm 1]

/-! ## Rows -/

def Fits (row : List String) : Prop := ∀ cell ∈ row, cell.length ≤ cellLimit

instance (row : List String) : Decidable (Fits row) :=
  inferInstanceAs (Decidable (∀ cell ∈ row, cell.length ≤ cellLimit))

def joined (row : List String) : List Char :=
  [','].intercalate (row.map fun cell => cellText cell.toList)

theorem joined_singleton (cell : String) : joined [cell] = cellText cell.toList := by
  simp [joined, List.intercalate]

theorem joined_cons_cons (cell next : String) (row : List String) :
    joined (cell :: next :: row) = cellText cell.toList ++ ',' :: joined (next :: row) := by
  simp [joined, List.intercalate]

theorem phaseAfter_ne {start : Phase} (begins : start = .cellStart ∨ start = .rowStart)
    (cell : List Char) :
    phaseAfter start cell ≠ .quoted ∧ phaseAfter start cell ≠ .afterReturn := by
  unfold phaseAfter
  rcases begins with rfl | rfl <;> split_ifs <;> decide

theorem phaseAfter_eq_rowStart {start : Phase} (cell : List Char) :
    phaseAfter start cell = .rowStart ↔ start = .rowStart ∧ cell = [] := by
  unfold phaseAfter
  cases cell with
  | nil => simp
  | cons c cell =>
      rw [if_neg (List.cons_ne_nil c cell)]
      split_ifs <;> simp

theorem finish_phaseAfter {start : Phase} (begins : start = .cellStart ∨ start = .rowStart)
    (cell : String) (row : List String) :
    State.finish ⟨phaseAfter start cell.toList, cell.toList.reverse, cell.toList.length, row⟩ =
      if start = .rowStart ∧ cell = "" then [] else row.reverse ++ [cell] := by
  obtain ⟨-, begun⟩ := phaseAfter_ne begins cell.toList
  have blank : start = .rowStart ∧ cell = "" ↔ phaseAfter start cell.toList = .rowStart := by
    rw [phaseAfter_eq_rowStart, String.toList_eq_nil_iff]
  have whole : (State.save ⟨phaseAfter start cell.toList, cell.toList.reverse, cell.toList.length,
      row⟩).row.reverse = row.reverse ++ [cell] := by
    simp [State.save]
  unfold State.finish
  dsimp only
  split
  · next phase => rw [if_pos (blank.mpr phase)]
  · next phase => exact absurd phase begun
  · next other _ => rw [if_neg (mt blank.mp other), whole]

/-- What is read of a row: one empty cell without quotes is a row without cells. -/
def readRow (row : List String) : List String := if row = [""] then [] else row

theorem rowsFrom_joined {start : Phase} (begins : start = .cellStart ∨ start = .rowStart)
    (cell : String) (cells row : List String) (rest : List Char) :
    rowsFrom ⟨start, [], 0, row⟩ (joined (cell :: cells) ++ '\n' :: rest) =
      if Fits (cell :: cells) then
        (rowsFrom .initial rest).map
          ((if start = .rowStart ∧ cell :: cells = [""] then []
            else row.reverse ++ cell :: cells) :: ·)
      else .error .cellTooLong := by
  -- Only the first cell can begin the row; the others begin behind a comma.
  induction cells generalizing cell start row with
  | nil =>
      obtain ⟨inside, begun⟩ := phaseAfter_ne begins cell.toList
      rw [joined_singleton, rowsFrom_cellText begins, rowsFrom_lineFeed inside begun,
        finish_phaseAfter begins]
      simp only [Fits, List.forall_mem_singleton, String.length_toList, List.cons.injEq, and_true]
  | cons next cells ih =>
      obtain ⟨inside, -⟩ := phaseAfter_ne begins cell.toList
      rw [joined_cons_cons, List.append_assoc, List.cons_append, rowsFrom_cellText begins,
        rowsFrom_comma inside, State.save, ih (.inl rfl)]
      have fits : Fits (cell :: next :: cells) ↔
          cell.toList.length ≤ cellLimit ∧ Fits (next :: cells) := by
        simp only [Fits, List.forall_mem_cons, String.length_toList]
      by_cases first : cell.toList.length ≤ cellLimit
      · simp [fits, first]
      · rw [if_neg first, if_neg (mt fits.mp (fun h => first h.1))]

/-- A row is read from its cells, except that one empty cell is a blank line. -/
theorem rowsFrom_joined_initial {row : List String} (filled : row ≠ []) (rest : List Char) :
    rowsFrom .initial (joined row ++ '\n' :: rest) =
      if Fits row then (rowsFrom .initial rest).map (readRow row :: ·)
      else .error .cellTooLong := by
  cases row with
  | nil => exact absurd rfl filled
  | cons cell cells =>
      refine (rowsFrom_joined (.inr rfl) cell cells [] rest).trans ?_
      simp [readRow]

theorem rowText_eq_joined {row : List String} (other : row ≠ [""]) : rowText row = joined row := by
  unfold rowText
  split
  · exact absurd rfl other
  · rfl

theorem rowsFrom_rowText {row : List String} (filled : row ≠ []) (rest : List Char) :
    rowsFrom .initial (rowText row ++ '\n' :: rest) =
      if Fits row then (rowsFrom .initial rest).map (row :: ·) else .error .cellTooLong := by
  by_cases blank : row = [""]
  · subst blank
    change rowsFrom ⟨.rowStart, [], 0, []⟩ (quoteCell [] ++ '\n' :: rest) = _
    rw [rowsFrom_quoteCell (.inr rfl), rowsFrom_lineFeed (by simp) (by simp)]
    rfl
  · rw [rowText_eq_joined blank, rowsFrom_joined_initial filled, readRow, if_neg blank]

/-! ## Tables -/

def lines (rows : List (List String)) : List Char := rows.flatMap fun row => rowText row ++ ['\n']

theorem lines_cons (row : List String) (rows : List (List String)) :
    lines (row :: rows) = rowText row ++ '\n' :: lines rows := by
  simp [lines]

theorem rowsFrom_lines {rows : List (List String)} (filled : ∀ row ∈ rows, row ≠ []) :
    rowsFrom .initial (lines rows) =
      if ∀ row ∈ rows, Fits row then .ok rows else .error .cellTooLong := by
  induction rows with
  | nil => simp [lines, rowsFrom, State.initial]
  | cons row rows ih =>
      rw [List.forall_mem_cons] at filled
      rw [lines_cons, rowsFrom_rowText filled.1, ih filled.2]
      simp only [List.forall_mem_cons]
      by_cases first : Fits row
      · by_cases others : ∀ row ∈ rows, Fits row
        · rw [if_pos first, if_pos others, if_pos ⟨first, others⟩]
          rfl
        · rw [if_pos first, if_neg others, if_neg fun h => others h.2]
          rfl
      · rw [if_neg first, if_neg fun h => first h.1]

/-! ## Line feeds in cells -/

def normalizedCell (cell : String) : String := String.ofList (normalizeNewlines cell.toList)

theorem toList_normalizedCell (cell : String) :
    (normalizedCell cell).toList = normalizeNewlines cell.toList :=
  String.toList_ofList

theorem doubled_of_ne {c : Char} (other : c ≠ '"') : doubled c = [c] := by
  simp [doubled, other]

theorem normalizeNewlines_doubled (c : Char) (plain : c ≠ '\r') (rest : List Char) :
    normalizeNewlines (doubled c ++ rest) = doubled c ++ normalizeNewlines rest := by
  unfold doubled
  split_ifs
  · exact congrArg _ (normalizeNewlines_cons (by decide) _)
  · exact normalizeNewlines_cons plain rest

theorem head?_flatMap_doubled (cell : List Char) : (cell.flatMap doubled).head? = cell.head? := by
  cases cell with
  | nil => rfl
  | cons c cell =>
      by_cases quote : c = '"'
      · subst quote
        rfl
      · rw [List.flatMap_cons, doubled_of_ne quote]
        rfl

theorem normalizeNewlines_flatMap_doubled (cell : List Char) :
    normalizeNewlines (cell.flatMap doubled) = (normalizeNewlines cell).flatMap doubled := by
  fun_induction normalizeNewlines cell with
  | case1 rest ih =>
      change normalizeNewlines ('\r' :: '\n' :: rest.flatMap doubled) = _
      rw [normalizeNewlines, ih]
      rfl
  | case2 rest other ih =>
      change normalizeNewlines (['\r'] ++ rest.flatMap doubled) = _
      rw [normalizeNewlines_append, ih]
      · rfl
      · rw [head?_flatMap_doubled]
        intro feed
        obtain ⟨rest', rfl⟩ := List.head?_eq_some_iff.mp feed
        exact other rest' rfl
  | case3 c rest _ plain ih =>
      rw [List.flatMap_cons, normalizeNewlines_doubled c plain, ih, List.flatMap_cons]
  | case4 => rfl

theorem any_needsQuotes_normalizeNewlines (cell : List Char) :
    (normalizeNewlines cell).any needsQuotes = cell.any needsQuotes := by
  fun_induction normalizeNewlines cell with
  | case1 rest ih => simp [needsQuotes]
  | case2 rest _ ih => simp [needsQuotes]
  | case3 c rest _ _ ih => rw [List.any_cons, List.any_cons, ih]
  | case4 => rfl

theorem normalizeNewlines_quoteCell (cell : List Char) :
    normalizeNewlines (quoteCell cell) = quoteCell (normalizeNewlines cell) := by
  rw [quoteCell_eq, quoteCell_eq, normalizeNewlines_cons (by decide),
    normalizeNewlines_append (by decide), normalizeNewlines_flatMap_doubled]
  rfl

theorem normalizeNewlines_cellText (cell : List Char) :
    normalizeNewlines (cellText cell) = cellText (normalizeNewlines cell) := by
  unfold cellText
  rw [any_needsQuotes_normalizeNewlines]
  split_ifs with special
  · exact normalizeNewlines_quoteCell cell
  · rfl

theorem normalizeNewlines_joined (row : List String) :
    normalizeNewlines (joined row) = joined (row.map normalizedCell) := by
  cases row with
  | nil => rfl
  | cons cell cells =>
      induction cells generalizing cell with
      | nil =>
          rw [List.map_singleton, joined_singleton, joined_singleton, normalizeNewlines_cellText,
            toList_normalizedCell]
      | cons next cells ih =>
          rw [joined_cons_cons, normalizeNewlines_append (by simp),
            normalizeNewlines_cons (by decide), ih, normalizeNewlines_cellText, List.map_cons,
            List.map_cons, List.map_cons, joined_cons_cons, toList_normalizedCell]

theorem normalizedCell_eq_empty {cell : String} : normalizedCell cell = "" ↔ cell = "" := by
  rw [← String.toList_eq_nil_iff, toList_normalizedCell, ← String.toList_eq_nil_iff]
  exact normalizeNewlines_eq_nil

theorem map_normalizedCell_eq_blank {row : List String} :
    row.map normalizedCell = [""] ↔ row = [""] := by
  rcases row with _ | ⟨cell, _ | ⟨next, cells⟩⟩ <;> simp [normalizedCell_eq_empty]

theorem normalizeNewlines_rowText (row : List String) :
    normalizeNewlines (rowText row) = rowText (row.map normalizedCell) := by
  by_cases blank : row = [""]
  · subst blank
    exact normalizeNewlines_quoteCell []
  · rw [rowText_eq_joined blank, rowText_eq_joined (mt map_normalizedCell_eq_blank.mp blank),
      normalizeNewlines_joined]

theorem normalizeNewlines_line (line rest : List Char) :
    normalizeNewlines (line ++ '\r' :: '\n' :: rest) =
      normalizeNewlines line ++ '\n' :: normalizeNewlines rest := by
  rw [normalizeNewlines_append (by simp), normalizeNewlines]

theorem tableText_cons (header : List String) (rows : List (List String)) :
    tableText header rows =
      rowText header ++ '\r' :: '\n' :: rows.flatMap fun row => rowText row ++ ['\r', '\n'] := by
  rw [tableText, List.flatMap_cons, lineText, List.append_assoc]
  rfl

theorem normalizeNewlines_rows (rows : List (List String)) :
    normalizeNewlines (rows.flatMap fun row => rowText row ++ ['\r', '\n']) =
      lines (rows.map fun row => row.map normalizedCell) := by
  induction rows with
  | nil => rfl
  | cons row rows ih =>
      rw [List.flatMap_cons, List.append_assoc, List.cons_append, List.singleton_append,
        normalizeNewlines_line, normalizeNewlines_rowText, ih, List.map_cons, lines_cons]

/-! ## A mark in front of the header -/

/-- A cell without its mark, if it is not in quotes. -/
def unmarkedCell (cell : List Char) : List Char :=
  if cell.any needsQuotes then cell else unmarked cell

def unmarkedCells : List String → List String
  | [] => []
  | cell :: cells => String.ofList (unmarkedCell cell.toList) :: cells

theorem unmarked_cellText (cell : List Char) {rest : List Char} (apart : rest.head? ≠ some mark) :
    unmarked (cellText cell ++ rest) = cellText (unmarkedCell cell) ++ rest := by
  by_cases special : cell.any needsQuotes = true
  · rw [unmarkedCell, if_pos special, cellText, if_pos special]
    exact unmarked_of_head (by simp [quoteCell, mark])
  · rw [unmarkedCell, if_neg special, cellText, if_neg special]
    cases cell with
    | nil => exact unmarked_of_head apart
    | cons c cell =>
        have plain : ¬ cell.any needsQuotes = true := fun h => special (by simp [h])
        rw [List.cons_append, unmarked, unmarked]
        split_ifs
        · rw [cellText, if_neg plain]
        · rw [cellText, if_neg special, List.cons_append]

theorem unmarked_joined {row : List String} (filled : row ≠ []) {rest : List Char}
    (apart : rest.head? ≠ some mark) :
    unmarked (joined row ++ rest) = joined (unmarkedCells row) ++ rest := by
  rcases row with _ | ⟨cell, _ | ⟨next, cells⟩⟩
  · exact absurd rfl filled
  · rw [joined_singleton, unmarked_cellText _ apart, unmarkedCells, joined_singleton,
      String.toList_ofList]
  · rw [joined_cons_cons, List.append_assoc, unmarked_cellText _ (by simp [mark]), unmarkedCells,
      joined_cons_cons, String.toList_ofList, List.append_assoc]

theorem normalizeNewlines_tableText {header : List String} (filled : header ≠ [])
    (named : header ≠ [""]) (rows : List (List String)) :
    normalizeNewlines (unmarked (tableText header rows)) =
      joined ((unmarkedCells header).map normalizedCell) ++
        '\n' :: lines (rows.map fun row => row.map normalizedCell) := by
  rw [tableText_cons, rowText_eq_joined named, unmarked_joined filled (by simp [mark]),
    normalizeNewlines_line, normalizeNewlines_joined, normalizeNewlines_rows]

theorem rows_tableText {header : List String} (filled : header ≠ []) (named : header ≠ [""])
    {rows : List (List String)} (cells : ∀ row ∈ rows, row ≠ []) :
    Csv.rows (normalizeNewlines (unmarked (tableText header rows))) =
      if Fits ((unmarkedCells header).map normalizedCell) ∧
          ∀ row ∈ rows, Fits (row.map normalizedCell) then
        .ok (readRow ((unmarkedCells header).map normalizedCell) ::
          rows.map fun row => row.map normalizedCell)
      else .error .cellTooLong := by
  have first : (unmarkedCells header).map normalizedCell ≠ [] := by
    cases header with
    | nil => exact absurd rfl filled
    | cons cell others => simp [unmarkedCells]
  have others : ∀ row ∈ rows.map fun row => row.map normalizedCell, row ≠ [] := by
    simpa using cells
  rw [Csv.rows, normalizeNewlines_tableText filled named, rowsFrom_joined_initial first,
    rowsFrom_lines others]
  simp only [List.forall_mem_map]
  by_cases short : Fits ((unmarkedCells header).map normalizedCell)
  · by_cases all : ∀ row ∈ rows, Fits (row.map normalizedCell)
    · rw [if_pos short, if_pos all, if_pos ⟨short, all⟩]
      rfl
    · rw [if_pos short, if_neg all, if_neg fun h => all h.2]
      rfl
  · rw [if_neg short, if_neg fun h => short h.1]

/-! ## Tables that read back as they were -/

theorem normalizedCell_eq_self {cell : String} :
    normalizedCell cell = cell ↔ '\r' ∉ cell.toList := by
  rw [← String.toList_inj, toList_normalizedCell, normalizeNewlines_eq_self]

theorem map_eq_self {α : Type} {f : α → α} {as : List α} : as.map f = as ↔ ∀ a ∈ as, f a = a := by
  simpa using List.map_inj_left (l := as) (f := f) (g := id)

theorem map_normalizedCell_eq_self {row : List String} :
    row.map normalizedCell = row ↔ ∀ cell ∈ row, '\r' ∉ cell.toList := by
  simp only [map_eq_self, normalizedCell_eq_self]

def IsMarked (cell : String) : Prop :=
  cell.toList.head? = some mark ∧ cell.toList.any needsQuotes = false

theorem unmarkedCell_of_not_isMarked {cell : String} (plain : ¬ IsMarked cell) :
    unmarkedCell cell.toList = cell.toList := by
  unfold unmarkedCell
  split_ifs with special
  · rfl
  · exact unmarked_of_head fun marked => plain ⟨marked, Bool.eq_false_iff.mpr special⟩

theorem length_unmarkedCell {cell : String} (marked : IsMarked cell) :
    (unmarkedCell cell.toList).length < cell.toList.length := by
  obtain ⟨first, plain⟩ := marked
  obtain ⟨rest, text⟩ := List.head?_eq_some_iff.mp first
  rw [unmarkedCell, if_neg (by simp [plain]), text, unmarked, if_pos rfl]
  exact Nat.lt_succ_self _

theorem normalizedCell_unmarkedCell {cell : String} :
    normalizedCell (String.ofList (unmarkedCell cell.toList)) = cell ↔
      ¬ IsMarked cell ∧ '\r' ∉ cell.toList := by
  rw [← String.toList_inj, toList_normalizedCell, String.toList_ofList]
  constructor
  · intro same
    have plain : ¬ IsMarked cell := fun marked => by
      have shorter := length_unmarkedCell marked
      have bound := length_normalizeNewlines (unmarkedCell cell.toList)
      rw [same] at bound
      omega
    rw [unmarkedCell_of_not_isMarked plain] at same
    exact ⟨plain, normalizeNewlines_eq_self.mp same⟩
  · rintro ⟨plain, unbroken⟩
    rw [unmarkedCell_of_not_isMarked plain, normalizeNewlines_of_plain unbroken]

structure Survives (header : List String) (rows : List (List String)) : Prop where
  unbroken : ∀ row ∈ header :: rows, ∀ cell ∈ row, '\r' ∉ cell.toList
  short : ∀ row ∈ header :: rows, Fits row
  unmarked : ∀ cell ∈ header.head?, ¬ IsMarked cell

theorem readRow_eq_iff {row header : List String} (filled : header ≠ []) (named : header ≠ [""]) :
    readRow row = header ↔ row = header := by
  unfold readRow
  split_ifs with blank
  · rw [blank]
    exact ⟨fun same => absurd same.symm filled, fun same => absurd same.symm named⟩
  · rfl

theorem unmarkedCells_eq_iff (header : List String) :
    (unmarkedCells header).map normalizedCell = header ↔
      (∀ cell ∈ header, '\r' ∉ cell.toList) ∧ ∀ cell ∈ header.head?, ¬ IsMarked cell := by
  cases header with
  | nil => simp [unmarkedCells]
  | cons cell cells =>
      rw [unmarkedCells, List.map_cons, List.cons.injEq, normalizedCell_unmarkedCell,
        map_normalizedCell_eq_self, List.forall_mem_cons]
      simp only [List.head?_cons, Option.mem_some_iff, forall_eq']
      exact ⟨fun h => ⟨⟨h.1.2, h.2⟩, h.1.1⟩, fun h => ⟨⟨h.2, h.1.1⟩, h.1.2⟩⟩

/-- A table is read as it was exactly if its texts come back. -/
theorem rows_tableText_iff {header : List String} (filled : header ≠ []) (named : header ≠ [""])
    {rows : List (List String)} (cells : ∀ row ∈ rows, row ≠ []) :
    Csv.rows (normalizeNewlines (Text.unmarked (tableText header rows))) = .ok (header :: rows) ↔
      Survives header rows := by
  have first := unmarkedCells_eq_iff header
  rw [rows_tableText filled named cells]
  constructor
  · intro read
    split_ifs at read with fits
    obtain ⟨headerFits, rowsFit⟩ := fits
    obtain ⟨same, others⟩ := List.cons.inj (Except.ok.inj read)
    rw [readRow_eq_iff filled named] at same
    rw [map_eq_self] at others
    obtain ⟨unbroken, unmarked⟩ := first.mp same
    refine ⟨List.forall_mem_cons.mpr ⟨unbroken, fun row found => ?_⟩,
      List.forall_mem_cons.mpr ⟨same ▸ headerFits, fun row found => ?_⟩, unmarked⟩
    · exact map_normalizedCell_eq_self.mp (others row found)
    · exact others row found ▸ rowsFit row found
  · rintro ⟨unbroken, short, unmarked⟩
    rw [List.forall_mem_cons] at unbroken short
    have same := first.mpr ⟨unbroken.1, unmarked⟩
    have each : ∀ row ∈ rows, row.map normalizedCell = row := fun row found =>
      map_normalizedCell_eq_self.mpr (unbroken.2 row found)
    rw [same, (readRow_eq_iff filled named).mpr rfl, map_eq_self.mpr each, if_pos]
    exact ⟨short.1, fun row found => (each row found).symm ▸ short.2 row found⟩

end RecordFilter.Csv
