import TicketMigration.Proofs.SeparatorRow

/-!
# Runs of table rows

The pass over the lines carries two states, one for fences and one for tables.  The first turns at
each fence.  The second says whether the line before was a row of a table, and it is decided on the
line after its inline markup has been converted; but no inline rule makes a row or unmakes one, so
the source lines decide.  Hence a header is written once for each run of rows, in front of its first
row and behind it.

## Main definitions

* `LineState.Settled` — no table goes on inside fenced code.
* `LineStep.isTableRow` — the line is read as a row of a table.
* `LineStep.bare`, `LineStep.WritesHeader` — what is written for a line without a header, and the
  header around it.
* `TableRuns base ls` — the states and the headers of a run over some lines.

## Main statements

* `LineState.Settled.convert`, `LineState.Settled.after` — what one line keeps, all lines keep.
* `LineStep.writesHeader_iff` — a header is written for a row that no table goes on with.
* `writesHeader_iff_first`, `writesHeader_run` — that is the first row of each run of rows.
* `tableRuns` — **one header for each run of rows, on all lines.**
-/

namespace TicketMigration.Markup

open Text

/-! ### The two states -/

namespace LineState

variable (base : List Char) {state : LineState}

/-- No table goes on inside fenced code. -/
def Settled (state : LineState) : Prop :=
  state.code = .code → state.table = .outside

/-- What one line keeps. -/
theorem Settled.convert (h : state.Settled) (line : List Char) :
    (state.convert base line).1.Settled := by
  intro inCode
  by_cases hf : isFence line = true
  · rw [convert_of_isFence base hf]
  · have hno : isFence line = false := by simpa using hf
    have same : state.code = .code := by
      rwa [code_convert, FenceState.next_of_not_isFence hno] at inCode
    rw [convert_of_code base hno same]
    exact h same

/-- What all lines keep. -/
theorem Settled.after (h : state.Settled) (ls : List (List Char)) :
    (state.after base ls).Settled := by
  induction ls generalizing state with
  | nil => exact h
  | cons line ls ih => exact ih (h.convert base line)

theorem settled_start : ({} : LineState).Settled := by
  intro h
  cases h

/-- A table goes on behind a line exactly if the line is a row and no code. -/
theorem Settled.table_convert (h : state.Settled) (line : List Char) :
    (state.convert base line).1.table
      = if isRow line && state.code == .text then .inside else .outside := by
  by_cases hf : isFence line = true
  · -- a fence begins with a backtick
    have noRow : isRow line = false := by
      obtain ⟨rest, rfl⟩ := isFence_eq_true_iff.1 hf
      rfl
    rw [convert_of_isFence base hf, noRow]
    rfl
  · have hno : isFence line = false := by simpa using hf
    cases hc : state.code with
    | text =>
      rw [LineState.table_convert base (FenceState.keeps_eq_false_iff.2 ⟨hno, hc⟩)]
      simp
    | code =>
      rw [convert_of_code base hno hc, h hc]
      simp

end LineState

/-! ### What is written for a line -/

namespace LineStep

variable (base : List Char)

/-- Whether the line is read as a row of a table: it begins with two bars and is no code. -/
def isTableRow (step : LineStep) : Bool :=
  isRow step.line && step.state.code == .text

/-- The state behind the line. -/
def next (step : LineStep) : LineState :=
  (step.state.convert base step.line).1

/-- What is written for the line if a table goes on with it, that is, without a header. -/
def bare (step : LineStep) : List Char :=
  (LineState.convert base ⟨step.state.code, .inside⟩ step.line).2

/-- The separator row that belongs to the line. -/
def separator (step : LineStep) : List Char :=
  tableSeparator (mapBetweenSpans (inlineMarkdown base) step.line)

/-- A header is written: a blank line in front of the line and a separator row behind it. -/
def WritesHeader (step : LineStep) : Prop :=
  step.written base = '\n' :: step.bare base ++ '\n' :: step.separator base

variable {base} {step : LineStep}

theorem isTableRow_eq_true_iff :
    step.isTableRow = true ↔ isRow step.line = true ∧ step.state.code = .text := by
  simp [isTableRow]

theorem written_of_isTableRow (h : step.isTableRow = true) :
    step.written base
      = rowMarkdown step.state.table (mapBetweenSpans (inlineMarkdown base) step.line) := by
  obtain ⟨hrow, hcode⟩ := isTableRow_eq_true_iff.1 h
  obtain ⟨⟨_, table⟩, line⟩ := step
  subst hcode
  exact congrArg Prod.snd (LineState.convert_of_isRow base table hrow)

theorem bare_eq_written (step : LineStep) :
    step.bare base = ({ step with state.table := .inside } : LineStep).written base := rfl

theorem bare_of_isTableRow (h : step.isTableRow = true) :
    step.bare base = tableCells (mapBetweenSpans (inlineMarkdown base) step.line) := by
  have same : ({ step with state.table := .inside } : LineStep).isTableRow = true := h
  rw [bare_eq_written, written_of_isTableRow same]
  rfl

/-- For any other line it does not matter whether a table goes on. -/
theorem written_of_not_isTableRow (h : step.isTableRow = false) :
    step.written base = step.bare base := by
  by_cases hk : step.kept = true
  · have same : ({ step with state.table := .inside } : LineStep).kept = true := hk
    rw [bare_eq_written, written_of_kept base hk, written_of_kept base same]
  · obtain ⟨-, hcode⟩ := FenceState.keeps_eq_false_iff.1 (Bool.eq_false_iff.2 hk)
    have hrow : isRow step.line = false := by simpa [isTableRow, hcode] using h
    obtain ⟨⟨_, table⟩, line⟩ := step
    subst hcode
    exact congrArg Prod.snd (LineState.convert_congr_table base table .inside hrow)

/-- Nor does a table that goes on bring a header. -/
theorem written_of_inside (h : step.state.table = .inside) :
    step.written base = step.bare base := by
  rw [bare, ← h]
  rfl

/-- A header takes up room. -/
theorem not_writesHeader (h : step.written base = step.bare base) : ¬ step.WritesHeader base := by
  intro header
  have lengths := congrArg List.length (h.symm.trans header)
  simp only [List.length_append, List.length_cons] at lengths
  omega

/-- **A header is written exactly for a row that no table goes on with.** -/
theorem writesHeader_iff :
    step.WritesHeader base ↔ step.isTableRow = true ∧ step.state.table = .outside := by
  constructor
  · intro header
    refine ⟨?_, ?_⟩
    · by_contra noRow
      exact not_writesHeader (written_of_not_isTableRow (Bool.eq_false_iff.2 noRow)) header
    · cases ht : step.state.table with
      | outside => rfl
      | inside => exact absurd header (not_writesHeader (written_of_inside ht))
  · intro ⟨hrow, outside⟩
    rw [WritesHeader, written_of_isTableRow hrow, outside, rowMarkdown_outside_eq,
      bare_of_isTableRow hrow, separator]

/-- Where no header is written, nothing but the line itself is. -/
theorem written_of_not_writesHeader (h : ¬ step.WritesHeader base) :
    step.written base = step.bare base := by
  by_cases hrow : step.isTableRow = true
  · cases ht : step.state.table with
    | outside => exact absurd (writesHeader_iff.2 ⟨hrow, ht⟩) h
    | inside => exact written_of_inside ht
  · exact written_of_not_isTableRow (Bool.eq_false_iff.2 hrow)

/-- Behind a line a table goes on exactly if the line is a row of it. -/
theorem table_next (h : step.state.Settled) :
    (step.next base).table = if step.isTableRow then .inside else .outside :=
  h.table_convert base step.line

end LineStep

/-! ### The steps of a run -/

section Steps

variable {base : List Char} {state : LineState} {ls : List (List Char)}
  {before behind : List LineStep} {step : LineStep}

/-- The steps read the lines one after the other. -/
theorem map_line_lineSteps (base : List Char) (state : LineState) (ls : List (List Char)) :
    (lineSteps base state ls).map (·.line) = ls := by
  induction ls generalizing state with
  | nil => rfl
  | cons line ls ih => rw [lineSteps, List.map_cons, ih]

/-- A step begins in the state behind the lines of the steps before it. -/
theorem state_of_lineSteps (h : lineSteps base state ls = before ++ step :: behind) :
    step.state = state.after base (before.map (·.line)) := by
  induction before generalizing state ls with
  | nil =>
    cases ls with
    | nil => cases h
    | cons line ls =>
      have first : ⟨state, line⟩ = step := (List.cons.inj h).1
      subst first
      rfl
  | cons first before ih =>
    cases ls with
    | nil => cases h
    | cons line ls =>
      obtain ⟨head, rest⟩ := List.cons.inj h
      subst head
      exact ih rest

/-- What the state in front of the lines has, the state in front of each of them has. -/
theorem settled_of_mem_lineSteps (h : state.Settled) (hs : step ∈ lineSteps base state ls) :
    step.state.Settled := by
  induction ls generalizing state with
  | nil => cases hs
  | cons line ls ih =>
    rw [lineSteps, List.mem_cons] at hs
    rcases hs with rfl | hs
    · exact h
    · exact ih (h.convert base line) hs

/-- From the start on, no table goes on with a line exactly if the line before is no row. -/
theorem table_eq_outside_iff (h : lineSteps base {} ls = before ++ step :: behind) :
    step.state.table = .outside ↔ ∀ previous ∈ before.getLast?, previous.isTableRow = false := by
  rcases List.eq_nil_or_concat before with rfl | ⟨front, previous, rfl⟩
  · rw [state_of_lineSteps h]
    simp
  · have split : lineSteps base {} ls = front ++ previous :: step :: behind := by
      rw [h, List.concat_eq_append, List.append_assoc, List.singleton_append]
    -- the line before, read in its own state, decides the state here
    have follows : step.state = previous.next base := by
      rw [state_of_lineSteps h, List.concat_eq_append, List.map_append, LineState.after_append,
        ← state_of_lineSteps split]
      rfl
    have mem : previous ∈ lineSteps base {} ls := by simp [split]
    have settled := settled_of_mem_lineSteps LineState.settled_start mem
    rw [follows, LineStep.table_next settled]
    cases hrow : previous.isTableRow <;> simp [hrow]

/-- **A header is written exactly for a row that comes first in its table.** -/
theorem writesHeader_iff_first (h : lineSteps base {} ls = before ++ step :: behind) :
    step.WritesHeader base ↔
      step.isTableRow = true ∧ ∀ previous ∈ before.getLast?, previous.isTableRow = false := by
  rw [LineStep.writesHeader_iff, table_eq_outside_iff h]

/-- In a run of rows the first one is written with a header and no other. -/
theorem writesHeader_run {first : LineStep} {rest : List LineStep}
    (h : lineSteps base {} ls = before ++ (first :: rest) ++ behind)
    (hrows : ∀ step ∈ first :: rest, step.isTableRow = true)
    (hbefore : ∀ previous ∈ before.getLast?, previous.isTableRow = false) :
    first.WritesHeader base ∧ ∀ step ∈ rest, ¬ step.WritesHeader base := by
  refine ⟨?_, ?_⟩
  · have split : lineSteps base {} ls = before ++ first :: (rest ++ behind) := by
      rw [h, List.append_assoc, List.cons_append]
    exact (writesHeader_iff_first split).2 ⟨hrows first List.mem_cons_self, hbefore⟩
  · intro step hs header
    obtain ⟨front, back, rfl⟩ := List.append_of_mem hs
    have split : lineSteps base {} ls
        = (before ++ first :: front) ++ step :: (back ++ behind) := by
      rw [h]
      simp
    -- the row before it is one of the run
    obtain ⟨previous, hlast⟩ : ∃ previous, (first :: front).getLast? = some previous :=
      ⟨_, List.getLast?_eq_some_getLast (List.cons_ne_nil first front)⟩
    have noRow := ((writesHeader_iff_first split).1 header).2 previous (by simp [hlast])
    have mem : previous ∈ first :: (front ++ step :: back) :=
      List.mem_append_left (step :: back) (List.mem_of_getLast? hlast)
    rw [hrows previous mem] at noRow
    cases noRow

end Steps

/-! ### All lines -/

/-- What is known of the two states and of the headers when the lines `ls` are read one after the
other from the start on. -/
structure TableRuns (base : List Char) (ls : List (List Char)) : Prop where
  /-- The lines are written one by one, each by its step. -/
  result : linesMarkdown base ls = (lineSteps base {} ls).map (·.written base)
  /-- The steps read these lines. -/
  lines : (lineSteps base {} ls).map (·.line) = ls
  /-- Each of them begins in the state behind the lines before it. -/
  states : ∀ before step behind, lineSteps base {} ls = before ++ step :: behind →
    step.state = ({} : LineState).after base (before.map (·.line))
  /-- Behind the lines the state is that of code if an odd number of them are fences. -/
  code : (({} : LineState).after base ls).code = .code ↔ ls.countP isFence % 2 = 1
  /-- A table is open behind the lines if the last of them is a row in ordinary text. -/
  table : (({} : LineState).after base ls).table = .inside ↔
    ∃ before line, ls = before ++ [line] ∧ isRow line = true ∧
      (({} : LineState).after base before).code = .text
  /-- No table is open in code. -/
  apart : ¬ ((({} : LineState).after base ls).code = .code ∧
    (({} : LineState).after base ls).table = .inside)
  /-- Fences and lines in code are written as they are. -/
  kept : ∀ step ∈ lineSteps base {} ls,
    (isFence step.line = true ∨ step.state.code = .code) → step.written base = step.line
  /-- A header is written for a row whose predecessor, if there is one, is no row. -/
  header : ∀ before step behind, lineSteps base {} ls = before ++ step :: behind →
    (step.WritesHeader base ↔
      step.isTableRow = true ∧ ∀ previous ∈ before.getLast?, previous.isTableRow = false)
  /-- Any other line is written without one. -/
  bare : ∀ step ∈ lineSteps base {} ls,
    ¬ step.WritesHeader base → step.written base = step.bare base
  /-- So each run of rows has one header, on its first row. -/
  runs : ∀ before first rest behind,
    lineSteps base {} ls = before ++ (first :: rest) ++ behind →
    (∀ step ∈ first :: rest, step.isTableRow = true) →
    (∀ previous ∈ before.getLast?, previous.isTableRow = false) →
    first.WritesHeader base ∧ ∀ step ∈ rest, ¬ step.WritesHeader base
  /-- Inline markup makes no line a row, nor a row another line. -/
  rows : ∀ line, isRow (mapBetweenSpans (inlineMarkdown base) line) = isRow line

/-- The table state behind several lines is that behind the last of them. -/
theorem table_after_eq_inside_iff (base : List Char) (ls : List (List Char)) :
    (({} : LineState).after base ls).table = .inside ↔
      ∃ before line, ls = before ++ [line] ∧ isRow line = true ∧
        (({} : LineState).after base before).code = .text := by
  rcases eq_or_ne ls [] with rfl | hne
  · simp
  · obtain ⟨front, line, rfl⟩ := eq_append_last hne
    have settled := LineState.settled_start.after base front
    rw [LineState.after_append, LineState.after_cons, LineState.after_nil, settled.table_convert]
    constructor
    · intro inside
      have both : isRow line = true ∧ (({} : LineState).after base front).code = .text := by
        simpa using inside
      exact ⟨front, line, rfl, both⟩
    · intro ⟨before, last, same, hrow, hcode⟩
      obtain ⟨sameFront, sameLast⟩ := List.append_inj' same rfl
      obtain rfl := List.singleton_inj.1 sameLast
      simp [sameFront, hrow, hcode]

/-- **One header for each run of rows**, whatever the lines are: the states behind them, what is
kept, and which lines are written with a header. -/
theorem tableRuns (base : List Char) (ls : List (List Char)) : TableRuns base ls where
  result := linesMarkdownFrom_eq_map base {} ls
  lines := map_line_lineSteps base {} ls
  states _ _ _ split := state_of_lineSteps split
  code := by
    rw [LineState.code_after]
    exact FenceState.after_text_eq_code_iff ls
  table := table_after_eq_inside_iff base ls
  apart := by
    intro ⟨inCode, inTable⟩
    rw [LineState.settled_start.after base ls inCode] at inTable
    cases inTable
  kept := by
    intro step _ hkept
    refine LineStep.written_of_kept base (Bool.of_not_eq_false fun converted => ?_)
    obtain ⟨noFence, hcode⟩ := FenceState.keeps_eq_false_iff.1 converted
    simp [noFence, hcode] at hkept
  header _ _ _ split := writesHeader_iff_first split
  bare _ _ := LineStep.written_of_not_writesHeader
  runs _ _ _ _ := writesHeader_run
  rows line := (keepsBars_mapBetweenSpans (keepsBars_inlineMarkdown base)).isRow line

end TicketMigration.Markup
