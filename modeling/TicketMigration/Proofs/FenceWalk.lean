import TicketMigration.Proofs.BlockLines

/-!
# Walking over lines with the state of the fences

Both passes over a text that leave fenced code alone can be read as one walk over its lines, which
carries from line to line whether a fence is open.

## Main definitions

* `FenceState.next`, `FenceState.after` — the state behind a line and behind several.
* `FenceState.keeps state line` — in this state the line is a fence or code.
* `LineState.after` — the state of the pass behind several lines.
* `walk g state ls` — what `g` gives for each line and the state in front of it.
* `lineSteps` — the steps of the pass over the lines: each line with the state it is read in.

## Main statements

* `FenceState.after_text_eq_code_iff` — a fence is open exactly behind an odd number of fences.
* `walk_eq_mapIdx` — a walk computes its states from the lines in front.
* `mapUnfenced_eq_walk` — conversion outside the fenced regions is a walk.
* `map_lineSteps` — the code states of the pass over the lines are those of a walk.
-/

namespace TicketMigration.Markup

open Text

/-! ### The state of the fences -/

namespace FenceState

/-- The state behind a line. -/
def next (state : FenceState) (line : List Char) : FenceState :=
  if isFence line then state.toggle else state

/-- The state behind several lines. -/
def after (state : FenceState) (ls : List (List Char)) : FenceState :=
  ls.foldl next state

/-- Whether a line that is read in this state is a fence or code. -/
def keeps (state : FenceState) (line : List Char) : Bool :=
  isFence line || state == .code

@[simp] theorem keeps_text (line : List Char) : text.keeps line = isFence line := by
  simp [keeps]

@[simp] theorem keeps_code (line : List Char) : code.keeps line = true := by
  simp [keeps]

/-- Only ordinary text is not kept. -/
theorem keeps_eq_false_iff {state : FenceState} {line : List Char} :
    state.keeps line = false ↔ isFence line = false ∧ state = text := by
  cases state <;> simp

@[simp] theorem toggle_toggle (state : FenceState) : state.toggle.toggle = state := by
  cases state <;> rfl

theorem next_of_isFence {state : FenceState} {line : List Char} (h : isFence line = true) :
    state.next line = state.toggle := if_pos h

theorem next_of_not_isFence {state : FenceState} {line : List Char} (h : isFence line = false) :
    state.next line = state := by
  simp [next, h]

@[simp] theorem after_nil (state : FenceState) : state.after [] = state := rfl

@[simp] theorem after_cons (state : FenceState) (line : List Char) (ls : List (List Char)) :
    state.after (line :: ls) = (state.next line).after ls := rfl

theorem after_append (state : FenceState) (xs ys : List (List Char)) :
    state.after (xs ++ ys) = (state.after xs).after ys := List.foldl_append

theorem after_of_forall_not_isFence {state : FenceState} {ls : List (List Char)}
    (h : ∀ l ∈ ls, isFence l = false) : state.after ls = state := by
  induction ls with
  | nil => rfl
  | cons l ls ih =>
    rw [after_cons, next_of_not_isFence (h l List.mem_cons_self),
      ih fun l' hl' => h l' (List.mem_cons_of_mem _ hl')]

/-- An even number of fences leaves the state as it is, an odd number turns it. -/
theorem after_eq (state : FenceState) (ls : List (List Char)) :
    state.after ls = if ls.countP isFence % 2 = 0 then state else state.toggle := by
  induction ls generalizing state with
  | nil => rfl
  | cons l ls ih =>
    rw [after_cons, ih, List.countP_cons]
    by_cases h : isFence l = true
    · rw [next_of_isFence h, if_pos h, toggle_toggle]
      split <;> split <;> first | rfl | omega
    · rw [next_of_not_isFence (by simpa using h), if_neg h, Nat.add_zero]

/-- From ordinary text on, a fence is open exactly behind an odd number of fences. -/
theorem after_text_eq_code_iff (ls : List (List Char)) :
    text.after ls = code ↔ ls.countP isFence % 2 = 1 := by
  rw [after_eq]
  split
  · next h => simp [h]
  · next h =>
    have : ls.countP isFence % 2 = 1 := by omega
    simp [this, toggle]

end FenceState

/-! ### Walks -/

/-- What `g` gives for each line and the state in front of it. -/
def walk {α : Type} (g : FenceState → List Char → α) : FenceState → List (List Char) → List α
  | _, [] => []
  | state, line :: rest => g state line :: walk g (state.next line) rest

section Walk

variable {α : Type} (g : FenceState → List Char → α)

@[simp] theorem walk_nil (state : FenceState) : walk g state [] = [] := rfl

@[simp] theorem walk_cons (state : FenceState) (line : List Char) (rest : List (List Char)) :
    walk g state (line :: rest) = g state line :: walk g (state.next line) rest := rfl

theorem walk_append (state : FenceState) (xs ys : List (List Char)) :
    walk g state (xs ++ ys) = walk g state xs ++ walk g (state.after xs) ys := by
  induction xs generalizing state with
  | nil => rfl
  | cons x xs ih => rw [List.cons_append, walk_cons, ih, walk_cons, FenceState.after_cons,
      List.cons_append]

theorem walk_ne_nil {state : FenceState} {ls : List (List Char)} (h : ls ≠ []) :
    walk g state ls ≠ [] := by
  cases ls with
  | nil => exact absurd rfl h
  | cons => simp

/-- The state in front of a line is the one behind all lines before it. -/
theorem walk_eq_mapIdx (state : FenceState) (ls : List (List Char)) :
    walk g state ls = ls.mapIdx fun i line => g (state.after (ls.take i)) line := by
  induction ls generalizing state with
  | nil => rfl
  | cons l ls ih =>
    rw [walk_cons, ih, List.mapIdx_cons]
    rfl

/-- Between two fences the state does not change. -/
theorem walk_of_forall_not_isFence {state : FenceState} {ls : List (List Char)}
    (h : ∀ l ∈ ls, isFence l = false) : walk g state ls = ls.map (g state) := by
  induction ls with
  | nil => rfl
  | cons l ls ih =>
    rw [walk_cons, FenceState.next_of_not_isFence (h l List.mem_cons_self), List.map_cons,
      ih fun l' hl' => h l' (List.mem_cons_of_mem _ hl')]

end Walk

/-! ### Conversion outside the fenced regions -/

/-- Keeps the lines that are fences or code and converts the others. -/
def unlessKept (f : List Char → List Char) (state : FenceState) (line : List Char) : List Char :=
  if state.keeps line then line else f line

theorem unlessKept_code (f : List Char → List Char) (line : List Char) :
    unlessKept f .code line = line := by
  simp [unlessKept]

theorem unlessKept_of_isFence (f : List Char → List Char) (state : FenceState) {line : List Char}
    (h : isFence line = true) : unlessKept f state line = line := by
  simp [unlessKept, FenceState.keeps, h]

theorem unlessKept_text (f : List Char → List Char) {line : List Char} (h : isFence line = false) :
    unlessKept f .text line = f line := by
  simp [unlessKept, h]

/-- The lines of a region, converted if it is outside all fences. -/
def Region.convertedLines (f : List Char → List Char) : Region → List (List Char)
  | .plain ls => ls.map f
  | .fenced ls => ls

/-- From inside a region, everything through the closing fence is kept and ordinary text
follows. -/
theorem walk_code_eq (f : List Char → List Char) (ls : List (List Char)) :
    walk (unlessKept f) .code ls
      = (throughFence ls).1 ++ walk (unlessKept f) .text (throughFence ls).2 := by
  induction ls with
  | nil => rfl
  | cons l ls ih =>
    rw [walk_cons, unlessKept_code, throughFence]
    by_cases h : isFence l = true
    · rw [FenceState.next_of_isFence h, if_pos h]
      rfl
    · rw [FenceState.next_of_not_isFence (by simpa using h), ih, if_neg h]
      rfl

/-- The regions of a text, each converted as a whole, give the lines of a walk. -/
theorem flatMap_convertedLines_regions (f : List Char → List Char) (ls : List (List Char)) :
    (regions ls).flatMap (·.convertedLines f) = walk (unlessKept f) .text ls := by
  induction ls using regions.induct with
  | case1 => rw [regions]; rfl
  | case2 line rest h ih =>
    rw [regions, if_pos h, List.flatMap_cons, ih, walk_cons, unlessKept_of_isFence f .text h,
      FenceState.next_of_isFence h]
    show line :: ((throughFence rest).1 ++ _) = line :: walk _ .code rest
    rw [walk_code_eq]
  | case3 line rest h ih =>
    rw [regions, if_neg h, List.flatMap_cons, ih]
    have plain : ∀ l ∈ line :: rest.takeWhile (fun l => !isFence l), isFence l = false := by
      intro l hl
      rcases List.mem_cons.1 hl with rfl | hl
      · simpa using h
      · simpa using List.all_eq_true.1 List.all_takeWhile l hl
    have split : line :: rest = (line :: rest.takeWhile fun l => !isFence l)
        ++ rest.dropWhile fun l => !isFence l := by
      rw [List.cons_append, List.takeWhile_append_dropWhile]
    conv => rhs; rw [split, walk_append, walk_of_forall_not_isFence _ plain,
      FenceState.after_of_forall_not_isFence plain]
    congr 1
    exact List.map_congr_left fun l hl => (unlessKept_text f (plain l hl)).symm

/-- A region has at least one line. -/
theorem convertedLines_ne_nil {f : List Char → List Char} {ls : List (List Char)} {region : Region}
    (h : region ∈ regions ls) : region.convertedLines f ≠ [] := by
  induction ls using regions.induct with
  | case1 => simp [regions] at h
  | case2 line rest hf ih =>
    rw [regions, if_pos hf, List.mem_cons] at h
    rcases h with rfl | h
    · exact List.cons_ne_nil _ _
    · exact ih h
  | case3 line rest hf ih =>
    rw [regions, if_neg hf, List.mem_cons] at h
    rcases h with rfl | h
    · exact List.cons_ne_nil _ _
    · exact ih h

theorem Region.convert_eq {f : List Char → List Char} (hf : Linewise f) {region : Region}
    (h : region.convertedLines f ≠ []) : region.convert f = unlines (region.convertedLines f) := by
  cases region with
  | plain ls => exact hf.unlines (by simpa [convertedLines] using h)
  | fenced ls => rfl

/-- Conversion outside the fenced regions of a text is a walk over its lines. -/
theorem mapUnfenced_eq_walk {f : List Char → List Char} (hf : Linewise f) (s : List Char) :
    mapUnfenced f s = unlines (walk (unlessKept f) .text (lines s)) := by
  rw [mapUnfenced, ← flatMap_convertedLines_regions f,
    unlines_flatMap fun region h => convertedLines_ne_nil h]
  congr 1
  exact List.map_congr_left fun region h => region.convert_eq hf (convertedLines_ne_nil h)

/-! ### The pass over the lines -/

/-- A line and the state in which the pass over the lines reads it. -/
structure LineStep where
  /-- The state in front of the line. -/
  state : LineState
  /-- The line. -/
  line : List Char

/-- What the pass writes for the line. -/
def LineStep.written (base : List Char) (step : LineStep) : List Char :=
  (step.state.convert base step.line).2

/-- Whether the pass takes the line for a fence or for code. -/
def LineStep.kept (step : LineStep) : Bool :=
  step.state.code.keeps step.line

/-- The steps of the pass over the lines. -/
def lineSteps (base : List Char) : LineState → List (List Char) → List LineStep
  | _, [] => []
  | state, line :: rest => ⟨state, line⟩ :: lineSteps base (state.convert base line).1 rest

/-- The pass gives what its steps write. -/
theorem linesMarkdownFrom_eq_map (base : List Char) (state : LineState) (ls : List (List Char)) :
    linesMarkdownFrom base state ls = (lineSteps base state ls).map (·.written base) := by
  induction ls generalizing state with
  | nil => rfl
  | cons l ls ih =>
    rw [linesMarkdownFrom, ih]
    rfl

namespace LineState

variable (base : List Char) {state : LineState} {line : List Char}

/-! What one line does, by what it is taken for. -/

theorem convert_of_isFence (h : isFence line = true) :
    state.convert base line = (⟨state.code.toggle, .outside⟩, line) := if_pos h

theorem convert_of_code (h : isFence line = false) (hc : state.code = .code) :
    state.convert base line = (state, line) := by
  rw [convert, if_neg (by simp [h]), hc]

theorem convert_of_not_kept (h : state.code.keeps line = false) :
    state.convert base line
      = if isRow (mapBetweenSpans (inlineMarkdown base) line) then
          (⟨.text, .inside⟩,
            rowMarkdown state.table (mapBetweenSpans (inlineMarkdown base) line))
        else (⟨.text, .outside⟩, mapBetweenSpans (inlineMarkdown base) line) := by
  obtain ⟨hf, hc⟩ := FenceState.keeps_eq_false_iff.1 h
  rw [convert, if_neg (by simp [hf]), hc]

/-- A line turns the code state exactly if it is a fence. -/
theorem code_convert (state : LineState) (line : List Char) :
    (state.convert base line).1.code = state.code.next line := by
  by_cases hf : isFence line = true
  · rw [convert_of_isFence base hf, FenceState.next_of_isFence hf]
  · have hno : isFence line = false := by simpa using hf
    rw [FenceState.next_of_not_isFence hno]
    rcases hc : state.code with _ | _
    · rw [convert_of_not_kept base (FenceState.keeps_eq_false_iff.2 ⟨hno, hc⟩)]
      split <;> rfl
    · rw [convert_of_code base hno hc, hc]

/-- The state behind several lines. -/
def after (state : LineState) (ls : List (List Char)) : LineState :=
  ls.foldl (fun state line => (state.convert base line).1) state

@[simp] theorem after_nil (state : LineState) : state.after base [] = state := rfl

@[simp] theorem after_cons (state : LineState) (line : List Char) (ls : List (List Char)) :
    state.after base (line :: ls) = (state.convert base line).1.after base ls := rfl

theorem after_append (state : LineState) (xs ys : List (List Char)) :
    state.after base (xs ++ ys) = (state.after base xs).after base ys := List.foldl_append

theorem code_after (state : LineState) (ls : List (List Char)) :
    (state.after base ls).code = state.code.after ls := by
  induction ls generalizing state with
  | nil => rfl
  | cons l ls ih => rw [after_cons, ih, code_convert, FenceState.after_cons]

end LineState

/-- The code states of the pass are those of a walk over the same lines. -/
theorem map_lineSteps {α : Type} (g : FenceState → List Char → α) (base : List Char)
    (state : LineState) (ls : List (List Char)) :
    (lineSteps base state ls).map (fun step => g step.state.code step.line)
      = walk g state.code ls := by
  induction ls generalizing state with
  | nil => rfl
  | cons l ls ih =>
    rw [lineSteps, List.map_cons, ih, LineState.code_convert, walk_cons]

namespace LineStep

variable (base : List Char) {step : LineStep}

/-- What the pass keeps, it writes as it is. -/
theorem written_of_kept (h : step.kept = true) : step.written base = step.line := by
  rw [written]
  by_cases hf : isFence step.line = true
  · rw [LineState.convert_of_isFence base hf]
  · have hno : isFence step.line = false := by simpa using hf
    rcases hc : step.state.code with _ | _
    · rw [kept, hc, FenceState.keeps_text, hno] at h
      cases h
    · rw [LineState.convert_of_code base hno hc]

/-- What is not kept is converted. -/
theorem written_of_not_kept (h : step.kept = false) :
    step.written base
      = if isRow (mapBetweenSpans (inlineMarkdown base) step.line) then
          rowMarkdown step.state.table (mapBetweenSpans (inlineMarkdown base) step.line)
        else mapBetweenSpans (inlineMarkdown base) step.line := by
  rw [written, LineState.convert_of_not_kept base h]
  split <;> rfl

end LineStep

end TicketMigration.Markup
