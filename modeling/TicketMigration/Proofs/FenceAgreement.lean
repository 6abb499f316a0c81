import TicketMigration.Proofs.FenceSearch

/-!
# The two recognisers of fences agree

Fenced code is recognised twice: by the search around which the block markup is converted, and by
the state that the pass over the lines carries.  The second one reads what the first one wrote.
Both go by the parity of the fences in front of a line, and since block markup makes no fence and
unmakes none, they leave the very same lines alone.

## Main definitions

* `fenced before line`, `opensFence before line` — the part that a line has in a text, given the
  lines in front of it.
* `FencesAgree base s` — the agreement on a text.

## Main statements

* `fencesAgree` — the two recognisers agree on every text.
-/

namespace TicketMigration.Markup

open Text

/-- Whether a line is a fence or has an odd number of fences in front of it. -/
def fenced (before : List (List Char)) (line : List Char) : Bool :=
  isFence line || before.countP isFence % 2 == 1

/-- Whether a line is a fence with an even number of fences in front of it. -/
def opensFence (before : List (List Char)) (line : List Char) : Bool :=
  isFence line && before.countP isFence % 2 == 0

/-- What the pass over the lines sees of the lines that the block rules wrote: each with the code
state in front of it and whether it is taken for a fence or for code. -/
def codeView (base s : List Char) : List (List Char × FenceState × Bool) :=
  (lineSteps base {} (lines (mapUnfenced blockMarkdown s))).map fun step =>
    (step.line, step.state.code, step.kept)

/-- The search for fenced blocks and the pass over the lines agree on a text. -/
structure FencesAgree (base s : List Char) : Prop where
  /-- The search gives the text with every fenced line kept and every other line converted. -/
  search : convertAroundBlocks blockMarkdown true s
    = unlines ((lines s).mapIdx fun i line =>
        if fenced ((lines s).take i) line then line else blockMarkdown line)
  /-- So does the conversion by regions. -/
  regions : mapUnfenced blockMarkdown s = convertAroundBlocks blockMarkdown true s
  /-- The pass takes the fenced lines for fences or code, in the code state except for the opening
  fences, and all that was written for another line for ordinary text. -/
  pass : codeView base s
    = ((lines s).mapIdx fun i line =>
        if fenced ((lines s).take i) line then
          [(line, if opensFence ((lines s).take i) line then .text else .code, true)]
        else (lines (blockMarkdown line)).map fun l => (l, .text, false)).flatten
  /-- The result of the pass is what its steps write. -/
  result : linesMarkdown base (lines (mapUnfenced blockMarkdown s))
    = (lineSteps base {} (lines (mapUnfenced blockMarkdown s))).map (·.written base)
  /-- What is taken for a fence or for code is written as it is. -/
  kept : ∀ step ∈ lineSteps base {} (lines (mapUnfenced blockMarkdown s)),
    step.kept = true → step.written base = step.line
  /-- Everything else is converted, as a row of a table or as other text. -/
  converted : ∀ step ∈ lineSteps base {} (lines (mapUnfenced blockMarkdown s)),
    step.kept = false → step.written base
      = if isRow (mapBetweenSpans (inlineMarkdown base) step.line) then
          rowMarkdown step.state.table (mapBetweenSpans (inlineMarkdown base) step.line)
        else mapBetweenSpans (inlineMarkdown base) step.line

/-! ### Parity -/

theorem keeps_after_text (before : List (List Char)) (line : List Char) :
    (FenceState.text.after before).keeps line = fenced before line := by
  rw [FenceState.keeps, fenced, Bool.eq_iff_iff, Bool.or_eq_true, Bool.or_eq_true, beq_iff_eq,
    beq_iff_eq, FenceState.after_text_eq_code_iff]

/-- Of the fenced lines only the opening fences are read as ordinary text. -/
theorem after_text_of_fenced {before : List (List Char)} {line : List Char}
    (h : fenced before line = true) :
    FenceState.text.after before = if opensFence before line then .text else .code := by
  rw [fenced, Bool.or_eq_true, beq_iff_eq] at h
  rw [FenceState.after_eq]
  rcases Nat.mod_two_eq_zero_or_one (before.countP isFence) with even | odd
  · have hline : isFence line = true := h.resolve_right (by omega)
    simp [opensFence, hline, even]
  · simp [opensFence, odd, FenceState.toggle]

/-! ### The lines that the block rules write -/

theorem walk_unlessKept_lines_ne_nil (f : List Char → List Char) (state : FenceState)
    (s : List Char) : walk (unlessKept f) state (lines s) ≠ [] :=
  walk_ne_nil _ (lines_ne_nil s)

theorem lines_mapUnfenced_blockMarkdown (s : List Char) :
    lines (mapUnfenced blockMarkdown s)
      = (walk (unlessKept blockMarkdown) .text (lines s)).flatMap lines := by
  rw [mapUnfenced_eq_walk linewise_blockMarkdown,
    lines_unlines_flatMap (walk_unlessKept_lines_ne_nil _ _ s)]

theorem countP_isFence_unlessKept {state : FenceState} {line : List Char} (hn : '\n' ∉ line) :
    (lines (unlessKept blockMarkdown state line)).countP isFence = [line].countP isFence := by
  rw [unlessKept]
  split
  · rw [lines_of_not_mem hn]
  · next hk =>
    rw [Bool.not_eq_true] at hk
    have hno := (FenceState.keeps_eq_false_iff.1 hk).1
    have none : ∀ l ∈ lines (blockMarkdown line), ¬ isFence l = true := by
      intro l hl
      rw [not_isFence_of_mem_lines_blockMarkdown hn hno hl]
      exact Bool.false_ne_true
    rw [List.countP_eq_zero.2 none, List.countP_cons_of_neg (by simp [hno]), List.countP_nil]

/-- The block rules keep the number of fences. -/
theorem countP_isFence_mapUnfenced (s : List Char) :
    (lines (mapUnfenced blockMarkdown s)).countP isFence = (lines s).countP isFence := by
  have run : ∀ (ls : List (List Char)) (state : FenceState), (∀ l ∈ ls, '\n' ∉ l) →
      ((walk (unlessKept blockMarkdown) state ls).flatMap lines).countP isFence
        = ls.countP isFence := by
    intro ls
    induction ls with
    | nil => exact fun _ _ => rfl
    | cons l ls ih =>
      intro state hn
      rw [walk_cons, List.flatMap_cons, List.countP_append,
        countP_isFence_unlessKept (hn l List.mem_cons_self),
        ih _ fun l' hl' => hn l' (List.mem_cons_of_mem _ hl'), ← List.countP_append,
        List.singleton_append]
  rw [lines_mapUnfenced_blockMarkdown]
  exact run (lines s) .text fun l hl => not_mem_of_mem_lines hl

/-- So the state behind the text is the same before and after the block rules. -/
theorem after_lines_mapUnfenced (state : FenceState) (s : List Char) :
    state.after (lines (mapUnfenced blockMarkdown s)) = state.after (lines s) := by
  rw [FenceState.after_eq, FenceState.after_eq, countP_isFence_mapUnfenced]

/-- What the pass sees of the lines written for one line. -/
def lineView (state : FenceState) (line : List Char) : List (List Char × FenceState × Bool) :=
  if state.keeps line then [(line, state, true)]
  else (lines (blockMarkdown line)).map fun l => (l, .text, false)

/-- The pass over what the block rules wrote for some lines sees each of these lines apart. -/
theorem walk_flatMap_lines {state : FenceState} {ls : List (List Char)} (hn : ∀ l ∈ ls, '\n' ∉ l) :
    walk (fun st l => (l, st, st.keeps l)) state
        ((walk (unlessKept blockMarkdown) state ls).flatMap lines)
      = (walk lineView state ls).flatten := by
  induction ls generalizing state with
  | nil => rfl
  | cons line ls ih =>
    have hline := hn line List.mem_cons_self
    have rest : walk _ (state.next line)
          ((walk (unlessKept blockMarkdown) (state.next line) ls).flatMap lines)
        = (walk lineView (state.next line) ls).flatten :=
      ih fun l hl => hn l (List.mem_cons_of_mem _ hl)
    rw [walk_cons, List.flatMap_cons, walk_cons, List.flatten_cons, walk_append, lineView]
    by_cases hk : state.keeps line = true
    · rw [unlessKept, if_pos hk, lines_of_not_mem hline, if_pos hk, ← rest, walk_cons, hk]
      rfl
    · -- neither the line nor anything written for it is a fence, so the state stays as it is
      rw [Bool.not_eq_true] at hk
      obtain ⟨hno, rfl⟩ := FenceState.keeps_eq_false_iff.1 hk
      have hout : ∀ l ∈ lines (blockMarkdown line), isFence l = false := fun l hl =>
        not_isFence_of_mem_lines_blockMarkdown hline hno hl
      have views : ((lines (blockMarkdown line)).map fun l =>
            (l, FenceState.text, FenceState.text.keeps l))
          = (lines (blockMarkdown line)).map fun l => (l, .text, false) :=
        List.map_congr_left fun l hl => by rw [FenceState.keeps_text, hout l hl]
      rw [FenceState.next_of_not_isFence hno] at rest ⊢
      rw [unlessKept_text _ hno, walk_of_forall_not_isFence _ hout,
        FenceState.after_of_forall_not_isFence hout, views, rest, hk, if_neg Bool.false_ne_true]

/-- The code states of the pass, read off the lines of the text. -/
theorem codeView_eq (base s : List Char) :
    codeView base s = (walk lineView .text (lines s)).flatten := by
  rw [← walk_flatMap_lines fun l hl => not_mem_of_mem_lines hl, ← lines_mapUnfenced_blockMarkdown]
  exact map_lineSteps (fun st l => (l, st, st.keeps l)) base {} _

/-- **The two recognisers of fences agree.**  The search for fenced blocks converts exactly the
lines that are not fenced, and the pass over the lines takes exactly the fenced ones for fences
and code. -/
theorem fencesAgree (base s : List Char) : FencesAgree base s := by
  have byWalk : ∀ i line, unlessKept blockMarkdown (FenceState.text.after ((lines s).take i)) line
      = if fenced ((lines s).take i) line then line else blockMarkdown line := by
    intro i line
    rw [unlessKept, keeps_after_text]
  have view : ∀ i line, lineView (FenceState.text.after ((lines s).take i)) line
      = if fenced ((lines s).take i) line then
          [(line, if opensFence ((lines s).take i) line then .text else .code, true)]
        else (lines (blockMarkdown line)).map fun l => (l, .text, false) := by
    intro i line
    rw [lineView, keeps_after_text]
    split
    · next h => rw [after_text_of_fenced h]
    · rfl
  have search := convertAroundBlocks_eq_mapUnfenced linewise_blockMarkdown rfl s
  refine ⟨?_, search.symm, ?_, linesMarkdownFrom_eq_map base {} _,
    fun _ _ h => LineStep.written_of_kept base h, fun _ _ h => LineStep.written_of_not_kept base h⟩
  · rw [search, mapUnfenced_eq_walk linewise_blockMarkdown, walk_eq_mapIdx]
    simp only [byWalk]
  · rw [codeView_eq, walk_eq_mapIdx]
    simp only [view]

end TicketMigration.Markup
