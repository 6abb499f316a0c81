import TicketMigration.Proofs.Bars
import TicketMigration.Proofs.FenceAgreement

/-!
# Conversion of a text in two parts

Each stage of the conversion respects a newline between two texts, if the first one leaves nothing
open there: no carriage return that belongs to the newline, no code between braces, no fence and
no table that the second one goes on with.

## Main definitions

* `endsInRow`, `beginsWithRow` — the last or the first line is a row of a table.

## Main statements

* `codeMarkdown_append_newline`, `mapUnfenced_append_newline`, `linesMarkdown_append` — the
  stages.
* `toMarkdown_append_newline` — the conversion as a whole.
-/

namespace TicketMigration.Markup

open Text

/-- The last line is a row of a table. -/
def endsInRow (ls : List (List Char)) : Bool :=
  ls.getLast?.any isRow

/-- The first line is a row of a table. -/
def beginsWithRow (ls : List (List Char)) : Bool :=
  ls.head?.any isRow

theorem eq_append_last {ls : List (List Char)} (h : ls ≠ []) : ∃ front last, ls = front ++ [last] :=
  ⟨ls.dropLast, ls.getLast h, (List.dropLast_concat_getLast h).symm⟩

theorem endsInRow_append (xs : List (List Char)) {ys : List (List Char)} (h : ys ≠ []) :
    endsInRow (xs ++ ys) = endsInRow ys := by
  obtain ⟨front, last, rfl⟩ := eq_append_last h
  rw [endsInRow, endsInRow, ← List.append_assoc, List.getLast?_concat, List.getLast?_concat]

theorem exists_row_of_endsInRow {ls : List (List Char)} (h : endsInRow ls = true) :
    ∃ l ∈ ls, isRow l = true := by
  rw [endsInRow, Option.any_eq_true] at h
  obtain ⟨l, hl, hrow⟩ := h
  exact ⟨l, List.mem_of_getLast? hl, hrow⟩

theorem beginsWithRow_lines (s : List Char) : beginsWithRow (lines s) = isRow s := by
  obtain ⟨l, ls, hs⟩ := exists_lines s
  rw [hs, eq_append_furtherLines hs, isRow, after?_append_furtherLines (by decide),
    Option.isSome_map]
  rfl

/-! ### Line ends -/

theorem countP_isFence_lines_unixNewlines (s : List Char) :
    (lines (unixNewlines s)).countP isFence = (lines s).countP isFence := by
  have marks := congrArg (List.countP id) (map_lines_unixNewlines fence (by decide) s)
  rwa [List.countP_map, List.countP_map] at marks

theorem endsInRow_lines_unixNewlines (s : List Char) :
    endsInRow (lines (unixNewlines s)) = endsInRow (lines s) := by
  have marks := congrArg (fun ls => ls.getLast?.any id)
    (map_lines_unixNewlines ['|', '|'] (by decide) s)
  simp only [List.getLast?_map, Option.any_map] at marks
  exact marks

/-! ### Code -/

/-- A rule that reads the braces first matches nowhere in a text without code, also if more text
follows on the next line. -/
theorem apply_append_newline_of_noCode {rule : Rule}
    (hrule : ∀ {s}, after? codeOpening s = none → rule.match? s = none) {a : List Char}
    (h : ¬ codeOpening <:+: a) (b : List Char) :
    rule.apply (a ++ '\n' :: b) = a ++ '\n' :: rule.apply b := by
  have noMatch : ∀ t, t <:+ a → rule.match? (t ++ '\n' :: b) = none := by
    intro t ht
    exact hrule (by
      rw [after?_append_newline (by decide), after?_eq_none_of_not_isInfix h ht]
      rfl)
  rw [Rule.apply_append_of_no_match _ fun t ht _ => noMatch t ht,
    Rule.apply_of_no_match (noMatch [] List.nil_suffix)]

theorem apply_eq_self_of_noCode {rule : Rule}
    (hrule : ∀ {s}, after? codeOpening s = none → rule.match? s = none) {a : List Char}
    (h : ¬ codeOpening <:+: a) : rule.apply a = a :=
  Rule.apply_eq_self fun _ ht => hrule (after?_eq_none_of_not_isInfix h ht)

theorem codeSpanRule_match?_eq_none {s : List Char} (h : after? codeOpening s = none) :
    codeSpanRule.match? s = none := by
  simp [codeSpanRule, codeSpan?, h]

theorem codeBlockRule_match?_eq_none {s : List Char} (h : after? codeOpening s = none) :
    codeBlockRule.match? s = none := by
  have opening : after? (codeOpening ++ ['\n']) s = none := by
    rcases ha : after? (codeOpening ++ ['\n']) s with _ | rest
    · rfl
    · rw [after?_eq_some_iff.1 ha, List.append_assoc, after?_append] at h
      cases h
  simp [codeBlockRule, CodeBlock.read?, opening]

/-- A text without code comes through, and so does the newline behind it. -/
theorem codeMarkdown_append_newline {a : List Char} (h : ¬ codeOpening <:+: a) (b : List Char) :
    codeMarkdown (a ++ '\n' :: b) = a ++ '\n' :: codeMarkdown b := by
  rw [codeMarkdown, apply_append_newline_of_noCode codeSpanRule_match?_eq_none h,
    apply_append_newline_of_noCode codeBlockRule_match?_eq_none h, codeMarkdown]

theorem codeMarkdown_of_noCode {a : List Char} (h : ¬ codeOpening <:+: a) : codeMarkdown a = a := by
  rw [codeMarkdown, apply_eq_self_of_noCode codeSpanRule_match?_eq_none h,
    apply_eq_self_of_noCode codeBlockRule_match?_eq_none h]

/-! ### Block markup outside the fences -/

/-- Behind an even number of fences the conversion begins anew. -/
theorem mapUnfenced_append_newline {f : List Char → List Char} (hf : Linewise f) {a : List Char}
    (h : (lines a).countP isFence % 2 = 0) (b : List Char) :
    mapUnfenced f (a ++ '\n' :: b) = mapUnfenced f a ++ '\n' :: mapUnfenced f b := by
  have closed : FenceState.text.after (lines a) = .text := by
    rw [FenceState.after_eq, if_pos h]
  rw [mapUnfenced_eq_walk hf, mapUnfenced_eq_walk hf, mapUnfenced_eq_walk hf,
    lines_append_newline, walk_append, closed,
    unlines_append (walk_unlessKept_lines_ne_nil f _ a) (walk_unlessKept_lines_ne_nil f _ b)]

/-- What is written for a line has no row in it, unless it is the line itself. -/
theorem isRow_of_mem_lines_unlessKept {state : FenceState} {line l : List Char} (hn : '\n' ∉ line)
    (hl : l ∈ lines (unlessKept blockMarkdown state line)) (h : isRow l = true) :
    isRow line = true := by
  have same (hl : l ∈ lines line) : isRow line = true := by
    rw [lines_of_not_mem hn, List.mem_singleton] at hl
    rwa [← hl]
  rw [unlessKept] at hl
  split at hl
  · exact same hl
  · rcases blockMarkdown_line hn with he | ⟨-, hout⟩
    · rw [he] at hl
      exact same hl
    · rw [(hout l hl).not_isRow] at h
      cases h

theorem endsInRow_of_mapUnfenced {s : List Char}
    (h : endsInRow (lines (mapUnfenced blockMarkdown s)) = true) : endsInRow (lines s) = true := by
  obtain ⟨front, line, hs⟩ := eq_append_last (lines_ne_nil s)
  rw [lines_mapUnfenced_blockMarkdown, hs, walk_append, List.flatMap_append, walk_cons, walk_nil,
    List.flatMap_singleton, endsInRow_append _ (lines_ne_nil _)] at h
  obtain ⟨l, hl, hrow⟩ := exists_row_of_endsInRow h
  rw [hs, endsInRow_append _ (List.cons_ne_nil _ _)]
  exact isRow_of_mem_lines_unlessKept (not_mem_of_mem_lines (s := s) (by simp [hs])) hl hrow

theorem isRow_of_isRow_mapUnfenced {s : List Char}
    (h : isRow (mapUnfenced blockMarkdown s) = true) : isRow s = true := by
  rw [← beginsWithRow_lines] at h ⊢
  rw [lines_mapUnfenced_blockMarkdown] at h
  obtain ⟨line, rest, hs⟩ := exists_lines s
  obtain ⟨l, ls, hl⟩ := exists_lines (unlessKept blockMarkdown .text line)
  rw [hs, walk_cons, List.flatMap_cons, hl] at h
  rw [hs]
  exact isRow_of_mem_lines_unlessKept (not_mem_of_mem_lines (hs ▸ List.mem_cons_self))
    (hl ▸ List.mem_cons_self) h

/-! ### The pass over the lines -/

namespace LineState

/-- A table goes on behind a line of ordinary text exactly if the line is a row. -/
theorem table_convert (base : List Char) {state : LineState} {line : List Char}
    (h : state.code.keeps line = false) :
    (state.convert base line).1.table = if isRow line then .inside else .outside := by
  rw [convert_of_not_kept base h,
    (keepsBars_mapBetweenSpans (keepsBars_inlineMarkdown base)).isRow]
  split <;> rfl

/-- If no fence and no row is left open, the state is the one in front of a text. -/
theorem after_eq_start_or (base : List Char) {ls : List (List Char)}
    (h : ls.countP isFence % 2 = 0) :
    ({} : LineState).after base ls = {} ∨
      ({} : LineState).after base ls = ⟨.text, .inside⟩ ∧ endsInRow ls = true := by
  rcases eq_or_ne ls [] with rfl | hne
  · exact .inl rfl
  · obtain ⟨front, line, rfl⟩ := eq_append_last hne
    have code := code_after base {} (front ++ [line])
    rw [show ({} : LineState).code = .text from rfl, FenceState.after_eq, if_pos h, after_append,
      after_cons, after_nil] at code
    rw [after_append, after_cons, after_nil, endsInRow_append _ (List.cons_ne_nil _ _)]
    generalize ({} : LineState).after base front = state at code ⊢
    by_cases hk : state.code.keeps line = true
    · -- the line is a fence that closes, since inside a fenced block the state would be another one
      by_cases hf : isFence line = true
      · rw [convert_of_isFence base hf] at code ⊢
        exact .inl (by rw [show state.code.toggle = .text from code])
      · have hno : isFence line = false := by simpa using hf
        rw [code_convert, FenceState.next_of_not_isFence hno] at code
        rw [code, FenceState.keeps_text, hno] at hk
        cases hk
    · -- a line of ordinary text leaves a table open just if it is a row
      have table := table_convert base (by simpa using hk)
      rcases hstate : (state.convert base line).1 with ⟨code', table'⟩
      rw [hstate] at code table
      dsimp only at code table
      subst code
      by_cases hrow : isRow line = true
      · rw [if_pos hrow] at table
        exact .inr ⟨by rw [table], hrow⟩
      · rw [if_neg hrow] at table
        exact .inl (by rw [table])

/-- In front of a line that is no row it does not matter whether a table goes on. -/
theorem convert_congr_table (base : List Char) (table table' : RowState) {line : List Char}
    (h : isRow line = false) :
    LineState.convert base ⟨.text, table⟩ line = LineState.convert base ⟨.text, table'⟩ line := by
  by_cases hf : isFence line = true
  · rw [convert_of_isFence base hf, convert_of_isFence base hf]
  · have hno : isFence line = false := by simpa using hf
    have hrow : isRow (mapBetweenSpans (inlineMarkdown base) line) = false := by
      rw [(keepsBars_mapBetweenSpans (keepsBars_inlineMarkdown base)).isRow, h]
    rw [convert_of_not_kept base (by simp [hno]), convert_of_not_kept base (by simp [hno]), hrow]
    rfl

end LineState

theorem linesMarkdownFrom_append (base : List Char) (state : LineState) (xs ys : List (List Char)) :
    linesMarkdownFrom base state (xs ++ ys)
      = linesMarkdownFrom base state xs ++ linesMarkdownFrom base (state.after base xs) ys := by
  induction xs generalizing state with
  | nil => rfl
  | cons x xs ih =>
    rw [List.cons_append, linesMarkdownFrom, ih, linesMarkdownFrom, LineState.after_cons,
      List.cons_append]

theorem linesMarkdownFrom_ne_nil (base : List Char) (state : LineState) {ls : List (List Char)}
    (h : ls ≠ []) : linesMarkdownFrom base state ls ≠ [] := by
  cases ls with
  | nil => exact absurd rfl h
  | cons l ls => exact List.cons_ne_nil _ _

/-- A table that is open in front of lines that do not go on with it changes nothing. -/
theorem linesMarkdownFrom_congr_table (base : List Char) (table table' : RowState)
    {ls : List (List Char)} (h : beginsWithRow ls = false) :
    linesMarkdownFrom base ⟨.text, table⟩ ls = linesMarkdownFrom base ⟨.text, table'⟩ ls := by
  cases ls with
  | nil => rfl
  | cons l ls =>
    rw [linesMarkdownFrom, linesMarkdownFrom, LineState.convert_congr_table base table table' h]

/-! ### The conversion as a whole -/

section Whole

variable {base a b : List Char}

/-- The pass goes on behind a first part that leaves no fence open, and no table that the second
part goes on with, as it begins. -/
theorem linesMarkdown_append {xs ys : List (List Char)} (heven : xs.countP isFence % 2 = 0)
    (hrow : ¬(endsInRow xs = true ∧ beginsWithRow ys = true)) :
    linesMarkdown base (xs ++ ys) = linesMarkdown base xs ++ linesMarkdown base ys := by
  rw [linesMarkdown, linesMarkdownFrom_append, linesMarkdown, linesMarkdown]
  congr 1
  rcases LineState.after_eq_start_or base heven with start | ⟨inTable, ends⟩
  · rw [start]
  · rw [inTable]
    have : beginsWithRow ys = false := by simpa [ends] using hrow
    exact linesMarkdownFrom_congr_table base _ _ this

theorem textMarkdown_append_newline (hcode : ¬ codeOpening <:+: a)
    (hreturn : a.getLast? ≠ some '\r') (heven : (lines a).countP isFence % 2 = 0)
    (hrow : ¬(endsInRow (lines a) = true ∧ beginsWithRow (lines b) = true)) :
    textMarkdown base (a ++ '\n' :: b) = textMarkdown base a ++ '\n' :: textMarkdown base b := by
  have noCode : ¬ codeOpening <:+: unixNewlines a :=
    not_infix_unixNewlines (by decide) (by decide) hcode
  have heven' : (lines (unixNewlines a)).countP isFence % 2 = 0 := by
    rwa [countP_isFence_lines_unixNewlines]
  -- the two parts as the pass over the lines reads them
  have parts : mapUnfenced blockMarkdown (codeMarkdown (unixNewlines (a ++ '\n' :: b)))
      = mapUnfenced blockMarkdown (unixNewlines a)
        ++ '\n' :: mapUnfenced blockMarkdown (codeMarkdown (unixNewlines b)) := by
    rw [unixNewlines_append_newline hreturn, codeMarkdown_append_newline noCode,
      mapUnfenced_append_newline linewise_blockMarkdown heven']
  -- a line that the pass reads as a row has been one before all other stages
  have tables : ¬(endsInRow (lines (mapUnfenced blockMarkdown (unixNewlines a))) = true ∧
      beginsWithRow (lines (mapUnfenced blockMarkdown (codeMarkdown (unixNewlines b))))
        = true) := by
    rintro ⟨ends, begins⟩
    refine hrow ⟨?_, ?_⟩
    · rw [← endsInRow_lines_unixNewlines]
      exact endsInRow_of_mapUnfenced ends
    · rw [beginsWithRow_lines] at begins ⊢
      have := isRow_of_isRow_mapUnfenced begins
      rwa [keepsBars_codeMarkdown.isRow, keepsBars_unixNewlines.isRow] at this
  have heven'' : (lines (mapUnfenced blockMarkdown (unixNewlines a))).countP isFence % 2 = 0 := by
    rwa [countP_isFence_mapUnfenced]
  have hne (s : List Char) : linesMarkdown base (lines s) ≠ [] :=
    linesMarkdownFrom_ne_nil base {} (lines_ne_nil s)
  rw [textMarkdown, parts, lines_append_newline, linesMarkdown_append heven'' tables,
    unlines_append (hne _) (hne _), textMarkdown, textMarkdown, codeMarkdown_of_noCode noCode]

end Whole

theorem textMarkdown_nil (base : List Char) : textMarkdown base [] = [] := by
  have block : mapUnfenced blockMarkdown [] = [] := by
    rw [mapUnfenced_eq_walk linewise_blockMarkdown]
    rfl
  have spans : spans [] = ([], []) := by rw [Markup.spans]
  have inline : inlineMarkdown base [] = [] := by
    simp [inlineMarkdown, inlineRules, linkReferences, segments, segmentsAfter]
  have code : codeMarkdown (unixNewlines []) = [] := by simp [codeMarkdown, unixNewlines]
  rw [textMarkdown, code, block, lines_nil, linesMarkdown, linesMarkdownFrom, linesMarkdownFrom,
    unlines_singleton, LineState.convert, if_neg (by decide)]
  simp [mapBetweenSpans, spans, inline, isRow]

/-- The empty text needs no case of its own. -/
theorem toMarkdown_eq (text base : String) :
    toMarkdown text base
      = String.ofList (textMarkdown (dropTrailing '/' base).toList text.toList) := by
  rw [toMarkdown]
  split
  · next h =>
    obtain rfl := String.isEmpty_iff.1 h
    rw [String.toList_empty, textMarkdown_nil]
  · rfl

/-- **Conversion in two parts.**  If the first of two texts holds no code between braces, does not
end in a carriage return and has an even number of fences, and if no table goes on from the one to
the other, then the two are converted on their own. -/
theorem toMarkdown_append_newline (a b base : String) (hcode : ¬ codeOpening <:+: a.toList)
    (hreturn : a.toList.getLast? ≠ some '\r') (heven : (lines a.toList).countP isFence % 2 = 0)
    (hrow : ¬(endsInRow (lines a.toList) = true ∧ beginsWithRow (lines b.toList) = true)) :
    toMarkdown (a ++ "\n" ++ b) base = toMarkdown a base ++ "\n" ++ toMarkdown b base := by
  have whole : (a ++ "\n" ++ b).toList = a.toList ++ '\n' :: b.toList := by
    simp
  rw [toMarkdown_eq, toMarkdown_eq, toMarkdown_eq, whole,
    textMarkdown_append_newline hcode hreturn heven hrow]
  apply String.ext
  simp

/-- A heading, fenced code and a table in front of code that is never closed. -/
theorem toMarkdown_append_newline_table_code :
    toMarkdown ("= Notes =\n```\n#1\n```\n|| #2 ||" ++ "\n" ++ "see \x7b\x7b\x7b\n|| #3 ||")
        "https://trac.example.org/"
      = toMarkdown "= Notes =\n```\n#1\n```\n|| #2 ||" "https://trac.example.org/" ++ "\n"
        ++ toMarkdown "see \x7b\x7b\x7b\n|| #3 ||" "https://trac.example.org/" :=
  toMarkdown_append_newline _ _ _ (by simp only [String.reduceToList]; decide) (by decide)
    (by decide) (by decide)

end TicketMigration.Markup
