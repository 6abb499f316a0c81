import TicketMigration.Proofs.AddedCharacters
import TicketMigration.Proofs.BlockSpans
import TicketMigration.Proofs.RowSpans

/-!
# The content of code spans

The rules within a line are applied between its code spans.  The rules for blocks come before them
and those for tables behind them, and both see the whole line.  Block rules do not reach into a
span, so the codes come through on every line that is no row of a table, headings included.  In a
row they do so exactly if they are spared by what is written for bars and headings of cells.

## Main definitions

* `codeLine`, `IsCodeLine` — a line of texts and of codes between triple braces.
* `RowSparesSpans` — what is written for the row that the line becomes is apart from its spans.
* `SpansKept` — when the codes of a line come through.

## Main statements

* `hasSpans_of_not_isRow`, `hasSpans_of_isRow_iff` — the two kinds of lines.
* `spansKept` — **the codes come through on every line that is no row, and in a row exactly if they
  are spared.**
* `not_hasSpans_codeWithBars` — a row in which they do not.
-/

namespace TicketMigration.Markup

open Text

variable {t : List Char} {parts : List (List Char × List Char)}

/-! ### Code between braces -/

/-- A text in front, and codes between triple braces with the text behind each of them. -/
def codeLine (t : List Char) (parts : List (List Char × List Char)) : List Char :=
  t ++ parts.flatMap fun part => codeOpening ++ part.1 ++ codeClosing ++ part.2

/-- Texts and codes that make up a line on which nothing else is code. -/
structure IsCodeLine (t : List Char) (parts : List (List Char × List Char)) : Prop where
  /-- No text and no code has a brace, a backtick or a newline. -/
  lacks : ∀ c ∈ ['{', '}', '`', '\n'], Lacks c t parts
  /-- No code is empty. -/
  nonempty : ∀ part ∈ parts, part.1 ≠ []

instance (c : Char) (t : List Char) (parts : List (List Char × List Char)) :
    Decidable (Lacks c t parts) :=
  inferInstanceAs (Decidable (c ∉ t ∧ ∀ part ∈ parts, c ∉ part.1 ∧ c ∉ part.2))

instance (t : List Char) (parts : List (List Char × List Char)) : Decidable (IsCodeLine t parts) :=
  decidable_of_iff ((['{', '}', '`', '\n'].all (decide <| Lacks · t parts)) = true ∧
      ∀ part ∈ parts, part.1 ≠ [])
    ⟨fun h => ⟨by simpa using h.1, h.2⟩, fun h => ⟨by simpa using h.lacks, h.nonempty⟩⟩

theorem codeLine_cons (t : List Char) (part : List Char × List Char)
    (parts : List (List Char × List Char)) :
    codeLine t (part :: parts)
      = t ++ (codeOpening ++ (part.1 ++ codeClosing ++ codeLine part.2 parts)) := by
  simp [codeLine]

/-- The code span rule passes over text without an opening brace. -/
theorem codeSpanRule_apply_append (h : '{' ∉ t) (s : List Char) :
    codeSpanRule.apply (t ++ s) = t ++ codeSpanRule.apply s := by
  refine Rule.apply_append_of_no_match s fun u hu hne => codeSpanRule_match?_eq_none ?_
  cases u with
  | nil => exact absurd rfl hne
  | cons c u =>
    have other : c ≠ '{' := fun hc => h (hc ▸ hu.mem List.mem_cons_self)
    rw [List.cons_append, codeOpening, after?_cons_cons, if_neg other]

/-- Code between braces becomes a span. -/
theorem codeSpanRule_match?_code {code : List Char} (brace : '}' ∉ code) (line : '\n' ∉ code)
    (rest : List Char) :
    codeSpanRule.match? (codeOpening ++ (code ++ codeClosing ++ rest))
      = some (codeSpan code, rest) := by
  show ((after? codeOpening (codeOpening ++ _)).bind (upTo? onLine codeClosing)).map _ = _
  rw [after?_append, Option.bind_some, codeClosing, upTo?_append brace (onLine_of_not_mem line)]
  rfl

theorem codeSpanRule_apply_codeLine (h : ∀ c ∈ ['{', '}', '`', '\n'], Lacks c t parts) :
    codeSpanRule.apply (codeLine t parts) = spanned t parts := by
  induction parts generalizing t with
  | nil =>
    have whole := codeSpanRule_apply_append (h '{' (by decide)).1 []
    rw [List.append_nil, Rule.apply_nil, List.append_nil] at whole
    rw [codeLine, List.flatMap_nil, List.append_nil, whole, spanned_nil]
  | cons part parts ih =>
    have lacks (c : Char) (hc : c ∈ ['{', '}', '`', '\n']) := lacks_cons.1 (h c hc)
    rw [codeLine_cons, codeSpanRule_apply_append (lacks '{' (by decide)).1,
      Rule.apply_of_match (codeSpanRule_match?_code (lacks '}' (by decide)).2.1
        (lacks '\n' (by decide)).2.1 _),
      ih fun c hc => (lacks c hc).2.2, spanned_cons]

namespace IsCodeLine

variable (h : IsCodeLine t parts)

include h

theorem not_mem_spanned {c : Char} (hc : c ∈ ['{', '}', '\n']) : c ∉ spanned t parts := by
  refine (h.lacks c ?_).not_mem ?_
  · revert hc
    simp only [List.mem_cons, List.not_mem_nil, or_false]
    tauto
  · rintro rfl
    exact absurd hc (by decide)

theorem newline_not_mem : '\n' ∉ codeLine t parts := by
  have line := h.lacks '\n' (by decide)
  intro hm
  rcases List.mem_append.1 hm with hm | hm
  · exact line.1 hm
  · obtain ⟨part, hp, hm⟩ := List.mem_flatMap.1 hm
    simp only [List.mem_append] at hm
    rcases hm with ((hm | hm) | hm) | hm
    · exact absurd hm (by decide)
    · exact (line.2 part hp).1 hm
    · exact absurd hm (by decide)
    · exact (line.2 part hp).2 hm

theorem onlySpans : OnlySpans (parts.map Prod.fst) (spanned t parts) :=
  ⟨t, parts, rfl, rfl, h.lacks '`' (by decide)⟩

/-- A code behind a backtick has at least one character, and this is no backtick. -/
theorem isFence_eq_false : isFence (spanned t parts) = false := by
  have ticks := h.lacks '`' (by decide)
  rw [Bool.eq_false_iff, Ne, isFence_eq_true_iff, fence]
  intro hf
  cases t with
  | cons c t =>
    rw [spanned, List.cons_append] at hf
    obtain ⟨rfl, -⟩ := List.cons_prefix_cons.1 hf
    exact ticks.1 List.mem_cons_self
  | nil =>
    cases parts with
    | nil => simp at hf
    | cons part parts =>
      obtain ⟨-, inside, -⟩ := lacks_cons.1 ticks
      rw [spanned_cons_eq, List.nil_append] at hf
      have second := (List.cons_prefix_cons.1 hf).2
      cases hcode : part.1 with
      | nil => exact h.nonempty part List.mem_cons_self hcode
      | cons c code =>
        rw [hcode, List.cons_append] at second
        obtain ⟨rfl, -⟩ := List.cons_prefix_cons.1 second
        exact inside (by rw [hcode]; exact List.mem_cons_self)

theorem codeMarkdown_eq : codeMarkdown (codeLine t parts) = spanned t parts := by
  rw [codeMarkdown, codeSpanRule_apply_codeLine h.lacks]
  exact apply_eq_self_of_noCode codeBlockRule_match?_eq_none fun hi =>
    h.not_mem_spanned (by decide) (hi.mem List.mem_cons_self)

/-- The line is a row of a table exactly if its first characters are bars. -/
theorem isRow_spanned : isRow (spanned t parts) = isRow (codeLine t parts) := by
  rw [← h.codeMarkdown_eq, keepsBars_codeMarkdown.isRow]

end IsCodeLine

/-! ### The conversion of a line -/

/-- What becomes of one line that is no fence. -/
theorem unlines_linesMarkdown_line (base : List Char) {line : List Char} (hn : '\n' ∉ line)
    (hf : isFence line = false) :
    unlines (linesMarkdown base (lines line))
      = if isRow line then rowMarkdown .outside (mapBetweenSpans (inlineMarkdown base) line)
        else mapBetweenSpans (inlineMarkdown base) line := by
  rw [lines_of_not_mem hn, linesMarkdown, linesMarkdownFrom, linesMarkdownFrom, unlines_singleton,
    LineState.convert_of_not_kept base (FenceState.keeps_eq_false_iff.2 ⟨hf, rfl⟩),
    (keepsBars_mapBetweenSpans (keepsBars_inlineMarkdown base)).isRow]
  split <;> rfl

theorem textMarkdown_codeLine (h : IsCodeLine t parts) (base : List Char) :
    textMarkdown base (codeLine t parts)
      = unlines (linesMarkdown base (lines (blockMarkdown (spanned t parts)))) := by
  have ends : unixNewlines (codeLine t parts) = codeLine t parts :=
    unixNewlines_eq_self fun hi => h.newline_not_mem (hi.mem (by decide))
  rw [textMarkdown, ends, h.codeMarkdown_eq, mapUnfenced_eq_walk linewise_blockMarkdown,
    lines_of_not_mem (h.not_mem_spanned (by decide)), walk_cons, walk_nil, unlines_singleton,
    unlessKept, FenceState.keeps_text, if_neg (by simp [h.isFence_eq_false])]

/-- **On a line that is no row the codes come through.** -/
theorem hasSpans_of_not_isRow (h : IsCodeLine t parts) (hrow : isRow (codeLine t parts) = false)
    (base : List Char) : HasSpans (parts.map Prod.fst) (textMarkdown base (codeLine t parts)) := by
  rcases eq_or_ne parts [] with rfl | hne
  · exact hasSpans_nil _
  · have line := h.not_mem_spanned (c := '\n') (by decide)
    obtain ⟨⟨u, us, hu, codes, ticks⟩, newline⟩ :=
      h.onlySpans.blockMarkdown (by simpa using hne) line
    have noFence : isFence (blockMarkdown (spanned t parts)) = false :=
      not_isFence_of_mem_lines_blockMarkdown line h.isFence_eq_false
        (by rw [lines_of_not_mem newline]; exact List.mem_singleton_self _)
    have noRow : isRow (blockMarkdown (spanned t parts)) = false := by
      rcases blockMarkdown_line line with same | ⟨-, out⟩
      · rw [same, h.isRow_spanned, hrow]
      · exact (out _ (by rw [lines_of_not_mem newline]; exact List.mem_singleton_self _)).not_isRow
    rw [textMarkdown_codeLine h, unlines_linesMarkdown_line base newline noFence,
      if_neg (by simp [noRow])]
    rw [hu] at newline ⊢
    rw [mapBetweenSpans_spanned _ ticks (lacks_of_not_mem newline)]
    refine ⟨_, _, rfl, ?_⟩
    rw [← codes, List.map_map]
    rfl

/-- A first row has an empty line in front and the separator row behind it. -/
theorem rowMarkdown_outside (row : List Char) :
    rowMarkdown .outside row
      = '\n' :: cellHeadingRule.apply (singleBars row)
        ++ '\n' :: cellHeadingRule.apply (singleBars (separatorRow row)) := by
  have linewise : Linewise fun s => cellHeadingRule.apply (singleBars s) :=
    staysOnLine_cellHeadingRule.linewise.comp linewise_singleBars
  have empty : cellHeadingRule.apply (singleBars []) = [] := Rule.apply_nil _
  have first := linewise [] (row ++ '\n' :: separatorRow row)
  rw [linewise row] at first
  simp only [empty, List.nil_append] at first
  exact first

/-- What is written for a row has the characters of the row at their places, but for those that
bars and headings are written with. -/
theorem map_eq_row {c : Char} (hc : c ∉ ['|', ' ', '=', '*']) (s : List Char) :
    (cellHeadingRule.apply (singleBars s)).map (· == c) = s.map (· == c) := by
  simp only [List.mem_cons, List.not_mem_nil, or_false, not_or] at hc
  obtain ⟨bar, space, equals, star⟩ := hc
  rw [map_eq_cellHeadingRule_apply (by simp [equals, space, star]), map_eq_singleBars bar space]

theorem count_row {c : Char} (hc : c ∉ ['|', ' ', '=', '*']) (s : List Char) :
    (cellHeadingRule.apply (singleBars s)).count c = s.count c :=
  count_eq_of_map_eq (map_eq_row hc s)

theorem backtick_not_mem_separatorRow (row : List Char) : '`' ∉ separatorRow row := by
  intro hm
  obtain ⟨c, -, hc⟩ := List.mem_map.1 hm
  split at hc <;> exact absurd hc (by decide)

/-- The spans of a first row are those of the row itself. -/
theorem hasSpans_rowMarkdown_iff {codes : List (List Char)} {row : List Char}
    (ticks : ∀ code ∈ codes, '`' ∉ code) (count : row.count '`' = 2 * codes.length) :
    HasSpans codes (rowMarkdown .outside row)
      ↔ HasSpans codes (cellHeadingRule.apply (singleBars row)) := by
  have counts (s : List Char) :
      (cellHeadingRule.apply (singleBars s)).count '`' = s.count '`' := count_row (by decide) s
  have separator : '`' ∉ cellHeadingRule.apply (singleBars (separatorRow row)) := by
    rw [← List.count_eq_zero, counts, List.count_eq_zero]
    exact backtick_not_mem_separatorRow row
  rw [rowMarkdown_outside]
  constructor
  · intro h
    rcases eq_or_ne codes [] with rfl | hne
    · exact hasSpans_nil _
    · have only : OnlySpans codes _ := h.onlySpans ticks (Nat.le_of_eq (by
        rw [List.count_append, List.count_cons_of_ne (by decide), List.count_cons_of_ne (by decide),
          counts, List.count_eq_zero_of_not_mem separator, count, Nat.add_zero]))
      have first : OnlySpans codes (['\n'] ++ cellHeadingRule.apply (singleBars row)) :=
        only.of_append_right hne (by simpa using separator)
      exact (first.of_append_left hne (by decide)).hasSpans
  · intro h
    exact h.append ['\n'] _

/-- What is written for the row that the line becomes is apart from its code spans. -/
def RowSparesSpans (base t : List Char) (parts : List (List Char × List Char)) : Prop :=
  SparesSpans (inlineMarkdown base t) (parts.map fun part => (part.1, inlineMarkdown base part.2))

instance (base t : List Char) (parts : List (List Char × List Char)) :
    Decidable (RowSparesSpans base t parts) :=
  inferInstanceAs (Decidable (SparesSpans _ _))

/-- What becomes of a row with code. -/
theorem textMarkdown_codeLine_of_isRow (h : IsCodeLine t parts)
    (hrow : isRow (codeLine t parts) = true) (base : List Char) :
    textMarkdown base (codeLine t parts)
      = rowMarkdown .outside (spanned (inlineMarkdown base t)
          (parts.map fun part => (part.1, inlineMarkdown base part.2))) := by
  have line := h.not_mem_spanned (c := '\n') (by decide)
  have row : isRow (spanned t parts) = true := by rw [h.isRow_spanned, hrow]
  have same : blockMarkdown (spanned t parts) = spanned t parts := by
    rcases blockMarkdown_line line with same | ⟨unmarked, -⟩
    · exact same
    · rw [unmarked.not_isRow] at row
      cases row
  rw [textMarkdown_codeLine h, same, unlines_linesMarkdown_line base line h.isFence_eq_false,
    if_pos row, mapBetweenSpans_spanned _ (h.lacks '`' (by decide)) (h.lacks '\n' (by decide))]

theorem hasSpans_of_rowSparesSpans (h : IsCodeLine t parts)
    (hrow : isRow (codeLine t parts) = true) {base : List Char}
    (spared : RowSparesSpans base t parts) :
    HasSpans (parts.map Prod.fst) (textMarkdown base (codeLine t parts)) := by
  have inRow := (inPlace_row_iff.2 spared).hasSpans
  rw [List.map_map] at inRow
  rw [textMarkdown_codeLine_of_isRow h hrow, rowMarkdown_outside]
  exact inRow.append ['\n'] _

/-- **In a row the codes come through exactly if they are spared**, unless the address below which
references lead has backticks of its own. -/
theorem hasSpans_of_isRow_iff (h : IsCodeLine t parts) (hrow : isRow (codeLine t parts) = true)
    {base : List Char} (hb : '`' ∉ base) :
    HasSpans (parts.map Prod.fst) (textMarkdown base (codeLine t parts))
      ↔ RowSparesSpans base t parts := by
  refine ⟨fun kept => ?_, hasSpans_of_rowSparesSpans h hrow⟩
  have ticks := h.lacks '`' (by decide)
  have codes : (parts.map fun part => (part.1, inlineMarkdown base part.2)).map Prod.fst
      = parts.map Prod.fst := by
    rw [List.map_map]
    rfl
  have lacks : Lacks '`' (inlineMarkdown base t)
      (parts.map fun part => (part.1, inlineMarkdown base part.2)) := by
    have noTick {s : List Char} (hs : '`' ∉ s) : '`' ∉ inlineMarkdown base s :=
      not_mem_inlineMarkdown (by decide) hb (by decide) hs
    refine ⟨noTick ticks.1, fun part hp => ?_⟩
    obtain ⟨part', hp', rfl⟩ := List.mem_map.1 hp
    exact ⟨(ticks.2 part' hp').1, noTick (ticks.2 part' hp').2⟩
  rw [textMarkdown_codeLine_of_isRow h hrow, ← codes, hasSpans_rowMarkdown_iff ?_ ?_] at kept
  · exact inPlace_row_iff.1 (kept.inPlace lacks (map_eq_row (by decide) _))
  · intro code hc
    obtain ⟨part, hp, rfl⟩ := List.mem_map.1 hc
    exact (lacks.2 part hp).1
  · rw [count_spanned lacks, List.length_map, List.length_map, List.length_map]

/-! ### Code spans come through -/

/-- When the codes of a line come through, each as a code span of its own and in their order. -/
structure SpansKept (base : String) (t : List Char) (parts : List (List Char × List Char)) :
    Prop where
  /-- On a line that is no row of a table, always. -/
  ofText : isRow (codeLine t parts) = false →
    HasSpans (parts.map Prod.fst) (toMarkdown (String.ofList (codeLine t parts)) base).toList
  /-- In a row, if no pair of bars and no mark of a heading lies in them. -/
  ofRow : isRow (codeLine t parts) = true →
    RowSparesSpans (dropTrailing '/' base).toList t parts →
      HasSpans (parts.map Prod.fst) (toMarkdown (String.ofList (codeLine t parts)) base).toList
  /-- In a row, only then, if all backticks in it are those of the codes. -/
  onlyRow : isRow (codeLine t parts) = true → '`' ∉ base.toList →
    HasSpans (parts.map Prod.fst) (toMarkdown (String.ofList (codeLine t parts)) base).toList →
      RowSparesSpans (dropTrailing '/' base).toList t parts

/-- **The codes come through on every line that is no row, and in a row exactly if they are
spared.** -/
theorem spansKept (base : String) (h : IsCodeLine t parts) : SpansKept base t parts := by
  have whole : (toMarkdown (String.ofList (codeLine t parts)) base).toList
      = textMarkdown (dropTrailing '/' base).toList (codeLine t parts) := by
    rw [toMarkdown_eq, String.toList_ofList, String.toList_ofList]
  constructor
  · intro hrow
    rw [whole]
    exact hasSpans_of_not_isRow h hrow _
  · intro hrow spared
    rw [whole]
    exact hasSpans_of_rowSparesSpans h hrow spared
  · intro hrow hb kept
    rw [whole] at kept
    refine (hasSpans_of_isRow_iff h hrow ?_).1 kept
    intro hm
    rw [dropTrailing, String.toList_ofList, dropEndWhile, List.mem_reverse] at hm
    exact hb (List.mem_reverse.1 ((List.dropWhile_suffix _).mem hm))

/-- Bars alone, an equals sign without a space behind it, and an opening mark that nothing
closes. -/
theorem spansKept_sparedRow :
    HasSpans ["a|b".toList, "c=d".toList, "e = f".toList]
      (toMarkdown (String.ofList (codeLine "||= x =||".toList
        [("a|b".toList, " ".toList), ("c=d".toList, "||".toList), ("e = f".toList, "||".toList)]))
        "https://trac.example.org/").toList :=
  (spansKept "https://trac.example.org/" (by decide)).ofRow (by decide +kernel)
    (by decide +kernel)

/-- A cell that is a code with a pair of bars. -/
def codeWithBars : List (List Char × List Char) :=
  [("a||b".toList, "||".toList)]

/-- The second bar of the code becomes a space, so that no span of this code is left. -/
theorem not_hasSpans_codeWithBars :
    IsCodeLine "||".toList codeWithBars ∧
      toMarkdown (String.ofList (codeLine "||".toList codeWithBars)) "https://trac.example.org"
        = "\n| `a| b`| \n| --| --| " ∧
      ¬ HasSpans (codeWithBars.map Prod.fst)
        (toMarkdown (String.ofList (codeLine "||".toList codeWithBars))
          "https://trac.example.org").toList := by
  have written : toMarkdown (String.ofList (codeLine "||".toList codeWithBars))
      "https://trac.example.org" = "\n| `a| b`| \n| --| --| " := by
    decide +kernel
  refine ⟨by decide, written, fun spans => ?_⟩
  have noSpan : ¬ codeSpan "a||b".toList <:+: "\n| `a| b`| \n| --| --| ".toList := by
    let _ := decidableIsInfix
    simp only [String.reduceToList]
    decide
  rw [written] at spans
  exact noSpan (spans.isInfix (List.mem_map_of_mem List.mem_cons_self))

end TicketMigration.Markup
