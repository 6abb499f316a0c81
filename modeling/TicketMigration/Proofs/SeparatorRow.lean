import TicketMigration.Proofs.SpanContent

/-!
# The separator row

The separator row below the first row of a table is made from that row before its bars and the
headings of its cells are written anew, and then both go through these two steps together.  Writing
a pair of bars as one bar depends on the bars alone, and writing a heading moves no character and
takes the place of no bar.  So the two rows have their bars at the same places.

## Main definitions

* `BarsAlike` — two texts have their bars at the same places.
* `BarsApart` — no two bars stand next to each other.
* `tableSeparator row` — the separator row with single bars.
* `Aligned row separator` — a row and a separator row with the same cells.

## Main statements

* `BarsAlike.singleBars` — single bars are written at the same places.
* `barsApart_singleBars` — no two of them stand next to each other.
* `rowMarkdown_outside_eq` — what is written for a first row.
* `convert_firstRow_aligned` — **the first row of a table is written with an aligned separator.**
-/

namespace TicketMigration.Markup

open Text

/-! ### Bars at the same places -/

/-- The texts have their bars at the same places, and so they have the same length. -/
def BarsAlike (s t : List Char) : Prop :=
  s.map (· == '|') = t.map (· == '|')

/-- No two bars stand next to each other. -/
def BarsApart (s : List Char) : Prop :=
  ∀ i, s[i]? = some '|' → s[i + 1]? ≠ some '|'

namespace BarsAlike

variable {s t : List Char}

theorem length_eq (h : BarsAlike s t) : s.length = t.length := by
  have lengths := congrArg List.length h
  simpa using lengths

/-- At each place there is a bar in both of them or in none. -/
theorem getElem?_eq_iff (h : BarsAlike s t) (i : Nat) : s[i]? = some '|' ↔ t[i]? = some '|' := by
  have bar (u : List Char) : u[i]? = some '|' ↔ (u.map (· == '|'))[i]? = some true := by
    simp
  rw [bar s, bar t, h]

theorem barsApart (h : BarsAlike s t) (hs : BarsApart s) : BarsApart t := by
  intro i hi hnext
  have first := (h.getElem?_eq_iff i).2 hi
  have second := (h.getElem?_eq_iff (i + 1)).2 hnext
  exact hs i first second

theorem count_eq (h : BarsAlike s t) : s.count '|' = t.count '|' :=
  count_eq_of_map_eq h

end BarsAlike

/-- There is one part more than there are separators. -/
theorem length_splitOn (separator : Char) (s : List Char) :
    (splitOn separator s).length = s.count separator + 1 := by
  induction s with
  | nil => rfl
  | cons c s ih =>
    by_cases hc : c = separator
    · subst hc
      rw [splitOn_cons_self, List.length_cons, ih, List.count_cons_self]
    · obtain ⟨part, parts, hs, hcons⟩ := splitOn_cons_ne hc s
      rw [hcons, List.length_cons, List.count_cons_of_ne hc, ← ih, hs, List.length_cons]

/-! ### Single bars -/

theorem head?_singleBars (s : List Char) : (singleBars s).head? = s.head? := by
  unfold singleBars
  split
  · rfl
  · rfl
  · split
    · next h =>
      simp only [Bool.and_eq_true, decide_eq_true_eq] at h
      simp [h.1]
    · rfl

/-- **No two single bars stand next to each other.** -/
theorem barsApart_singleBars (s : List Char) : BarsApart (singleBars s) := by
  induction s using singleBars.induct with
  | case1 => simp [BarsApart, singleBars]
  | case2 c => simp [BarsApart, singleBars]
  | case3 c d s h ih =>
    -- a space is written for the second bar of a pair
    rw [singleBars, if_pos h]
    intro i hi
    rcases i with _ | _ | i
    · simp
    · simp at hi
    · simpa using ih i (by simpa using hi)
  | case4 c d s h ih =>
    rw [singleBars, if_neg h]
    intro i hi
    cases i with
    | zero =>
      -- what follows begins with the same character as before
      have hc : c = '|' := by simpa using hi
      have hd : d ≠ '|' := by simpa [hc] using h
      have first := head?_singleBars (d :: s)
      rw [List.head?_eq_getElem?] at first
      simpa [first] using hd
    | succ i => simpa using ih i (by simpa using hi)

/-- **Where the bars are the same, single bars are written at the same places.** -/
theorem BarsAlike.singleBars {s t : List Char} (h : BarsAlike s t) :
    BarsAlike (singleBars s) (singleBars t) := by
  induction s using singleBars.induct generalizing t with
  | case1 =>
    have ht : t = [] := by simpa [BarsAlike] using h.symm
    subst ht
    rfl
  | case2 c =>
    obtain ⟨d, rfl⟩ : ∃ d, t = [d] := List.length_eq_one_iff.1 h.length_eq.symm
    exact h
  | case3 c d s pair ih =>
    rcases t with _ | ⟨e, _ | ⟨f, t⟩⟩
    · simp [BarsAlike] at h
    · simp [BarsAlike] at h
    · simp only [BarsAlike, List.map_cons, List.cons.injEq] at h
      obtain ⟨first, second, rest⟩ := h
      have pair' : (e = '|' && f = '|') = true := by
        simpa [← Bool.beq_eq_decide_eq, ← first, ← second] using pair
      rw [Markup.singleBars, if_pos pair, Markup.singleBars, if_pos pair']
      simpa [BarsAlike] using ih rest
  | case4 c d s noPair ih =>
    rcases t with _ | ⟨e, _ | ⟨f, t⟩⟩
    · simp [BarsAlike] at h
    · simp [BarsAlike] at h
    · have behind : BarsAlike (d :: s) (f :: t) := (List.cons.inj h).2
      simp only [BarsAlike, List.map_cons, List.cons.injEq] at h
      obtain ⟨first, second, rest⟩ := h
      have noPair' : ¬ (e = '|' && f = '|') = true := by
        simpa [← Bool.beq_eq_decide_eq, ← first, ← second] using noPair
      rw [Markup.singleBars, if_neg noPair, Markup.singleBars, if_neg noPair']
      simpa [BarsAlike, first] using ih behind

/-! ### The separator row -/

/-- The separator row below a row, with single bars. -/
def tableSeparator (row : List Char) : List Char :=
  singleBars (separatorRow row)

/-- A row of a table with what is written for its bars and headings. -/
def tableCells (row : List Char) : List Char :=
  cellHeadingRule.apply (singleBars row)

/-- A separator row has a bar where its row has one. -/
theorem barsAlike_separatorRow (row : List Char) : BarsAlike row (separatorRow row) := by
  have mark (c : Char) : ((if c = '|' then '|' else '-') == '|') = (c == '|') := by
    by_cases hc : c = '|' <;> simp [hc]
  simp only [BarsAlike, separatorRow, List.map_map, Function.comp_def, mark]

/-- **What is written for a row has its bars where the separator row has them.** -/
theorem barsAlike_tableSeparator (row : List Char) :
    BarsAlike (tableCells row) (tableSeparator row) := by
  have headings : BarsAlike (tableCells row) (singleBars row) :=
    map_eq_cellHeadingRule_apply (by decide) (singleBars row)
  have bars : BarsAlike (singleBars row) (tableSeparator row) :=
    (barsAlike_separatorRow row).singleBars
  exact headings.trans bars

/-- Nothing but spaces is written for the bars. -/
theorem mem_of_mem_singleBars {c : Char} {s : List Char} (h : c ∈ singleBars s) :
    c ∈ s ∨ c = ' ' := by
  induction s using singleBars.induct with
  | case1 => simp [singleBars] at h
  | case2 d => exact .inl h
  | case3 d e s pair ih =>
    simp only [Bool.and_eq_true, decide_eq_true_eq] at pair
    rw [singleBars, if_pos (by simp [pair])] at h
    simp only [List.mem_cons] at h ⊢
    rcases h with rfl | rfl | h
    · simp [pair.1]
    · simp
    · have := ih h
      tauto
  | case4 d e s noPair ih =>
    rw [singleBars, if_neg noPair, List.mem_cons] at h
    rw [List.mem_cons]
    rcases h with rfl | h
    · simp
    · have := ih h
      tauto

theorem mem_tableSeparator {c : Char} {row : List Char} (h : c ∈ tableSeparator row) :
    c = '|' ∨ c = '-' ∨ c = ' ' := by
  rcases mem_of_mem_singleBars h with hm | rfl
  · obtain ⟨d, -, rfl⟩ := List.mem_map.1 hm
    by_cases hd : d = '|' <;> simp [hd]
  · simp

/-- A heading has an equals sign, so a separator row has none. -/
theorem cellHeadingRule_apply_tableSeparator (row : List Char) :
    cellHeadingRule.apply (tableSeparator row) = tableSeparator row := by
  refine Rule.apply_eq_self fun t ht => ?_
  cases hm : cellHeadingRule.match? t with
  | none => rfl
  | some parts =>
    obtain ⟨c, text, rfl, -, -⟩ := exists_of_cellHeadingRule_match? hm
    have equals : '=' ∈ tableSeparator row := ht.mem (by simp)
    exact absurd (mem_tableSeparator equals) (by decide)

/-- A first row is written with an empty line in front and the separator row behind it. -/
theorem rowMarkdown_outside_eq (row : List Char) :
    rowMarkdown .outside row = '\n' :: tableCells row ++ '\n' :: tableSeparator row := by
  rw [rowMarkdown_outside]
  change _ ++ '\n' :: cellHeadingRule.apply (tableSeparator row) = _
  rw [cellHeadingRule_apply_tableSeparator]
  rfl

/-! ### Aligned rows -/

/-- A row of a table and a separator row that has the same cells. -/
structure Aligned (row separator : List Char) : Prop where
  /-- The rows have the same length. -/
  length_eq : row.length = separator.length
  /-- The separator row has nothing but bars, dashes and spaces. -/
  marks : ∀ c ∈ separator, c = '|' ∨ c = '-' ∨ c = ' '
  /-- The bars are at the same places. -/
  bars : ∀ i : Nat, row[i]? = some '|' ↔ separator[i]? = some '|'
  /-- No two bars stand next to each other in the row. -/
  rowApart : BarsApart row
  /-- Nor do they in the separator row. -/
  separatorApart : BarsApart separator
  /-- There are as many bars in the one as in the other. -/
  count_eq : row.count '|' = separator.count '|'
  /-- There are as many cells in the one as in the other. -/
  cells_eq : (splitOn '|' row).length = (splitOn '|' separator).length

theorem aligned_tableSeparator (row : List Char) :
    Aligned (tableCells row) (tableSeparator row) := by
  have alike := barsAlike_tableSeparator row
  have apart : BarsApart (tableSeparator row) := barsApart_singleBars (separatorRow row)
  have counts := alike.count_eq
  refine ⟨alike.length_eq, fun c hc => mem_tableSeparator hc, alike.getElem?_eq_iff,
    BarsAlike.barsApart (Eq.symm alike) apart, apart, counts, ?_⟩
  rw [length_splitOn, length_splitOn, counts]

/-- A row is on one line, and so is what is written for it. -/
theorem newline_not_mem_tableCells {row : List Char} (h : '\n' ∉ row) : '\n' ∉ tableCells row := by
  rw [← List.count_eq_zero] at h ⊢
  rw [tableCells, count_row (by decide), h]

theorem not_isFence_of_isRow {line : List Char} (h : isRow line = true) : isFence line = false := by
  obtain ⟨rest, rfl⟩ := isRow_eq_true_iff.1 h
  rfl

/-- A row in ordinary text is converted, and what its inline markup becomes is a row again. -/
theorem LineState.convert_of_isRow (base : List Char) (table : RowState) {line : List Char}
    (h : isRow line = true) :
    LineState.convert base ⟨.text, table⟩ line
      = (⟨.text, .inside⟩, rowMarkdown table (mapBetweenSpans (inlineMarkdown base) line)) := by
  have converted : isRow (mapBetweenSpans (inlineMarkdown base) line) = true := by
    rw [(keepsBars_mapBetweenSpans (keepsBars_inlineMarkdown base)).isRow, h]
  rw [convert_of_not_kept base (FenceState.keeps_eq_false_iff.2 ⟨not_isFence_of_isRow h, rfl⟩),
    if_pos converted]

/-- **The first row of a table is written with an aligned separator**: an empty line, the row as it
would be written within a table, and the separator row, each of them on one line. -/
theorem convert_firstRow_aligned {base line : List Char} (hb : '\n' ∉ base) (hn : '\n' ∉ line)
    (hrow : isRow line = true) :
    ∃ row separator,
      LineState.convert base ⟨.text, .outside⟩ line
        = (⟨.text, .inside⟩, '\n' :: row ++ '\n' :: separator) ∧
      LineState.convert base ⟨.text, .inside⟩ line = (⟨.text, .inside⟩, row) ∧
      '\n' ∉ row ∧ '\n' ∉ separator ∧ Aligned row separator := by
  have onLine : '\n' ∉ mapBetweenSpans (inlineMarkdown base) line :=
    not_mem_mapBetweenSpans (not_mem_inlineMarkdown (by decide) hb (by decide)) hn
  refine ⟨tableCells (mapBetweenSpans (inlineMarkdown base) line),
    tableSeparator (mapBetweenSpans (inlineMarkdown base) line), ?_,
    LineState.convert_of_isRow base .inside hrow, newline_not_mem_tableCells onLine, ?_,
    aligned_tableSeparator _⟩
  · rw [LineState.convert_of_isRow base .outside hrow, rowMarkdown_outside_eq]
  · intro hm
    exact absurd (mem_tableSeparator hm) (by decide)

/-- A row with a heading, an empty cell, a reference and code with a pair of bars. -/
theorem convert_firstRow_aligned_markup :
    Aligned "| **Name**| |[#1](u/ticket/1)| `a| b`| ".toList
      "| --------| |----------------| --| --| ".toList := by
  obtain ⟨row, separator, first, -, onLine, -, aligned⟩ :=
    @convert_firstRow_aligned "u".toList "||= Name =|||#1||`a||b`||".toList
      (by decide) (by decide) (by decide)
  have written : (LineState.convert "u".toList ⟨.text, .outside⟩
      "||= Name =|||#1||`a||b`||".toList).2
        = '\n' :: ("| **Name**| |[#1](u/ticket/1)| `a| b`| ".toList
          ++ '\n' :: "| --------| |----------------| --| --| ".toList) := by
    decide +kernel
  rw [first] at written
  obtain ⟨sameRow, sameSeparator⟩ :=
    append_cons_inj onLine (by decide) (List.cons.inj written).2
  rw [← sameRow, ← sameSeparator]
  exact aligned

end TicketMigration.Markup
