import TicketMigration.Proofs.LinkTargets

/-!
# The cells of a table row

The headings of cells are looked for in a row as a whole, when the marks between its cells have
been rewritten already.  So a heading that is opened in one cell and not closed there is closed in
a later one, if that has a closing mark, and all the cells between them become part of it.  Only if
there is no such pair of cells are the cells converted one by one.

## Main definitions

* `IsCell`, `tableRow` — cells of letters, spaces and equals signs, and the row that they make up.
* `leavesOpen` — the conversion of a cell leaves a mark that could open a heading.
* `CellsApart` — behind such a cell no other one has a closing mark.

## Main statements

* `cellHeadingRule_apply_append`, `exists_of_leavesOpen` — a cell and what follows it.
* `cellHeadingRule_apply_barredRow_iff` — the headings of a row are those of its cells if and
  only if these are apart.
* `convert_tableRow_iff` — **a row is converted cell by cell exactly if its cells are apart.**
* `convert_tableRow_halfHeadings` — cells that are not.
-/

namespace TicketMigration.Text

/-- What is found in a text is found in a longer one. -/
theorem upTo?_append_of_eq_some {allowed : Char → Bool} {marker s body rest : List Char}
    (h : upTo? allowed marker s = some (body, rest)) (t : List Char) :
    upTo? allowed marker (s ++ t) = some (body, rest ++ t) := by
  induction s generalizing body with
  | nil =>
    rw [upTo?, Option.map_eq_some_iff] at h
    obtain ⟨r, hr, he⟩ := h
    obtain ⟨rfl, rfl⟩ := Prod.mk.inj he
    obtain ⟨rfl, rfl⟩ := List.append_eq_nil_iff.1 (after?_eq_some_iff.1 hr).symm
    cases t <;> simp [upTo?]
  | cons c s ih =>
    rw [upTo?] at h
    split at h
    · next r hr =>
      obtain ⟨rfl, rfl⟩ := Prod.mk.inj (Option.some.inj h)
      have found : after? marker (c :: (s ++ t)) = some (r ++ t) :=
        after?_eq_some_iff.2 (by
          rw [← List.cons_append, after?_eq_some_iff.1 hr, List.append_assoc])
      rw [List.cons_append, upTo?, found]
    · next missing =>
      split at h
      · next hc =>
        obtain ⟨⟨body', rest'⟩, hp, he⟩ := Option.map_eq_some_iff.1 h
        obtain ⟨rfl, rfl⟩ := Prod.mk.inj he
        -- the marker found further on shows that it would have been found here
        have missing' : after? marker (c :: (s ++ t)) = none := by
          rw [after?_eq_none_iff] at missing ⊢
          intro hp'
          have long : marker.length ≤ (c :: s).length := by
            have := length_of_upTo? hp
            rw [List.length_cons]
            omega
          exact missing (List.prefix_of_prefix_length_le hp'
            (List.prefix_append (c :: s) t) long)
        rw [List.cons_append, upTo?, missing']
        dsimp only
        rw [if_pos hc, ih hp]
        rfl
      · cases h

end TicketMigration.Text

namespace TicketMigration.Markup

open Text

/-! ### Headings on a line -/

/-- What a heading is read from, and what is written for it. -/
theorem exists_of_cellHeadingRule_match? {s out rest : List Char}
    (h : cellHeadingRule.match? s = some (out, rest)) :
    ∃ c text, s = ['=', ' '] ++ c :: text ++ [' ', '='] ++ rest ∧
      out = ['*', '*'] ++ c :: text ++ ['*', '*'] ∧ '\n' ∉ c :: text := by
  obtain ⟨parts, hp, he⟩ := Option.map_eq_some_iff.1 h
  obtain ⟨rfl, rfl⟩ := Prod.mk.inj he
  obtain ⟨inside, hi, hp⟩ := Option.bind_eq_some_iff.1 hp
  split at hp
  · next c tail =>
    split at hp
    · next hc =>
      obtain ⟨⟨text, rest⟩, hu, rfl⟩ := Option.map_eq_some_iff.1 hp
      refine ⟨c, text, ?_, rfl, fun hm => ?_⟩
      · rw [after?_eq_some_iff.1 hi, eq_append_of_upTo? hu]
        simp
      · rcases List.mem_cons.1 hm with rfl | hm
        · exact absurd hc (by decide)
        · exact absurd (allowed_of_upTo? hu _ hm) (by decide)
    · cases hp
  · cases hp

/-- **Where on a line a heading is read:** at an opening mark with a closing one behind it, and at
least one character between them. -/
theorem isSome_cellHeadingRule_match?_iff {s : List Char} (hs : '\n' ∉ s) :
    (cellHeadingRule.match? s).isSome = true ↔
      ∃ c tail, s = '=' :: ' ' :: c :: tail ∧ [' ', '='] <:+: tail := by
  constructor
  · intro h
    obtain ⟨⟨out, rest⟩, hm⟩ := Option.isSome_iff_exists.1 h
    obtain ⟨c, text, rfl, -, -⟩ := exists_of_cellHeadingRule_match? hm
    exact ⟨c, text ++ [' ', '='] ++ rest, by simp, text, rest, rfl⟩
  · rintro ⟨c, tail, rfl, text, rest, rfl⟩
    have whole : '=' :: ' ' :: c :: (text ++ [' ', '='] ++ rest)
        = ['=', ' '] ++ ((c :: text) ++ ([' ', '='] ++ rest)) := by simp
    have line : ∀ d ∈ c :: text, onLine d = true := onLine_of_not_mem fun hm =>
      hs (whole ▸ List.mem_append_right _ (List.mem_append_left _ hm))
    obtain ⟨first, behind⟩ := List.forall_mem_cons.1 line
    show (((after? ['=', ' '] ('=' :: ' ' :: c :: (text ++ [' ', '='] ++ rest))).bind _).map
      _).isSome = true
    simp only [after?_cons_cons, if_pos, after?_nil, Option.bind_some, Option.isSome_map, first]
    exact isSome_upTo? behind rest

/-- A heading is read whatever follows it. -/
theorem cellHeadingRule_match?_append {s out rest : List Char}
    (h : cellHeadingRule.match? s = some (out, rest)) (t : List Char) :
    cellHeadingRule.match? (s ++ t) = some (out, rest ++ t) := by
  obtain ⟨parts, hp, he⟩ := Option.map_eq_some_iff.1 h
  obtain ⟨rfl, rfl⟩ := Prod.mk.inj he
  obtain ⟨inside, hi, hp⟩ := Option.bind_eq_some_iff.1 hp
  split at hp
  · next c tail =>
    split at hp
    · next hc =>
      obtain ⟨⟨text, rest⟩, hu, rfl⟩ := Option.map_eq_some_iff.1 hp
      have longer := upTo?_append_of_eq_some hu t
      rw [after?_eq_some_iff.1 hi, List.append_assoc]
      show (((after? ['=', ' '] (['=', ' '] ++ (c :: tail ++ t))).bind _).map _) = _
      rw [after?_append, Option.bind_some]
      simp only [List.cons_append, if_pos hc, longer]
      rfl
    · cases hp
  · cases hp

/-! ### A cell and what follows it -/

/-- The conversion of a cell leaves a mark that could open a heading, if more text followed. -/
def leavesOpen : List Char → Bool
  | [] => false
  | c :: s =>
    match _h : cellHeadingRule.match? (c :: s) with
    | some (_, rest) => leavesOpen rest
    | none => (after? ['=', ' '] (c :: s)).isSome || leavesOpen s
termination_by s => s.length
decreasing_by
  · exact cellHeadingRule.shorter _h
  · simp

theorem leavesOpen_of_match {s out rest : List Char}
    (h : cellHeadingRule.match? s = some (out, rest)) : leavesOpen s = leavesOpen rest := by
  cases s with
  | nil => exact absurd (cellHeadingRule.shorter h) (by simp)
  | cons c s =>
    rw [leavesOpen]
    split
    · next h' =>
      rw [h] at h'
      obtain ⟨-, rfl⟩ := Prod.mk.inj (Option.some.inj h')
      rfl
    · next h' => simp [h] at h'

theorem leavesOpen_of_no_match {c : Char} {s : List Char}
    (h : cellHeadingRule.match? (c :: s) = none) :
    leavesOpen (c :: s) = ((after? ['=', ' '] (c :: s)).isSome || leavesOpen s) := by
  rw [leavesOpen]
  split
  · next h' => simp [h] at h'
  · rfl

section Behind

variable {cell rest : List Char} (line : '\n' ∉ cell ++ '|' :: rest)

include line

/-- Behind a bar a heading goes on exactly if it is opened in front of it and closed behind it. -/
theorem isSome_match?_append_bar_iff (none : cellHeadingRule.match? cell = none) :
    (cellHeadingRule.match? (cell ++ '|' :: rest)).isSome = true ↔
      (after? ['=', ' '] cell).isSome = true ∧ [' ', '='] <:+: rest := by
  rw [isSome_cellHeadingRule_match?_iff line]
  have within : '\n' ∉ cell := fun h => line (List.mem_append_left _ h)
  have closed : ¬ ∃ c tail, cell = '=' :: ' ' :: c :: tail ∧ [' ', '='] <:+: tail := by
    rw [← isSome_cellHeadingRule_match?_iff within, none]
    simp
  constructor
  · rintro ⟨c, tail, whole, found⟩
    -- there is no bar in the opening mark, so it lies in the cell
    have mark : ['=', ' '] <+: cell :=
      isPrefix_of_append_cons (c := '|') (by decide) ⟨c :: tail, whole.symm⟩
    obtain ⟨inside, rfl⟩ := mark
    refine ⟨by rw [after?_append]; rfl, ?_⟩
    rw [List.append_assoc] at whole
    have behind : inside ++ '|' :: rest = c :: tail := (List.cons.inj (List.cons.inj whole).2).2
    cases inside with
    | nil =>
      rw [(List.cons.inj behind).2]
      exact found
    | cons d inside =>
      rw [← (List.cons.inj behind).2] at found
      rcases (isInfix_append_cons_iff (by decide)).1 found with inCell | inRest
      · exact absurd ⟨d, inside, rfl, inCell⟩ closed
      · exact inRest
  · rintro ⟨mark, found⟩
    obtain ⟨inside, hi⟩ := Option.isSome_iff_exists.1 mark
    obtain rfl := after?_eq_some_iff.1 hi
    cases inside with
    | nil => exact ⟨'|', rest, rfl, found⟩
    | cons d inside =>
      exact ⟨d, inside ++ '|' :: rest, rfl, (isInfix_append_cons_iff (by decide)).2 (.inr found)⟩

/-- **A cell is converted on its own if it leaves nothing open or nothing is closed behind it.** -/
theorem cellHeadingRule_apply_append
    (apart : leavesOpen cell = true → ¬ [' ', '='] <:+: rest) :
    cellHeadingRule.apply (cell ++ '|' :: rest)
      = cellHeadingRule.apply cell ++ cellHeadingRule.apply ('|' :: rest) := by
  induction cell using Rule.apply.induct cellHeadingRule with
  | case1 => rw [List.nil_append, Rule.apply_nil, List.nil_append]
  | case2 c s out behind hm ih =>
    have whole := cellHeadingRule_match?_append hm ('|' :: rest)
    rw [leavesOpen_of_match hm] at apart
    rw [Rule.apply_of_match whole, Rule.apply_of_match hm, List.append_assoc, ih _ apart]
    obtain ⟨d, text, hs, -⟩ := exists_of_cellHeadingRule_match? hm
    intro h
    refine line ?_
    rw [hs, List.append_assoc]
    exact List.mem_append_right _ h
  | case3 c s hm ih =>
    rw [leavesOpen_of_no_match hm, Bool.or_eq_true] at apart
    have noMatch : cellHeadingRule.match? (c :: (s ++ '|' :: rest)) = none := by
      rw [← Option.not_isSome_iff_eq_none, ← List.cons_append,
        isSome_match?_append_bar_iff line hm]
      exact fun h => apart (.inl h.1) h.2
    rw [List.cons_append, Rule.apply_of_no_match noMatch, Rule.apply_of_no_match hm,
      ih (fun h => line (List.mem_cons_of_mem _ h)) fun h => apart (.inr h), List.cons_append]

/-- Otherwise the heading that it leaves open takes in the end of the cell. -/
theorem exists_of_leavesOpen (opened : leavesOpen cell = true) (closed : [' ', '='] <:+: rest) :
    ∃ front t t', cellHeadingRule.apply cell = front ++ '=' :: t ∧
      cellHeadingRule.apply (cell ++ '|' :: rest) = front ++ '*' :: t' := by
  induction cell using Rule.apply.induct cellHeadingRule with
  | case1 => simp [leavesOpen] at opened
  | case2 c s out behind hm ih =>
    have whole := cellHeadingRule_match?_append hm ('|' :: rest)
    obtain ⟨d, text, hs, -⟩ := exists_of_cellHeadingRule_match? hm
    obtain ⟨front, t, t', alone, together⟩ := ih
      (fun h => line (by
        rw [hs, List.append_assoc]
        exact List.mem_append_right _ h)) (by rwa [← leavesOpen_of_match hm])
    refine ⟨out ++ front, t, t', ?_, ?_⟩
    · rw [Rule.apply_of_match hm, alone, List.append_assoc]
    · rw [Rule.apply_of_match whole, together, List.append_assoc]
  | case3 c s hm ih =>
    rw [leavesOpen_of_no_match hm, Bool.or_eq_true] at opened
    by_cases mark : (after? ['=', ' '] (c :: s)).isSome = true
    · -- the heading is opened here
      obtain ⟨parts, hp⟩ := Option.isSome_iff_exists.1
        ((isSome_match?_append_bar_iff line hm).2 ⟨mark, closed⟩)
      obtain ⟨d, text, -, ho, -⟩ := exists_of_cellHeadingRule_match? hp
      obtain ⟨behind, hb⟩ := Option.isSome_iff_exists.1 mark
      obtain ⟨rfl, -⟩ := List.cons.inj (after?_eq_some_iff.1 hb)
      refine ⟨[], cellHeadingRule.apply s,
        '*' :: d :: text ++ ['*', '*'] ++ cellHeadingRule.apply parts.2,
        Rule.apply_of_no_match hm, ?_⟩
      rw [Rule.apply_of_match hp, ho]
      simp
    · have noMatch : cellHeadingRule.match? (c :: (s ++ '|' :: rest)) = none := by
        rw [← Option.not_isSome_iff_eq_none, ← List.cons_append,
          isSome_match?_append_bar_iff line hm]
        exact fun h => mark h.1
      obtain ⟨front, t, t', alone, together⟩ := ih (fun h => line (List.mem_cons_of_mem _ h))
        (opened.resolve_left mark)
      refine ⟨c :: front, t, t', ?_, ?_⟩
      · rw [Rule.apply_of_no_match hm, alone, List.cons_append]
      · rw [List.cons_append, Rule.apply_of_no_match noMatch, together, List.cons_append]

end Behind

/-! ### Rows -/

/-- A cell of letters, spaces and equals signs. -/
def IsCell (cell : List Char) : Prop :=
  ∀ c ∈ cell, isLetter c = true ∨ c = ' ' ∨ c = '='

instance (cell : List Char) : Decidable (IsCell cell) :=
  List.decidableBAll (fun c => isLetter c = true ∨ c = ' ' ∨ c = '=') cell

/-- Cells between pairs of bars. -/
def tableRow (cells : List (List Char)) : List Char :=
  cells.flatMap (['|', '|'] ++ ·) ++ ['|', '|']

/-- Cells behind bars with a space. -/
def barredRow (cells : List (List Char)) : List Char :=
  cells.flatMap (['|', ' '] ++ ·) ++ ['|', ' ']

/-- Behind a cell that leaves a mark open no other cell has a closing one. -/
def CellsApart (cells : List (List Char)) : Prop :=
  cells.Pairwise fun cell later => leavesOpen cell = true → ¬ [' ', '='] <:+: ' ' :: later

instance (cells : List (List Char)) : Decidable (CellsApart cells) :=
  have (cell : List Char) := decidableIsInfix [' ', '='] cell
  inferInstanceAs (Decidable (cells.Pairwise fun cell later =>
    leavesOpen cell = true → ¬ [' ', '='] <:+: ' ' :: later))

theorem tableRow_cons (cell : List Char) (cells : List (List Char)) :
    tableRow (cell :: cells) = '|' :: '|' :: (cell ++ tableRow cells) := by
  simp [tableRow]

theorem barredRow_cons (cell : List Char) (cells : List (List Char)) :
    barredRow (cell :: cells) = '|' :: ' ' :: (cell ++ barredRow cells) := by
  simp [barredRow]

theorem exists_barredRow (cells : List (List Char)) :
    ∃ rest, barredRow cells = '|' :: ' ' :: rest := by
  cases cells with
  | nil => exact ⟨[], rfl⟩
  | cons cell cells => exact ⟨_, barredRow_cons cell cells⟩

theorem IsCell.not_mem {cell : List Char} (h : IsCell cell) {c : Char} (letter : isLetter c = false)
    (space : c ≠ ' ') (equals : c ≠ '=') : c ∉ cell := by
  intro hc
  rcases h c hc with hl | rfl | rfl
  · rw [letter] at hl
    cases hl
  · exact space rfl
  · exact equals rfl

/-- Nothing but bars stands between the cells. -/
theorem not_mem_tableRow {cells : List (List Char)} (h : ∀ cell ∈ cells, IsCell cell) {c : Char}
    (letter : isLetter c = false) (others : c ∉ [' ', '=', '|']) : c ∉ tableRow cells := by
  simp only [List.mem_cons, List.not_mem_nil, or_false, not_or] at others
  induction cells with
  | nil => simpa [tableRow] using others.2.2
  | cons cell cells ih =>
    have here := (h cell List.mem_cons_self).not_mem letter others.1 others.2.1
    have behind := ih fun cell' hc => h cell' (List.mem_cons_of_mem _ hc)
    simp [tableRow_cons, others.2.2, here, behind]

theorem not_mem_barredRow {cells : List (List Char)} (h : ∀ cell ∈ cells, '\n' ∉ cell) :
    '\n' ∉ barredRow cells := by
  induction cells with
  | nil => decide
  | cons cell cells ih =>
    have here := h cell List.mem_cons_self
    have behind := ih fun cell' hc => h cell' (List.mem_cons_of_mem _ hc)
    simp [barredRow_cons, here, behind]

/-- A closing mark stands in a row where one of the cells has it, with the space in front. -/
theorem isInfix_barredRow_iff {cells : List (List Char)} :
    [' ', '='] <:+: barredRow cells ↔ ∃ cell ∈ cells, [' ', '='] <:+: ' ' :: cell := by
  induction cells with
  | nil => simp only [List.not_mem_nil, false_and, exists_false, iff_false]; decide
  | cons cell cells ih =>
    obtain ⟨rest, hr⟩ := exists_barredRow cells
    have behindBar (s : List Char) : [' ', '='] <:+: '|' :: s ↔ [' ', '='] <:+: s := by
      rw [← List.nil_append ('|' :: s), isInfix_append_cons_iff (by decide)]
      simp
    rw [barredRow_cons, behindBar, ← List.cons_append, hr, isInfix_append_cons_iff (by decide),
      ← behindBar (' ' :: rest), ← hr, ih]
    simp

/-- **The headings of a row are those of its cells if and only if these are apart.** -/
theorem cellHeadingRule_apply_barredRow_iff {cells : List (List Char)}
    (h : ∀ cell ∈ cells, '\n' ∉ cell) :
    cellHeadingRule.apply (barredRow cells) = barredRow (cells.map cellHeadingRule.apply) ↔
      CellsApart cells := by
  induction cells with
  | nil =>
    refine ⟨fun _ => List.Pairwise.nil, fun _ => ?_⟩
    rw [barredRow, List.flatMap_nil, List.nil_append, Rule.apply_of_no_match rfl,
      Rule.apply_of_no_match rfl, Rule.apply_nil]
    rfl
  | cons cell cells ih =>
    have further (cell' : List Char) (hc : cell' ∈ cells) : '\n' ∉ cell' :=
      h cell' (List.mem_cons_of_mem _ hc)
    obtain ⟨rest, hr⟩ := exists_barredRow cells
    have line : '\n' ∉ cell ++ '|' :: ' ' :: rest := by
      rw [← hr]
      exact List.not_mem_append (h cell List.mem_cons_self) (not_mem_barredRow further)
    have closing : [' ', '='] <:+: ' ' :: rest ↔ ∃ later ∈ cells, [' ', '='] <:+: ' ' :: later := by
      rw [← isInfix_barredRow_iff, hr, ← List.nil_append ('|' :: ' ' :: rest),
        isInfix_append_cons_iff (by decide)]
      simp
    rw [barredRow_cons, Rule.apply_of_no_match rfl, Rule.apply_of_no_match rfl, List.map_cons,
      barredRow_cons, CellsApart, List.pairwise_cons, hr]
    simp only [List.cons.injEq, true_and]
    by_cases apart : leavesOpen cell = true → ¬ [' ', '='] <:+: ' ' :: rest
    · rw [cellHeadingRule_apply_append line apart, List.append_cancel_left_eq, ← hr, ih further]
      refine ⟨fun cs => ⟨fun later hl opened found => ?_, cs⟩, fun cs => cs.2⟩
      exact apart opened (closing.2 ⟨later, hl, found⟩)
    · rw [Classical.not_imp, Classical.not_not] at apart
      obtain ⟨opened, closed⟩ := apart
      obtain ⟨front, t, t', alone, together⟩ := exists_of_leavesOpen line opened closed
      rw [alone, together]
      constructor
      · intro same
        rw [List.append_assoc, List.append_cancel_left_eq, List.cons_append] at same
        exact absurd (List.cons.inj same).1 (by decide)
      · rintro ⟨cs, -⟩
        obtain ⟨later, hl, found⟩ := closing.1 closed
        exact absurd found (cs later hl opened)

/-! ### The conversion of a row -/

theorem singleBars_cons {c : Char} (hc : c ≠ '|') (s : List Char) :
    singleBars (c :: s) = c :: singleBars s := by
  cases s with
  | nil => rfl
  | cons d s => rw [singleBars, if_neg (by simp [hc])]

theorem singleBars_append {front : List Char} (h : '|' ∉ front) (s : List Char) :
    singleBars (front ++ s) = front ++ singleBars s := by
  induction front with
  | nil => rfl
  | cons c front ih =>
    rw [List.mem_cons, not_or] at h
    rw [List.cons_append, singleBars_cons (Ne.symm h.1), ih h.2, List.cons_append]

theorem singleBars_tableRow {cells : List (List Char)} (h : ∀ cell ∈ cells, '|' ∉ cell) :
    singleBars (tableRow cells) = barredRow cells := by
  induction cells with
  | nil => rfl
  | cons cell cells ih =>
    rw [tableRow_cons, singleBars, if_pos (by decide),
      singleBars_append (h cell List.mem_cons_self),
      ih fun cell' hc => h cell' (List.mem_cons_of_mem _ hc), barredRow_cons]

section Row

variable {cells : List (List Char)} (h : ∀ cell ∈ cells, IsCell cell)

include h

/-- A row of such cells has no inline markup. -/
theorem inlinePlain_tableRow : InlinePlain (tableRow cells) where
  noOpening c hc := by
    simp only [List.mem_cons, List.not_mem_nil, or_false] at hc
    rcases hc with rfl | rfl | rfl | rfl <;> exact not_mem_tableRow h (by decide) (by decide)
  noPair pair hp hi := by
    simp only [List.mem_cons, List.not_mem_nil, or_false] at hp
    rcases hp with rfl | rfl <;>
      exact absurd (hi.mem List.mem_cons_self) (not_mem_tableRow h (by decide) (by decide))
  noNumber word hw := by
    rintro ⟨d, hd, hi⟩
    have member : d ∈ tableRow cells := hi.mem (by simp)
    have letter : isLetter d = false := by
      rw [Bool.eq_false_iff]
      intro hl
      rw [isDigit_of_isLetter hl] at hd
      cases hd
    refine not_mem_tableRow h letter ?_ member
    simp only [List.mem_cons, List.not_mem_nil, or_false, not_or]
    refine ⟨?_, ?_, ?_⟩ <;>
    · rintro rfl
      revert hd
      decide

/-- **A row that goes on with a table is converted cell by cell exactly if its cells are apart.** -/
theorem convert_tableRow_iff (base : List Char) :
    LineState.convert base ⟨.text, .inside⟩ (tableRow cells)
        = (⟨.text, .inside⟩, barredRow (cells.map cellHeadingRule.apply)) ↔
      CellsApart cells := by
  have noBar (cell : List Char) (hc : cell ∈ cells) : '|' ∉ cell :=
    (h cell hc).not_mem (by decide) (by decide) (by decide)
  have noNewline (cell : List Char) (hc : cell ∈ cells) : '\n' ∉ cell :=
    (h cell hc).not_mem (by decide) (by decide) (by decide)
  have row : isRow (tableRow cells) = true := by
    cases cells with
    | nil => rfl
    | cons cell cells => rw [tableRow_cons]; rfl
  have noFence : isFence (tableRow cells) = false := by
    cases cells with
    | nil => rfl
    | cons cell cells => rw [tableRow_cons]; rfl
  have same : mapBetweenSpans (inlineMarkdown base) (tableRow cells) = tableRow cells :=
    mapBetweenSpans_eq_self fun part hp =>
      inlineMarkdown_of_inlinePlain ((inlinePlain_tableRow h).of_isInfix hp) base
  rw [LineState.convert_of_not_kept base (FenceState.keeps_eq_false_iff.2 ⟨noFence, rfl⟩), same,
    if_pos row, Prod.mk.injEq, ← cellHeadingRule_apply_barredRow_iff noNewline,
    ← singleBars_tableRow noBar]
  simp [rowMarkdown]

end Row

/-- A heading, a cell with an opening mark that nothing closes, and a cell without marks. -/
theorem convert_tableRow_iff_heading :
    LineState.convert "https://trac.example.org".toList ⟨.text, .inside⟩
        "||= a =||= b|| c ||".toList
      = (⟨.text, .inside⟩, "| **a**| = b|  c | ".toList) :=
  ((convert_tableRow_iff
    (show ∀ cell ∈ ["= a =".toList, "= b".toList, " c ".toList], IsCell cell by decide)
    "https://trac.example.org".toList).2 (by decide +kernel)).trans (by decide +kernel)

/-- Two cells, of which the first has an opening mark and the second a closing one. -/
def halfHeadings : List (List Char) :=
  ["= a".toList, "b =".toList]

/-- The bar between the two cells becomes part of the bold text. -/
theorem convert_tableRow_halfHeadings :
    (∀ cell ∈ halfHeadings, IsCell cell) ∧
      LineState.convert "https://trac.example.org".toList ⟨.text, .inside⟩ (tableRow halfHeadings)
        = (⟨.text, .inside⟩, "| **a| b**| ".toList) ∧
      barredRow (halfHeadings.map cellHeadingRule.apply) = "| = a| b =| ".toList ∧
      LineState.convert "https://trac.example.org".toList ⟨.text, .inside⟩ (tableRow halfHeadings)
        ≠ (⟨.text, .inside⟩, barredRow (halfHeadings.map cellHeadingRule.apply)) :=
  ⟨by decide, by decide +kernel, by decide +kernel, by decide +kernel⟩

end TicketMigration.Markup
