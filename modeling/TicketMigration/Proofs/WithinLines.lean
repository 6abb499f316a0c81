import TicketMigration.Markup.LinePass
import TicketMigration.Proofs.Lines

/-!
# Rules that stay on their line

What opens on a line and is not closed there is no code span, and no heading of a cell either.  So
these rules convert a text line by line.  They write no newline of their own, and what a line begins
with stays if it is none of the characters that the rule reads and writes first.

## Main definitions

* `Rule.StaysOnLine` — a match does not depend on what follows its line.
* `Rule.AddsNo` — a character stands in the converted text only if it stood in the text.

## Main statements

* `Rule.StaysOnLine.linewise` — **such a rule converts a text line by line.**
* `Rule.lines_apply` — the lines of the converted text are the converted lines.
* `Rule.isSome_after?_apply` — what the converted text begins with.
-/

namespace TicketMigration.Text

/-- What has to be found on its line is not searched for behind it. -/
theorem upTo?_onLine_append_newline {marker : List Char} (hm : '\n' ∉ marker) (a b : List Char) :
    upTo? onLine marker (a ++ '\n' :: b)
      = (upTo? onLine marker a).map fun parts => (parts.1, parts.2 ++ '\n' :: b) := by
  induction a with
  | nil =>
    have here := after?_append_newline hm [] b
    rw [List.nil_append] at here ⊢
    conv => lhs; rw [upTo?, here]
    rw [upTo?]
    rcases after? marker [] with _ | rest <;> rfl
  | cons c a ih =>
    have here := after?_append_newline hm (c :: a) b
    rw [List.cons_append] at here ⊢
    rw [upTo?, here, ih, upTo?]
    rcases after? marker (c :: a) with _ | rest
    · dsimp only [Option.map_none]
      split
      · rw [Option.map_map, Option.map_map]
        rfl
      · rfl
    · rfl

end TicketMigration.Text

namespace TicketMigration.Markup

open Text

namespace Rule

variable {rule : Rule}

/-- Whether the rule matches at the front of a line, and what, is decided by that line. -/
def StaysOnLine (rule : Rule) : Prop :=
  ∀ a b, rule.match? (a ++ '\n' :: b)
    = (rule.match? a).map fun parts => (parts.1, parts.2 ++ '\n' :: b)

/-- The rule writes the character only where it has read it. -/
def AddsNo (rule : Rule) (c : Char) : Prop :=
  ∀ ⦃s out rest⦄, rule.match? s = some (out, rest) → c ∉ s → c ∉ out ∧ c ∉ rest

/-- No rule matches where nothing is left. -/
theorem match?_nil (rule : Rule) : rule.match? [] = none := by
  cases h : rule.match? [] with
  | none => rfl
  | some parts => exact absurd (rule.shorter h) (by simp)

/-- **A rule that stays on its line converts a text line by line.** -/
theorem StaysOnLine.linewise (h : rule.StaysOnLine) : Linewise rule.apply := by
  intro a b
  induction a using Rule.apply.induct rule with
  | case1 =>
    have noMatch := h [] b
    rw [rule.match?_nil] at noMatch
    rw [List.nil_append, apply_of_no_match noMatch, apply_nil, List.nil_append]
  | case2 c s out rest hm ih =>
    have matched := h (c :: s) b
    rw [hm] at matched
    rw [apply_of_match matched, ih, apply_of_match hm, List.append_assoc]
  | case3 c s hm ih =>
    have noMatch : rule.match? (c :: (s ++ '\n' :: b)) = none :=
      (h (c :: s) b).trans (by rw [hm]; rfl)
    rw [List.cons_append, apply_of_no_match noMatch, ih, apply_of_no_match hm, List.cons_append]

theorem AddsNo.not_mem_apply {c : Char} (h : rule.AddsNo c) {s : List Char} (hs : c ∉ s) :
    c ∉ rule.apply s := by
  induction s using Rule.apply.induct rule with
  | case1 => simp
  | case2 d s out rest hm ih =>
    obtain ⟨hout, hrest⟩ := h hm hs
    rw [apply_of_match hm]
    exact List.not_mem_append hout (ih hrest)
  | case3 d s hm ih =>
    rw [List.mem_cons, not_or] at hs
    rw [apply_of_no_match hm, List.mem_cons, not_or]
    exact ⟨hs.1, ih hs.2⟩

/-- The lines of the converted text are the converted lines. -/
theorem lines_apply (onLine : rule.StaysOnLine) (newline : rule.AddsNo '\n') (s : List Char) :
    lines (rule.apply s) = (lines s).map rule.apply := by
  have converted : rule.apply s = unlines ((lines s).map rule.apply) := by
    rw [← onLine.linewise.unlines (lines_ne_nil s), unlines_lines]
  rw [converted, lines_unlines (by simp [lines_ne_nil])]
  rintro l hl
  obtain ⟨l', hl', rfl⟩ := List.mem_map.1 hl
  exact newline.not_mem_apply (not_mem_of_mem_lines hl')

/-- The converted text begins with a marker exactly if the text does, if nothing that the rule reads
or writes begins with a character of the marker. -/
theorem isSome_after?_apply {marker : List Char}
    (h : ∀ {c s out rest}, rule.match? (c :: s) = some (out, rest) →
      c ∉ marker ∧ ∃ d t, out = d :: t ∧ d ∉ marker) (s : List Char) :
    (after? marker (rule.apply s)).isSome = (after? marker s).isSome := by
  induction marker generalizing s with
  | nil => simp
  | cons m marker ih =>
    cases s with
    | nil => simp
    | cons c s =>
      rcases hm : rule.match? (c :: s) with _ | ⟨out, rest⟩
      · rw [apply_of_no_match hm, after?_cons_cons, after?_cons_cons]
        split
        · refine ih (fun hm' => ?_) s
          obtain ⟨hc, d, t, ht, hd⟩ := h hm'
          exact ⟨fun hc' => hc (List.mem_cons_of_mem _ hc'), d, t, ht,
            fun hd' => hd (List.mem_cons_of_mem _ hd')⟩
        · rfl
      · obtain ⟨hc, d, t, rfl, hd⟩ := h hm
        rw [List.mem_cons, not_or] at hc hd
        rw [apply_of_match hm, List.cons_append, after?_cons_cons, after?_cons_cons,
          if_neg hc.1, if_neg hd.1]

end Rule

/-! ### Code spans and headings of cells -/

theorem staysOnLine_codeSpanRule : codeSpanRule.StaysOnLine := by
  intro a b
  show ((after? codeOpening (a ++ '\n' :: b)).bind (upTo? onLine codeClosing)).map _
    = (((after? codeOpening a).bind (upTo? onLine codeClosing)).map _).map _
  rw [after?_append_newline (by decide)]
  cases after? codeOpening a with
  | none => rfl
  | some inside =>
    rw [Option.map_some, Option.bind_some, Option.bind_some,
      upTo?_onLine_append_newline (by decide), Option.map_map, Option.map_map]
    rfl

theorem staysOnLine_cellHeadingRule : cellHeadingRule.StaysOnLine := by
  intro a b
  show ((after? ['=', ' '] (a ++ '\n' :: b)).bind _).map _
    = (((after? ['=', ' '] a).bind _).map _).map _
  rw [after?_append_newline (by decide)]
  cases after? ['=', ' '] a with
  | none => rfl
  | some inside =>
    cases inside with
    | nil => rfl
    | cons c inside =>
      simp only [Option.map_some, Option.bind_some, List.cons_append]
      split
      · rw [upTo?_onLine_append_newline (by decide), Option.map_map, Option.map_map,
          Option.map_map, Option.map_map]
        rfl
      · rfl

end TicketMigration.Markup
