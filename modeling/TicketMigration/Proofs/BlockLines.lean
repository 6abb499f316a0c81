import TicketMigration.Markup.Fence
import TicketMigration.Markup.LinePass
import TicketMigration.Markup.Block
import TicketMigration.Proofs.Lines

/-!
# Block markup and the marks of fences and tables

The block rules are decided by how a line begins, and so are fences and rows of tables.  The two
never meet: a block rule accepts only lines that begin with an equals sign, a blank or a dash, and
nothing that it writes begins with a backtick or a bar.  So the block rules, which run one after
the other over the whole text, make no fence and no row and unmake none.

## Main definitions

* `Unmarked line` — the line begins with neither a backtick nor a bar.
* `LineRule.Tame` — the rule accepts and writes unmarked lines only.

## Main statements

* `exists_of_headingRule`, `exists_of_bulletRule`, `exists_of_numberedRule`,
  `exists_of_dividerRule` — what the lines that a rule accepts look like, and what it writes.
* `linewise_blockMarkdown` — a text is converted line by line.
* `blockMarkdown_line` — a line is kept, or it is unmarked and so is all that is written for it.
-/

namespace TicketMigration.Markup

open Text

/-! ### Lines without a mark -/

/-- The line begins with neither a backtick nor a bar, so that it is no fence and no row. -/
def Unmarked (line : List Char) : Prop :=
  line.head? ≠ some '`' ∧ line.head? ≠ some '|'

theorem unmarked_nil : Unmarked [] := by simp [Unmarked]

theorem unmarked_cons {c : Char} (hc : c ≠ '`' ∧ c ≠ '|') (s : List Char) : Unmarked (c :: s) := by
  simpa [Unmarked] using hc

/-- Repetitions of one character, possibly none, and another character behind them. -/
theorem unmarked_replicate_append {d c : Char} (hd : d ≠ '`' ∧ d ≠ '|') (hc : c ≠ '`' ∧ c ≠ '|')
    (n : Nat) (s : List Char) : Unmarked (List.replicate n d ++ c :: s) := by
  cases n with
  | zero => exact unmarked_cons hc s
  | succ n => exact unmarked_cons hd _

theorem isFence_eq_true_iff {line : List Char} : isFence line = true ↔ fence <+: line :=
  isSome_after?_iff

theorem isRow_eq_true_iff {line : List Char} : isRow line = true ↔ ['|', '|'] <+: line :=
  isSome_after?_iff

namespace Unmarked

variable {line : List Char}

theorem not_isFence (h : Unmarked line) : isFence line = false := by
  rw [Bool.eq_false_iff, Ne, isFence_eq_true_iff]
  rintro ⟨rest, rfl⟩
  exact h.1 rfl

theorem not_isRow (h : Unmarked line) : isRow line = false := by
  rw [Bool.eq_false_iff, Ne, isRow_eq_true_iff]
  rintro ⟨rest, rfl⟩
  exact h.2 rfl

end Unmarked

/-! ### What the rules accept and write -/

section Accepted

variable {line out : List Char}

/-- A heading has gaps behind its marker, and all of them are left away. -/
theorem exists_of_headingRule {level : Nat} (h : headingRule level line = some out) :
    ∃ gaps s, gaps ≠ [] ∧ (∀ c ∈ gaps, isGap c = true) ∧ (∀ c ∈ s.head?, isGap c = false) ∧
      line = List.replicate level '=' ++ (gaps ++ s) ∧
      out = List.replicate level '#' ++ ' ' :: headingTitle level s := by
  rw [headingRule] at h
  split at h
  · next c rest hrest =>
    split at h
    · next hc =>
      refine ⟨c :: rest.takeWhile isGap, rest.dropWhile isGap, List.cons_ne_nil _ _, ?_,
        head?_dropWhile_eq_false, ?_, (Option.some.inj h).symm⟩
      · intro d hd
        rcases List.mem_cons.1 hd with rfl | hd
        · exact hc
        · exact mem_takeWhile hd
      · rw [List.cons_append, List.takeWhile_append_dropWhile]
        exact after?_eq_some_iff.1 hrest
    · cases h
  · cases h

theorem exists_of_bulletRule {indentation depth : Nat}
    (h : bulletRule indentation depth line = some out) :
    ∃ s, line = List.replicate indentation ' ' ++ '*' :: ' ' :: s ∧
      out = List.replicate depth '*' ++ s := by
  obtain ⟨s, hs, rfl⟩ := Option.map_eq_some_iff.1 h
  refine ⟨s, ?_, rfl⟩
  rw [after?_eq_some_iff.1 hs, List.append_assoc]
  rfl

theorem exists_of_numberedRule (h : numberedRule line = some out) :
    ∃ digits s, digits ≠ [] ∧ (∀ d ∈ digits, isDigit d = true) ∧
      line = ' ' :: (digits ++ '.' :: ' ' :: s) ∧ out = '1' :: '.' :: ' ' :: s := by
  rw [numberedRule.eq_def] at h
  split at h
  · next d rest =>
    split at h
    · next hd =>
      obtain ⟨s, hs, rfl⟩ := Option.map_eq_some_iff.1 h
      refine ⟨d :: rest.takeWhile isDigit, s, List.cons_ne_nil _ _, ?_, ?_, rfl⟩
      · intro c hc
        rcases List.mem_cons.1 hc with rfl | hc
        · exact hd
        · exact mem_takeWhile hc
      · conv => lhs; rw [eq_append_of_after?_dropWhile hs]
        simp
    · cases h
  · cases h

theorem exists_of_dividerRule (h : dividerRule line = some out) :
    ∃ n, 4 ≤ n ∧ line = List.replicate n '-' ∧ out = '\n' :: List.replicate n '-' := by
  rw [dividerRule] at h
  split at h
  · next hd =>
    obtain rfl := Option.some.inj h
    rw [Bool.and_eq_true, decide_eq_true_eq, List.all_eq_true] at hd
    have dashes : line = List.replicate line.length '-' :=
      List.eq_replicate_of_mem fun c hc => by simpa using hd.2 c hc
    exact ⟨line.length, hd.1, dashes, congrArg (List.cons '\n') dashes⟩
  · cases h

end Accepted

/-! ### What a single rule does -/

/-- The rule accepts only unmarked lines, and all lines of what it writes for them are unmarked. -/
def LineRule.Tame (rule : LineRule) : Prop :=
  ∀ {line out}, '\n' ∉ line → rule line = some out →
    Unmarked line ∧ ∀ l ∈ lines out, Unmarked l

/-- A text on one line has no other line than itself. -/
theorem unmarked_of_mem_lines {s : List Char} (hs : '\n' ∉ s) (h : Unmarked s) :
    ∀ l ∈ lines s, Unmarked l := by
  intro l hl
  rw [lines_of_not_mem hs, List.mem_singleton] at hl
  rwa [hl]

theorem isGap_ne_mark {c : Char} (h : isGap c = true) : c ≠ '`' ∧ c ≠ '|' := by
  rw [isGap, Bool.or_eq_true, beq_iff_eq, beq_iff_eq] at h
  rcases h with rfl | rfl <;> decide

theorem headingTitle_subset (level : Nat) (s : List Char) : headingTitle level s ⊆ s := by
  induction s with
  | nil => exact List.Subset.refl _
  | cons c s ih =>
    rw [headingTitle]
    split
    · exact List.nil_subset _
    · exact List.cons_subset_cons c ih

theorem tame_headingRule (level : Nat) : (headingRule level).Tame := by
  intro line out hn h
  obtain ⟨gaps, s, hne, hgaps, -, rfl, rfl⟩ := exists_of_headingRule h
  obtain ⟨c, gaps, rfl⟩ := List.exists_cons_of_ne_nil hne
  have title : '\n' ∉ headingTitle level s := fun hm =>
    hn (List.mem_append_right _ (List.mem_append_right _ (headingTitle_subset level s hm)))
  have gap := isGap_ne_mark (hgaps c List.mem_cons_self)
  refine ⟨unmarked_replicate_append (by decide) gap _ _, ?_⟩
  refine unmarked_of_mem_lines ?_ (unmarked_replicate_append (by decide) (by decide) _ _)
  simp [title]

theorem tame_bulletRule (indentation : Nat) {depth : Nat} (hd : depth ≠ 0) :
    (bulletRule indentation depth).Tame := by
  intro line out hn h
  obtain ⟨s, rfl, rfl⟩ := exists_of_bulletRule h
  have hs : '\n' ∉ s := fun hm => hn (by simp [hm])
  obtain ⟨depth, rfl⟩ := Nat.exists_eq_succ_of_ne_zero hd
  exact ⟨unmarked_replicate_append (by decide) (by decide) _ _,
    unmarked_of_mem_lines (by simp [hs]) (unmarked_cons (by decide) _)⟩

theorem tame_numberedRule : numberedRule.Tame := by
  intro line out hn h
  obtain ⟨digits, s, -, -, rfl, rfl⟩ := exists_of_numberedRule h
  have hs : '\n' ∉ s := fun hm => hn (by simp [hm])
  exact ⟨unmarked_cons (by decide) _,
    unmarked_of_mem_lines (by simp [hs]) (unmarked_cons (by decide) _)⟩

theorem tame_dividerRule : dividerRule.Tame := by
  intro line out hn h
  obtain ⟨n, -, rfl, rfl⟩ := exists_of_dividerRule h
  -- the line is written as it is, behind an empty one
  have dashes : Unmarked (List.replicate n '-') := by
    cases n with
    | zero => exact unmarked_nil
    | succ n => exact unmarked_cons (by decide) _
  refine ⟨dashes, ?_⟩
  intro l hl
  rw [lines_newline, lines_of_not_mem hn] at hl
  rcases List.mem_cons.1 hl with rfl | hl
  · exact unmarked_nil
  · rw [List.mem_singleton.1 hl]
    exact dashes

theorem tame_of_mem_blockRules {rule : LineRule} (h : rule ∈ blockRules) : rule.Tame := by
  apply of_mem_blockRules (P := LineRule.Tame) h
  · intro level _
    exact tame_headingRule level
  · intro indentation depth _ hd
    exact tame_bulletRule indentation hd
  · exact tame_numberedRule
  · exact tame_dividerRule

/-! ### All rules together -/

/-- On a single line a rule is tried once. -/
theorem applyLineRule_line (rule : LineRule) {line : List Char} (hn : '\n' ∉ line) :
    applyLineRule rule line = (rule line).getD line := by
  rw [applyLineRule, mapLines, lines_of_not_mem hn, List.map_singleton, unlines_singleton]

/-- What may become of a line: it is kept, or neither it nor what is written for it has a mark. -/
def KeepsMarks (line out : List Char) : Prop :=
  out = line ∨ Unmarked line ∧ ∀ l ∈ lines out, Unmarked l

theorem KeepsMarks.applyLineRule {rule : LineRule} (hrule : rule.Tame) {line out : List Char}
    (hn : '\n' ∉ line) (h : KeepsMarks line out) : KeepsMarks line (applyLineRule rule out) := by
  rcases h with rfl | ⟨hline, hout⟩
  · rw [applyLineRule_line rule hn]
    rcases hr : rule out with _ | written
    · exact .inl rfl
    · exact .inr (hrule hn hr)
  · refine .inr ⟨hline, ?_⟩
    intro l hl
    -- the rule goes on with the lines that the rules before it have written
    rw [Markup.applyLineRule, mapLines, lines_unlines_flatMap (by simp [lines_ne_nil])] at hl
    obtain ⟨t, ht, hlt⟩ := List.mem_flatMap.1 hl
    obtain ⟨before, hb, rfl⟩ := List.mem_map.1 ht
    have hbn := not_mem_of_mem_lines hb
    rcases hr : rule before with _ | written
    · rw [hr, Option.getD_none, lines_of_not_mem hbn, List.mem_singleton] at hlt
      rw [hlt]
      exact hout before hb
    · rw [hr, Option.getD_some] at hlt
      exact (hrule hbn hr).2 l hlt

/-- The block rules keep a line as it is, or the line and all that they write for it are
unmarked. -/
theorem blockMarkdown_line {line : List Char} (hn : '\n' ∉ line) :
    KeepsMarks line (blockMarkdown line) := by
  have run : ∀ (rules : List LineRule), (∀ rule ∈ rules, rule.Tame) → ∀ out, KeepsMarks line out →
      KeepsMarks line (rules.foldl (fun text rule => applyLineRule rule text) out) := by
    intro rules
    induction rules with
    | nil => exact fun _ _ h => h
    | cons rule rules ih =>
      intro tame out h
      exact ih (fun r hr => tame r (List.mem_cons_of_mem _ hr)) _
        (h.applyLineRule (tame rule List.mem_cons_self) hn)
  exact run blockRules (fun _ h => tame_of_mem_blockRules h) line (.inl rfl)

/-- The block rules convert a text line by line. -/
theorem linewise_blockMarkdown : Linewise blockMarkdown := by
  have run : ∀ rules : List LineRule,
      Linewise fun s => rules.foldl (fun text rule => applyLineRule rule text) s := by
    intro rules
    induction rules with
    | nil => exact Linewise.id
    | cons rule rules ih => exact ih.comp (Linewise.mapLines _)
  exact run blockRules

/-- A line that is no fence becomes lines that are no fences. -/
theorem not_isFence_of_mem_lines_blockMarkdown {line l : List Char} (hn : '\n' ∉ line)
    (h : isFence line = false) (hl : l ∈ lines (blockMarkdown line)) : isFence l = false := by
  rcases blockMarkdown_line hn with hout | ⟨-, hout⟩
  · rw [hout, lines_of_not_mem hn, List.mem_singleton] at hl
    rw [hl, h]
  · exact (hout l hl).not_isFence

end TicketMigration.Markup
