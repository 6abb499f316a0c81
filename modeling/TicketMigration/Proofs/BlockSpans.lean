import TicketMigration.Proofs.BlockLines
import TicketMigration.Proofs.SpannedText

/-!
# Block rules and code spans

A block rule replaces marks at the front of a line, and a heading rule also the mark at its end.  No
mark has a backtick.  So what a rule replaces stands in front of the first code span of a line or
behind the last one, and the spans stay.

## Main definitions

* `OnlySpans` — a text has given code spans and no other backtick.
* `LineRule.KeepsMiddle` — a line rule replaces what stands around the backticks.

## Main statements

* `OnlySpans.append_left`, `OnlySpans.of_append_left`, `OnlySpans.of_append_right` — text around the
  spans may come and go.
* `OnlySpans.blockMarkdown` — **no block rule reaches into a span.**
-/

namespace TicketMigration.Markup

open Text

/-! ### Spans and no other backtick -/

/-- The text has code spans of these codes, and no other backtick. -/
def OnlySpans (codes : List (List Char)) (s : List Char) : Prop :=
  ∃ t parts, s = spanned t parts ∧ parts.map Prod.fst = codes ∧ Lacks '`' t parts

section OnlySpans

variable {codes : List (List Char)} {s front back : List Char}

theorem OnlySpans.hasSpans (h : OnlySpans codes s) : HasSpans codes s := by
  obtain ⟨t, parts, hs, hc, -⟩ := h
  exact ⟨t, parts, hs, hc⟩

theorem OnlySpans.mem (h : OnlySpans codes s) (hne : codes ≠ []) : '`' ∈ s := by
  obtain ⟨t, parts, rfl, rfl, -⟩ := h
  cases parts with
  | nil => exact absurd rfl hne
  | cons part parts => simp [spanned_cons_eq]

/-- If no more backticks are there than the spans have, there are no others. -/
theorem HasSpans.onlySpans (h : HasSpans codes s) (ticks : ∀ code ∈ codes, '`' ∉ code)
    (count : s.count '`' ≤ 2 * codes.length) : OnlySpans codes s := by
  obtain ⟨t, parts, rfl, rfl⟩ := h
  rw [List.length_map] at count
  exact ⟨t, parts, rfl, rfl,
    lacks_of_count_le (fun part hp => ticks part.1 (List.mem_map_of_mem hp)) count⟩

/-- Text may be put around the spans. -/
theorem HasSpans.append (h : HasSpans codes s) (front back : List Char) :
    HasSpans codes (front ++ s ++ back) := by
  obtain ⟨t, parts, rfl, rfl⟩ := h
  rw [append_spanned]
  generalize front ++ t = t
  induction parts generalizing t with
  | nil => exact hasSpans_nil _
  | cons part parts ih =>
    obtain ⟨u, us, hu, hc⟩ := ih part.2
    refine ⟨t, (part.1, u) :: us, ?_, by rw [List.map_cons, hc, List.map_cons]⟩
    rw [spanned_cons t part, spanned_cons t (part.1, u), ← hu]
    simp

/-- Text without a backtick may be put in front of the spans. -/
theorem OnlySpans.append_left (h : OnlySpans codes s) (hf : '`' ∉ front) :
    OnlySpans codes (front ++ s) := by
  obtain ⟨t, parts, rfl, hc, ticks⟩ := h
  exact ⟨front ++ t, parts, append_spanned front t parts, hc,
    List.not_mem_append hf ticks.1, ticks.2⟩

/-- Text without a backtick may be dropped in front of the spans. -/
theorem OnlySpans.of_append_left (h : OnlySpans codes (front ++ s)) (hne : codes ≠ [])
    (hf : '`' ∉ front) : OnlySpans codes s := by
  obtain ⟨t, parts, hs, rfl, ticks⟩ := h
  cases parts with
  | nil => exact absurd rfl hne
  | cons part parts =>
    rw [spanned_cons_eq] at hs
    obtain ⟨more, rfl, rfl⟩ := exists_of_append_eq hf hs
    obtain ⟨ht, behind⟩ := lacks_cons.1 ticks
    exact ⟨more, part :: parts, (spanned_cons_eq more part parts).symm, rfl,
      lacks_cons.2 ⟨fun hm => ht (List.mem_append_right _ hm), behind⟩⟩

/-- Text without a backtick may be dropped behind the spans. -/
theorem OnlySpans.of_append_right (h : OnlySpans codes (s ++ back)) (hne : codes ≠ [])
    (hb : '`' ∉ back) : OnlySpans codes s := by
  obtain ⟨t, parts, hs, rfl, ticks⟩ := h
  induction parts generalizing s t with
  | nil => exact absurd rfl hne
  | cons part parts ih =>
    obtain ⟨front, code, behind⟩ := lacks_cons.1 ticks
    rw [spanned_cons_eq, ← List.cons_append, ← List.append_assoc] at hs
    obtain ⟨s', hs', rfl⟩ := exists_of_eq_append hb hs
    have whole : t ++ '`' :: part.1 ++ '`' :: s' = t ++ '`' :: (part.1 ++ '`' :: s') := by simp
    rw [whole]
    cases parts with
    | nil =>
      rw [spanned_nil] at hs'
      refine ⟨t, [(part.1, s')], by rw [spanned_cons_eq, spanned_nil], rfl, ?_⟩
      refine lacks_cons.2 ⟨front, code, fun hm => behind.1 ?_,
        fun _ hp => absurd hp List.not_mem_nil⟩
      rw [hs']
      exact List.mem_append_left _ hm
    | cons next parts =>
      obtain ⟨u, us, rfl, hc, lacks⟩ := ih part.2 hs'.symm behind (by simp)
      exact ⟨t, (part.1, u) :: us, by rw [spanned_cons_eq], congrArg (part.1 :: ·) hc,
        lacks_cons.2 ⟨front, code, lacks⟩⟩

end OnlySpans

/-! ### Block rules -/

/-- What the rule replaces has no backtick, and stands in front of all of them or behind. -/
def LineRule.KeepsMiddle (rule : LineRule) : Prop :=
  ∀ {line out}, rule line = some out → '`' ∈ line →
    ∃ front middle back front', line = front ++ middle ++ back ∧ out = front' ++ middle ∧
      '`' ∉ front ∧ '`' ∉ back ∧ '`' ∉ front' ∧ '\n' ∉ front'

theorem isGap_of_mem_takeWhile {s : List Char} : '`' ∉ s.takeWhile isGap := fun hm =>
  absurd (List.all_eq_true.1 List.all_takeWhile _ hm) (by decide)

/-- The end of a heading has gaps and equals signs only. -/
theorem not_mem_of_endsHeading {level : Nat} {s : List Char} (h : endsHeading level s = true) :
    '`' ∉ s := by
  have gaps {s : List Char} (hs : s.all isGap = true) : '`' ∉ s := fun hm =>
    absurd (List.all_eq_true.1 hs _ hm) (by decide)
  rw [endsHeading, Bool.or_eq_true, Bool.and_eq_true] at h
  rcases h with h | ⟨-, h⟩
  · exact gaps h
  · split at h
    · next rest hr =>
      rw [eq_append_of_after?_dropWhile hr]
      exact List.not_mem_append (List.not_mem_append isGap_of_mem_takeWhile (by simp)) (gaps h)
    · cases h

/-- What is left away behind the title of a heading. -/
theorem exists_eq_headingTitle_append (level : Nat) (s : List Char) :
    ∃ back, s = headingTitle level s ++ back ∧ '`' ∉ back := by
  induction s with
  | nil => exact ⟨[], rfl, List.not_mem_nil⟩
  | cons c s ih =>
    rw [headingTitle]
    split
    · next h => exact ⟨c :: s, rfl, not_mem_of_endsHeading h⟩
    · obtain ⟨back, hs, hb⟩ := ih
      exact ⟨back, by rw [List.cons_append, ← hs], hb⟩

theorem keepsMiddle_headingRule (level : Nat) : (headingRule level).KeepsMiddle := by
  rintro line out h -
  obtain ⟨gaps, s, -, hgaps, -, rfl, rfl⟩ := exists_of_headingRule h
  obtain ⟨back, hs, hb⟩ := exists_eq_headingTitle_append level s
  have noTick : '`' ∉ gaps := fun hm => absurd (hgaps _ hm) (by decide)
  refine ⟨List.replicate level '=' ++ gaps, headingTitle level s, back,
    List.replicate level '#' ++ [' '], ?_, by simp, by simp [noTick], hb, by simp, by simp⟩
  rw [List.append_assoc, List.append_assoc, ← hs]

theorem keepsMiddle_bulletRule (indentation depth : Nat) :
    (bulletRule indentation depth).KeepsMiddle := by
  rintro line out h -
  obtain ⟨s, rfl, rfl⟩ := exists_of_bulletRule h
  exact ⟨List.replicate indentation ' ' ++ ['*', ' '], s, [], List.replicate depth '*', by simp,
    rfl, by simp, by simp, by simp, by simp⟩

theorem keepsMiddle_numberedRule : numberedRule.KeepsMiddle := by
  rintro line out h -
  obtain ⟨digits, s, -, hd, rfl, rfl⟩ := exists_of_numberedRule h
  have noTick : '`' ∉ digits := fun hm => absurd (hd _ hm) (by decide)
  exact ⟨' ' :: (digits ++ ['.', ' ']), s, [], ['1', '.', ' '], by simp, rfl, by simp [noTick],
    by simp, by decide, by decide⟩

/-- A divider has no backtick at all. -/
theorem keepsMiddle_dividerRule : dividerRule.KeepsMiddle := by
  intro line out h tick
  obtain ⟨n, -, rfl, -⟩ := exists_of_dividerRule h
  exact absurd (List.eq_of_mem_replicate tick) (by decide)

theorem keepsMiddle_of_mem_blockRules {rule : LineRule} (h : rule ∈ blockRules) :
    rule.KeepsMiddle := by
  apply of_mem_blockRules (P := LineRule.KeepsMiddle) h
  · intro level _
    exact keepsMiddle_headingRule level
  · intro indentation depth _ _
    exact keepsMiddle_bulletRule indentation depth
  · exact keepsMiddle_numberedRule
  · exact keepsMiddle_dividerRule

theorem OnlySpans.applyLineRule {codes : List (List Char)} {rule : LineRule}
    (hrule : rule.KeepsMiddle) (hne : codes ≠ []) {line : List Char} (h : OnlySpans codes line)
    (hn : '\n' ∉ line) :
    OnlySpans codes (applyLineRule rule line) ∧ '\n' ∉ Markup.applyLineRule rule line := by
  rw [applyLineRule_line rule hn]
  cases hr : rule line with
  | none => exact ⟨h, hn⟩
  | some out =>
    obtain ⟨front, middle, back, front', rfl, rfl, hf, hb, hf', hn'⟩ := hrule hr (h.mem hne)
    simp only [List.mem_append, not_or] at hn
    have kept : OnlySpans codes middle := by
      rw [List.append_assoc] at h
      exact (h.of_append_left hne hf).of_append_right hne hb
    exact ⟨kept.append_left hf', List.not_mem_append hn' hn.1.2⟩

/-- **No block rule reaches into a code span.** -/
theorem OnlySpans.blockMarkdown {codes : List (List Char)} (hne : codes ≠ []) {line : List Char}
    (h : OnlySpans codes line) (hn : '\n' ∉ line) :
    OnlySpans codes (blockMarkdown line) ∧ '\n' ∉ Markup.blockMarkdown line := by
  have run : ∀ rules : List LineRule, (∀ rule ∈ rules, rule.KeepsMiddle) → ∀ s,
      OnlySpans codes s → '\n' ∉ s →
      OnlySpans codes (rules.foldl (fun text rule => Markup.applyLineRule rule text) s) ∧
        '\n' ∉ rules.foldl (fun text rule => Markup.applyLineRule rule text) s := by
    intro rules
    induction rules with
    | nil => exact fun _ s hs hn => ⟨hs, hn⟩
    | cons rule rules ih =>
      intro keeps s hs hn
      obtain ⟨hs', hn'⟩ := hs.applyLineRule (keeps rule List.mem_cons_self) hne hn
      exact ih (fun r hr => keeps r (List.mem_cons_of_mem _ hr)) _ hs' hn'
  exact run blockRules (fun _ hr => keepsMiddle_of_mem_blockRules hr) line h hn

end TicketMigration.Markup
