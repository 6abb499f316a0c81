import Mathlib.Data.List.Permutation
import TicketMigration.Proofs.CodeMarks

/-!
# When the pass over the lines follows the code blocks

The fences of a block are written at whatever place its braces have, but are looked for at the
beginnings of lines.  So a block whose opening braces stand behind other text loses its opening
fence, and its closing one turns the state for the rest of the text.  Empty code spans can do
harm as well, since two of them make a fence.

## Main definitions

* `BeginsLines` — every match of a rule is at the beginning of a line of the converted text.
* `BlocksFollowed` — the exact conditions.

## Main statements

* `CodeBlock.lines_of_read?` — the lines of a block, before and after the conversion.
* `blocksFollowed` — the conditions hold of every text.
* `not_passFollowsBlocks_blockBehindText` — a text whose block is lost.
-/

namespace TicketMigration.Markup

open Text

/-- Every piece that was written in the place of a match is at the beginning of a line. -/
def BeginsLines : Bool → List Piece → Prop
  | _, [] => True
  | _, .kept c :: ps => BeginsLines (c == '\n') ps
  | lineStart, .written _ :: ps => lineStart = true ∧ BeginsLines false ps

/-! ### Lines of the text with its spans -/

/-- If the line begins with a backtick, it begins with a code span that is not empty. -/
def FrontSpanFull (l : List Char) : Prop :=
  ∀ behind, l = '`' :: behind → ∃ content rest, content ≠ [] ∧ '`' ∉ content ∧
    behind = content ++ '`' :: rest

/-- A line that does not begin with two backticks is no fence. -/
theorem not_isFence_of_second {c : Char} {l : List Char} (h : c = '`' → l.head? ≠ some '`') :
    isFence (c :: l) = false := by
  rw [Bool.eq_false_iff, Ne, isFence_eq_true_iff]
  rintro ⟨rest, hr⟩
  obtain ⟨rfl, rfl⟩ := List.cons.inj hr
  exact h rfl rfl

theorem FrontSpanFull.not_isFence {l : List Char} (h : FrontSpanFull l) : isFence l = false := by
  cases l with
  | nil => rfl
  | cons c l =>
    refine not_isFence_of_second ?_
    rintro rfl
    obtain ⟨content, rest, hne, hc, rfl⟩ := h _ rfl
    cases content with
    | nil => exact absurd rfl hne
    | cons d content =>
      have : d ≠ '`' := fun hd => hc (hd ▸ List.mem_cons_self)
      simpa using this

/-- What stands in front of the opening braces of a block makes no fence with what is written for
them. -/
theorem FrontSpanFull.not_isFence_append {front : List Char}
    (h : FrontSpanFull (front ++ codeOpening)) (hne : front ≠ []) (s : List Char) :
    isFence (front ++ s) = false := by
  cases front with
  | nil => exact absurd rfl hne
  | cons c front =>
    refine not_isFence_of_second ?_
    rintro rfl
    obtain ⟨content, rest, hcne, hc, he⟩ := h _ rfl
    rcases content with _ | ⟨d, content⟩
    · exact absurd rfl hcne
    rcases front with _ | ⟨e, front⟩
    · -- the span would have to end among the braces
      have : '`' ∈ codeOpening := by
        rw [show codeOpening = d :: content ++ '`' :: rest from he]
        simp
      exact absurd this (by decide)
    · obtain ⟨rfl, -⟩ := List.cons.inj he
      have : e ≠ '`' := fun hd => hc (hd ▸ List.mem_cons_self)
      simpa using this

theorem frontSpanFull_nil : FrontSpanFull [] := by
  intro behind h
  cases h

theorem frontSpanFull_cons_of_ne {c : Char} (h : c ≠ '`') (l : List Char) :
    FrontSpanFull (c :: l) := by
  intro behind hb
  exact absurd (List.cons.inj hb).1 h

/-- What a code span is made from, and what it becomes. -/
theorem exists_of_codeSpanRule_match? {s out rest : List Char}
    (h : codeSpanRule.match? s = some (out, rest)) :
    ∃ content, s = codeOpening ++ (content ++ codeClosing ++ rest) ∧
      out = '`' :: content ++ ['`'] ∧ '\n' ∉ content := by
  obtain ⟨⟨content, rest'⟩, hp, he⟩ := Option.map_eq_some_iff.1 h
  obtain ⟨rfl, rfl⟩ := Prod.mk.inj he
  obtain ⟨inside, hi, hu⟩ := Option.bind_eq_some_iff.1 hp
  refine ⟨content, ?_, rfl, fun hm => ?_⟩
  · rw [after?_eq_some_iff.1 hi, ← eq_append_of_upTo? hu]
  · exact absurd (allowed_of_upTo? hu '\n' hm) (by decide)

/-- In a text without backticks and without empty spans, no line begins with two backticks after
the conversion of its spans. -/
theorem frontSpanFull_of_mem_lines {s : List Char} (htick : '`' ∉ s)
    (hspan : ¬ codeOpening ++ codeClosing <:+: s) {l : List Char}
    (hl : l ∈ lines (codeSpanRule.apply s)) : FrontSpanFull l := by
  induction s using Rule.pieces.induct codeSpanRule generalizing l with
  | case1 =>
    rw [Rule.apply_nil, lines_nil, List.mem_singleton] at hl
    rw [hl]
    exact frontSpanFull_nil
  | case2 c s out rest h ih =>
    -- the span is on the first line, the others are those of the text behind it
    obtain ⟨content, hcs, rfl, hn⟩ := exists_of_codeSpanRule_match? h
    have hrest : rest <:+ c :: s := ⟨codeOpening ++ (content ++ codeClosing), by simp [hcs]⟩
    obtain ⟨first, others, hr⟩ := exists_lines (codeSpanRule.apply rest)
    rw [Rule.apply_of_match h, lines_append_of_not_mem (by simpa using hn) hr,
      List.mem_cons] at hl
    rcases hl with rfl | hl
    · intro behind hb
      refine ⟨content, first, ?_, ?_, ?_⟩
      · rintro rfl
        exact hspan ⟨[], rest, by simp [hcs]⟩
      · exact fun hm => htick (by rw [hcs]; simp [hm])
      · simpa using (List.cons.inj hb).2.symm
    · exact ih (fun hm => htick (hrest.subset hm)) (fun hm => hspan (hm.trans hrest.isInfix))
        (hr ▸ List.mem_cons_of_mem _ hl)
  | case3 c s h ih =>
    rw [List.mem_cons, not_or] at htick
    have hs : ¬ codeOpening ++ codeClosing <:+: s :=
      fun hm => hspan (hm.trans (List.suffix_cons c s).isInfix)
    rw [Rule.apply_of_no_match h] at hl
    by_cases hc : c = '\n'
    · rw [hc, lines_newline, List.mem_cons] at hl
      rcases hl with rfl | hl
      · exact frontSpanFull_nil
      · exact ih htick.2 hs hl
    · obtain ⟨first, others, hf, hcf⟩ := lines_cons hc (codeSpanRule.apply s)
      rw [hcf, List.mem_cons] at hl
      rcases hl with rfl | hl
      · exact frontSpanFull_cons_of_ne (Ne.symm htick.1) first
      · exact ih htick.2 hs (hf ▸ List.mem_cons_of_mem _ hl)

/-! ### The lines of a block -/

namespace CodeBlock

theorem lines_of_readBody? {language s rest : List Char} {block : CodeBlock}
    (h : readBody? language s = some (block, rest)) :
    block.language = language ∧ ∃ r rs, lines rest = r :: rs ∧
      lines s = lines block.body ++ (codeClosing ++ r) :: rs := by
  obtain ⟨⟨body, rest'⟩, hp, he⟩ := Option.map_eq_some_iff.1 h
  obtain ⟨rfl, rfl⟩ := Prod.mk.inj he
  obtain ⟨r, rs, hr⟩ := exists_lines rest'
  refine ⟨rfl, r, rs, hr, ?_⟩
  rw [eq_append_of_upTo? hp, List.append_assoc, List.cons_append, lines_append_newline,
    lines_append_of_not_mem (by decide) hr]

/-- The language ends before the next newline. -/
theorem newline_not_mem_of_upTo? {s tag rest : List Char}
    (h : upTo? anywhere ['\n'] s = some (tag, rest)) : '\n' ∉ tag := by
  obtain ⟨l, ls, hs⟩ := exists_lines s
  have hl : '\n' ∉ l := not_mem_of_mem_lines (hs ▸ List.mem_cons_self)
  rw [eq_append_furtherLines hs] at h
  cases ls with
  | nil =>
    rw [furtherLines_nil, List.append_nil, upTo?_newline_eq_none hl] at h
    cases h
  | cons l' ls =>
    rw [furtherLines_cons, upTo?_append_newline hl, after?_nil] at h
    obtain ⟨rfl, -⟩ := Prod.mk.inj (Option.some.inj h)
    exact hl

theorem lines_fenced (block : CodeBlock) :
    lines block.fenced = lines (fence ++ block.language) ++ (lines block.body ++ [fence]) := by
  rw [fenced, List.append_assoc, List.cons_append, lines_append_newline, lines_append_newline,
    lines_of_not_mem (l := fence) newline_not_mem_fence]

/-- The lines of a block with a language, behind its opening braces. -/
theorem lines_of_readTagged? {inside rest : List Char} {block : CodeBlock}
    (h : readTagged? inside = some (block, rest)) :
    ∃ tag before body r rs, lines block.fenced = (fence ++ tag) :: (body ++ [fence]) ∧ body ≠ [] ∧
      lines rest = r :: rs ∧ lines inside = before ++ (body ++ (codeClosing ++ r) :: rs) := by
  rw [readTagged?] at h
  split at h
  · next c tail htail =>
    obtain ⟨⟨tag, tail'⟩, hp, h⟩ := Option.bind_eq_some_iff.1 h
    obtain ⟨hlanguage, r, rs, hrest, hbody⟩ := lines_of_readBody? h
    have htag : '\n' ∉ tag := newline_not_mem_of_upTo? hp
    have hinside : inside = ['#', '!'] ++ c :: (tag ++ '\n' :: tail') := by
      rw [after?_eq_some_iff.1 htail, eq_append_of_upTo? hp]
      simp
    by_cases hc : c = '\n'
    · -- a language that begins with a newline is a line of the block like the others
      subst hc
      refine ⟨[], [['#', '!']], tag :: lines block.body, r, rs, ?_, by simp, hrest, ?_⟩
      · rw [lines_fenced, hlanguage, lines_append_newline, lines_of_not_mem (by decide),
          lines_of_not_mem htag]
        simp
      · rw [hinside, lines_append_cons (by decide), lines_append_cons htag, hbody]
        rfl
    · have hfirst : '\n' ∉ c :: tag := by simp [htag, Ne.symm hc]
      refine ⟨c :: tag, ['#' :: '!' :: c :: tag], lines block.body, r, rs, ?_, lines_ne_nil _,
        hrest, ?_⟩
      · have : '\n' ∉ fence ++ c :: tag :=
          List.not_mem_append newline_not_mem_fence hfirst
        rw [lines_fenced, hlanguage, lines_of_not_mem this]
        rfl
      · have : '\n' ∉ ['#', '!'] ++ c :: tag := List.not_mem_append (by decide) hfirst
        rw [hinside, ← List.cons_append, ← List.append_assoc, lines_append_cons this, hbody]
        rfl
  · cases h

/-- The lines of a block.  In the source the opening braces stand on a line of their own and the
closing ones at the beginning of a line; the lines of the body, and no others than those from the
source, stand between the fences. -/
theorem lines_of_read? {s rest : List Char} {block : CodeBlock}
    (h : read? s = some (block, rest)) :
    ∃ tag before body r rs, lines block.fenced = (fence ++ tag) :: (body ++ [fence]) ∧ body ≠ [] ∧
      lines rest = r :: rs ∧
      lines s = codeOpening :: (before ++ (body ++ (codeClosing ++ r) :: rs)) := by
  obtain ⟨inside, hi, hr⟩ := Option.bind_eq_some_iff.1 h
  have whole : lines s = codeOpening :: lines inside := by
    rw [after?_eq_some_iff.1 hi, List.append_assoc, List.singleton_append,
      lines_append_newline, lines_of_not_mem (by decide), List.singleton_append]
  rcases Option.or_eq_some_iff.1 hr with hr | ⟨-, hr⟩
  · obtain ⟨tag, before, body, r, rs, hfenced, hne, hrest, hinside⟩ := lines_of_readTagged? hr
    exact ⟨tag, before, body, r, rs, hfenced, hne, hrest, by rw [whole, hinside]⟩
  · -- without a language the first line of the body stands right behind the opening one
    obtain ⟨hlanguage, r, rs, hrest, hbody⟩ := lines_of_readBody? hr
    refine ⟨[], [], lines block.body, r, rs, ?_, lines_ne_nil _, hrest, ?_⟩
    · rw [lines_fenced, hlanguage, List.append_nil, lines_of_not_mem newline_not_mem_fence]
      rfl
    · rw [whole, hbody]
      rfl

end CodeBlock

/-! ### The scan from any place of a text -/

/-- The marked lines of a text after the conversion of its blocks. -/
def blockLines (s : List Char) : List (List Char × Bool) :=
  markedLines ((codeBlockRule.pieces s).flatMap Piece.marked)

theorem isFence_append {front : List Char} (h : isFence front = true) (s : List Char) :
    isFence (front ++ s) = true := by
  rw [isFence_eq_true_iff] at h ⊢
  exact h.trans (List.prefix_append front s)

theorem not_follows_text_of_marked {l : List Char} {ls : List (List Char × Bool)}
    (h : isFence l = false) : ¬ Follows .text ((l, true) :: ls) := by
  rw [follows_text_cons h]
  rintro ⟨hm, -⟩
  cases hm

/-- The scan of a text from three kinds of places accepts it if all its blocks begin lines. -/
structure ScanAgrees (s l : List Char) : Prop where
  /-- At the beginning of a line. -/
  start : FrontSpanFull l →
    (Follows .text (blockLines s) ↔ BeginsLines true (codeBlockRule.pieces s))
  /-- Behind other text on the line. -/
  behindText : ∀ front, front ≠ [] → FrontSpanFull (front ++ l) →
    (Follows .text (prependMarked front false (blockLines s))
      ↔ BeginsLines false (codeBlockRule.pieces s))
  /-- On the line that closes a block. -/
  behindBlock : ∀ front, isFence front = true →
    (Follows .code (prependMarked front true (blockLines s))
      ↔ BeginsLines false (codeBlockRule.pieces s))

theorem blockLines_of_read? {c : Char} {s rest : List Char} {block : CodeBlock}
    (h : CodeBlock.read? (c :: s) = some (block, rest)) {tag : List Char}
    {body : List (List Char)} (hlines : lines block.fenced = (fence ++ tag) :: (body ++ [fence])) :
    blockLines (c :: s)
      = (fence ++ tag, true) :: (body.map (fun l => (l, true))
          ++ prependMarked fence true (blockLines rest)) := by
  have hmatch : codeBlockRule.match? (c :: s) = some (block.fenced, rest) := by
    simp [codeBlockRule, h]
  have hn : ∀ l ∈ (fence ++ tag) :: body, '\n' ∉ l := by
    intro l hl
    refine not_mem_of_mem_lines (s := block.fenced) ?_
    rw [hlines, ← List.cons_append]
    exact List.mem_append_left _ hl
  rw [blockLines, Rule.pieces_of_match hmatch, List.flatMap_cons, Piece.marked,
    ← unlines_lines block.fenced, hlines, ← List.cons_append,
    markedLines_written hn newline_not_mem_fence (by decide)]
  rfl

theorem blockLines_of_no_match {c : Char} {s : List Char}
    (h : codeBlockRule.match? (c :: s) = none) :
    blockLines (c :: s)
      = markedLines ((c, false) :: (codeBlockRule.pieces s).flatMap Piece.marked) := by
  rw [blockLines, Rule.pieces_of_no_match h]
  rfl

theorem scanAgrees_nil : ScanAgrees [] [] := by
  have here : blockLines [] = [([], false)] := by
    rw [blockLines, Rule.pieces_nil]
    rfl
  refine ⟨fun _ => ?_, fun front _ hfull => ?_, fun front hf => ?_⟩
  · rw [here, Rule.pieces_nil, follows_text_cons rfl]
    exact iff_of_true ⟨rfl, rfl⟩ trivial
  · rw [here, Rule.pieces_nil, prependMarked, follows_text_cons hfull.not_isFence]
    exact iff_of_true ⟨rfl, rfl⟩ trivial
  · rw [here, Rule.pieces_nil, prependMarked, follows_cons_of_isFence (isFence_append hf _)]
    exact iff_of_true ⟨rfl, rfl⟩ trivial

/-- A newline ends the line, and the scan goes on at the beginning of the next one. -/
theorem scanAgrees_newline {s l : List Char} (h : codeBlockRule.match? ('\n' :: s) = none)
    (rest : ScanAgrees s l) (hl : FrontSpanFull l) : ScanAgrees ('\n' :: s) [] := by
  have here : blockLines ('\n' :: s) = ([], false) :: blockLines s := blockLines_of_no_match h
  have next := rest.start hl
  refine ⟨fun _ => ?_, fun front _ hfull => ?_, fun front hf => ?_⟩
  · rw [here, Rule.pieces_of_no_match h, follows_text_cons rfl, next]
    exact and_iff_right rfl
  · rw [here, Rule.pieces_of_no_match h, prependMarked, follows_text_cons hfull.not_isFence, next]
    exact and_iff_right rfl
  · rw [here, Rule.pieces_of_no_match h, prependMarked,
      follows_cons_of_isFence (isFence_append hf _)]
    exact (and_iff_right rfl).trans next

/-- Another character is behind other text on its line from then on. -/
theorem scanAgrees_char {c : Char} {s l : List Char} (h : codeBlockRule.match? (c :: s) = none)
    (hc : c ≠ '\n') (rest : ScanAgrees s l) : ScanAgrees (c :: s) (c :: l) := by
  have here : blockLines (c :: s) = prependMarked [c] false (blockLines s) := by
    rw [blockLines_of_no_match h, markedLines_cons hc]
    rfl
  have behind (lineStart : Bool) : BeginsLines lineStart (codeBlockRule.pieces (c :: s))
      ↔ BeginsLines false (codeBlockRule.pieces s) := by
    rw [Rule.pieces_of_no_match h, BeginsLines, beq_eq_false_iff_ne.2 hc]
  refine ⟨fun hfull => ?_, fun front _ hfull => ?_, fun front hf => ?_⟩
  · rw [here, behind]
    exact rest.behindText [c] (by simp) hfull
  · rw [here, behind, prependMarked_prependMarked]
    exact rest.behindText (front ++ [c]) (by simp) (by simpa using hfull)
  · rw [here, behind, prependMarked_prependMarked]
    exact rest.behindBlock (front ++ [c]) (isFence_append hf _)

/-- A block has its opening fence where the scan is, lines that are no fences, and a closing fence
that begins a line. -/
theorem scanAgrees_block {c : Char} {s rest r : List Char} {block : CodeBlock}
    (h : CodeBlock.read? (c :: s) = some (block, rest)) {tag : List Char}
    {body : List (List Char)} (hlines : lines block.fenced = (fence ++ tag) :: (body ++ [fence]))
    (hne : body ≠ []) (hbody : ∀ l ∈ body, FrontSpanFull l) (behind : ScanAgrees rest r) :
    ScanAgrees (c :: s) codeOpening := by
  have here := blockLines_of_read? h hlines
  have hno : ∀ l ∈ body, isFence l = false := fun l hl => (hbody l hl).not_isFence
  have hmatch : codeBlockRule.match? (c :: s) = some (block.fenced, rest) := by
    simp [codeBlockRule, h]
  have next := behind.behindBlock fence rfl
  have opening : isFence (fence ++ tag) = true := isFence_append rfl tag
  refine ⟨fun _ => ?_, fun front hfront hfull => ?_, fun front hf => ?_⟩
  · rw [here, Rule.pieces_of_match hmatch,
      follows_cons_of_isFence opening]
    exact and_congr (iff_of_true rfl rfl) ((follows_code_append hno _).trans next)
  · -- the opening fence is lost among other text on its line
    rw [here, Rule.pieces_of_match hmatch, prependMarked]
    refine iff_of_false ?_ (fun hb => Bool.false_ne_true hb.1)
    exact not_follows_text_of_marked (hfull.not_isFence_append hfront _)
  · -- the closing fence of the block before serves as the opening one, so the body is not kept
    rw [here, Rule.pieces_of_match hmatch, prependMarked,
      follows_cons_of_isFence (isFence_append hf _)]
    refine iff_of_false ?_ (fun hb => Bool.false_ne_true hb.1)
    rintro ⟨-, hcode⟩
    cases body with
    | nil => exact hne rfl
    | cons l body => exact not_follows_text_of_marked (hno l List.mem_cons_self) hcode

/-- Wherever a text without empty spans begins, the scan accepts it just if its blocks begin
lines. -/
theorem scanAgrees {s l : List Char} {ls : List (List Char)} (hlines : lines s = l :: ls)
    (hls : ∀ l' ∈ ls, FrontSpanFull l') : ScanAgrees s l := by
  induction s using Rule.pieces.induct codeBlockRule generalizing l ls with
  | case1 =>
    obtain ⟨rfl, rfl⟩ := List.cons.inj hlines
    exact scanAgrees_nil
  | case2 c s out rest h ih =>
    obtain ⟨⟨block, rest'⟩, hr, he⟩ := Option.map_eq_some_iff.1 h
    obtain ⟨rfl, rfl⟩ := Prod.mk.inj he
    obtain ⟨tag, before, body, r, rs, hfenced, hne, hrest, hwhole⟩ := CodeBlock.lines_of_read? hr
    rw [hwhole] at hlines
    obtain ⟨rfl, rfl⟩ := List.cons.inj hlines
    refine scanAgrees_block hr hfenced hne (fun l' hl' => hls l' ?_)
      (ih hrest fun l' hl' => hls l' ?_)
    · simp [hl']
    · simp [hl']
  | case3 c s h ih =>
    by_cases hc : c = '\n'
    · subst hc
      rw [lines_newline] at hlines
      obtain ⟨rfl, rfl⟩ := List.cons.inj hlines
      obtain ⟨l, ls, hs⟩ := exists_lines s
      rw [hs] at hls
      exact scanAgrees_newline h (ih hs fun l' hl' => hls l' (List.mem_cons_of_mem _ hl'))
        (hls l List.mem_cons_self)
    · obtain ⟨l', ls', hs, hcs⟩ := lines_cons hc s
      rw [hcs] at hlines
      obtain ⟨rfl, rfl⟩ := List.cons.inj hlines
      exact scanAgrees_char h hc (ih hs hls)

/-! ### The exact conditions -/

/-- When the pass over the lines follows the code blocks of a text. -/
structure BlocksFollowed (base s : List Char) : Prop where
  /-- The marked lines are those of the text after the conversion of its code, -/
  marked : (codeLines s).map Prod.fst = lines (codeMarkdown (unixNewlines s))
  /-- and what the block rules write for them are the lines that the pass reads. -/
  groups : (writtenGroups (codeMarkdown (unixNewlines s))).flatten
    = lines (mapUnfenced blockMarkdown (codeMarkdown (unixNewlines s)))
  /-- In any text: exactly if the fences at the beginnings of lines come in pairs, each with
  nothing but lines of blocks from the one to the other. -/
  paired : PassFollowsBlocks base s ↔ Paired (codeLines s)
  /-- In a text without backticks and without empty spans: exactly if the opening braces of all
  blocks begin lines. -/
  beginsLines : '`' ∉ s → ¬ codeOpening ++ codeClosing <:+: s →
    (PassFollowsBlocks base s
      ↔ BeginsLines true (codeBlockRule.pieces (codeSpanRule.apply (unixNewlines s))))

/-- In a text without backticks and empty spans the scan of its lines accepts it just if its
blocks begin lines. -/
theorem follows_codeLines_iff_beginsLines {s : List Char} (htick : '`' ∉ s)
    (hspan : ¬ codeOpening ++ codeClosing <:+: s) :
    Follows .text (codeLines s)
      ↔ BeginsLines true (codeBlockRule.pieces (codeSpanRule.apply (unixNewlines s))) := by
  have full : ∀ {l}, l ∈ lines (codeSpanRule.apply (unixNewlines s)) → FrontSpanFull l :=
    fun hl => frontSpanFull_of_mem_lines (fun hm => htick (mem_of_mem_unixNewlines (by decide) hm))
      (not_infix_unixNewlines (by decide) (by decide) hspan) hl
  obtain ⟨l, ls, hl⟩ := exists_lines (codeSpanRule.apply (unixNewlines s))
  have scan := scanAgrees hl fun l' hl' => full (hl ▸ List.mem_cons_of_mem _ hl')
  exact scan.start (full (hl ▸ List.mem_cons_self))

/-- **When the pass follows the code blocks.**  The lines that the pass over the lines takes for
fences and code are those of the code blocks exactly if the fences pair up, and where nothing else
can make a fence, exactly if no block begins behind other text on its line. -/
theorem blocksFollowed (base s : List Char) : BlocksFollowed base s where
  marked := map_fst_codeLines s
  groups := flatten_writtenGroups _
  paired := (passFollowsBlocks_iff_follows base s).trans (follows_iff_paired _)
  beginsLines := fun htick hspan =>
    (passFollowsBlocks_iff_follows base s).trans (follows_codeLines_iff_beginsLines htick hspan)

/-- A text with a span and two blocks, which begin lines. -/
theorem passFollowsBlocks_span_and_blocks :
    PassFollowsBlocks [] (codeOpening ++ ['a'] ++ codeClosing ++ '\n' :: codeOpening
      ++ "\n= b\n".toList ++ codeClosing ++ " c\n".toList ++ codeOpening ++ "\n#!sh\n\n".toList
      ++ codeClosing) :=
  ((blocksFollowed [] _).beginsLines (by decide)
    (by simp only [String.reduceToList]; decide)).2 (by cbv)

/-- A block whose opening braces stand behind other text on their line. -/
def blockBehindText : List Char :=
  "x ".toList ++ codeOpening ++ "\n'''c'''\n".toList ++ codeClosing ++ "\n'''y'''".toList

/-- The opening fence of the block is not at the beginning of its line, so the body is read as
ordinary text, and the text behind the block as code. -/
theorem not_passFollowsBlocks_blockBehindText :
    '`' ∉ blockBehindText ∧
    codeLines blockBehindText
      = [("x ```".toList, true), ("'''c'''".toList, true), ("```".toList, true),
          ("'''y'''".toList, false)] ∧
    codeView [] (codeMarkdown (unixNewlines blockBehindText))
      = [("x ```".toList, .text, false), ("'''c'''".toList, .text, false),
          ("```".toList, .text, true), ("'''y'''".toList, .code, true)] ∧
    ¬ PassFollowsBlocks [] blockBehindText := by
  have marks : codeLines blockBehindText
      = [("x ```".toList, true), ("'''c'''".toList, true), ("```".toList, true),
          ("'''y'''".toList, false)] := by
    cbv
  refine ⟨by decide, marks, ?_, ?_⟩
  · rw [codeView_eq]
    cbv
  · rw [passFollowsBlocks_iff_follows, marks]
    exact not_follows_text_of_marked rfl

end TicketMigration.Markup
