import TicketMigration.Proofs.CodePassage
import TicketMigration.Proofs.WithinLines

/-!
# Where code blocks end

A code block should end at the first line behind its opening one that begins with closing braces.
But its closing braces are looked for behind a newline, and the newline at the end of the opening
line, or of the line that names the language, has been read by then.  So closing braces on the very
next line are not seen, and the block goes on to those of some later line, through all the text in
between.  These are the only closing lines that a block can hold.

## Main definitions

* `ReadBlock`, `codeBlocks` — the code blocks of a text, with what surrounds them.
* `ReadBlock.EndsAtClosing` — the block ends at its own closing line.
* `CodeBlock.HoldsClosing` — a line of the block begins with closing braces.
* `BlocksEnd` — when the blocks of a text end where they should.

## Main statements

* `blocksEnd` — **a block ends at its own closing line exactly if neither its body nor a second
  line of its language begins with closing braces.**
* `not_endsAtClosing_emptyBlock` — an empty block swallows the text up to the next block.
-/

namespace TicketMigration.Text

/-- A marker on one line begins a text exactly if it begins the first line. -/
theorem isPrefix_iff_first_line {marker s l : List Char} {ls : List (List Char)}
    (hm : '\n' ∉ marker) (hs : lines s = l :: ls) : marker <+: s ↔ marker <+: l := by
  rw [← not_iff_not, ← after?_eq_none_iff, ← after?_eq_none_iff, eq_append_furtherLines hs,
    after?_append_furtherLines hm, Option.map_eq_none_iff]

/-- The first line that is found is the first one there is: none of the lines before it begins with
the marker, except that the very first one is not looked at. -/
theorem not_isPrefix_of_upTo?_newline {marker s body rest : List Char}
    (h : upTo? anywhere ('\n' :: marker) s = some (body, rest)) :
    ∀ l ∈ (lines body).tail, ¬ marker <+: l := by
  obtain ⟨first, further, hs⟩ := exists_lines s
  induction further generalizing s first body with
  | nil =>
    have line : '\n' ∉ first := not_mem_of_mem_lines (hs ▸ List.mem_cons_self)
    rw [eq_append_furtherLines hs, furtherLines_nil, List.append_nil,
      upTo?_newline_eq_none line] at h
    cases h
  | cons second further ih =>
    have line : ∀ l ∈ first :: second :: further, '\n' ∉ l := fun l hl =>
      not_mem_of_mem_lines (hs ▸ hl)
    have rest' : lines (second ++ furtherLines further) = second :: further := by
      rw [← unlines_cons_eq, lines_unlines (by simp) fun l hl => line l (List.mem_cons_of_mem _ hl)]
    rw [eq_append_furtherLines hs, furtherLines_cons,
      upTo?_append_newline (line first List.mem_cons_self)] at h
    split at h
    · obtain ⟨rfl, -⟩ := Prod.mk.inj (Option.some.inj h)
      rw [lines_of_not_mem (line _ List.mem_cons_self)]
      simp
    · next missing =>
      obtain ⟨⟨body', tail⟩, hp, he⟩ := Option.map_eq_some_iff.1 h
      obtain ⟨rfl, rfl⟩ := Prod.mk.inj he
      rw [lines_append_cons (line first List.mem_cons_self), List.tail_cons]
      obtain ⟨head, others, hbody⟩ := exists_lines body'
      have behind := ih hp second rest'
      rw [hbody] at behind ⊢
      rw [List.forall_mem_cons]
      refine ⟨fun begins => after?_eq_none_iff.1 missing ?_, behind⟩
      -- the second line begins as the part of it that belongs to the body
      rw [eq_append_of_upTo? hp, eq_append_furtherLines hbody]
      simp only [List.append_assoc]
      exact begins.trans (List.prefix_append _ _)

end TicketMigration.Text

namespace TicketMigration.Markup

open Text

/-! ### The blocks of a text -/

/-- A code block that is read from a text. -/
structure ReadBlock where
  /-- The text behind the opening line. -/
  inside : List Char
  /-- What is read. -/
  block : CodeBlock
  /-- The text behind the closing braces. -/
  rest : List Char

/-- The code blocks of a text, read from the left. -/
def codeBlocks : List Char → List ReadBlock
  | [] => []
  | c :: s =>
    match _h : CodeBlock.read? (c :: s) with
    -- three braces and a newline are the opening line
    | some (block, rest) => ⟨(c :: s).drop 4, block, rest⟩ :: codeBlocks rest
    | none => codeBlocks s
termination_by s => s.length
decreasing_by
  · exact CodeBlock.length_of_read? _h
  · simp

theorem codeBlocks_of_read? {c : Char} {s rest : List Char} {block : CodeBlock}
    (h : CodeBlock.read? (c :: s) = some (block, rest)) :
    codeBlocks (c :: s) = ⟨(c :: s).drop 4, block, rest⟩ :: codeBlocks rest := by
  rw [codeBlocks]
  split
  · next h' =>
    rw [h] at h'
    cases h'
    rfl
  · next h' => rw [h] at h'; cases h'

theorem codeBlocks_of_none {c : Char} {s : List Char} (h : CodeBlock.read? (c :: s) = none) :
    codeBlocks (c :: s) = codeBlocks s := by
  rw [codeBlocks]
  split
  · next h' => rw [h] at h'; cases h'
  · rfl

/-- What a piece of a converted text was written as, if it is no kept character. -/
def Piece.written? : Piece → Option (List Char)
  | .kept _ => none
  | .written out => some out

/-- The conversion writes these blocks, and it writes them between fences. -/
theorem filterMap_written?_pieces (s : List Char) :
    (codeBlockRule.pieces s).filterMap Piece.written? = (codeBlocks s).map (·.block.fenced) := by
  induction s using codeBlocks.induct with
  | case1 => simp [codeBlocks]
  | case2 c s block rest h ih =>
    have matched : codeBlockRule.match? (c :: s) = some (block.fenced, rest) := by
      simp [codeBlockRule, h]
    rw [Rule.pieces_of_match matched, codeBlocks_of_read? h, List.map_cons, ← ih]
    rfl
  | case3 c s h ih =>
    have noMatch : codeBlockRule.match? (c :: s) = none := by simp [codeBlockRule, h]
    rw [Rule.pieces_of_no_match noMatch, codeBlocks_of_none h, ← ih]
    rfl

/-- Each block is read from an opening line and what stands behind it. -/
theorem read?_of_mem_codeBlocks {s : List Char} {b : ReadBlock} (h : b ∈ codeBlocks s) :
    CodeBlock.read? (codeOpening ++ '\n' :: b.inside) = some (b.block, b.rest) := by
  induction s using codeBlocks.induct with
  | case1 => simp [codeBlocks] at h
  | case2 c s block rest hr ih =>
    rw [codeBlocks_of_read? hr, List.mem_cons] at h
    rcases h with rfl | h
    · obtain ⟨inside, hi, -⟩ := Option.bind_eq_some_iff.1 hr
      have whole : c :: s = codeOpening ++ '\n' :: inside := by
        rw [after?_eq_some_iff.1 hi]
        simp
      rw [whole] at hr ⊢
      exact hr
    · exact ih h
  | case3 c s hn ih =>
    rw [codeBlocks_of_none hn] at h
    exact ih h

/-! ### Closing lines -/

/-- The block ends at the first line behind its opening one that begins with closing braces. -/
def ReadBlock.EndsAtClosing (b : ReadBlock) : Prop :=
  ∃ before behindBraces behind,
    lines b.inside = before ++ (codeClosing ++ behindBraces) :: behind ∧
      (∀ l ∈ before, ¬ codeClosing <+: l) ∧ lines b.rest = behindBraces :: behind

namespace CodeBlock

/-- A line of the body or of the language begins with closing braces.  The first line of the
language does not count, since it stands behind `#!`. -/
def HoldsClosing (block : CodeBlock) : Prop :=
  (∃ l ∈ lines block.body, codeClosing <+: l) ∨ ∃ l ∈ (lines block.language).tail, codeClosing <+: l

/-- The body of a block holds closing braces at the beginning of its first line at most. -/
theorem closing_of_readBody? {language s rest : List Char} {block : CodeBlock}
    (h : readBody? language s = some (block, rest)) {l : List Char} (hl : l ∈ lines block.body)
    (begins : codeClosing <+: l) : codeClosing <+: block.body := by
  obtain ⟨⟨body, rest'⟩, hp, he⟩ := Option.map_eq_some_iff.1 h
  obtain ⟨rfl, rfl⟩ := Prod.mk.inj he
  have behind := not_isPrefix_of_upTo?_newline hp
  obtain ⟨first, further, hbody⟩ := exists_lines body
  dsimp only at hl ⊢
  rw [hbody] at hl behind
  rcases List.mem_cons.1 hl with rfl | hl
  · exact (isPrefix_iff_first_line (by decide) hbody).2 begins
  · exact absurd begins (behind l hl)

/-- How a block is read behind its opening line: without a language, or behind a line that names
one. -/
theorem readBody?_of_read? {inside rest : List Char} {block : CodeBlock}
    (h : read? (codeOpening ++ '\n' :: inside) = some (block, rest)) :
    block.language = [] ∧ readBody? block.language inside = some (block, rest) ∨
      ∃ first tag s, block.language = first :: tag ∧ '\n' ∉ tag ∧
        inside = ('#' :: '!' :: block.language) ++ '\n' :: s ∧
        readBody? block.language s = some (block, rest) := by
  have opening : codeOpening ++ '\n' :: inside = (codeOpening ++ ['\n']) ++ inside := by simp
  rw [opening, read?, after?_append, Option.bind_some] at h
  rcases Option.or_eq_some_iff.1 h with tagged | ⟨-, plain⟩
  · rw [readTagged?] at tagged
    split at tagged
    · next first tail htail =>
      obtain ⟨⟨tag, s⟩, hp, body⟩ := Option.bind_eq_some_iff.1 tagged
      have language := (lines_of_readBody? body).1
      refine .inr ⟨first, tag, s, language, newline_not_mem_of_upTo? hp, ?_, language ▸ body⟩
      rw [after?_eq_some_iff.1 htail, eq_append_of_upTo? hp, language]
      simp
    · cases tagged
  · have language := (lines_of_readBody? plain).1
    exact .inl ⟨language, language ▸ plain⟩

/-- The lines of a block behind its opening line: the line that names the language, if there is one,
those of the body, and the closing line. -/
theorem lines_inside {inside rest : List Char} {block : CodeBlock}
    (h : read? (codeOpening ++ '\n' :: inside) = some (block, rest)) :
    ∃ names behindBraces behind, lines rest = behindBraces :: behind ∧
      lines inside = names ++ lines block.body ++ (codeClosing ++ behindBraces) :: behind ∧
      (names = [] ∧ block.language = [] ∨ names = lines ('#' :: '!' :: block.language)) := by
  rcases readBody?_of_read? h with ⟨language, body⟩ | ⟨first, tag, s, -, -, hinside, body⟩
  · obtain ⟨-, r, rs, hrest, hbody⟩ := lines_of_readBody? body
    exact ⟨[], r, rs, hrest, hbody, .inl ⟨rfl, language⟩⟩
  · obtain ⟨-, r, rs, hrest, hbody⟩ := lines_of_readBody? body
    refine ⟨_, r, rs, hrest, ?_, .inr rfl⟩
    rw [hinside, lines_append_newline, hbody, List.append_assoc]

/-- The line that names a language does not close the block, and further lines of the language are
lines of their own. -/
theorem forall_names_iff (language : List Char) :
    (∀ l ∈ lines ('#' :: '!' :: language), ¬ codeClosing <+: l) ↔
      ∀ l ∈ (lines language).tail, ¬ codeClosing <+: l := by
  obtain ⟨first, further, hl⟩ := exists_lines language
  have named : lines ('#' :: '!' :: language) = ('#' :: '!' :: first) :: further :=
    lines_append_of_not_mem (a := ['#', '!']) (by decide) hl
  rw [named, hl, List.forall_mem_cons, List.tail_cons]
  exact and_iff_right (by simp [codeClosing])

end CodeBlock

/-- **A block ends at its own closing line exactly if it holds no other one.** -/
theorem ReadBlock.endsAtClosing_iff {b : ReadBlock}
    (h : CodeBlock.read? (codeOpening ++ '\n' :: b.inside) = some (b.block, b.rest)) :
    b.EndsAtClosing ↔ ¬ b.block.HoldsClosing := by
  obtain ⟨names, r, rs, hrest, hinside, hnames⟩ := CodeBlock.lines_inside h
  have held : (∀ l ∈ names ++ lines b.block.body, ¬ codeClosing <+: l) ↔
      ¬ b.block.HoldsClosing := by
    have tail : (∀ l ∈ names, ¬ codeClosing <+: l) ↔
        ∀ l ∈ (lines b.block.language).tail, ¬ codeClosing <+: l := by
      rcases hnames with ⟨rfl, language⟩ | rfl
      · simp [language]
      · exact CodeBlock.forall_names_iff _
    rw [List.forall_mem_append, tail, CodeBlock.HoldsClosing, not_or, and_comm]
    simp only [not_exists, not_and]
  rw [← held]
  constructor
  · rintro ⟨before, r', rs', he, open', hrest'⟩
    -- both descriptions have the closing line in front of the same lines
    obtain ⟨rfl, rfl⟩ := List.cons.inj (hrest.symm.trans hrest')
    rwa [List.append_cancel_right (hinside.symm.trans he)]
  · exact fun none => ⟨_, r, rs, hinside, none, hrest⟩

/-- **A block can hold closing braces in two places only:** at the beginning of its body, and at the
beginning of a second line of its language. -/
theorem CodeBlock.holdsClosing_iff {inside rest : List Char} {block : CodeBlock}
    (h : read? (codeOpening ++ '\n' :: inside) = some (block, rest)) :
    block.HoldsClosing ↔ codeClosing <+: block.body ∨ '\n' :: codeClosing <+: block.language := by
  have body : (∃ l ∈ lines block.body, codeClosing <+: l) ↔ codeClosing <+: block.body := by
    constructor
    · rintro ⟨l, hl, begins⟩
      rcases readBody?_of_read? h with ⟨-, read⟩ | ⟨_, _, _, -, -, -, read⟩
      · exact closing_of_readBody? read hl begins
      · exact closing_of_readBody? read hl begins
    · intro begins
      obtain ⟨first, further, hl⟩ := exists_lines block.body
      exact ⟨first, hl ▸ List.mem_cons_self, (isPrefix_iff_first_line (by decide) hl).1 begins⟩
  have language : (∃ l ∈ (lines block.language).tail, codeClosing <+: l) ↔
      '\n' :: codeClosing <+: block.language := by
    rcases readBody?_of_read? h with ⟨empty, -⟩ | ⟨first, tag, -, name, line, -, -⟩
    · simp [empty]
    · rw [name]
      by_cases hf : first = '\n'
      · rw [hf, lines_newline, List.tail_cons, lines_of_not_mem line, List.cons_prefix_cons]
        simp
      · -- the whole language is on one line
        rw [lines_of_not_mem (by simp [line, Ne.symm hf]), List.cons_prefix_cons]
        simp [Ne.symm hf]
  rw [HoldsClosing, body, language]

/-! ### All blocks of a text -/

/-- A code span has no newline, neither before the conversion nor after it. -/
theorem addsNo_newline_codeSpanRule : codeSpanRule.AddsNo '\n' := by
  intro s out rest h hs
  obtain ⟨content, rfl, rfl, hn⟩ := exists_of_codeSpanRule_match? h
  simp only [List.mem_append, not_or] at hs
  exact ⟨by simpa using hn, hs.2.2⟩

/-- The conversion of code spans leaves the closing lines of a text as they are. -/
theorem map_closing_lines_codeSpanRule (s : List Char) :
    (lines (codeSpanRule.apply s)).map (fun l => (after? codeClosing l).isSome)
      = (lines s).map fun l => (after? codeClosing l).isSome := by
  have front (l : List Char) : (after? codeClosing (codeSpanRule.apply l)).isSome
      = (after? codeClosing l).isSome := by
    refine Rule.isSome_after?_apply (fun {c s out rest} h => ?_) l
    obtain ⟨content, hs, rfl, -⟩ := exists_of_codeSpanRule_match? h
    obtain ⟨rfl, -⟩ := List.cons.inj hs
    exact ⟨by decide, '`', _, rfl, by decide⟩
  rw [Rule.lines_apply staysOnLine_codeSpanRule addsNo_newline_codeSpanRule, List.map_map]
  exact List.map_congr_left fun l _ => front l

/-- When the code blocks of a text end at their own closing lines. -/
structure BlocksEnd (s : List Char) : Prop where
  /-- The conversion of code spans, which comes first, leaves the closing lines as they are. -/
  closingLines : (lines (codeSpanRule.apply s)).map (fun l => (after? codeClosing l).isSome)
    = (lines s).map fun l => (after? codeClosing l).isSome
  /-- Then the text is converted piece by piece, -/
  pieces : codeMarkdown s = (codeBlockRule.pieces (codeSpanRule.apply s)).flatMap Piece.text
  /-- and what is written are its blocks between fences. -/
  written : (codeBlockRule.pieces (codeSpanRule.apply s)).filterMap Piece.written?
    = (codeBlocks (codeSpanRule.apply s)).map (·.block.fenced)
  /-- A block ends at the first closing line exactly if it holds no other one, -/
  first : ∀ b ∈ codeBlocks (codeSpanRule.apply s), (b.EndsAtClosing ↔ ¬ b.block.HoldsClosing)
  /-- and it can hold one as the first line of its body or the second line of its language only. -/
  places : ∀ b ∈ codeBlocks (codeSpanRule.apply s),
    (b.block.HoldsClosing ↔
      codeClosing <+: b.block.body ∨ '\n' :: codeClosing <+: b.block.language)

/-- **When code blocks end at their own closing lines.**  A block of any text does exactly if
neither its body nor a second line of its language begins with closing braces, that is, if no
closing line stands directly behind its opening line or the line that names its language. -/
theorem blocksEnd (s : List Char) : BlocksEnd s where
  closingLines := map_closing_lines_codeSpanRule s
  pieces := (Rule.flatMap_text_pieces _).symm
  written := filterMap_written?_pieces _
  first _ hb := ReadBlock.endsAtClosing_iff (read?_of_mem_codeBlocks hb)
  places _ hb := CodeBlock.holdsClosing_iff (read?_of_mem_codeBlocks hb)

/-- An empty block, some text, and another block. -/
def emptyBlockAndBlock : List Char :=
  codeOpening ++ '\n' :: codeClosing ++ "\nx\n".toList ++ codeOpening ++ "\ny\n".toList
    ++ codeClosing

/-- The empty block goes on to the closing line of the other one, and all in between becomes
code. -/
theorem not_endsAtClosing_emptyBlock :
    (¬ ∀ b ∈ codeBlocks (codeSpanRule.apply emptyBlockAndBlock), b.EndsAtClosing) ∧
      codeMarkdown emptyBlockAndBlock
        = fence ++ '\n' :: codeClosing ++ "\nx\n".toList ++ codeOpening ++ "\ny\n".toList
          ++ fence := by
  have blocks : codeBlocks (codeSpanRule.apply emptyBlockAndBlock)
      = [⟨emptyBlockAndBlock.drop 4,
          ⟨[], codeClosing ++ "\nx\n".toList ++ codeOpening ++ "\ny".toList⟩, []⟩] := by
    cbv
  refine ⟨fun ends => ?_, by cbv⟩
  rw [blocks, List.forall_mem_singleton, ReadBlock.endsAtClosing_iff (by cbv)] at ends
  exact ends (.inl ⟨codeClosing, by decide, List.prefix_refl _⟩)

end TicketMigration.Markup
