import TicketMigration.Proofs.CodeStructure
import TicketMigration.Proofs.Composition

/-!
# The passage of a code block

A code block goes through the conversion untouched, whatever stands around it.  Its braces become
fences; its language and its body are written as they are, although the body may hold any markup
there is, and what stands before and behind the block is converted as if the block were not there.

Three things are shown on the way.  The reader of code blocks gets a block back from its source.
The other stages leave lines alone that begin with a fence, go on without one and end with a fence.
And behind such lines everything begins anew.

## Main definitions

* `CodeBlock.source` — a block as it is written in wiki markup.
* `CodeBlock.Plain` — the blocks whose source is read back as that block and nothing else.
* `Kept state ls` — the lines are fences or code one and all.

## Main statements

* `CodeBlock.read?_source` — the reader gets a block back from its source.
* `codeMarkdown_source` — the braces of a block become fences.
* `toMarkdown_codeBlock` — **a code block comes through verbatim, in any context.**
-/

namespace TicketMigration.Markup

open Text

/-! ### The source of a block -/

namespace CodeBlock

/-- The line that names the language of a block, if it has one. -/
def languageLine (block : CodeBlock) : List Char :=
  if block.language = [] then [] else '#' :: '!' :: block.language ++ ['\n']

/-- A block in wiki markup, from the opening braces through the closing ones. -/
def source (block : CodeBlock) : List Char :=
  codeOpening ++ '\n' :: block.languageLine ++ block.body ++ '\n' :: codeClosing

/-- A block that its source is read back as.  Its language is on one line; neither its language nor
its body opens other code or has carriage returns; no line of its body closes the block, is a fence,
or, if there is no language, stands in the place of the language line and looks like one. -/
structure Plain (block : CodeBlock) : Prop where
  /-- The language is on one line, -/
  newline_not_mem_language : '\n' ∉ block.language
  /-- without a carriage return, -/
  return_not_mem_language : '\r' ∉ block.language
  /-- and opens no code. -/
  language_opens : ¬ codeOpening <:+: block.language
  /-- The body has no carriage return -/
  return_not_mem_body : '\r' ∉ block.body
  /-- and opens no code. -/
  body_opens : ¬ codeOpening <:+: block.body
  /-- No line of the body begins with closing braces -/
  body_closes : ∀ l ∈ lines block.body, ¬ codeClosing <+: l
  /-- or with a fence. -/
  body_fences : ∀ l ∈ lines block.body, isFence l = false
  /-- Without a language the first line of the body is no language line. -/
  body_names : block.language = [] → ¬ ['#', '!'] <+: block.body

variable {block : CodeBlock}

/-- The body goes on to the first line that begins with closing braces. -/
theorem readBody?_body (h : block.Plain) (rest : List Char) :
    readBody? block.language (block.body ++ '\n' :: (codeClosing ++ rest)) = some (block, rest) := by
  obtain ⟨l, ls, hbody⟩ := exists_lines block.body
  obtain ⟨found, further, hrest⟩ := exists_lines rest
  have noNewline : ∀ l' ∈ l :: ls, '\n' ∉ l' := fun l' hl' =>
    not_mem_of_mem_lines (s := block.body) (hbody ▸ hl')
  have noClosing : ∀ l' ∈ ls, after? codeClosing l' = none := fun l' hl' =>
    after?_eq_none_iff.2 (h.body_closes l' (hbody ▸ List.mem_cons_of_mem _ hl'))
  -- the closing line as one of the lines behind the first line of the body
  have whole : block.body ++ '\n' :: (codeClosing ++ rest)
      = l ++ furtherLines (ls ++ (codeClosing ++ found) :: further) := by
    conv_lhs => rw [eq_append_furtherLines hbody, eq_append_furtherLines hrest]
    rw [furtherLines_append, furtherLines_cons, List.append_assoc, List.append_assoc]
  rw [readBody?, whole, upTo?_furtherLines (by decide) noNewline noClosing, Option.map_some,
    ← eq_append_furtherLines hbody, ← eq_append_furtherLines hrest]

theorem readTagged?_language (h : block.Plain) (hne : block.language ≠ []) (rest : List Char) :
    readTagged? (block.languageLine ++ block.body ++ '\n' :: (codeClosing ++ rest))
      = some (block, rest) := by
  obtain ⟨first, name, hlanguage⟩ := List.exists_cons_of_ne_nil hne
  have hname : '\n' ∉ name := fun hn =>
    h.newline_not_mem_language (hlanguage ▸ List.mem_cons_of_mem _ hn)
  have line : block.languageLine ++ block.body ++ '\n' :: (codeClosing ++ rest)
      = ['#', '!'] ++ (first :: (name ++ '\n' :: (block.body ++ '\n' :: (codeClosing ++ rest)))) := by
    simp [languageLine, hlanguage]
  have body := readBody?_body h rest
  rw [hlanguage] at body
  rw [line, readTagged?, after?_append]
  dsimp only
  rw [upTo?_append_newline hname, after?_nil]
  exact body

theorem readTagged?_body (h : block.Plain) (hlanguage : block.language = []) (rest : List Char) :
    readTagged? (block.body ++ '\n' :: (codeClosing ++ rest)) = none := by
  have noTag : after? ['#', '!'] (block.body ++ '\n' :: (codeClosing ++ rest)) = none := by
    rw [after?_append_newline (by decide), after?_eq_none_iff.2 (h.body_names hlanguage)]
    rfl
  rw [readTagged?, noTag]

/-- **The reader gets a block back from its source**, whatever follows. -/
theorem read?_source (h : block.Plain) (rest : List Char) :
    read? (block.source ++ rest) = some (block, rest) := by
  have inside : block.source ++ rest
      = (codeOpening ++ ['\n'])
        ++ (block.languageLine ++ block.body ++ '\n' :: (codeClosing ++ rest)) := by
    simp [source]
  rw [read?, inside, after?_append, Option.bind_some]
  by_cases hne : block.language = []
  · have noLine : block.languageLine = [] := if_pos hne
    rw [noLine, List.nil_append, readTagged?_body h hne, Option.none_or, ← hne]
    exact readBody?_body h rest
  · rw [readTagged?_language h hne, Option.some_or]

end CodeBlock

/-! ### Line ends and code -/

/-- Text without carriage returns is not changed, and what follows a newline behind it neither. -/
theorem unixNewlines_append_of_not_mem {a : List Char} (h : '\r' ∉ a) (b : List Char) :
    unixNewlines (a ++ b) = a ++ unixNewlines b := by
  induction a with
  | nil => rfl
  | cons c a ih =>
    rw [List.mem_cons, not_or] at h
    rw [List.cons_append, unixNewlines_cons (Ne.symm h.1), ih h.2, List.cons_append]

theorem CodeBlock.Plain.return_not_mem_source {block : CodeBlock} (h : block.Plain) :
    '\r' ∉ block.source := by
  have hl : '\r' ∉ block.languageLine := by
    rw [languageLine]
    split
    · simp
    · simp [h.return_not_mem_language]
  simp [source, codeOpening, codeClosing, hl, h.return_not_mem_body]

/-- An opening line is no span, and what stands behind it is read on its own. -/
theorem codeSpanRule_apply_opening (s : List Char) :
    codeSpanRule.apply (codeOpening ++ '\n' :: s) = codeOpening ++ '\n' :: codeSpanRule.apply s := by
  have noSpan : ∀ t, t <:+ codeOpening → codeSpanRule.match? (t ++ '\n' :: s) = none := by
    intro t ht
    -- the braces are not closed on their line
    rcases List.suffix_cons_iff.1 ht with rfl | ht
    · simp [codeSpanRule, codeSpan?, codeOpening, codeClosing, upTo?, onLine]
    · apply codeSpanRule_match?_eq_none
      rw [after?_append_newline (by decide)]
      have short : after? codeOpening t = none :=
        after?_eq_none_iff.2 fun hp => absurd (Nat.le_trans hp.length_le ht.length_le) (by decide)
      rw [short]
      rfl
  rw [Rule.apply_append_of_no_match _ fun t ht _ => noSpan t ht,
    Rule.apply_of_no_match (noSpan [] List.nil_suffix)]

/-- The source of a block holds no span. -/
theorem codeSpanRule_apply_source {block : CodeBlock} (h : block.Plain) (s : List Char) :
    codeSpanRule.apply (block.source ++ '\n' :: s)
      = block.source ++ '\n' :: codeSpanRule.apply s := by
  have through {a : List Char} (ha : ¬ codeOpening <:+: a) (b : List Char) :
      codeSpanRule.apply (a ++ '\n' :: b) = a ++ '\n' :: codeSpanRule.apply b :=
    apply_append_newline_of_noCode codeSpanRule_match?_eq_none ha b
  have body : codeSpanRule.apply (block.body ++ '\n' :: (codeClosing ++ '\n' :: s))
      = block.body ++ '\n' :: (codeClosing ++ '\n' :: codeSpanRule.apply s) := by
    rw [through h.body_opens, through (by decide)]
  have line : codeSpanRule.apply
        (block.languageLine ++ (block.body ++ '\n' :: (codeClosing ++ '\n' :: s)))
      = block.languageLine ++ (block.body ++ '\n' :: (codeClosing ++ '\n' :: codeSpanRule.apply s)) := by
    rw [CodeBlock.languageLine]
    split
    · rw [List.nil_append, body, List.nil_append]
    · have hl : ¬ codeOpening <:+: '#' :: '!' :: block.language := by
        rw [List.infix_cons_iff, List.infix_cons_iff]
        rintro (hp | hp | hp)
        · exact absurd hp (by simp [codeOpening])
        · exact absurd hp (by simp [codeOpening])
        · exact h.language_opens hp
      rw [List.append_assoc, List.singleton_append, through hl, body]
      simp
  have source (t : List Char) : block.source ++ '\n' :: t
      = codeOpening ++ '\n' ::
        (block.languageLine ++ (block.body ++ '\n' :: (codeClosing ++ '\n' :: t))) := by
    simp [CodeBlock.source]
  rw [source, codeSpanRule_apply_opening, line, ← source]

/-- **The braces of a block become fences**, and what follows is read on its own. -/
theorem codeMarkdown_source {block : CodeBlock} (h : block.Plain) (s : List Char) :
    codeMarkdown (block.source ++ '\n' :: s) = block.fenced ++ '\n' :: codeMarkdown s := by
  have found (t : List Char) :
      codeBlockRule.match? (block.source ++ t) = some (block.fenced, t) := by
    rw [codeBlockRule]
    dsimp only
    rw [CodeBlock.read?_source h]
    rfl
  have noBlock (t : List Char) : codeBlockRule.match? ('\n' :: t) = none :=
    codeBlockRule_match?_eq_none rfl
  rw [codeMarkdown, codeSpanRule_apply_source h, Rule.apply_of_match (found _),
    Rule.apply_of_no_match (noBlock _), codeMarkdown]

/-! ### Lines that are kept -/

/-- In front of its lines with this code state, they are fences or code one and all. -/
def Kept (state : FenceState) (ls : List (List Char)) : Prop :=
  ∀ kept ∈ walk FenceState.keeps state ls, kept = true

theorem Kept.walk_unlessKept {state : FenceState} {ls : List (List Char)} (h : Kept state ls)
    (f : List Char → List Char) : walk (unlessKept f) state ls = ls := by
  induction ls generalizing state with
  | nil => rfl
  | cons l ls ih =>
    rw [Kept, walk_cons, List.forall_mem_cons] at h
    rw [walk_cons, unlessKept, if_pos h.1, ih h.2]

theorem Kept.linesMarkdownFrom {state : LineState} {ls : List (List Char)}
    (h : Kept state.code ls) (base : List Char) : linesMarkdownFrom base state ls = ls := by
  induction ls generalizing state with
  | nil => rfl
  | cons l ls ih =>
    rw [Kept, walk_cons, List.forall_mem_cons] at h
    have here : LineStep.written base ⟨state, l⟩ = l := LineStep.written_of_kept base h.1
    rw [LineStep.written] at here
    rw [Markup.linesMarkdownFrom, here, ih (by rw [LineState.code_convert]; exact h.2)]

/-- A fence and lines without one are kept, and so is the next line, be it a fence or not. -/
theorem kept_fenced {opening next : List Char} {body : List (List Char)}
    (hopening : isFence opening = true) (hbody : ∀ l ∈ body, isFence l = false) :
    Kept .text (opening :: (body ++ [next])) := by
  have inside : FenceState.after .code body = .code := FenceState.after_of_forall_not_isFence hbody
  have opened : FenceState.next .text opening = .code := FenceState.next_of_isFence hopening
  rw [Kept, walk_cons, opened, walk_append, walk_of_forall_not_isFence _ hbody, inside]
  simp [hopening]

/-! ### The block behind the code stage -/

namespace CodeBlock.Plain

variable {block : CodeBlock} (h : block.Plain)

include h

/-- The lines of a block between its fences. -/
theorem lines_fenced :
    lines block.fenced = (fence ++ block.language) :: (lines block.body ++ [fence]) := by
  have hl : '\n' ∉ fence ++ block.language :=
    List.not_mem_append newline_not_mem_fence h.newline_not_mem_language
  rw [CodeBlock.lines_fenced, lines_of_not_mem hl, List.singleton_append]

theorem kept_lines_fenced : Kept .text (lines block.fenced) := by
  rw [h.lines_fenced]
  exact kept_fenced (isFence_append (by decide) _) h.body_fences

/-- No fence is open behind the block. -/
theorem countP_isFence_lines_fenced : (lines block.fenced).countP isFence = 2 := by
  have opening : isFence (fence ++ block.language) = true := isFence_append (by decide) _
  have inside : (lines block.body).countP isFence = 0 :=
    List.countP_eq_zero.2 fun l hl => by simp [h.body_fences l hl]
  rw [h.lines_fenced, List.countP_cons_of_pos opening, List.countP_append, inside]
  rfl

theorem endsInRow_lines_fenced : endsInRow (lines block.fenced) = false := by
  rw [h.lines_fenced, ← List.cons_append, endsInRow_append _ (List.cons_ne_nil _ _)]
  rfl

theorem mapUnfenced_fenced {f : List Char → List Char} (hf : Linewise f) :
    mapUnfenced f block.fenced = block.fenced := by
  rw [mapUnfenced_eq_walk hf, h.kept_lines_fenced.walk_unlessKept, unlines_lines]

theorem linesMarkdown_fenced (base : List Char) :
    linesMarkdown base (lines block.fenced) = lines block.fenced := by
  rw [linesMarkdown]
  exact Kept.linesMarkdownFrom h.kept_lines_fenced base

end CodeBlock.Plain

/-! ### The conversion as a whole -/

/-- A block at the beginning of a text. -/
theorem textMarkdown_source {block : CodeBlock} (h : block.Plain) (base post : List Char) :
    textMarkdown base (block.source ++ '\n' :: post)
      = block.fenced ++ '\n' :: textMarkdown base post := by
  have even : (lines block.fenced).countP isFence % 2 = 0 := by rw [h.countP_isFence_lines_fenced]
  have stages : mapUnfenced blockMarkdown (codeMarkdown (unixNewlines (block.source ++ '\n' :: post)))
      = block.fenced ++ '\n' :: mapUnfenced blockMarkdown (codeMarkdown (unixNewlines post)) := by
    rw [unixNewlines_append_of_not_mem h.return_not_mem_source, unixNewlines_cons (by decide),
      codeMarkdown_source h, mapUnfenced_append_newline linewise_blockMarkdown even,
      h.mapUnfenced_fenced linewise_blockMarkdown]
  have noTable (ls : List (List Char)) :
      ¬(endsInRow (lines block.fenced) = true ∧ beginsWithRow ls = true) := by
    simp [h.endsInRow_lines_fenced]
  have rest : linesMarkdown base
      (lines (mapUnfenced blockMarkdown (codeMarkdown (unixNewlines post)))) ≠ [] :=
    linesMarkdownFrom_ne_nil base {} (lines_ne_nil _)
  rw [textMarkdown, stages, lines_append_newline, linesMarkdown_append even (noTable _),
    h.linesMarkdown_fenced, unlines_append (lines_ne_nil _) rest, unlines_lines, textMarkdown]

/-- **A code block comes through verbatim, in any context.**  In front of the block there may be any
text that opens no code, does not end in a carriage return and has an even number of fences; behind
it there may be anything.  The braces become fences, and the text before and the text behind are
converted on their own. -/
theorem toMarkdown_codeBlock (pre post base : String) (block : CodeBlock) (h : block.Plain)
    (hcode : ¬ codeOpening <:+: pre.toList) (hreturn : pre.toList.getLast? ≠ some '\r')
    (heven : (lines pre.toList).countP isFence % 2 = 0) :
    toMarkdown (pre ++ "\n" ++ String.ofList block.source ++ "\n" ++ post) base
      = toMarkdown pre base ++ "\n" ++ String.ofList block.fenced ++ "\n" ++ toMarkdown post base := by
  have whole : (pre ++ "\n" ++ String.ofList block.source ++ "\n" ++ post).toList
      = pre.toList ++ '\n' :: (block.source ++ '\n' :: post.toList) := by
    simp
  -- the opening braces are no row, so no table goes on into the block
  have noRow : beginsWithRow (lines (block.source ++ '\n' :: post.toList)) = false := by
    rw [beginsWithRow_lines]
    rfl
  rw [toMarkdown_eq, toMarkdown_eq, toMarkdown_eq, whole,
    textMarkdown_append_newline hcode hreturn heven (by simp [noRow]), textMarkdown_source h]
  apply String.ext
  simp

/-- A block whose body looks like other markup, between a table and code that is never closed. -/
theorem toMarkdown_codeBlock_python :
    let block : CodeBlock := ⟨"python".toList, "= x =\n----\n|| `#1` ||\n \x7b\x7b \x7d\x7d\x7d".toList⟩
    block.Plain ∧ ¬ codeOpening <:+: "```\nc\n```\n|| #2 ||".toList ∧
      toMarkdown ("```\nc\n```\n|| #2 ||" ++ "\n" ++ String.ofList block.source ++ "\n"
          ++ "|| #3 ||\n\x7b\x7b\x7b\n") "https://trac.example.org"
        = toMarkdown "```\nc\n```\n|| #2 ||" "https://trac.example.org" ++ "\n"
          ++ String.ofList block.fenced ++ "\n"
          ++ toMarkdown "|| #3 ||\n\x7b\x7b\x7b\n" "https://trac.example.org" := by
  intro block
  have plain : block.Plain := by
    simp only [block, String.reduceToList]
    constructor <;> decide
  have noCode : ¬ codeOpening <:+: "```\nc\n```\n|| #2 ||".toList := by
    simp only [String.reduceToList]
    decide
  exact ⟨plain, noCode, toMarkdown_codeBlock _ _ _ block plain noCode (by decide) (by decide)⟩

end TicketMigration.Markup
