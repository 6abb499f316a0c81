import TicketMigration.Markup.Rule

/-!
# Code

Code stands between triple braces.  On one line, as in {{{code}}}, it is a span.  A block
begins with an opening line of three braces, goes on with an optional `#!` line that names the
language, and ends before the first line that begins with three closing braces.

Spans become text between backticks and blocks become text between fences.

## Main definitions

* `CodeBlock`, `CodeBlock.read?`, `CodeBlock.fenced`: a block, its recogniser and its new form.
* `codeSpanRule`, `codeBlockRule`: the two conversion rules.
* `codeMarkdown` applies both.
-/

namespace TicketMigration.Markup

open Text

/-- The three braces that open code. -/
def codeOpening : List Char := ['{', '{', '{']

/-- The three braces that close code. -/
def codeClosing : List Char := ['}', '}', '}']

/-- The three backticks of a fence. -/
def fence : List Char := ['`', '`', '`']

/-- A code block: the name of its language, empty if none is given, and its lines. -/
structure CodeBlock where
  /-- What follows `#!`. -/
  language : List Char
  /-- The text between the opening and the closing line, without the newlines next to them. -/
  body : List Char
  deriving DecidableEq, Repr

namespace CodeBlock

/-- Reads the body of a block and the closing braces at the front of the line after it. -/
def readBody? (language s : List Char) : Option (CodeBlock × List Char) :=
  (upTo? anywhere ('\n' :: codeClosing) s).map fun parts => (⟨language, parts.1⟩, parts.2)

/-- Reads a block with a language line.  The name of the language has at least one character and
goes on to the end of its line. -/
def readTagged? (s : List Char) : Option (CodeBlock × List Char) :=
  match after? ['#', '!'] s with
  | some (first :: s) =>
    (upTo? anywhere ['\n'] s).bind fun parts => readBody? (first :: parts.1) parts.2
  | _ => none

/-- Reads a block at the front of a text.  A language line is taken as such only if a closing line
follows it; otherwise it is the first line of the body. -/
def read? (s : List Char) : Option (CodeBlock × List Char) :=
  (after? (codeOpening ++ ['\n']) s).bind fun inside =>
    (readTagged? inside).or (readBody? [] inside)

/-- The block between fences. -/
def fenced (block : CodeBlock) : List Char :=
  fence ++ block.language ++ '\n' :: block.body ++ '\n' :: fence

theorem length_of_readBody? {language s rest : List Char} {block : CodeBlock}
    (h : readBody? language s = some (block, rest)) : rest.length < s.length := by
  obtain ⟨parts, hp, he⟩ := Option.map_eq_some_iff.1 h
  have := length_of_upTo? hp
  obtain ⟨-, rfl⟩ := Prod.mk.inj he
  simp only [List.length_cons] at this
  omega

theorem length_of_readTagged? {s rest : List Char} {block : CodeBlock}
    (h : readTagged? s = some (block, rest)) : rest.length < s.length := by
  rw [readTagged?] at h
  split at h
  · next first s' hs =>
    obtain ⟨parts, hp, hb⟩ := Option.bind_eq_some_iff.1 h
    have h1 := length_of_after? hs
    have h2 := length_of_upTo? hp
    have h3 := length_of_readBody? hb
    simp only [List.length_cons] at h1
    omega
  · cases h

theorem length_of_read? {s rest : List Char} {block : CodeBlock}
    (h : read? s = some (block, rest)) : rest.length < s.length := by
  obtain ⟨inside, hi, hr⟩ := Option.bind_eq_some_iff.1 h
  have h1 := length_of_after? hi
  have h2 : rest.length < inside.length := by
    rcases Option.or_eq_some_iff.1 hr with hr | ⟨-, hr⟩
    · exact length_of_readTagged? hr
    · exact length_of_readBody? hr
  omega

end CodeBlock

/-- Reads the content of a code span at the front of a text. -/
def codeSpan? (s : List Char) : Option (List Char × List Char) :=
  (after? codeOpening s).bind (upTo? onLine codeClosing)

/-- A code span becomes its content between backticks. -/
def codeSpanRule : Rule where
  match? s := (codeSpan? s).map fun parts => ('`' :: parts.1 ++ ['`'], parts.2)
  shorter h := by
    obtain ⟨parts, hp, he⟩ := Option.map_eq_some_iff.1 h
    obtain ⟨inside, hi, hu⟩ := Option.bind_eq_some_iff.1 hp
    obtain ⟨-, rfl⟩ := Prod.mk.inj he
    have h1 := length_of_after? hi
    have h2 := length_of_upTo? hu
    simp only [codeOpening, List.length_cons] at h1
    omega

/-- A code block becomes the block between fences. -/
def codeBlockRule : Rule where
  match? s := (CodeBlock.read? s).map fun parts => (parts.1.fenced, parts.2)
  shorter h := by
    obtain ⟨parts, hp, he⟩ := Option.map_eq_some_iff.1 h
    obtain ⟨-, rfl⟩ := Prod.mk.inj he
    exact CodeBlock.length_of_read? hp

/-- Turns code between triple braces into code spans and fenced blocks.  Spans come first, so the
braces of a span never open or close a block. -/
def codeMarkdown (s : List Char) : List Char :=
  codeBlockRule.apply (codeSpanRule.apply s)

end TicketMigration.Markup
