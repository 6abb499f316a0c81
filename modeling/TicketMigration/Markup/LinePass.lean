import TicketMigration.Markup.Fence
import TicketMigration.Markup.Inline

/-!
# The pass over the lines

Lines are converted one at a time.  Two things are carried from line to line: whether the line is
in a fenced block, and whether it goes on with a table.  A table needs a blank line before it and
a separator row below its first row.

## Main definitions

* `FenceState`, `RowState`, `LineState`: what is carried.
* `LineState.convert` converts one line.
* `linesMarkdown` converts a list of lines.
-/

namespace TicketMigration.Markup

open Text

/-- Whether the next line is in a fenced block. -/
inductive FenceState
  /-- The line is ordinary text. -/
  | text
  /-- The line is in a fenced block. -/
  | code
  deriving DecidableEq, Repr, Inhabited

/-- The state after a fence. -/
def FenceState.toggle : FenceState → FenceState
  | text => code
  | code => text

/-- Whether the line before was a row of a table. -/
inductive RowState
  /-- It was no row. -/
  | outside
  /-- It was a row. -/
  | inside
  deriving DecidableEq, Repr, Inhabited

/-- What is carried from line to line. -/
structure LineState where
  /-- Whether the next line is in a fenced block. -/
  code : FenceState := .text
  /-- Whether the next line goes on with a table. -/
  table : RowState := .outside
  deriving DecidableEq, Repr, Inhabited

/-- Whether a line begins with the mark of a table cell. -/
def isRow (line : List Char) : Bool :=
  (after? ['|', '|'] line).isSome

/-- The separator row below a first row: a dash for each character but the bars. -/
def separatorRow (row : List Char) : List Char :=
  row.map fun c => if c = '|' then '|' else '-'

/-- Writes each pair of bars as one bar and a space. -/
def singleBars : List Char → List Char
  | [] => []
  | [c] => [c]
  | c :: d :: s =>
    if c = '|' && d = '|' then '|' :: ' ' :: singleBars s else c :: singleBars (d :: s)

/-- Reads the heading of a cell, which stands between equals signs padded with spaces. -/
def cellHeading? (s : List Char) : Option (List Char × List Char) :=
  (after? ['=', ' '] s).bind fun inside =>
    match inside with
    | c :: rest =>
      if onLine c then
        (upTo? onLine [' ', '='] rest).map fun parts => (c :: parts.1, parts.2)
      else none
    | [] => none

/-- Writes the headings of cells in bold. -/
def cellHeadingRule : Rule where
  match? s := (cellHeading? s).map fun parts => (['*', '*'] ++ parts.1 ++ ['*', '*'], parts.2)
  shorter h := by
    obtain ⟨parts, hp, he⟩ := Option.map_eq_some_iff.1 h
    obtain ⟨-, rfl⟩ := Prod.mk.inj he
    obtain ⟨inside, hi, hp⟩ := Option.bind_eq_some_iff.1 hp
    have h1 := length_of_after? hi
    split at hp
    · split at hp
      · obtain ⟨parts', hp', he'⟩ := Option.map_eq_some_iff.1 hp
        have h2 := length_of_upTo? hp'
        have h3 := congrArg (fun parts => parts.2.length) he'
        simp only [List.length_cons] at h1 h3
        omega
      · cases hp
    · cases hp

/-- Writes a row of a table, with a blank line before it and a separator row below it if it is the
first one. -/
def rowMarkdown (table : RowState) (row : List Char) : List Char :=
  let rows :=
    match table with
    | .outside => '\n' :: row ++ '\n' :: separatorRow row
    | .inside => row
  cellHeadingRule.apply (singleBars rows)

namespace LineState

/-- Converts one line and gives the state for the next one.  Whether the line is a row is decided
after its inline markup has been converted. -/
def convert (base : List Char) (state : LineState) (line : List Char) : LineState × List Char :=
  if isFence line then (⟨state.code.toggle, .outside⟩, line)
  else
    match state.code with
    | .code => (state, line)
    | .text =>
      let converted := mapBetweenSpans (inlineMarkdown base) line
      if isRow converted then (⟨.text, .inside⟩, rowMarkdown state.table converted)
      else (⟨.text, .outside⟩, converted)

end LineState

/-- Converts lines from a state on. -/
def linesMarkdownFrom (base : List Char) : LineState → List (List Char) → List (List Char)
  | _, [] => []
  | state, line :: rest =>
    (state.convert base line).2 :: linesMarkdownFrom base (state.convert base line).1 rest

/-- Converts the lines of a text. -/
def linesMarkdown (base : List Char) (ls : List (List Char)) : List (List Char) :=
  linesMarkdownFrom base {} ls

end TicketMigration.Markup
