import TicketMigration.Markup.Link
import TicketMigration.Text.Digit
import TicketMigration.Text.Word

/-!
# References

Tickets, changesets and reports are referred to by number, in a short form such as `#12`, `r12` or
a number in braces, and in a long form such as `ticket:12`.  A text is cut into such references
and the literal text between them before anything is written, so what a reference is does not
depend on where its link leads.

Macro calls, link targets and bare addresses are found first and kept as they are.  A reference
that begins or ends with a word must not run on into a longer word.

## Main definitions

* `ReferenceForm` lists the ways to write a reference, `ReferenceForm.read?` recognises one.
* `Segment` is a reference or a literal piece of text, and `segments` cuts a text into them.
* `linkReferences` writes each reference as a link below the address of the tracker.
-/

namespace TicketMigration.Markup

open Text

/-- What a reference leads to. -/
inductive ReferenceKind
  /-- A ticket. -/
  | ticket
  /-- A changeset of the repository. -/
  | changeset
  /-- A saved report. -/
  | report
  deriving DecidableEq, Repr

/-- The part of an address that says what is shown. -/
def ReferenceKind.path : ReferenceKind → List Char
  | ticket => "ticket".toList
  | changeset => "changeset".toList
  | report => "report".toList

/-- The ways to write a reference. -/
inductive ReferenceForm
  /-- A ticket as in `#12`. -/
  | hash
  /-- A ticket as in `ticket:12`. -/
  | ticket
  /-- A changeset as in `[12]`. -/
  | bracket
  /-- A changeset as in `changeset:12`. -/
  | changeset
  /-- A changeset as in `r12`. -/
  | revision
  /-- A report whose number stands in braces. -/
  | brace
  /-- A report as in `report:12`. -/
  | report
  deriving DecidableEq, Repr

namespace ReferenceForm

/-- All forms. -/
def all : List ReferenceForm :=
  [hash, ticket, bracket, changeset, revision, brace, report]

/-- What a reference of this form leads to. -/
def kind : ReferenceForm → ReferenceKind
  | hash | ticket => .ticket
  | bracket | changeset | revision => .changeset
  | brace | report => .report

/-- What stands before the number. -/
def opening : ReferenceForm → List Char
  | hash => ['#']
  | ticket => "ticket:".toList
  | bracket => ['[']
  | changeset => "changeset:".toList
  | revision => ['r']
  | brace => ['{']
  | report => "report:".toList

/-- What stands after the number. -/
def closing : ReferenceForm → List Char
  | bracket => [']']
  | brace => ['}']
  | _ => []

/-- Whether the form begins with a word. -/
def beginsWord : ReferenceForm → Bool
  | hash | bracket | brace => false
  | _ => true

/-- Whether the form ends with its number. -/
def endsWord (form : ReferenceForm) : Bool :=
  form.closing.isEmpty

end ReferenceForm

/-- A piece of a text. -/
inductive Segment
  /-- Text that is kept as it is. -/
  | literal (text : List Char)
  /-- A reference with the digits of its number. -/
  | reference (form : ReferenceForm) (number : List Char)
  deriving DecidableEq, Repr

/-- The text that a segment was read from. -/
def Segment.text : Segment → List Char
  | .literal text => text
  | .reference form number => form.opening ++ number ++ form.closing

/-- Whether the neighbouring character, if there is one, continues a word. -/
def wordGoesOn (next : Option Char) : Bool :=
  next.any isWord

/-- Reads a reference of one form at the front of a text, where `before` is the character in front
of it. -/
def ReferenceForm.read? (form : ReferenceForm) (before : Option Char) (s : List Char) :
    Option Segment :=
  if form.beginsWord && wordGoesOn before then none
  else
    (after? form.opening s).bind fun tail =>
      if (tail.takeWhile isDigit).isEmpty then none
      else
        (after? form.closing (tail.dropWhile isDigit)).bind fun rest =>
          if form.endsWord && wordGoesOn rest.head? then none
          else some (.reference form (tail.takeWhile isDigit))

/-- Reads a macro call: double brackets around anything but a closing bracket. -/
def macroCall? (s : List Char) : Option Segment :=
  (after? ['[', '['] s).bind fun inside =>
    if (after? [']', ']'] (inside.dropWhile (· != ']'))).isSome then
      some (.literal (['[', '['] ++ inside.takeWhile (· != ']') ++ [']', ']']))
    else none

/-- Whether a character may stand in the target of a link. -/
def isTargetChar (c : Char) : Bool :=
  c != ')' && !isBlank c

/-- Reads the target of a link together with the bracket that closes the label before it. -/
def linkTarget? (s : List Char) : Option Segment :=
  (after? [']', '('] s).bind fun inside =>
    if (after? [')'] (inside.dropWhile isTargetChar)).isSome then
      some (.literal ([']', '('] ++ inside.takeWhile isTargetChar ++ [')']))
    else none

/-- Reads a bare web address, which goes on to the next blank. -/
def webAddress? (s : List Char) : Option Segment :=
  (scheme? s).bind fun parts =>
    if (parts.2.takeWhile (!isBlank ·)).isEmpty then none
    else some (.literal (parts.1 ++ parts.2.takeWhile (!isBlank ·)))

/-- Reads one segment at the front of a text, if anything but a plain character stands there. -/
def segment? (before : Option Char) (s : List Char) : Option Segment :=
  (macroCall? s).or <| (linkTarget? s).or <| (webAddress? s).or <|
    ReferenceForm.all.findSome? fun form => form.read? before s

/-- Cuts a text into segments, where `before` is the character in front of the text. -/
def segmentsAfter (before : Option Char) : List Char → List Segment
  | [] => []
  | c :: s =>
    match segment? before (c :: s) with
    | some segment =>
      segment :: segmentsAfter (segment.text.getLast?.or before) (s.drop (segment.text.length - 1))
    | none => .literal [c] :: segmentsAfter (some c) s
termination_by s => s.length
decreasing_by
  · simp only [List.length_drop, List.length_cons]
    omega
  · simp

/-- Cuts a text into references and the literal text between them. -/
def segments (s : List Char) : List Segment :=
  segmentsAfter none s

/-- Writes a segment, a reference as a link below the given address. -/
def Segment.render (base : List Char) : Segment → List Char
  | .literal text => text
  | .reference form number =>
    '[' :: (Segment.reference form number).text ++ [']', '('] ++ base ++ '/' :: form.kind.path
      ++ '/' :: number ++ [')']

/-- Writes every reference of a text as a link below the given address. -/
def linkReferences (base s : List Char) : List Char :=
  (segments s).flatMap (·.render base)

end TicketMigration.Markup
