import TicketMigration.Markup.Block
import TicketMigration.Markup.LinePass
import TicketMigration.Text.Blank

/-!
# From wiki markup to Markdown

The conversion of a whole text: code first, then the block markup outside the fences that this
made or found, then a pass over the lines.

## Main definitions

* `unixNewlines` makes all line ends plain newlines.
* `toMarkdown` converts a text.
-/

namespace TicketMigration.Markup

open Text

/-- Writes each carriage return that is followed by a newline as that newline. -/
def unixNewlines : List Char → List Char
  | [] => []
  | [c] => [c]
  | c :: d :: s =>
    if c = '\r' && d = '\n' then '\n' :: unixNewlines s else c :: unixNewlines (d :: s)

/-- Converts a text; references lead below the address `base`. -/
def textMarkdown (base s : List Char) : List Char :=
  unlines (linesMarkdown base
    (lines (mapUnfenced blockMarkdown (codeMarkdown (unixNewlines s)))))

/-- Converts wiki markup into Markdown.  References become links below the address of the tracker,
whose trailing slashes do not count. -/
def toMarkdown (text base : String) : String :=
  if text.isEmpty then ""
  else String.ofList (textMarkdown (dropTrailing '/' base).toList text.toList)

end TicketMigration.Markup
