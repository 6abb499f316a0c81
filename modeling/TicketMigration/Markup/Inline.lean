import TicketMigration.Markup.Emphasis
import TicketMigration.Markup.Reference

/-!
# Inline markup

Within a line, links, images, escapes, emphasis and references are converted, in this order, in
the parts of the line that are not code.

## Main definitions

* `inlineMarkdown` applies all inline rules to a text.
* `spans` cuts a text at its code spans.
* `mapBetweenSpans` converts the parts between the code spans.
-/

namespace TicketMigration.Markup

open Text

/-- The inline rules that replace one construct by another, in the order in which they are
applied. -/
def inlineRules : List Rule :=
  [linkRule, imageRule, escapeRule, boldRule, apostropheItalicRule, slashItalicRule]

/-- Converts the inline markup of a text; references lead below the address `base`. -/
def inlineMarkdown (base s : List Char) : List Char :=
  linkReferences base (inlineRules.foldl (fun text rule => rule.apply text) s)

/-- Cuts a text at its code spans: the text before the first span, and each span, without its
backticks, with the text after it.  A backtick that no other one on its line closes is text. -/
def spans : List Char → List Char × List (List Char × List Char)
  | [] => ([], [])
  | c :: s =>
    match _h : (after? ['`'] (c :: s)).bind (upTo? onLine ['`']) with
    | some (code, rest) => ([], (code, (spans rest).1) :: (spans rest).2)
    | none => (c :: (spans s).1, (spans s).2)
termination_by s => s.length
decreasing_by
  all_goals
    first
    | (obtain ⟨inside, hi, hu⟩ := Option.bind_eq_some_iff.1 _h
       have h1 := length_of_after? hi
       have h2 := length_of_upTo? hu
       simp only [List.length_cons, List.length_nil] at *
       omega)
    | simp

/-- A code span with its backticks. -/
def codeSpan (code : List Char) : List Char :=
  '`' :: code ++ ['`']

/-- Converts the parts of a text that are not code spans. -/
def mapBetweenSpans (f : List Char → List Char) (s : List Char) : List Char :=
  f (spans s).1 ++ (spans s).2.flatMap fun part => codeSpan part.1 ++ f part.2

end TicketMigration.Markup
