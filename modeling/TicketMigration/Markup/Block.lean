import TicketMigration.Text.Digit
import TicketMigration.Text.Lines
import TicketMigration.Text.Scan

/-!
# Headings, lists and rules

Block markup is decided by how a line begins.  Each kind of it is one line rule, and the rules
are applied to a whole text one after the other.

## Main definitions

* `LineRule` converts the lines of one kind.
* `headingRule`, `bulletRule`, `numberedRule`, `dividerRule` are the rules, `blockRules` their
  order.
* `blockMarkdown` applies them all.
* `blockLineMarkdown` applies to one line the first rule that accepts it.

## Main statements

* `of_mem_blockRules`: what holds of the rules of each kind holds of all block rules.
-/

namespace TicketMigration.Markup

open Text

/-- Accepts the lines of one kind and gives what to write for such a line. -/
abbrev LineRule := List Char → Option (List Char)

/-- The space and the tab, the blanks that markup within a line may be padded with. -/
def isGap (c : Char) : Bool :=
  c == ' ' || c == '\t'

/-- Whether nothing but gaps is left of a line, or gaps, the closing marker of a heading of this
level, and gaps. -/
def endsHeading (level : Nat) (s : List Char) : Bool :=
  s.all isGap ||
    (s.head?.any isGap &&
      match after? (List.replicate level '=') (s.dropWhile isGap) with
      | some rest => rest.all isGap
      | none => false)

/-- The shortest front of a line that leaves the end of a heading. -/
def headingTitle (level : Nat) : List Char → List Char
  | [] => []
  | c :: s => if endsHeading level (c :: s) then [] else c :: headingTitle level s

/-- A heading begins with as many equals signs as its level and a gap.  It is written with number
signs, and without the closing marker that it may have. -/
def headingRule (level : Nat) : LineRule := fun line =>
  match after? (List.replicate level '=') line with
  | some (c :: rest) =>
    if isGap c then
      some (List.replicate level '#' ++ ' ' :: headingTitle level (rest.dropWhile isGap))
    else none
  | _ => none

/-- A bullet point has an asterisk and a space behind an indentation.  Its depth is written as a
number of asterisks. -/
def bulletRule (indentation depth : Nat) : LineRule := fun line =>
  (after? (List.replicate indentation ' ' ++ ['*', ' ']) line).map (List.replicate depth '*' ++ ·)

/-- A numbered point has digits, a point and a space behind one space.  The numbers themselves are
not kept, since lists are numbered anew. -/
def numberedRule : LineRule := fun line =>
  match line with
  | ' ' :: d :: rest =>
    if isDigit d then
      (after? ['.', ' '] (rest.dropWhile isDigit)).map (['1', '.', ' '] ++ ·)
    else none
  | _ => none

/-- A divider is a line of four or more dashes.  An empty line is put before it, since directly
under a paragraph it would make that a heading. -/
def dividerRule : LineRule := fun line =>
  if 4 ≤ line.length && line.all (· == '-') then some ('\n' :: line) else none

/-- The block rules in the order in which they are applied. -/
def blockRules : List LineRule :=
  [6, 5, 4, 3, 2, 1].map headingRule
    ++ [bulletRule 13 4, bulletRule 9 3, bulletRule 5 2, bulletRule 1 1, numberedRule, dividerRule]

/-- What holds of the rules of each kind holds of all block rules. -/
theorem of_mem_blockRules {P : LineRule → Prop} {rule : LineRule} (h : rule ∈ blockRules)
    (heading : ∀ level, level ≠ 0 → P (headingRule level))
    (bullet : ∀ indentation depth, indentation ≠ 0 → depth ≠ 0 →
      P (bulletRule indentation depth))
    (numbered : P numberedRule) (divider : P dividerRule) : P rule := by
  rcases List.mem_append.1 h with h | h
  · obtain ⟨level, hl, rfl⟩ := List.mem_map.1 h
    refine heading level ?_
    rintro rfl
    exact absurd hl (by decide)
  · simp only [List.mem_cons, List.not_mem_nil, or_false] at h
    rcases h with rfl | rfl | rfl | rfl | rfl | rfl
    · exact bullet 13 4 (by decide) (by decide)
    · exact bullet 9 3 (by decide) (by decide)
    · exact bullet 5 2 (by decide) (by decide)
    · exact bullet 1 1 (by decide) (by decide)
    · exact numbered
    · exact divider

/-- Converts each line of a text that the rule accepts. -/
def applyLineRule (rule : LineRule) (s : List Char) : List Char :=
  mapLines (fun line => (rule line).getD line) s

/-- Converts headings, bullet points, numbered points and dividers, one kind after the other. -/
def blockMarkdown (s : List Char) : List Char :=
  blockRules.foldl (fun text rule => applyLineRule rule text) s

/-- Converts one line by the first rule that accepts it. -/
def blockLineMarkdown (line : List Char) : List Char :=
  (blockRules.findSome? fun rule => rule line).getD line

end TicketMigration.Markup
