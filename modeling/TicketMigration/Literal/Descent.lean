import TicketMigration.Literal.Grammar

/-!
# How far a reader descends

A reader enters one rule of the grammar inside another.  An operand stands below all the ways in
which an expression may be joined, and inside a bracket the whole way begins again.  The number of
rules that are entered and not yet left is limited, so a text may be nested too deeply to be read.

That number depends only on the words in front of an operand.  It is found in one pass over the
words, without reading an expression.

## Main definitions

* `Lead` is what stands in front of an operand, `Frame` what is known of an open bracket.
* `Descent.step` goes on by one word.
* `descent` is the greatest number of rules that are entered at once.
-/

namespace TicketMigration.Literal

/-- The rules that are entered between an expression and an operand of it. -/
def operandRules : Nat := 22

/-- The rules that a quotation needs more than another operand. -/
def quotationRules : Nat := 2

/-- The rules that are entered between the whole text and each expression of it. -/
def textRules : List Nat := [3, 5]

/-- The rules that are entered between an expression and each element of a bracket in it: the first
element, the next ones, and last all that follow.  The bracket may stand behind what is called or
selected from. -/
def bracketRules (selects : Bool) (bracket : Char) : List Nat :=
  if bracket = '(' then if selects then [24, 28] else [28, 30, 31]
  else if bracket = '[' then if selects then [24, 27] else [29, 30]
  else [29, 30]

/-- The rules that are entered between a function without a name and what a parameter of it is
when it is left out. -/
def parameterRules : List Nat := [8]

/-- The rules that the words in front of an operand add. -/
structure Lead where
  /-- Rules of `and` and `or`. -/
  junction : Nat := 0
  /-- Rules of `not`. -/
  negation : Nat := 0
  /-- Rules of a comparison. -/
  comparison : Nat := 0
  /-- Rules of signs and powers. -/
  signs : Nat := 0
  deriving DecidableEq, Repr

namespace Lead

/-- The rules that are added in all. -/
def rules (l : Lead) : Nat :=
  l.junction + l.negation + l.comparison + l.signs

end Lead

/-- What is known of an open bracket. -/
structure Frame where
  /-- The rules that are entered where an element begins: this one, the next ones, and last all that
  follow. -/
  elements : List Nat
  /-- The rules that are entered where the expression begins that is being read. -/
  expression : Nat
  /-- What stands in front of the operand. -/
  lead : Lead := {}
  /-- Whether parameters are read, up to a colon. -/
  parameters : Bool := false
  deriving DecidableEq, Repr

namespace Frame

/-- The frame of a bracket before its first element. -/
def ofElements (elements : List Nat) : Frame :=
  { elements, expression := elements.headD 0 }

/-- The rules that are entered at the operand. -/
def operand (f : Frame) : Nat :=
  f.expression + operandRules + f.lead.rules

/-- The frame of a bracket that is the operand, given the rules of its elements. -/
def inner (f : Frame) (rules : List Nat) : Frame :=
  ofElements (rules.map (f.expression + f.lead.rules + ·))

/-- Begins the element behind a comma. -/
def next (f : Frame) : Frame :=
  match f.elements with
  | _ :: later :: rest => { f with elements := later :: rest, expression := later, lead := {} }
  | _ => { f with expression := f.elements.headD 0, lead := {} }

/-- Begins the other half of the element. -/
def again (f : Frame) : Frame :=
  { f with expression := f.elements.headD 0, lead := {} }

/-- Begins an expression inside the one that is being read. -/
def below (rules : Nat) (f : Frame) : Frame :=
  { f with expression := f.expression + rules, lead := {} }

/-- Goes on behind a sign or a power. -/
def signed (rules : Nat) (f : Frame) : Frame :=
  { f with lead := { f.lead with signs := f.lead.signs + rules } }

/-- Goes on behind an operator between two operands. -/
def joined (f : Frame) : Frame :=
  { f with lead := { f.lead with signs := 0 } }

/-- Goes on behind an operator that compares. -/
def compared (f : Frame) : Frame :=
  { f with lead := { f.lead with comparison := 3, signs := 0 } }

/-- Goes on behind `not`. -/
def negated (f : Frame) : Frame :=
  { f with lead := { f.lead with negation := f.lead.negation + 1 } }

/-- Goes on behind `and` or `or`. -/
def alternative (f : Frame) : Frame :=
  { f with lead := { junction := 2 } }

end Frame

/-- Where the pass over the words is. -/
structure Descent where
  /-- The innermost open bracket. -/
  top : Frame := .ofElements textRules
  /-- The brackets around it. -/
  outer : List Frame := []
  /-- Whether an operand has to follow. -/
  expects : Bool := true
  /-- The greatest number of rules so far. -/
  deepest : Nat := 0
  deriving DecidableEq, Repr

namespace Descent

/-- Goes on behind a word that an operand has to follow. -/
def onward (d : Descent) (change : Frame → Frame) : Descent :=
  { d with top := change d.top, expects := true }

/-- Enters a bracket.  A parameter is a name and no operand. -/
def enter (d : Descent) (frame : Frame) : Descent :=
  { d with top := frame, outer := d.top :: d.outer, expects := !frame.parameters }

/-- Leaves a bracket, which is an operand. -/
def leave (d : Descent) : Descent :=
  match d.outer with
  | [] => { d with expects := false }
  | frame :: outer => { d with top := frame, outer, expects := false }

/-- Takes down the rules at a word that stands where an operand is expected. -/
def note (d : Descent) (token : Token) : Descent :=
  if d.expects then
    let rules := d.top.operand + if token.isQuotation then quotationRules else 0
    { d with deepest := max d.deepest rules }
  else d

/-- Goes on by a keyword. -/
def keyword (d : Descent) (k : String) : Descent :=
  if k = "lambda" then
    d.enter { Frame.ofElements (parameterRules.map (d.top.expression + ·)) with parameters := true }
  else if k = "and" || k = "or" then d.onward .alternative
  else if k = "not" && d.expects then d.onward .negated
  else if k = "not" || k = "in" || k = "is" then d.onward .compared
  else if k = "if" || k = "for" then d.onward (.below 0)
  else if k = "else" then d.onward (.below 1)
  else if (Token.keyword k).constant?.isSome then { d with expects := false }
  else d.onward id

/-- Goes on by a mark. -/
def mark (d : Descent) (m : String) : Descent :=
  if m = ":=" then d.onward (.below 1)
  else if d.expects then d.onward (if m = "~" then .signed 1 else id)
  else if m = "**" then d.onward (.signed 2)
  else d.onward (if comparisons.contains m then .compared else .joined)

/-- Goes on by a word. -/
def move (d : Descent) : Token → Descent
  | .opening bracket => d.enter (d.top.inner (bracketRules (!d.expects) bracket))
  | .closing _ => d.leave
  | .comma => { d with top := d.top.next, expects := !d.top.parameters }
  | .colon => if d.top.parameters then d.leave.onward (.below 2) else d.onward .again
  | .sign _ => d.onward (if d.expects then .signed 1 else .joined)
  | .keyword k => d.keyword k
  | .mark m => d.mark m
  | _ => { d with expects := false }

/-- Takes a word down and goes on by it. -/
def step (d : Descent) (token : Token) : Descent :=
  (d.note token).move token

end Descent

/-- The greatest number of rules that are entered at once at an operand. -/
def descent (tokens : List Token) : Nat :=
  (tokens.foldl Descent.step {}).deepest

end TicketMigration.Literal
