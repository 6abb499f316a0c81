import TicketMigration.Literal.Descent

/-!
# Reading literals

A literal is read as an expression, which is then asked for its datum.  Two limits keep that short:
one on the rules of the grammar that are entered at once, and one on the depth of the operands.

## Main definitions

* `wholeExpression?` is the expression of all words of a text.
* `readLiteral` reads a text as a datum.
-/

namespace TicketMigration.Literal

/-- How deep the grammar is entered for each character of a text, at most. -/
def depthPerCharacter : Nat := 16

/-- The expression of a whole text, given its length and its words. -/
def wholeExpression? (length : Nat) (tokens : List Token) : Option Expression :=
  (expressions? (depthPerCharacter * (length + 1)) tokens).map fun (es, isTuple) =>
    oneOrTuple es isTuple

/-- How many rules of the grammar can be entered at once. -/
def maxDescent : Nat := 6000

/-- How deeply nested operands can be evaluated. -/
def maxOperandDepth : Nat := 2950

/-- Reads a text as a datum.  A text that is nested too deeply is given up where it is, so what
stands behind may be anything. -/
def readLiteral (s : List Char) : Except LiteralFault Value :=
  let (tokens, isWhole) := words s
  if maxDescent < descent tokens then .error .tooNested
  else if !isWhole then .error .malformed
  else
    match wholeExpression? s.length tokens with
    | none => .error .malformed
    | some e => if maxOperandDepth < e.depth then .error .tooDeep else e.value

end TicketMigration.Literal
