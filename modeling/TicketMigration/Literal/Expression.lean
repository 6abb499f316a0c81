import TicketMigration.Literal.Name
import TicketMigration.Value.Basic

/-!
# What a literal denotes

A literal is read into an expression first, and only then it is asked for its datum: a text that
can be read may still denote none, such as a name or a sum of two texts.  Of what cannot denote one
only the depth is kept.

## Main definitions

* `Expression` is what can be read.
* `Expression.value` is the datum that an expression denotes, or why it denotes none.
-/

namespace TicketMigration.Literal

/-- Why a text is no literal. -/
inductive LiteralFault
  /-- The text cannot be read, or what it says is no plain datum. -/
  | malformed
  /-- A list, a set or a dictionary is used as a key or as a member of a set. -/
  | unhashable
  /-- A whole number is too large to be added to an imaginary one. -/
  | tooLarge
  /-- Operands are nested too deeply to be evaluated. -/
  | tooDeep
  /-- More rules of the grammar would be entered at once than can be. -/
  | tooNested
  deriving DecidableEq, Repr

/-- What a literal may consist of. -/
inductive Expression
  /-- A number, a text, or one of the words for nothing, true and false. -/
  | constant (value : Value)
  /-- A name. -/
  | name (s : List Char)
  /-- A list. -/
  | list (items : List Expression)
  /-- A tuple. -/
  | tuple (items : List Expression)
  /-- A set with at least one member. -/
  | set (members : List Expression)
  /-- The call that makes an empty set. -/
  | emptySet
  /-- A dictionary. -/
  | dict (entries : List (Expression × Expression))
  /-- A number with a sign. -/
  | signed (negative : Bool) (operand : Expression)
  /-- A sum or a difference. -/
  | sum (minus : Bool) (left right : Expression)
  /-- Something that is no datum, with the depth of its operands. -/
  | other (depth : Nat)
  deriving Repr, Inhabited

namespace Expression

mutual

/-- How deeply operands are nested in an expression. -/
def depth : Expression → Nat
  | list items | tuple items | set items => depthOfAll items + 1
  | dict entries => depthOfEntries entries + 1
  | signed _ operand => operand.depth + 1
  | sum _ left right => max left.depth right.depth + 1
  | other depth => depth
  | constant _ | name _ | emptySet => 0

/-- The greatest depth of a list of expressions. -/
def depthOfAll : List Expression → Nat
  | [] => 0
  | e :: es => max e.depth (depthOfAll es)

/-- The greatest depth of the keys and the values of entries. -/
def depthOfEntries : List (Expression × Expression) → Nat
  | [] => 0
  | (key, val) :: rest => max (max key.depth val.depth) (depthOfEntries rest)

end

/-- An operation on operands that is no datum. -/
def compound (operands : List Expression) : Expression :=
  .other (depthOfAll operands + 1)

/-- The call of an expression.  The call of one name makes an empty set if nothing stands between
the brackets. -/
def called (isPlain : Bool) (arguments : List Expression) : Expression → Expression
  | name s =>
    if isPlain && isSetName s then .emptySet else compound (name s :: arguments)
  | e => compound (e :: arguments)

/-- Evaluation ends with a datum or a fault. -/
abbrev Result (α : Type) := Except LiteralFault α

/-- The nearest floating-point number of a whole number. -/
def binaryOf (n : Int) : Binary64 :=
  let size := Binary64.ofRatio ⟨n.natAbs, 1⟩
  if n < 0 then size.neg else size

/-- The datum of a number without a sign. -/
def unsigned : Expression → Result Value
  | constant (.int n) => .ok (.int n)
  | constant (.float x) => .ok (.float x)
  | constant (.complex re im) => .ok (.complex re im)
  | _ => .error .malformed

/-- The datum of a number with the other sign. -/
def negated : Value → Value
  | .int n => .int (-n)
  | .float x => .float x.neg
  | .complex re im => .complex re.neg im.neg
  | value => value

/-- The datum of a number with or without a sign. -/
def withSign : Expression → Result Value
  | signed negative operand =>
    operand.unsigned.map fun value => if negative then negated value else value
  | e => e.unsigned

/-- The sum of a real and an imaginary number, both given as floating-point numbers.  A zero
that comes of an addition has no minus sign. -/
def addImaginary (minus : Bool) (re im : Binary64) : Value :=
  if minus then .complex re (if im.isZero then .zero else im.neg)
  else .complex (if re.isZero then .zero else re) im

/-- The datum of a sum: only a real and an imaginary number have one.  A whole number that no
floating-point number is near to has none with an imaginary one. -/
def sumValue (minus : Bool) (left right : Expression) : Result Value :=
  match left.withSign, right.unsigned with
  | .ok (.int n), .ok (.complex _ im) =>
    if (binaryOf n).isFinite then .ok (addImaginary minus (binaryOf n) im) else .error .tooLarge
  | .ok (.float x), .ok (.complex _ im) => .ok (addImaginary minus x im)
  | _, _ => .error .malformed

/-- Adds a member to a set that does not have it yet. -/
def addMember (members : List Value) (member : Value) : Result (List Value) :=
  if !member.isKey then .error .unhashable
  else if members.any (·.same member) then .ok members
  else .ok (members ++ [member])

/-- Sets the value of a key, if it may be one. -/
def addEntry (entries : Entries) (key value : Value) : Result Entries :=
  if key.isKey then .ok (entries.put key value) else .error .unhashable

mutual

/-- The datum that an expression denotes. -/
def value : Expression → Result Value
  | constant v => .ok v
  | list items => (values items).map .list
  | tuple items => (values items).map .tuple
  | set members => (membersFrom [] members).map .set
  | emptySet => .ok (.set [])
  | dict entries => (entriesFrom [] entries).map .dict
  | signed negative operand => (signed negative operand).withSign
  | sum minus left right => sumValue minus left right
  | name _ | other _ => .error .malformed

/-- The data that a list of expressions denotes. -/
def values : List Expression → Result (List Value)
  | [] => .ok []
  | e :: es =>
    match value e with
    | .error fault => .error fault
    | .ok v => (values es).map (v :: ·)

/-- Adds members to a set, one after the other. -/
def membersFrom (members : List Value) : List Expression → Result (List Value)
  | [] => .ok members
  | e :: es =>
    match value e with
    | .error fault => .error fault
    | .ok v =>
      match addMember members v with
      | .error fault => .error fault
      | .ok members => membersFrom members es

/-- Adds entries to a dictionary, one after the other. -/
def entriesFrom (entries : Entries) : List (Expression × Expression) → Result Entries
  | [] => .ok entries
  | (key, val) :: rest =>
    match value key with
    | .error fault => .error fault
    | .ok k =>
      match value val with
      | .error fault => .error fault
      | .ok v =>
        match addEntry entries k v with
        | .error fault => .error fault
        | .ok entries => entriesFrom entries rest

end

end Expression

end TicketMigration.Literal
