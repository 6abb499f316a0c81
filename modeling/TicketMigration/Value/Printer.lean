import TicketMigration.Binary64.Shortest
import TicketMigration.Text.Quoted
import TicketMigration.Value.Basic

/-!
# Written data

The text of a datum is the literal that denotes it.

## Main definitions

* `Value.literal` writes a datum.
-/

namespace TicketMigration

open Text

namespace Value

/-- A byte as it stands between the given quotes. -/
def quoteByte (quote : Char) (byte : Nat) : List Char :=
  if byte = quote.toNat || byte = '\\'.toNat then ['\\', Char.ofNat byte]
  else if byte = '\n'.toNat then ['\\', 'n']
  else if byte = '\r'.toNat then ['\\', 'r']
  else if byte = '\t'.toNat then ['\\', 't']
  else if byte < 32 || 127 ≤ byte then '\\' :: 'x' :: hexPadded 2 byte
  else [Char.ofNat byte]

/-- A string of bytes between quotes. -/
def quoteBytes (bytes : List Nat) : List Char :=
  'b' :: quoteFor bytes :: bytes.flatMap (quoteByte (quoteFor bytes)) ++ [quoteFor bytes]

/-- The text of a complex number.  A real part of zero is left out. -/
def complexText (re im : Binary64) : List Char :=
  if re = .zero then im.text false ++ ['j']
  else
    let imaginary := im.text false
    let sign := if imaginary.head? = some '-' then [] else ['+']
    '(' :: re.text false ++ sign ++ imaginary ++ ['j', ')']

/-- Members between brackets, with commas between them. -/
def bracketed (opening closing : List Char) (members : List (List Char)) : List Char :=
  opening ++ (members.intersperse [',', ' ']).flatten ++ closing

mutual

/-- The text of a datum. -/
def literal : Value → List Char
  | null => "None".toList
  | bool b => (if b then "True" else "False").toList
  | int n => (toString n).toList
  | float x => x.text true
  | complex re im => complexText re im
  | text codes => quoteCodes codes
  | bytes data => quoteBytes data
  | list items => bracketed ['['] [']'] (literals items)
  | tuple items =>
    match literals items with
    | [only] => '(' :: only ++ [',', ')']
    | members => bracketed ['('] [')'] members
  | set members =>
    match literals members with
    | [] => "set()".toList
    | members => bracketed ['{'] ['}'] members
  | dict entries => bracketed ['{'] ['}'] (literalEntries entries)
  | ellipsis => "Ellipsis".toList

/-- The texts of data. -/
def literals : List Value → List (List Char)
  | [] => []
  | x :: xs => literal x :: literals xs

/-- The texts of entries, the key before the value. -/
def literalEntries : List (Value × Value) → List (List Char)
  | [] => []
  | (key, value) :: rest => (literal key ++ [':', ' '] ++ literal value) :: literalEntries rest

end

end Value

end TicketMigration
