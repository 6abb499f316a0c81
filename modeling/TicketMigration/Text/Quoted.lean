import TicketMigration.Text.Printable

/-!
# Quoted text

Messages show a text between quotes, so that its ends and its invisible characters can be seen.
The quotes are single, unless the text has single quotes and no double ones.  The backslash and
the quotes that are used are escaped, and so are all characters that cannot be seen: newline,
carriage return and tab by a letter, the others by their code point in hexadecimal.

A text is a list of code points here, since a written escape can name a code point that is no
character.

## Main definitions

* `quoteCodes` quotes a list of code points, `quoted` a text.
-/

namespace TicketMigration.Text

/-- The small hexadecimal digit of a number below sixteen. -/
def hexDigit (n : Nat) : Char :=
  if n < 10 then Char.ofNat ('0'.toNat + n) else Char.ofNat ('a'.toNat + (n - 10))

/-- The last hexadecimal digits of a number, as many as the width says. -/
def hexPadded : Nat → Nat → List Char
  | 0, _ => []
  | width + 1, n => hexPadded width (n / 16) ++ [hexDigit (n % 16)]

/-- The escape of a code point that cannot be seen, as short as the code point allows. -/
def hexEscape (code : Nat) : List Char :=
  if code < 0x100 then '\\' :: 'x' :: hexPadded 2 code
  else if code < 0x10000 then '\\' :: 'u' :: hexPadded 4 code
  else '\\' :: 'U' :: hexPadded 8 code

/-- A code point as it stands between the given quotes. -/
def quoteCode (quote : Char) (code : Nat) : List Char :=
  if code = quote.toNat || code = '\\'.toNat then ['\\', Char.ofNat code]
  else if code = '\n'.toNat then ['\\', 'n']
  else if code = '\r'.toNat then ['\\', 'r']
  else if code = '\t'.toNat then ['\\', 't']
  else if isPrintable code then [Char.ofNat code]
  else hexEscape code

/-- The quotes for a list of code points. -/
def quoteFor (codes : List Nat) : Char :=
  if codes.contains '\''.toNat && !codes.contains '"'.toNat then '"' else '\''

/-- A list of code points between quotes. -/
def quoteCodes (codes : List Nat) : List Char :=
  quoteFor codes :: codes.flatMap (quoteCode (quoteFor codes)) ++ [quoteFor codes]

/-- A text between quotes. -/
def quoted (s : List Char) : List Char :=
  quoteCodes (s.map Char.toNat)

/-- A text between quotes. -/
def quotedString (s : String) : String :=
  String.ofList (quoted s.toList)

end TicketMigration.Text
