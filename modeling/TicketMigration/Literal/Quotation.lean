import TicketMigration.CharacterName.Lookup
import TicketMigration.Text.Scan

/-!
# Quotations in literals

A quotation begins with one quote or three equal ones and ends with the same.  A backslash keeps
the next character from ending it.  Within one quote it stays on its line.

## Main definitions

* `quotation?` reads the inside of a quotation, with its escapes.
* `unescape` says what the inside of a quotation denotes, `rawCodes` what it denotes where
  backslashes are kept.
-/

namespace TicketMigration.Literal

open Text

/-- Reads up to the closing quotes. -/
def quotationBody? (closing : List Char) : List Char → Option (List Char × List Char)
  | [] => none
  | ['\\'] => none
  | '\\' :: c :: s =>
    (quotationBody? closing s).map fun parts => ('\\' :: c :: parts.1, parts.2)
  | c :: s =>
    match after? closing (c :: s) with
    | some rest => some ([], rest)
    | none =>
      if c = '\n' && closing.length = 1 then none
      else (quotationBody? closing s).map fun parts => (c :: parts.1, parts.2)

/-- Reads a quotation at the front of a text: its inside and what follows it. -/
def quotation? (s : List Char) : Option (List Char × List Char) :=
  match s with
  | c :: rest =>
    if c = '\'' || c = '"' then
      match after? [c, c] rest with
      | some inside => quotationBody? [c, c, c] inside
      | none => quotationBody? [c] rest
    else none
  | [] => none

/-- The value of a hexadecimal digit. -/
def hexValue? (c : Char) : Option Nat :=
  if c.isDigit then some (c.toNat - '0'.toNat)
  else if 'a' ≤ c && c ≤ 'f' then some (c.toNat - 'a'.toNat + 10)
  else if 'A' ≤ c && c ≤ 'F' then some (c.toNat - 'A'.toNat + 10)
  else none

/-- The value of an octal digit. -/
def octalValue? (c : Char) : Option Nat :=
  if '0' ≤ c && c ≤ '7' then some (c.toNat - '0'.toNat) else none

/-- The code points and bytes that an escape of one letter names. -/
def letterEscapes : List (Char × Nat) :=
  [('\\', 92), ('\'', 39), ('"', 34), ('a', 7), ('b', 8), ('f', 12), ('n', 10), ('r', 13),
    ('t', 9), ('v', 11)]

/-- Reads exactly as many hexadecimal digits as asked for. -/
def hexDigits? : Nat → Nat → List Char → Option Nat
  | 0, value, _ => some value
  | _ + 1, _, [] => none
  | count + 1, value, c :: s =>
    (hexValue? c).bind fun d => hexDigits? count (value * 16 + d) s

/-- How many characters the number of an escape has, for the escapes by number in hexadecimal. -/
def hexEscapes (wide : Bool) : List (Char × Nat) :=
  ('x', 2) :: if wide then [('u', 4), ('U', 8)] else []

/-- The octal digits at the front of a text, at most three of them. -/
def octalDigits (s : List Char) : List Nat :=
  (s.take 3).map octalValue? |>.takeWhile Option.isSome |>.filterMap id

/-- The greatest code point. -/
def maxCode : Nat := 0x10FFFF

/-- Reads the name of a character in braces: the code point and how many characters that takes. -/
def namedCode? (s : List Char) : Option (Nat × Nat) :=
  (after? ['\x7b'] s).bind fun inside =>
    (upTo? anywhere ['\x7d'] inside).bind fun parts =>
      (CharacterName.codeOfName? parts.1).map (·, parts.1.length + 2)

/-- Reads what follows a backslash: what the escape denotes and how many characters it has.  An
escape that is not known denotes the backslash and the character. -/
def escape? (wide : Bool) (s : List Char) : Option (List Nat × Nat) :=
  match s with
  | [] => none
  | c :: rest =>
    if c = '\n' then some ([], 1)
    else
      match letterEscapes.lookup c, (hexEscapes wide).lookup c, octalDigits s with
      | some code, _, _ => some ([code], 1)
      | none, some count, _ =>
        (hexDigits? count 0 rest).bind fun code =>
          if code ≤ maxCode then some ([code], count + 1) else none
      | none, none, d :: ds =>
        let value := (d :: ds).foldl (fun n d => n * 8 + d) 0
        some ([if wide then value else value % 256], ds.length + 1)
      | none, none, [] =>
        if wide && c = 'N' then
          (namedCode? rest).map fun named => ([named.1], named.2 + 1)
        else if wide || c.toNat < 128 then some (['\\'.toNat, c.toNat], 1)
        else none

/-- What the inside of a quotation denotes.  `wide` is set for text, whose characters may have any
code point. -/
def unescape (wide : Bool) : List Char → Option (List Nat)
  | [] => some []
  | c :: s =>
    if c = '\\' then
      (escape? wide s).bind fun (codes, length) =>
        (unescape wide (s.drop length)).map (codes ++ ·)
    else if wide || c.toNat < 128 then (unescape wide s).map (c.toNat :: ·)
    else none
termination_by s => s.length
decreasing_by
  · simp only [List.length_drop, List.length_cons]
    omega
  · simp

/-- What the inside of a raw quotation denotes, in which a backslash is a character. -/
def rawCodes (wide : Bool) (s : List Char) : Option (List Nat) :=
  if wide || s.all (fun c => c.toNat < 128) then some (s.map Char.toNat) else none

end TicketMigration.Literal
