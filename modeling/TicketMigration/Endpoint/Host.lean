import TicketMigration.Text.Lines

/-!
# Hosts in brackets

An address may name its host by a number in brackets.  Such a number has eight groups of up to
four hexadecimal digits with colons between them, of which a double colon leaves out one run, and
of which the last two may be written as four decimal numbers with points.  A host that begins with
a `v` is of a kind to come.

## Main definitions

* `isIPv4` and `isIPv6` recognise the two kinds of numbers.
* `isFutureHost` recognises a host of a kind to come.
-/

namespace TicketMigration.Endpoint

open Text

/-- Whether a character is a hexadecimal digit. -/
def isHexDigit (c : Char) : Bool :=
  c.isDigit || ('a' ≤ c && c ≤ 'f') || ('A' ≤ c && c ≤ 'F')

/-- Whether a text is a decimal number below 256 without zeros in front. -/
def isOctet (s : List Char) : Bool :=
  !s.isEmpty && s.all Char.isDigit && s.length ≤ 3 && (s.length == 1 || s.head? != some '0') &&
    s.foldl (fun n c => n * 10 + (c.toNat - '0'.toNat)) 0 ≤ 255

/-- Whether a text is four decimal numbers with points between them. -/
def isIPv4 (s : List Char) : Bool :=
  (splitOn '.' s).length == 4 && (splitOn '.' s).all isOctet

/-- Whether a text is a group of hexadecimal digits. -/
def isGroup (s : List Char) : Bool :=
  !s.isEmpty && s.length ≤ 4 && s.all isHexDigit

/-- The groups of a number; four decimal numbers at its end count as two groups. -/
def groups? (s : List Char) : Option (List (List Char)) :=
  let parts := splitOn ':' s
  match parts.getLast? with
  | some last =>
    if last.contains '.' then
      if isIPv4 last then some (parts.dropLast ++ [['0'], ['0']]) else none
    else some parts
  | none => none

/-- The groups on one side of a double colon; the end of the number may be there instead. -/
def isSide (groups : List (List Char)) : Bool :=
  groups == [[]] || groups.all isGroup

/-- Whether the groups are those of a number.  A double colon leaves an empty group between its
neighbours. -/
def areGroups (groups : List (List Char)) : Bool :=
  let inner := (groups.drop 1).dropLast
  if inner.any List.isEmpty then
    let front := groups.take (1 + (inner.takeWhile (!·.isEmpty)).length)
    let back := groups.drop (front.length + 1)
    isSide front && isSide back &&
      (front.filter (!·.isEmpty)).length + (back.filter (!·.isEmpty)).length ≤ 7
  else groups.length == 8 && groups.all isGroup

/-- Whether a text is a number of eight groups, behind which the name of a zone may stand. -/
def isIPv6 (s : List Char) : Bool :=
  let number := s.takeWhile (· != '%')
  let zone := s.dropWhile (· != '%')
  (zone.isEmpty || (2 ≤ zone.length && !(zone.drop 1).contains '%')) &&
    3 ≤ (splitOn ':' number).length && (splitOn ':' number).length ≤ 9 &&
    match groups? number with
    | some groups => areGroups groups
    | none => false

/-- Whether a text names a host of a kind to come: a `v`, a version, a point and a name. -/
def isFutureHost (s : List Char) : Bool :=
  match s with
  | 'v' :: rest =>
    !(rest.takeWhile isHexDigit).isEmpty &&
      match rest.dropWhile isHexDigit with
      | '.' :: name => !name.isEmpty
      | _ => false
  | _ => false

end TicketMigration.Endpoint
