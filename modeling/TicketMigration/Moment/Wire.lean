import TicketMigration.Moment.Basic
import TicketMigration.Text.Quoted

/-!
# Moments on the wire

The tracker sends a moment as year, month and day, the letter T, and hours, minutes and seconds
between colons.  A reader that is told this format accepts more than its writer sends: fields may
lack their leading zero, a day may have a space in its place, and digits of any script are digits.
Where a text can be cut into fields in several ways, the first one in the order of the listed
alternatives counts.

## Main definitions

* `FormatPart` is a field with its alternatives or a mark, `wireFormat` the list of them.
* `readings` lists all ways to read the front of a text, the preferred one first.
* `Moment.ofWire` reads a moment or says why it cannot.
-/

namespace TicketMigration

open Text

/-- A place of a field. -/
inductive Place
  /-- A digit of our own script between two values. -/
  | between (low high : Nat)
  /-- A digit of any script. -/
  | digit
  /-- A space in place of a leading zero. -/
  | space
  deriving DecidableEq, Repr

/-- The value that a character has at a place, if it may stand there. -/
def Place.value? : Place → Char → Option Nat
  | between low high, c =>
    if c.isDigit && low ≤ c.toNat - '0'.toNat && c.toNat - '0'.toNat ≤ high then
      some (c.toNat - '0'.toNat)
    else none
  | digit, c => digitValue? c
  | space, c => if c = ' ' then some 0 else none

/-- A part of a format. -/
inductive FormatPart
  /-- A number, given by the ways to write it, the preferred one first. -/
  | number (alternatives : List (List Place))
  /-- A fixed character; letters may be of either case. -/
  | mark (c : Char)
  deriving Repr

/-- Reads one way to write a number, given the value of the digits before. -/
def readPlaces (before : Nat) : List Place → List Char → Option (Nat × List Char)
  | [], s => some (before, s)
  | _ :: _, [] => none
  | place :: places, c :: s =>
    (place.value? c).bind fun n => readPlaces (before * 10 + n) places s

/-- All ways to read the front of a text, the preferred one first: the numbers and the rest. -/
def readings : List FormatPart → List Char → List (List Nat × List Char)
  | [], s => [([], s)]
  | .number alternatives :: parts, s =>
    (alternatives.filterMap fun places => readPlaces 0 places s).flatMap fun field =>
      (readings parts field.2).map fun reading => (field.1 :: reading.1, reading.2)
  | .mark _ :: _, [] => []
  | .mark m :: parts, c :: s => if c = m || c = m.toLower then readings parts s else []

/-- The format in which the tracker writes moments. -/
def wireFormat : List FormatPart :=
  [.number [[.digit, .digit, .digit, .digit]],
    .number [[.between 1 1, .between 0 2], [.between 0 0, .between 1 9], [.between 1 9]],
    .number [[.between 3 3, .between 0 1], [.between 1 2, .digit], [.between 0 0, .between 1 9],
      [.between 1 9], [.space, .between 1 9]],
    .mark 'T',
    .number [[.between 2 2, .between 0 3], [.between 0 1, .digit], [.digit]],
    .mark ':',
    .number [[.between 0 5, .digit], [.digit]],
    .mark ':',
    .number [[.between 6 6, .between 0 1], [.between 0 5, .digit], [.digit]]]

/-- Why a text is not a moment. -/
inductive WireFault
  /-- The text is not in the format. -/
  | mismatch (text : List Char)
  /-- The text goes on after a moment. -/
  | trailing (rest : List Char)
  /-- The fields are not those of a real moment. -/
  | unreal (fault : Moment.Fault)
  deriving DecidableEq, Repr

/-- The text of a fault. -/
def WireFault.message : WireFault → String
  | mismatch text =>
    "time data " ++ String.ofList (quoted text) ++ " does not match format '%Y%m%dT%H:%M:%S'"
  | trailing rest => "unconverted data remains: " ++ String.ofList rest
  | unreal fault => fault.message

/-- Reads a moment as the tracker writes it. -/
def Moment.ofWire (s : List Char) : Except WireFault Moment :=
  match readings wireFormat s with
  | ([year, month, day, hour, minute, second], []) :: _ =>
    (Moment.check { year, month, day, hour, minute, second }).mapError .unreal
  | (_, c :: rest) :: _ => .error (.trailing (c :: rest))
  | _ => .error (.mismatch s)

end TicketMigration
