import TicketMigration.Text.Blank
import TicketMigration.Text.Digit

/-!
# Whole numbers in decimal

## Main definitions

* `padded width n` writes the last digits of a number, as many as the width says.
* `ofDigits` is the number that a list of digits stands for.
* `integer?` reads a whole number with an optional sign, digits of any script, single underscores
  between digits and blanks around it.
* `trimNumber` drops those blanks.
-/

namespace TicketMigration.Text

/-- The digit character of a number below ten. -/
def digitChar (n : Nat) : Char :=
  Char.ofNat ('0'.toNat + n)

/-- The last digits of a number in decimal, as many as the width says. -/
def padded : Nat → Nat → List Char
  | 0, _ => []
  | width + 1, n => padded width (n / 10) ++ [digitChar (n % 10)]

/-- The number that digits, the highest first, stand for. -/
def ofDigits (digits : List Nat) : Nat :=
  digits.foldl (fun n d => n * 10 + d) 0

/-- Reads digits with single underscores between them. -/
def digits? : List Char → Option (List Nat)
  | [] => none
  | [c] => (digitValue? c).map ([·])
  | c :: d :: s =>
    (digitValue? c).bind fun n =>
      (if d = '_' then digits? s else digits? (d :: s)).map (n :: ·)

/-- The largest number of digits that a whole number may have. -/
def maxDigits : Nat := 4300

/-- Reads digits as a number, if there are not too many. -/
def natural? (s : List Char) : Option Nat :=
  (digits? s).bind fun ds => if ds.length ≤ maxDigits then some (ofDigits ds) else none

/-- Whether the character may stand around a number: a blank, but none of the ASCII separators of
files, groups, records and units. -/
def isNumberBlank (c : Char) : Bool :=
  isBlank c && !within [(28, 31)] c.toNat

/-- Drops the blanks around a number. -/
def trimNumber (s : List Char) : List Char :=
  dropEndWhile isNumberBlank (s.dropWhile isNumberBlank)

/-- Reads a whole number. -/
def integer? (s : List Char) : Option Int :=
  match trimNumber s with
  | '-' :: rest => (natural? rest).map fun n => -(n : Int)
  | '+' :: rest => (natural? rest).map fun n => (n : Int)
  | rest => (natural? rest).map fun n => (n : Int)

@[simp] theorem length_padded (width n : Nat) : (padded width n).length = width := by
  induction width generalizing n with
  | zero => rfl
  | succ width ih => simp [padded, ih]

end TicketMigration.Text
