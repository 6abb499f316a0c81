import TicketMigration.Binary64.Basic
import TicketMigration.Text.Decimal

/-!
# The shortest text of a floating-point number

A number is written with the fewest digits that read back as the number, and of the texts with as
many digits as the nearest one.  From one ten-thousandth up to, but without, ten to the sixteenth
the digits are written positionally, otherwise with a power of ten.

## Main definitions

* `Binary64.shortest` finds the digits and the place of the point.
* `Binary64.text` writes a number; whether a whole number gets a fraction is left to the caller.
-/

namespace TicketMigration.Binary64

open Text

/-- The quotients that round to a number: the two ends, and whether they belong to it. -/
structure Interval where
  /-- The lower end. -/
  low : Ratio
  /-- The upper end. -/
  high : Ratio
  /-- Whether the ends round to the number. -/
  closed : Bool

/-- Whether the quotient lies in the interval. -/
def Interval.holds (i : Interval) (r : Ratio) : Bool :=
  if i.closed then i.low.atMost r && r.atMost i.high
  else i.low.lessThan r && r.lessThan i.high

/-- The quotients that round to the number.  Below a power of two the neighbours are closer. -/
def interval (significand : Nat) (exponent : Int) : Interval where
  low :=
    if significand = Nat.pow 2 (precision - 1) ∧ minExponent < exponent then
      size (4 * significand - 1) (exponent - 2)
    else size (2 * significand - 1) (exponent - 1)
  high := size (2 * significand + 1) (exponent - 1)
  closed := significand % 2 == 0

/-- The exponent of the highest decimal digit of a quotient. -/
def decimalExponent (r : Ratio) : Int :=
  let guess := Int.fdiv (((r.num.log2 : Int) - (r.den.log2 : Int)) * 30103) 100000
  if (Ratio.power 10 (guess + 1)).atMost r then guess + 1
  else if r.lessThan (Ratio.power 10 guess) then guess - 1
  else guess

/-- The nearest multiple of a power of ten that lies in the interval, if there is one. -/
def onGrid? (i : Interval) (r : Ratio) (exponent : Int) : Option Nat :=
  let unit := Ratio.power 10 exponent
  let below := (r.div unit).floor
  let inside := fun n : Nat => i.holds ((Ratio.mk n 1).mul unit)
  match inside below, inside (below + 1) with
  | true, true => some (r.div unit).nearest
  | true, false => some below
  | false, true => some (below + 1)
  | false, false => none

/-- The fewest decimal digits that read back as the number, as a whole number, and the exponent of
its last digit. -/
def shortest (significand : Nat) (exponent : Int) : Nat × Int :=
  let r := size significand exponent
  let i := interval significand exponent
  let top := decimalExponent r
  let tries := (List.range 17).map fun (n : Nat) => top - (n : Int)
  (tries.findSome? fun e => (onGrid? i r e).map (·, e)).getD (0, 0)

/-- Drops zeros at the end of a whole number and raises the exponent of its last digit. -/
def dropZeros : Nat → Nat × Int → Nat × Int
  | 0, parts => parts
  | fuel + 1, (digits, e) =>
    if digits % 10 = 0 && digits != 0 then dropZeros fuel (digits / 10, e + 1) else (digits, e)

/-- Writes digits with a point behind the given number of them.  A whole number gets a fraction of
zero if `fraction` asks for one. -/
def positional (fraction : Bool) (digits : List Char) (point : Int) : List Char :=
  if point ≤ 0 then '0' :: '.' :: List.replicate (-point).toNat '0' ++ digits
  else if point < digits.length then
    digits.take point.toNat ++ '.' :: digits.drop point.toNat
  else
    digits ++ List.replicate (point.toNat - digits.length) '0' ++
      if fraction then ['.', '0'] else []

/-- Writes digits with a power of ten, whose exponent has a sign and at least two digits. -/
def exponential (digits : List Char) (exponent : Int) : List Char :=
  let size := (toString exponent.natAbs).toList
  let first := digits.take 1
  let rest := digits.drop 1
  first ++ (if rest.isEmpty then [] else '.' :: rest) ++
    'e' :: (if exponent < 0 then '-' else '+') ::
      (List.replicate (2 - size.length) '0' ++ size)

/-- The text of a number. -/
def text (fraction : Bool) : Binary64 → List Char
  | infinite negative => (if negative then "-inf" else "inf").toList
  | finite negative significand exponent =>
    let sign := if negative then ['-'] else []
    if significand = 0 then sign ++ positional fraction ['0'] 1
    else
      let (n, e) := dropZeros 400 (shortest significand exponent)
      let digits := (toString n).toList
      let point := e + digits.length
      sign ++
        if -4 < point && point ≤ 16 then positional fraction digits point
        else exponential digits (point - 1)

end TicketMigration.Binary64
