/-!
# Binary floating-point numbers

The double-precision numbers of the binary interchange format, held exactly as a sign, a
significand and a power of two.  The format's values that are no numbers do not arise from written
numbers and are left out.

## Main definitions

* `Ratio` is a quotient of natural numbers.
* `Binary64` is a double-precision number.
* `Binary64.ofRatio` rounds a quotient to the nearest one, a tie to the even significand.
* `Binary64.ofScientific` reads digits and a power of ten.
* `Binary64.isInteger` compares with a whole number.
-/

namespace TicketMigration

/-- A quotient of natural numbers. -/
structure Ratio where
  /-- The numerator. -/
  num : Nat
  /-- The denominator. -/
  den : Nat
  deriving DecidableEq, Repr

namespace Ratio

/-- The power of a base to an exponent of either sign. -/
def power (base : Nat) : Int → Ratio
  | .ofNat n => ⟨base.pow n, 1⟩
  | .negSucc n => ⟨1, base.pow (n + 1)⟩

/-- The product. -/
def mul (a b : Ratio) : Ratio :=
  ⟨a.num * b.num, a.den * b.den⟩

/-- The quotient. -/
def div (a b : Ratio) : Ratio :=
  ⟨a.num * b.den, a.den * b.num⟩

/-- Whether the first is at most the second. -/
def atMost (a b : Ratio) : Bool :=
  a.num * b.den ≤ b.num * a.den

/-- Whether the first is less than the second. -/
def lessThan (a b : Ratio) : Bool :=
  a.num * b.den < b.num * a.den

/-- The greatest natural number that is not above the quotient. -/
def floor (a : Ratio) : Nat :=
  a.num / a.den

/-- The nearest natural number, a tie going to the even one. -/
def nearest (a : Ratio) : Nat :=
  let q := a.num / a.den
  let twice := 2 * (a.num % a.den)
  if twice < a.den then q
  else if a.den < twice then q + 1
  else if q % 2 = 0 then q else q + 1

end Ratio

/-- A double-precision number. -/
inductive Binary64
  /-- The significand times the power of two, or its negative. -/
  | finite (negative : Bool) (significand : Nat) (exponent : Int)
  /-- An infinite value. -/
  | infinite (negative : Bool)
  deriving DecidableEq, Repr

namespace Binary64

/-- The zero without a minus sign. -/
def zero : Binary64 :=
  finite false 0 (-1074)

/-- The least exponent. -/
def minExponent : Int := -1074

/-- The greatest exponent of a finite number. -/
def maxExponent : Int := 971

/-- The number of bits of a significand. -/
def precision : Nat := 53

/-- The number with the other sign. -/
def neg : Binary64 → Binary64
  | finite negative significand exponent => finite (!negative) significand exponent
  | infinite negative => infinite (!negative)

/-- The finite number with this significand and exponent, or infinity if it is too large. -/
def ofSignificand (significand : Nat) (exponent : Int) : Binary64 :=
  if significand = Nat.pow 2 precision then
    if maxExponent < exponent + 1 then infinite false
    else finite false (Nat.pow 2 (precision - 1)) (exponent + 1)
  else if maxExponent < exponent then infinite false
  else finite false significand exponent

/-- The exponent for which a quotient has a significand of full precision, or the least one. -/
def exponentFor (r : Ratio) : Int :=
  let low := max (((r.num.log2 : Int) - (r.den.log2 : Int)) - precision) minExponent
  if Nat.pow 2 precision ≤ (r.div (Ratio.power 2 low)).floor then low + 1 else low

/-- The number nearest to a quotient. -/
def ofRatio (r : Ratio) : Binary64 :=
  if r.num = 0 then zero
  else ofSignificand (r.div (Ratio.power 2 (exponentFor r))).nearest (exponentFor r)

/-- The number nearest to a natural number times a power of ten, which is given with the number of
its digits.  A power that takes every such number out of range is not computed. -/
def ofScientific (digits mantissa : Nat) (exponent : Int) : Binary64 :=
  if mantissa = 0 then zero
  else if 320 < (digits : Int) + exponent then infinite false
  else if (digits : Int) + exponent < -400 then zero
  else ofRatio ((Ratio.mk mantissa 1).mul (Ratio.power 10 exponent))

/-- Whether the number is zero, of either sign. -/
def isZero : Binary64 → Bool
  | finite _ significand _ => significand == 0
  | infinite _ => false

/-- Whether the number is finite. -/
def isFinite : Binary64 → Bool
  | finite _ _ _ => true
  | infinite _ => false

/-- The size of a finite number as a quotient. -/
def size (significand : Nat) (exponent : Int) : Ratio :=
  (Ratio.mk significand 1).mul (Ratio.power 2 exponent)

/-- Whether two numbers are equal as numbers, so that the two zeros are. -/
def same (a b : Binary64) : Bool :=
  a == b || (a.isZero && b.isZero)

/-- Whether the number is equal to a whole number. -/
def isInteger (x : Binary64) (n : Int) : Bool :=
  match x with
  | infinite _ => false
  | finite negative significand exponent =>
    let r := size significand exponent
    r.num == n.natAbs * r.den && (n == 0 || negative == decide (n < 0))

end Binary64

end TicketMigration
