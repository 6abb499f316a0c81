import Mathlib.Algebra.GroupWithZero.Nat
import Mathlib.Data.List.Induction
import TicketMigration.Proofs.WrittenNumber

/-!
# Numbers of a fixed width

A number that is written with leading zeros in a fixed width is the only text of that many plain
digits that stands for the number, and the order of such texts is the order of the numbers.

## Main definitions

* `numeral` — the number that a text of plain digits stands for.

## Main statements

* `numeral_padded`, `padded_numeral` — writing and reading in a fixed width are inverse.
* `padded_lt_padded_iff` — **texts of a fixed width are ordered as their numbers.**
-/

namespace TicketMigration.Text

variable {width m n : Nat}

/-! ### Digits -/

theorem toNat_digitChar (h : n < 10) : (digitChar n).toNat = 48 + n := by
  have all : ∀ n < 10, (digitChar n).toNat = 48 + n := by decide
  exact all n h

theorem isDigit_digitChar (h : n < 10) : (digitChar n).isDigit = true := by
  have all : ∀ n < 10, (digitChar n).isDigit = true := by decide
  exact all n h

/-- A plain digit is written from its value. -/
theorem digitChar_toNat_sub {c : Char} (h : c.isDigit = true) : digitChar (c.toNat - 48) = c := by
  obtain ⟨low, high⟩ := toNat_of_isDigit h
  rw [← Char.toNat_inj, toNat_digitChar (by omega)]
  omega

theorem digitChar_lt_digitChar_iff (hm : m < 10) (hn : n < 10) :
    digitChar m < digitChar n ↔ m < n := by
  have code (c : Char) : c.val.toNat = c.toNat := rfl
  rw [Char.lt_def, UInt32.lt_iff_toNat_lt, code, code, toNat_digitChar hm, toNat_digitChar hn]
  omega

/-! ### Writing and reading -/

/-- The number that a text of plain digits stands for. -/
def numeral (s : List Char) : Nat :=
  ofDigits (s.map (·.toNat - 48))

theorem ofDigits_concat (digits : List Nat) (digit : Nat) :
    ofDigits (digits ++ [digit]) = ofDigits digits * 10 + digit := by
  rw [ofDigits, List.foldl_append]
  rfl

theorem numeral_concat (s : List Char) (c : Char) :
    numeral (s ++ [c]) = numeral s * 10 + (c.toNat - 48) := by
  rw [numeral, List.map_append, List.map_singleton, ofDigits_concat]
  rfl

theorem isDigit_of_mem_padded (width n : Nat) : ∀ c ∈ padded width n, c.isDigit = true := by
  induction width generalizing n with
  | zero => simp [padded]
  | succ width ih =>
    rw [padded, List.forall_mem_append]
    exact ⟨ih _, by simpa using isDigit_digitChar (Nat.mod_lt n (by decide))⟩

/-- A number that the width has room for is read back. -/
theorem numeral_padded (h : n < 10 ^ width) : numeral (padded width n) = n := by
  induction width generalizing n with
  | zero =>
    obtain rfl : n = 0 := by omega
    rfl
  | succ width ih =>
    rw [Nat.pow_succ] at h
    rw [padded, numeral_concat, ih (by omega), toNat_digitChar (by omega)]
    omega

/-- A text of plain digits is what is written for its number, in the width of the text. -/
theorem padded_numeral {s : List Char} (h : ∀ c ∈ s, c.isDigit = true) :
    padded s.length (numeral s) = s ∧ numeral s < 10 ^ s.length := by
  induction s using List.reverseRecOn with
  | nil => exact ⟨rfl, by decide⟩
  | append_singleton s c ih =>
    rw [List.forall_mem_append, List.forall_mem_singleton] at h
    obtain ⟨front, small⟩ := ih h.1
    obtain ⟨low, high⟩ := toNat_of_isDigit h.2
    have quotient : numeral (s ++ [c]) / 10 = numeral s := by
      rw [numeral_concat]
      omega
    have remainder : numeral (s ++ [c]) % 10 = c.toNat - 48 := by
      rw [numeral_concat]
      omega
    rw [List.length_append, List.length_singleton]
    constructor
    · rw [padded, quotient, remainder, front, digitChar_toNat_sub h.2]
    · rw [numeral_concat, Nat.pow_succ]
      omega

theorem padded_inj (hm : m < 10 ^ width) (hn : n < 10 ^ width) :
    padded width m = padded width n ↔ m = n :=
  ⟨fun same => by rw [← numeral_padded hm, same, numeral_padded hn], congrArg _⟩

/-! ### Order -/

/-- Texts with fronts of the same length are ordered as the fronts, and where these are the same, as
what follows. -/
theorem append_lt_append_iff {a b : List Char} (h : a.length = b.length) (s t : List Char) :
    a ++ s < b ++ t ↔ a < b ∨ a = b ∧ s < t := by
  induction a generalizing b with
  | nil =>
    obtain rfl : b = [] := List.length_eq_zero_iff.1 h.symm
    simp
  | cons c a ih =>
    cases b with
    | nil => cases h
    | cons d b =>
      rw [List.cons_append, List.cons_append, List.cons_lt_cons_iff, List.cons_lt_cons_iff,
        ih (Nat.succ.inj h), List.cons.injEq, and_or_left, or_assoc, and_assoc]

/-- **Texts of a fixed width are ordered as their numbers.** -/
theorem padded_lt_padded_iff (hm : m < 10 ^ width) (hn : n < 10 ^ width) :
    padded width m < padded width n ↔ m < n := by
  induction width generalizing m n with
  | zero =>
    have none : ¬(padded 0 m < padded 0 n) := List.lt_irrefl []
    rw [iff_false_left none]
    omega
  | succ width ih =>
    rw [Nat.pow_succ] at hm hn
    have hm' : m / 10 < 10 ^ width := by omega
    have hn' : n / 10 < 10 ^ width := by omega
    have last : [digitChar (m % 10)] < [digitChar (n % 10)] ↔ m % 10 < n % 10 := by
      rw [List.cons_lt_cons_iff, digitChar_lt_digitChar_iff (by omega) (by omega)]
      simp
    rw [padded, padded, append_lt_append_iff (by simp), ih hm' hn', padded_inj hm' hn', last]
    omega

end TicketMigration.Text
