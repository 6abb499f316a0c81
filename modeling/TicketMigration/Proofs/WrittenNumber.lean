import TicketMigration.Text.Decimal

/-!
# Reading back a written number

A whole number that is written in decimal, with a minus sign if it is negative, is read back if it
has no more digits than a number may have.

## Main statements

* `digits?_of_isDigit` — plain digits are read one by one.
* `integer?_toString` — **a written number is read back.**
-/

namespace TicketMigration.Text

/-- A plain digit lies in the first row of digits, and it is no blank. -/
theorem toNat_of_isDigit {c : Char} (h : c.isDigit = true) : 48 ≤ c.toNat ∧ c.toNat ≤ 57 := by
  rw [Char.isDigit, Bool.and_eq_true, decide_eq_true_eq, decide_eq_true_eq] at h
  exact ⟨UInt32.le_iff_toNat_le.1 h.1, UInt32.le_iff_toNat_le.1 h.2⟩

theorem isBlank_of_isDigit {c : Char} (h : c.isDigit = true) : isBlank c = false := by
  have none : ∀ n < 58, 48 ≤ n → within blankRanges n = false := by decide
  obtain ⟨low, high⟩ := toNat_of_isDigit h
  exact none c.toNat (by omega) low

theorem digitValue?_of_isDigit {c : Char} (h : c.isDigit = true) :
    digitValue? c = some (c.toNat - 48) := by
  obtain ⟨low, high⟩ := toNat_of_isDigit h
  have first : (decide (48 ≤ c.toNat) && decide (c.toNat < 48 + 10)) = true := by
    simp only [Bool.and_eq_true, decide_eq_true_eq]
    omega
  have front : digitZeros = 48 :: digitZeros.tail := rfl
  rw [digitValue?, front, List.find?_cons_of_pos]
  · rfl
  · exact first

/-- Plain digits are read one by one. -/
theorem digits?_of_isDigit {s : List Char} (nonempty : s ≠ [])
    (plain : ∀ c ∈ s, c.isDigit = true) : digits? s = some (s.map (·.toNat - 48)) := by
  induction s with
  | nil => exact absurd rfl nonempty
  | cons c s ih =>
    obtain ⟨first, others⟩ := List.forall_mem_cons.1 plain
    cases s with
    | nil =>
      rw [digits?, digitValue?_of_isDigit first]
      rfl
    | cons d s =>
      have noUnderscore : d ≠ '_' := by
        rintro rfl
        exact absurd (others '_' List.mem_cons_self) (by decide)
      rw [digits?, digitValue?_of_isDigit first, Option.bind_some, if_neg noUnderscore,
        ih (by simp) others]
      rfl

/-- The digits of a number are read as that number, if they are not too many. -/
theorem natural?_toDigits {n : Nat} (few : (Nat.toDigits 10 n).length ≤ maxDigits) :
    natural? (Nat.toDigits 10 n) = some n := by
  have plain : ∀ c ∈ Nat.toDigits 10 n, c.isDigit = true :=
    fun c hc => Nat.isDigit_of_mem_toDigits (by decide) (by decide) hc
  have worth : ofDigits ((Nat.toDigits 10 n).map (·.toNat - 48)) = n := by
    have denoted : Nat.ofDigitChars 10 (Nat.toDigits 10 n) 0 = n := Nat.ofDigitChars_ten_toDigits
    rw [Nat.ofDigitChars_eq_foldl] at denoted
    rw [ofDigits, List.foldl_map]
    simpa only [Nat.mul_comm, Char.reduceToNat] using denoted
  rw [natural?, digits?_of_isDigit Nat.toDigits_ne_nil plain, Option.bind_some, List.length_map,
    if_pos few, worth]

/-- How a whole number is written. -/
theorem toList_toString_int (n : Int) :
    (toString n).toList = (if n < 0 then ['-'] else []) ++ Nat.toDigits 10 n.natAbs := by
  rw [Int.toString_eq_repr, Int.repr_eq_if]
  by_cases negative : n < 0
  · have size : (-n).toNat = n.natAbs := by omega
    rw [if_neg (by omega), if_pos negative, size, String.toList_append, Nat.toList_repr]
    rfl
  · have size : n.toNat = n.natAbs := by omega
    rw [if_pos (by omega), if_neg negative, size, Nat.toList_repr, List.nil_append]

/-- A written number has no blanks. -/
theorem isBlank_toString_int (n : Int) : ∀ c ∈ (toString n).toList, isBlank c = false := by
  rw [toList_toString_int]
  refine List.forall_mem_append.2 ⟨?_, fun c hc => ?_⟩
  · intro c hc
    split at hc
    · rw [List.mem_singleton.1 hc]
      decide
    · cases hc
  · exact isBlank_of_isDigit (Nat.isDigit_of_mem_toDigits (by decide) (by decide) hc)

/-- Nothing is dropped around a text without blanks. -/
theorem trimNumber_eq_self {s : List Char} (h : ∀ c ∈ s, isBlank c = false) : trimNumber s = s := by
  have none : ∀ c ∈ s, ¬isNumberBlank c = true := by
    intro c hc
    rw [isNumberBlank, h c hc, Bool.false_and]
    decide
  have start : s.dropWhile isNumberBlank = s := by
    cases s with
    | nil => rfl
    | cons c s => exact List.dropWhile_cons_of_neg (none c List.mem_cons_self)
  have ends : s.reverse.dropWhile isNumberBlank = s.reverse := by
    cases hs : s.reverse with
    | nil => rfl
    | cons c r =>
      have mem : c ∈ s := List.mem_reverse.1 (hs ▸ List.mem_cons_self)
      exact List.dropWhile_cons_of_neg (none c mem)
  rw [trimNumber, start, dropEndWhile, ends, List.reverse_reverse]

/-- **A written number is read back**, if it does not have too many digits. -/
theorem integer?_toString {n : Int} (few : (Nat.toDigits 10 n.natAbs).length ≤ maxDigits) :
    integer? (toString n).toList = some n := by
  rw [integer?, trimNumber_eq_self (isBlank_toString_int n), toList_toString_int]
  have size := natural?_toDigits few
  by_cases negative : n < 0
  · have back : -(n.natAbs : Int) = n := by omega
    rw [if_pos negative, List.singleton_append]
    simp only [size]
    exact congrArg some back
  · have back : (n.natAbs : Int) = n := by omega
    rw [if_neg negative, List.nil_append]
    -- the first digit is no sign
    split
    · next rest same =>
      have digit : '-'.isDigit = true :=
        Nat.isDigit_of_mem_toDigits (by decide) (by decide) (same ▸ List.mem_cons_self)
      exact absurd digit (by decide)
    · next rest same =>
      have digit : '+'.isDigit = true :=
        Nat.isDigit_of_mem_toDigits (by decide) (by decide) (same ▸ List.mem_cons_self)
      exact absurd digit (by decide)
    · rw [size]
      exact congrArg some back

end TicketMigration.Text
