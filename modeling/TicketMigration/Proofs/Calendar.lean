import TicketMigration.Moment.Basic
import TicketMigration.Proofs.FixedDigits

/-!
# The order of moments

The standard text of a moment puts the larger units in front, each in a fixed width.  So, where no
fraction and no zone is written, texts are ordered as the moments are that they stand for: by the
time that has gone by since the calendar began, with months and years of different lengths.

## Main definitions

* `daysBeforeYear` — the days that have gone by before a year.
* `daysBeforeMonth` — the days of a year that have gone by before a month.
* `Moment.instant` — the microseconds that have gone by before a moment.
* `Moment.Precedes` — at the first field that differs, the one moment has the smaller number.
* `Moment.Plain` — no fraction and no zone is known.
* `Moment.InWidths` — the fields have room in the widths in which they are written.

## Main statements

* `Moment.instant_lt_of_precedes` — what has a smaller number at the first field that differs is
  earlier.
* `Moment.isoZoned_lt_isoZoned_iff` — **texts are ordered as their moments.**
-/

namespace TicketMigration

open Text

/-! ### Days -/

/-- The number of days before a year, counted from the first day of year 1. -/
def daysBeforeYear (year : Nat) : Int :=
  let before : Int := year - 1
  before * 365 + before / 4 - before / 100 + before / 400

/-- The number of days of a year before a month. -/
def daysBeforeMonth (year month : Nat) : Nat :=
  ((List.range' 1 (month - 1)).map (daysInMonth year)).sum

theorem daysBeforeMonth_succ (year : Nat) {month : Nat} (h : 1 ≤ month) :
    daysBeforeMonth year (month + 1) = daysBeforeMonth year month + daysInMonth year month := by
  obtain ⟨months, rfl⟩ := Nat.exists_eq_add_of_le h
  rw [daysBeforeMonth, daysBeforeMonth, Nat.add_sub_cancel, Nat.add_sub_cancel_left,
    Nat.add_comm 1 months, List.range'_concat, List.map_append, List.sum_append]
  simp [Nat.add_comm]

theorem daysBeforeMonth_mono (year : Nat) {month month' : Nat} (h : 1 ≤ month)
    (le : month ≤ month') : daysBeforeMonth year month ≤ daysBeforeMonth year month' := by
  induction le with
  | refl => exact Nat.le_refl _
  | step le ih =>
    rw [daysBeforeMonth_succ year (Nat.le_trans h le)]
    omega

/-- All months together have 365 days, and one more in a leap year. -/
theorem daysBeforeMonth_thirteen (year : Nat) :
    daysBeforeMonth year 13 = if isLeapYear year then 366 else 365 := by
  cases leap : isLeapYear year <;> simp [daysBeforeMonth, List.range', daysInMonth, leap]

/-- Before a year, all months of the year before have gone by. -/
theorem daysBeforeYear_succ (year : Nat) :
    daysBeforeYear (year + 1) = daysBeforeYear year + daysBeforeMonth year 13 := by
  have leap : isLeapYear year = true ↔ year % 4 = 0 ∧ (year % 100 ≠ 0 ∨ year % 400 = 0) := by
    simp [isLeapYear]
  rw [daysBeforeMonth_thirteen]
  simp only [daysBeforeYear]
  split
  · next is =>
    rw [leap] at is
    omega
  · next isNot =>
    rw [leap] at isNot
    omega

theorem daysBeforeYear_mono {year year' : Nat} (le : year ≤ year') :
    daysBeforeYear year ≤ daysBeforeYear year' := by
  induction le with
  | refl => exact Int.le_refl _
  | step le ih =>
    rw [daysBeforeYear_succ]
    omega

namespace Moment

/-! ### Time that has gone by -/

/-- The days before the day of a moment, counted from the first day of year 1. -/
def daysGone (m : Moment) : Int :=
  daysBeforeYear m.year + daysBeforeMonth m.year m.month + m.day - 1

/-- The seconds of the day before a moment. -/
def secondsGone (m : Moment) : Nat :=
  (m.hour * 60 + m.minute) * 60 + m.second

/-- The microseconds before a moment, counted from the beginning of year 1.  Where no zone is known,
the clock is taken to show universal time. -/
def instant (m : Moment) : Int :=
  (m.daysGone * 86400 + m.secondsGone) * 1000000 + m.micro - m.offset.getD 0

/-- At the first field that differs, the first moment has the smaller number. -/
def Precedes (m n : Moment) : Prop :=
  m.year < n.year ∨ m.year = n.year ∧
    (m.month < n.month ∨ m.month = n.month ∧
      (m.day < n.day ∨ m.day = n.day ∧
        (m.hour < n.hour ∨ m.hour = n.hour ∧
          (m.minute < n.minute ∨ m.minute = n.minute ∧ m.second < n.second))))

/-- No fraction of a second and no zone is known. -/
structure Plain (m : Moment) : Prop where
  /-- The moment begins a second. -/
  micro : m.micro = 0
  /-- No zone is known. -/
  offset : m.offset = none

variable {m n : Moment}

/-- The day of a real moment is one of its year. -/
theorem IsReal.dayOfYear_le (h : m.IsReal) :
    daysBeforeMonth m.year m.month + m.day ≤ daysBeforeMonth m.year 13 := by
  obtain ⟨-, -, first, last, -, day, -⟩ := h
  have month : daysBeforeMonth m.year (m.month + 1) ≤ daysBeforeMonth m.year 13 :=
    daysBeforeMonth_mono m.year (by omega) (by omega)
  rw [daysBeforeMonth_succ _ first] at month
  omega

/-- The seconds of a real moment are less than a day. -/
theorem IsReal.secondsGone_lt (h : m.IsReal) : m.secondsGone < 86400 := by
  obtain ⟨-, -, -, -, -, -, hour, minute, second, -⟩ := h
  rw [secondsGone]
  omega

/-- Days are counted on from year to year. -/
theorem daysGone_lt_of_year_lt (hm : m.IsReal) (hn : n.IsReal) (h : m.year < n.year) :
    m.daysGone < n.daysGone := by
  have inYear := hm.dayOfYear_le
  have next := daysBeforeYear_mono h
  have day : 1 ≤ n.day := hn.2.2.2.2.1
  rw [daysBeforeYear_succ] at next
  rw [daysGone, daysGone]
  omega

/-- Within a year, days are counted on from month to month. -/
theorem daysGone_lt_of_month_lt (hm : m.IsReal) (hn : n.IsReal) (same : m.year = n.year)
    (h : m.month < n.month) : m.daysGone < n.daysGone := by
  obtain ⟨-, -, first, -, -, last, -⟩ := hm
  have month := daysBeforeMonth_mono m.year (Nat.succ_pos m.month) h
  have day : 1 ≤ n.day := hn.2.2.2.2.1
  rw [daysBeforeMonth_succ _ first] at month
  rw [daysGone, daysGone, ← same]
  omega

/-- **What has a smaller number at the first field that differs is earlier.** -/
theorem instant_lt_of_precedes (hm : m.IsReal) (hn : n.IsReal) (plain : m.Plain) (plain' : n.Plain)
    (h : m.Precedes n) : m.instant < n.instant := by
  have seconds := hm.secondsGone_lt
  have seconds' := hn.secondsGone_lt
  -- an earlier day decides, and otherwise the time of the same day does
  suffices m.daysGone < n.daysGone ∨
      m.daysGone = n.daysGone ∧ m.secondsGone < n.secondsGone by
    rw [instant, instant, plain.micro, plain.offset, plain'.micro, plain'.offset]
    simp only [Option.getD_none]
    omega
  rcases h with year | ⟨year, month | ⟨month, day | ⟨day, clock⟩⟩⟩
  · exact .inl (daysGone_lt_of_year_lt hm hn year)
  · exact .inl (daysGone_lt_of_month_lt hm hn year month)
  · refine .inl ?_
    rw [daysGone, daysGone, year, month]
    omega
  · refine .inr ⟨by rw [daysGone, daysGone, year, month, day], ?_⟩
    obtain ⟨-, -, -, -, -, -, -, minute, second, -⟩ := hm
    obtain ⟨-, -, -, -, -, -, -, minute', second', -⟩ := hn
    rw [secondsGone, secondsGone]
    omega

/-- Of two moments with different fields, one precedes the other. -/
theorem precedes_or_eq_or_precedes (plain : m.Plain) (plain' : n.Plain) :
    m.Precedes n ∨ m = n ∨ n.Precedes m := by
  obtain ⟨year, month, day, hour, minute, second, micro, offset⟩ := m
  obtain ⟨year', month', day', hour', minute', second', micro', offset'⟩ := n
  obtain ⟨rfl, rfl⟩ := plain
  obtain ⟨rfl, rfl⟩ := plain'
  simp only [Precedes, mk.injEq, and_true]
  omega

theorem instant_lt_instant_iff (hm : m.IsReal) (hn : n.IsReal) (plain : m.Plain)
    (plain' : n.Plain) : m.instant < n.instant ↔ m.Precedes n := by
  refine ⟨fun earlier => ?_, instant_lt_of_precedes hm hn plain plain'⟩
  rcases precedes_or_eq_or_precedes plain plain' with h | rfl | h
  · exact h
  · exact absurd earlier (Int.lt_irrefl _)
  · exact absurd (instant_lt_of_precedes hn hm plain' plain h) (by omega)

/-! ### Texts -/

/-- What is written of a moment without fraction and zone. -/
theorem Plain.isoZoned_eq (plain : m.Plain) : m.isoZoned = m.isoSeconds ++ ['Z'] := by
  rw [isoZoned, plain.offset]
  simp only [iso, plain.micro, plain.offset, isoFraction]
  simp

/-- The fields have room in the widths in which they are written. -/
structure InWidths (m : Moment) : Prop where
  /-- The year has four digits. -/
  year : m.year < 10 ^ 4
  /-- The month has two. -/
  month : m.month < 10 ^ 2
  /-- The day has two. -/
  day : m.day < 10 ^ 2
  /-- The hour has two. -/
  hour : m.hour < 10 ^ 2
  /-- The minute has two. -/
  minute : m.minute < 10 ^ 2
  /-- The second has two. -/
  second : m.second < 10 ^ 2

theorem daysInMonth_le (year month : Nat) : daysInMonth year month ≤ 31 := by
  unfold daysInMonth
  split
  · split <;> omega
  · split <;> omega

/-- The fields of a real moment have room in their widths. -/
theorem IsReal.widths (h : m.IsReal) : m.InWidths := by
  have longest := daysInMonth_le m.year m.month
  obtain ⟨-, year, -, month, -, day, hour, minute, second, -⟩ := h
  constructor <;> omega

/-- **Texts are ordered as their moments.** -/
theorem isoZoned_lt_isoZoned_iff (hm : m.IsReal) (hn : n.IsReal) (plain : m.Plain)
    (plain' : n.Plain) : m.isoZoned < n.isoZoned ↔ m.instant < n.instant := by
  obtain ⟨year, month, day, hour, minute, second⟩ := hm.widths
  obtain ⟨year', month', day', hour', minute', second'⟩ := hn.widths
  have mark (c : Char) (s t : List Char) : c :: s < c :: t ↔ s < t := by
    rw [List.cons_lt_cons_iff]
    simp
  rw [instant_lt_instant_iff hm hn plain plain', plain.isoZoned_eq, plain'.isoZoned_eq]
  simp only [isoSeconds, List.append_assoc, List.cons_append,
    append_lt_append_iff ((length_padded _ _).trans (length_padded _ _).symm), mark,
    padded_lt_padded_iff year year', padded_inj year year', padded_lt_padded_iff month month',
    padded_inj month month', padded_lt_padded_iff day day', padded_inj day day',
    padded_lt_padded_iff hour hour', padded_inj hour hour', padded_lt_padded_iff minute minute',
    padded_inj minute minute', padded_lt_padded_iff second second', List.not_lt_nil, and_false,
    or_false, Precedes]

/-- No two moments have the same text. -/
theorem isoZoned_inj (hm : m.IsReal) (hn : n.IsReal) (plain : m.Plain) (plain' : n.Plain) :
    m.isoZoned = n.isoZoned ↔ m = n := by
  refine ⟨fun same => ?_, congrArg isoZoned⟩
  rcases precedes_or_eq_or_precedes plain plain' with h | h | h
  · have before := (isoZoned_lt_isoZoned_iff hm hn plain plain').2
      (instant_lt_of_precedes hm hn plain plain' h)
    rw [same] at before
    exact absurd before (List.lt_irrefl _)
  · exact h
  · have before := (isoZoned_lt_isoZoned_iff hn hm plain' plain).2
      (instant_lt_of_precedes hn hm plain' plain h)
    rw [same] at before
    exact absurd before (List.lt_irrefl _)

end Moment

end TicketMigration
