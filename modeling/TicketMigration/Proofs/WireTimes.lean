import Mathlib.Data.List.Forall2
import TicketMigration.Proofs.Calendar
import TicketMigration.Proofs.Impersonation

/-!
# Times from the tracker to the issue server

The tracker sends a moment as digits in a fixed form.  Of the texts of this form, the reader takes
exactly those whose digits name a real moment, although it lets fields be shorter and seconds be
more than there are.  What the issue server is then told has the very same digits, so the text
determines the time, and such texts are ordered as the times.

## Main definitions

* `Shaped` — the text has digits where a shape has zeros, and the marks of the shape.
* `Moment.wire` — the text that the tracker sends for a moment.
* `Moment.named` — the moment that the digits of such a text name.
* `ReadsTwo` — how a field of two digits is read, with anything behind it.
* `TellsTime`, `Forge.Tells` — whatever is created is told a text as its time of creation.
* `Forge.ForwardsExactly` — **what becomes of the times in two texts.**

## Main statements

* `Moment.exists_wire_of_shaped` — every text of the form is the one that is sent for a moment.
* `Moment.readings_wire` — all ways to read such a text.
* `Moment.ofWire_wire`, `Moment.exists_fault_of_wire` — **it is read exactly if it names a real
  moment.**
* `Forge.forwardsExactly` — **times are forwarded exactly.**
-/

namespace TicketMigration

open Text

/-! ### Shapes -/

/-- A text has a shape: a plain digit for each zero, and every other character as it is. -/
def Shaped (shape s : List Char) : Prop :=
  List.Forall₂ (fun p c => if p = '0' then c.isDigit = true else c = p) shape s

instance (shape s : List Char) : Decidable (Shaped shape s) := by
  unfold Shaped
  infer_instance

/-- The shape of the moments that the tracker sends. -/
def wireShape : List Char :=
  "00000000T00:00:00".toList

/-- The shape of the moments that the issue server is told. -/
def isoShape : List Char :=
  "0000-00-00T00:00:00Z".toList

/-- The shape consists of six numbers and three marks. -/
theorem wireShape_eq :
    wireShape = List.replicate 4 '0' ++ (List.replicate 2 '0' ++ (List.replicate 2 '0' ++
      'T' :: (List.replicate 2 '0' ++ ':' :: (List.replicate 2 '0' ++
        ':' :: (List.replicate 2 '0' ++ []))))) := by
  decide

theorem Shaped.append {shape shape' s t : List Char} (hs : Shaped shape s)
    (ht : Shaped shape' t) : Shaped (shape ++ shape') (s ++ t) :=
  List.rel_append hs ht

theorem Shaped.mark {shape s : List Char} (h : Shaped shape s) {mark : Char} (other : mark ≠ '0') :
    Shaped (mark :: shape) (mark :: s) :=
  .cons (by rw [if_neg other]) h

/-- A written number has a digit for each place of its width. -/
theorem shaped_padded (width n : Nat) : Shaped (List.replicate width '0') (padded width n) := by
  rw [Shaped, List.forall₂_iff_get]
  refine ⟨by simp, fun place _ inside => ?_⟩
  simpa using isDigit_of_mem_padded width n _ (List.get_mem _ ⟨place, inside⟩)

/-- What has zeros at the front of its shape begins with a number of that width. -/
theorem Shaped.exists_padded {width : Nat} {shape s : List Char}
    (h : Shaped (List.replicate width '0' ++ shape) s) :
    ∃ n < 10 ^ width, ∃ rest, s = padded width n ++ rest ∧ Shaped shape rest := by
  have digits : ∃ front rest, front.length = width ∧ (∀ c ∈ front, c.isDigit = true) ∧
      s = front ++ rest ∧ Shaped shape rest := by
    induction width generalizing s with
    | zero => exact ⟨[], s, rfl, by simp, rfl, h⟩
    | succ width ih =>
      rw [List.replicate_succ, List.cons_append] at h
      obtain ⟨c, _, digit, others, rfl⟩ := List.forall₂_cons_left_iff.1 h
      obtain ⟨front, rest, length, plain, rfl, behind⟩ := ih others
      exact ⟨c :: front, rest, by rw [List.length_cons, length],
        List.forall_mem_cons.2 ⟨digit, plain⟩, rfl, behind⟩
  obtain ⟨front, rest, rfl, plain, rfl, behind⟩ := digits
  obtain ⟨same, small⟩ := padded_numeral plain
  exact ⟨numeral front, small, rest, by rw [same], behind⟩

/-- A mark of the shape is in the text. -/
theorem Shaped.exists_mark {mark : Char} {shape s : List Char} (h : Shaped (mark :: shape) s)
    (other : mark ≠ '0') : ∃ rest, s = mark :: rest ∧ Shaped shape rest := by
  obtain ⟨c, rest, hc, hrest, rfl⟩ := List.forall₂_cons_left_iff.1 h
  rw [if_neg other] at hc
  exact ⟨rest, by rw [hc], hrest⟩

namespace Moment

/-- The text that the tracker sends for a moment. -/
def wire (m : Moment) : List Char :=
  padded 4 m.year ++ padded 2 m.month ++ padded 2 m.day ++
    'T' :: padded 2 m.hour ++ ':' :: padded 2 m.minute ++ ':' :: padded 2 m.second

/-- The number at some places of a text. -/
def numeralAt (s : List Char) (start width : Nat) : Nat :=
  numeral ((s.drop start).take width)

theorem numeralAt_append {front : List Char} {start : Nat} (h : front.length ≤ start)
    (s : List Char) (width : Nat) :
    numeralAt (front ++ s) start width = numeralAt s (start - front.length) width := by
  rw [numeralAt, List.drop_append, List.drop_eq_nil_of_le h, List.nil_append]
  rfl

theorem numeralAt_cons (c : Char) (s : List Char) (start width : Nat) :
    numeralAt (c :: s) (start + 1) width = numeralAt s start width := rfl

theorem numeralAt_padded {width n : Nat} (h : n < 10 ^ width) :
    numeralAt (padded width n) 0 width = n := by
  have whole : (padded width n).take width = padded width n :=
    List.take_of_length_le (Nat.le_of_eq (length_padded width n))
  rw [numeralAt, List.drop_zero, whole, numeral_padded h]

theorem numeralAt_padded_append {width n : Nat} (h : n < 10 ^ width) (s : List Char) :
    numeralAt (padded width n ++ s) 0 width = n := by
  rw [numeralAt, List.drop_zero, List.take_left' (length_padded width n), numeral_padded h]

/-- The moment that the digits of a text name. -/
def named (s : List Char) : Moment where
  year := numeralAt s 0 4
  month := numeralAt s 4 2
  day := numeralAt s 6 2
  hour := numeralAt s 9 2
  minute := numeralAt s 12 2
  second := numeralAt s 15 2

/-- The digits of what is sent for a moment name it. -/
theorem named_wire {m : Moment} (plain : m.Plain) (widths : m.InWidths) : named m.wire = m := by
  obtain ⟨year, month, day, hour, minute, second, micro, offset⟩ := m
  obtain ⟨rfl, rfl⟩ := plain
  simp [named, wire, numeralAt_append, numeralAt_cons, numeralAt_padded_append widths.year,
    numeralAt_padded_append widths.month, numeralAt_padded_append widths.day,
    numeralAt_padded_append widths.hour, numeralAt_padded_append widths.minute,
    numeralAt_padded widths.second]

theorem wire_inj {m n : Moment} (plain : m.Plain) (plain' : n.Plain) (widths : m.InWidths)
    (widths' : n.InWidths) : m.wire = n.wire ↔ m = n :=
  ⟨fun same => by rw [← named_wire plain widths, same, named_wire plain' widths'], congrArg wire⟩

/-- **Every text of the form is the one that is sent for a moment.** -/
theorem exists_wire_of_shaped {s : List Char} (h : Shaped wireShape s) :
    ∃ m : Moment, m.Plain ∧ m.InWidths ∧ s = m.wire := by
  rw [wireShape_eq] at h
  obtain ⟨year, hyear, _, rfl, fromMonth⟩ := h.exists_padded
  obtain ⟨month, hmonth, _, rfl, fromDay⟩ := fromMonth.exists_padded
  obtain ⟨day, hday, _, rfl, fromMark⟩ := fromDay.exists_padded
  obtain ⟨_, rfl, fromHour⟩ := fromMark.exists_mark (by decide)
  obtain ⟨hour, hhour, _, rfl, fromColon⟩ := fromHour.exists_padded
  obtain ⟨_, rfl, fromMinute⟩ := fromColon.exists_mark (by decide)
  obtain ⟨minute, hminute, _, rfl, fromSecondColon⟩ := fromMinute.exists_padded
  obtain ⟨_, rfl, fromSecond⟩ := fromSecondColon.exists_mark (by decide)
  obtain ⟨second, hsecond, _, rfl, behind⟩ := fromSecond.exists_padded
  obtain rfl := List.forall₂_nil_left_iff.1 behind
  exact ⟨{ year, month, day, hour, minute, second }, ⟨rfl, rfl⟩,
    ⟨hyear, hmonth, hday, hhour, hminute, hsecond⟩, by simp [wire]⟩

end Moment

/-! ### Fields -/

/-- All ways to read a number at the front of a text, the preferred one first. -/
def heads (alternatives : List (List Place)) (s : List Char) : List (Nat × List Char) :=
  alternatives.filterMap fun places => readPlaces 0 places s

/-- Puts a number in front of those that have been read. -/
def withFirst (n : Nat) (reading : List Nat × List Char) : List Nat × List Char :=
  (n :: reading.1, reading.2)

theorem readings_number (alternatives : List (List Place)) (parts : List FormatPart)
    (s : List Char) :
    readings (.number alternatives :: parts) s
      = (heads alternatives s).flatMap fun field =>
          (readings parts field.2).map (withFirst field.1) := rfl

/-- What stands behind all places is left. -/
theorem readPlaces_append {places : List Place} {s : List Char} (h : places.length ≤ s.length)
    (before : Nat) (t : List Char) :
    readPlaces before places (s ++ t)
      = (readPlaces before places s).map fun field => (field.1, field.2 ++ t) := by
  induction places generalizing before s with
  | nil => rfl
  | cons place places ih =>
    cases s with
    | nil => cases h
    | cons c s =>
      rw [List.cons_append, readPlaces, readPlaces]
      cases place.value? c with
      | none => rfl
      | some n => exact ih (Nat.le_of_succ_le_succ h) _

/-- Plain digits are read as the number that they stand for. -/
theorem readPlaces_digits {s : List Char} (plain : ∀ c ∈ s, c.isDigit = true) (before : Nat)
    (t : List Char) :
    readPlaces before (List.replicate s.length .digit) (s ++ t)
      = some ((s.map (·.toNat - 48)).foldl (fun n d => n * 10 + d) before, t) := by
  induction s generalizing before with
  | nil => rfl
  | cons c s ih =>
    obtain ⟨first, others⟩ := List.forall_mem_cons.1 plain
    rw [List.length_cons, List.replicate_succ, List.cons_append, readPlaces, Place.value?,
      digitValue?_of_isDigit first]
    exact ih others _

/-- A field of two digits, with anything behind it: both digits are read if they make a number
between the bounds, and then the first one alone, unless that is too small. -/
def ReadsTwo (alternatives : List (List Place)) (low high : Nat) : Prop :=
  ∀ i < 10, ∀ j < 10, ∀ t : List Char,
    heads alternatives (digitChar i :: digitChar j :: t)
      = (if low ≤ i * 10 + j ∧ i * 10 + j ≤ high then [(i * 10 + j, t)] else [])
        ++ if low ≤ i then [(i, digitChar j :: t)] else []

/-- How a field of two digits is read is told without anything behind it. -/
theorem readsTwo_of_decide {alternatives : List (List Place)} {low high : Nat}
    (short : ∀ places ∈ alternatives, places.length ≤ 2)
    (alone : ∀ i < 10, ∀ j < 10, heads alternatives [digitChar i, digitChar j]
      = (if low ≤ i * 10 + j ∧ i * 10 + j ≤ high then [(i * 10 + j, [])] else [])
        ++ if low ≤ i then [(i, [digitChar j])] else []) :
    ReadsTwo alternatives low high := by
  intro i hi j hj t
  have behind : heads alternatives ([digitChar i, digitChar j] ++ t)
      = (heads alternatives [digitChar i, digitChar j]).map fun field =>
          (field.1, field.2 ++ t) := by
    rw [heads, heads, List.map_filterMap]
    exact List.filterMap_congr fun places mem => readPlaces_append (short places mem) 0 t
  refine behind.trans ?_
  rw [alone i hi j hj, List.map_append]
  congr 1
  · split <;> rfl
  · split <;> rfl

/-- The ways to write a month. -/
def monthPlaces : List (List Place) :=
  [[.between 1 1, .between 0 2], [.between 0 0, .between 1 9], [.between 1 9]]

/-- The ways to write a day. -/
def dayPlaces : List (List Place) :=
  [[.between 3 3, .between 0 1], [.between 1 2, .digit], [.between 0 0, .between 1 9],
    [.between 1 9], [.space, .between 1 9]]

/-- The ways to write an hour. -/
def hourPlaces : List (List Place) :=
  [[.between 2 2, .between 0 3], [.between 0 1, .digit], [.digit]]

/-- The ways to write a minute. -/
def minutePlaces : List (List Place) :=
  [[.between 0 5, .digit], [.digit]]

/-- The ways to write a second. -/
def secondPlaces : List (List Place) :=
  [[.between 6 6, .between 0 1], [.between 0 5, .digit], [.digit]]

theorem readsTwo_month : ReadsTwo monthPlaces 1 12 :=
  readsTwo_of_decide (by decide) (by decide +kernel)

theorem readsTwo_day : ReadsTwo dayPlaces 1 31 :=
  readsTwo_of_decide (by decide) (by decide +kernel)

theorem readsTwo_hour : ReadsTwo hourPlaces 0 23 :=
  readsTwo_of_decide (by decide) (by decide +kernel)

theorem readsTwo_minute : ReadsTwo minutePlaces 0 59 :=
  readsTwo_of_decide (by decide) (by decide +kernel)

/-- Two leap seconds can be written. -/
theorem readsTwo_second : ReadsTwo secondPlaces 0 61 :=
  readsTwo_of_decide (by decide) (by decide +kernel)

/-! ### Fields in front of a mark -/

/-- A mark is no digit, nor is its small form one. -/
def IsMark (m : Char) : Prop :=
  m.isDigit = false ∧ m.toLower.isDigit = false

instance (m : Char) : Decidable (IsMark m) := by
  unfold IsMark
  infer_instance

section

variable {m : Char} {parts : List FormatPart} {t : List Char} {i j n n' : Nat}
  {alternatives alternatives' : List (List Place)} {low high low' high' : Nat}

theorem padded_two (h : n < 10 ^ 2) : padded 2 n = [digitChar (n / 10), digitChar (n % 10)] := by
  have small : n / 10 % 10 = n / 10 := Nat.mod_eq_of_lt (by omega)
  rw [padded, padded, padded, small]
  rfl

/-- Where a mark has to stand, no digit may. -/
theorem readings_mark_digit (mark : IsMark m) (hj : j < 10) :
    readings (.mark m :: parts) (digitChar j :: t) = [] := by
  have digit := isDigit_digitChar hj
  rw [readings, if_neg]
  rw [Bool.or_eq_true, decide_eq_true_eq, decide_eq_true_eq]
  rintro (same | same)
  · rw [same, mark.1] at digit
    cases digit
  · rw [same, mark.2] at digit
    cases digit

theorem ReadsTwo.readings (reads : ReadsTwo alternatives low high) (hi : i < 10) (hj : j < 10)
    (parts : List FormatPart) (t : List Char) :
    readings (.number alternatives :: parts) (digitChar i :: digitChar j :: t)
      = (if low ≤ i * 10 + j ∧ i * 10 + j ≤ high then
          (TicketMigration.readings parts t).map (withFirst (i * 10 + j)) else [])
        ++ if low ≤ i then
            (TicketMigration.readings parts (digitChar j :: t)).map (withFirst i) else [] := by
  rw [readings_number, reads i hi j hj, List.flatMap_append]
  congr 1
  · split <;> simp
  · split <;> simp

/-- In front of a mark, both digits of a field are read. -/
theorem ReadsTwo.readings_mark (reads : ReadsTwo alternatives low high) (mark : IsMark m)
    (hn : n < 10 ^ 2) :
    TicketMigration.readings (.number alternatives :: .mark m :: parts) (padded 2 n ++ m :: t)
      = if low ≤ n ∧ n ≤ high then (TicketMigration.readings parts t).map (withFirst n)
        else [] := by
  have worth : n / 10 * 10 + n % 10 = n := by omega
  have behind : TicketMigration.readings (.mark m :: parts) (m :: t)
      = TicketMigration.readings parts t := by
    rw [TicketMigration.readings, if_pos (by simp)]
  rw [padded_two hn, List.cons_append, List.singleton_append, reads.readings (by omega) (by omega),
    worth, behind, readings_mark_digit mark (by omega), List.map_nil, ite_self, List.append_nil]

/-- Three digits are too many for a field. -/
theorem ReadsTwo.readings_long (reads : ReadsTwo alternatives low high) (mark : IsMark m)
    (hi : i < 10) (hn : n < 10 ^ 2) :
    TicketMigration.readings (.number alternatives :: .mark m :: parts)
      (digitChar i :: (padded 2 n ++ t)) = [] := by
  rw [padded_two hn, List.cons_append, reads.readings hi (by omega), List.singleton_append,
    readings_mark_digit mark (by omega), readings_mark_digit mark (by omega)]
  simp

/-- Of two fields in front of a mark, both digits are read. -/
theorem ReadsTwo.readings_two_mark (reads : ReadsTwo alternatives low high)
    (reads' : ReadsTwo alternatives' low' high') (mark : IsMark m) (hn : n < 10 ^ 2)
    (hn' : n' < 10 ^ 2) :
    TicketMigration.readings (.number alternatives :: .number alternatives' :: .mark m :: parts)
        (padded 2 n ++ (padded 2 n' ++ m :: t))
      = if (low ≤ n ∧ n ≤ high) ∧ low' ≤ n' ∧ n' ≤ high' then
          ((TicketMigration.readings parts t).map (withFirst n')).map (withFirst n)
        else [] := by
  have worth : n / 10 * 10 + n % 10 = n := by omega
  rw [padded_two hn, List.cons_append, List.singleton_append, reads.readings (by omega) (by omega),
    worth, reads'.readings_mark mark hn', reads'.readings_long mark (by omega) hn', List.map_nil,
    ite_self, List.append_nil]
  by_cases inside : low' ≤ n' ∧ n' ≤ high'
  · rw [if_pos inside]
    simp only [inside, and_true]
  · rw [if_neg inside, List.map_nil, ite_self, if_neg fun both => inside both.2]

/-- A year is read with all its digits. -/
theorem readings_year (hn : n < 10 ^ 4) :
    readings (.number [[.digit, .digit, .digit, .digit]] :: parts) (padded 4 n ++ t)
      = (readings parts t).map (withFirst n) := by
  have whole : readPlaces 0 [.digit, .digit, .digit, .digit] (padded 4 n ++ t) = some (n, t) := by
    have digits := readPlaces_digits (isDigit_of_mem_padded 4 n) 0 t
    rw [length_padded] at digits
    exact digits.trans (congrArg (fun n => some (n, t)) (numeral_padded hn))
  rw [readings_number, heads, List.filterMap_cons, whole]
  simp

end

/-! ### Moments -/

namespace Moment

variable {m : Moment}

/-- The fields of the format. -/
theorem wireFormat_eq :
    wireFormat = [.number [[.digit, .digit, .digit, .digit]], .number monthPlaces,
      .number dayPlaces, .mark 'T', .number hourPlaces, .mark ':', .number minutePlaces, .mark ':',
      .number secondPlaces] := rfl

/-- What is read of a text of the form, if anything is.  The second may be a leap second; it counts
less that its first digit may be read alone. -/
def wireReadings (m : Moment) : List (List Nat × List Char) :=
  (if m.second ≤ 61 then
      [([m.year, m.month, m.day, m.hour, m.minute, m.second], [])] else [])
    ++ [([m.year, m.month, m.day, m.hour, m.minute, m.second / 10], [digitChar (m.second % 10)])]

/-- The fields are between the bounds that the format sets, which it sets for each on its own. -/
def InBounds (m : Moment) : Prop :=
  ((1 ≤ m.month ∧ m.month ≤ 12) ∧ 1 ≤ m.day ∧ m.day ≤ 31) ∧ m.hour ≤ 23 ∧ m.minute ≤ 59

instance (m : Moment) : Decidable m.InBounds := by
  unfold InBounds
  infer_instance

/-- **All ways to read a text of the form.** -/
theorem readings_wire (widths : m.InWidths) :
    readings wireFormat m.wire = if m.InBounds then m.wireReadings else [] := by
  have worth : m.second / 10 * 10 + m.second % 10 = m.second := by omega
  have second := widths.second
  have seconds : readings [.number secondPlaces] (padded 2 m.second)
      = (if m.second ≤ 61 then [([m.second], [])] else [])
        ++ [([m.second / 10], [digitChar (m.second % 10)])] := by
    rw [padded_two second, readsTwo_second.readings (by omega) (by omega), worth]
    simp [readings, withFirst]
  have shape : m.wire = padded 4 m.year ++ (padded 2 m.month ++ (padded 2 m.day ++
      'T' :: (padded 2 m.hour ++ ':' :: (padded 2 m.minute ++ ':' :: padded 2 m.second)))) := by
    simp [wire]
  rw [wireFormat_eq, shape, readings_year widths.year,
    readsTwo_month.readings_two_mark readsTwo_day (by decide) widths.month widths.day,
    readsTwo_hour.readings_mark (by decide) widths.hour,
    readsTwo_minute.readings_mark (by decide) widths.minute, seconds]
  by_cases inside : m.InBounds
  · obtain ⟨date, hour, minute⟩ := id inside
    rw [if_pos date, if_pos ⟨Nat.zero_le _, hour⟩, if_pos ⟨Nat.zero_le _, minute⟩, if_pos inside,
      wireReadings]
    split <;> rfl
  · rw [if_neg inside]
    -- each field is looked at only if those in front of it are between their bounds
    split
    · next date =>
      split
      · next hour =>
        split
        · next minute => exact absurd ⟨date, hour.2, minute.2⟩ inside
        · rfl
      · rfl
    · rfl

/-- A real moment passes the check. -/
theorem check_eq_ok (real : m.IsReal) : m.check = .ok m := by
  obtain ⟨year, year', month, month', day, day', hour, minute, second, -⟩ := real
  rw [check, if_neg (by omega), if_neg (by omega), if_neg (by omega), if_neg (by omega),
    if_neg (by omega), if_neg (by omega)]

/-- Other fields do not. -/
theorem exists_fault_of_check (unreal : ¬m.IsReal) (micro : m.micro ≤ 999999) :
    ∃ fault, m.check = .error fault := by
  unfold check
  split_ifs with year month day hour minute second
  any_goals exact ⟨_, rfl⟩
  refine absurd ?_ unreal
  unfold IsReal
  omega

/-- The fields that are read are those of the moment. -/
theorem Plain.eta (plain : m.Plain) :
    { year := m.year, month := m.month, day := m.day, hour := m.hour, minute := m.minute,
      second := m.second : Moment } = m := by
  obtain ⟨year, month, day, hour, minute, second, micro, offset⟩ := m
  obtain ⟨rfl, rfl⟩ := plain
  rfl

/-- **What is sent for a real moment is read as this moment.** -/
theorem ofWire_wire (real : m.IsReal) (plain : m.Plain) : ofWire m.wire = .ok m := by
  have longest := daysInMonth_le m.year m.month
  have inside : m.InBounds := by
    obtain ⟨-, -, month, month', day, day', hour, minute, -, -⟩ := real
    unfold InBounds
    omega
  have second : m.second ≤ 61 := Nat.le_trans real.2.2.2.2.2.2.2.2.1 (by decide)
  rw [ofWire, readings_wire real.widths, if_pos inside, wireReadings, if_pos second]
  show (check _).mapError WireFault.unreal = .ok m
  rw [plain.eta, check_eq_ok real]
  rfl

/-- **What is sent for the fields of no real moment is refused.** -/
theorem exists_fault_of_wire (unreal : ¬m.IsReal) (plain : m.Plain) (widths : m.InWidths) :
    ∃ fault, ofWire m.wire = .error fault := by
  rw [ofWire, readings_wire widths]
  by_cases inside : m.InBounds
  · rw [if_pos inside, wireReadings]
    by_cases second : m.second ≤ 61
    · obtain ⟨fault, found⟩ := exists_fault_of_check unreal (by rw [plain.micro]; decide)
      rw [if_pos second]
      refine ⟨.unreal fault, ?_⟩
      show (check _).mapError WireFault.unreal = _
      rw [plain.eta, found]
      rfl
    · rw [if_neg second]
      exact ⟨.trailing [digitChar (m.second % 10)], rfl⟩
  · rw [if_neg inside]
    exact ⟨.mismatch m.wire, rfl⟩

/-! ### What the issue server is told -/

theorem filter_isDigit_padded (width n : Nat) :
    (padded width n).filter Char.isDigit = padded width n :=
  List.filter_eq_self.2 (isDigit_of_mem_padded width n)

/-- The standard text has the digits of the text that the tracker sends. -/
theorem Plain.filter_isDigit_isoZoned (plain : m.Plain) :
    m.isoZoned.filter Char.isDigit = m.wire.filter Char.isDigit := by
  simp [plain.isoZoned_eq, isoSeconds, wire, filter_isDigit_padded]

/-- The standard text has the standard shape. -/
theorem Plain.shaped_isoZoned (plain : m.Plain) : Shaped isoShape m.isoZoned := by
  have shape : isoShape = List.replicate 4 '0' ++ '-' :: (List.replicate 2 '0' ++
      '-' :: (List.replicate 2 '0' ++ 'T' :: (List.replicate 2 '0' ++ ':' ::
        (List.replicate 2 '0' ++ ':' :: (List.replicate 2 '0' ++ ['Z']))))) := by
    decide
  have text : m.isoZoned = padded 4 m.year ++ '-' :: (padded 2 m.month ++
      '-' :: (padded 2 m.day ++ 'T' :: (padded 2 m.hour ++ ':' ::
        (padded 2 m.minute ++ ':' :: (padded 2 m.second ++ ['Z']))))) := by
    simp [plain.isoZoned_eq, isoSeconds]
  rw [shape, text]
  refine (shaped_padded 4 _).append (.mark ?_ (by decide))
  refine (shaped_padded 2 _).append (.mark ?_ (by decide))
  refine (shaped_padded 2 _).append (.mark ?_ (by decide))
  refine (shaped_padded 2 _).append (.mark ?_ (by decide))
  refine (shaped_padded 2 _).append (.mark ?_ (by decide))
  exact (shaped_padded 2 _).append (.mark .nil (by decide))

end Moment

/-- Something is asked to be created, and whatever is, is told this time. -/
structure TellsTime (told : String) (trace : List Exchange) : Prop where
  /-- Something is to be created. -/
  some : ∃ exchange ∈ trace, exchange.isWrite = true
  /-- Its time of creation is told. -/
  stamp : ∀ exchange ∈ trace, exchange.isWrite = true → exchange.request.stamp? = .some told

variable {σ : Type} {servers : Servers σ} {told : String}

/-- All attempts to create the same thing tell the same time. -/
theorem Posted.tellsTime {β : Type} {project : String} {post : Posting} {before after : Session σ}
    {trace : List Exchange} {result : Except Failure β}
    (posted : Posted project post before trace result after)
    (stamp : ∀ actor failure,
      (post.write.attempt project actor failure).request.stamp? = some told) :
    TellsTime told trace := by
  obtain ⟨lead, quiet, rfl⟩ := posted.asked
  have attempts : ∀ exchange ∈ post.attempts project, exchange.request.stamp? = some told := by
    unfold Posting.attempts
    split
    · simpa using stamp _ _
    · simpa using ⟨stamp _ _, stamp _ _⟩
  obtain ⟨last, found, -⟩ := post.failure?_getLast?_attempts project
  have mem := List.mem_of_getLast? found
  refine ⟨⟨last, List.mem_append_right _ mem, Posting.isWrite_of_mem_attempts mem⟩, ?_⟩
  intro exchange he write
  rcases List.mem_append.1 he with he | he
  · rw [(quiet exchange he).1] at write
    cases write
  · exact attempts exchange he

namespace Forge

variable {forge : Forge}

/-- What is created at a time is told this text as its time of creation. -/
structure Tells (forge : Forge) (time : Option Moment) (told : String) : Prop where
  /-- The text stands for the time. -/
  stamp : forge.stamp time = some told
  /-- An issue is told the text. -/
  issue : ∀ (σ : Type) (servers : Servers σ) (project : String) (title : Option String)
    (description labels : String) (assignee author : Option Int),
    Run.Does servers
      (forge.postIssue servers project title description labels assignee author time)
      fun _ trace _ _ => TellsTime told trace
  /-- A note is told the text. -/
  note : ∀ (σ : Type) (servers : Servers σ) (project : String) (issue : Int) (body : String)
    (author : Option Int),
    Run.Does servers (forge.postNote servers project issue body author time)
      fun _ trace _ _ => TellsTime told trace

theorem tells_of_stamp {time : Option Moment} (stamp : forge.stamp time = some told) :
    forge.Tells time told where
  stamp := stamp
  issue σ servers project title description labels assignee author := by
    refine (forge.does_postIssue project title description labels assignee author time).mono ?_
    rintro before trace result after ⟨post, number, hw, -, posted⟩
    refine Posted.tellsTime posted fun actor failure => ?_
    rw [hw]
    exact stamp
  note σ servers project issue body author := by
    refine (forge.does_postNote project issue body author time).mono ?_
    rintro before trace result after ⟨post, hw, posted⟩
    refine Posted.tellsTime posted fun actor failure => ?_
    rw [hw]
    exact stamp

/-- **What becomes of the times in two texts** of the form that the tracker sends. -/
structure ForwardsExactly (forge : Forge) (s t : String) : Prop where
  /-- A text whose digits name a real moment is read as this moment, whether it is sent as a time or
  as a text. -/
  reads : (Moment.named s.toList).IsReal → ∀ wire, wire = .time s ∨ wire = .text s →
    momentOf wire = .ok (some (Moment.named s.toList))
  /-- Any other text is refused as a value that cannot be used. -/
  refuses : ¬(Moment.named s.toList).IsReal → ∀ wire, wire = .time s ∨ wire = .text s →
    ∃ message, momentOf wire = .error (.badValue message)
  /-- What the issue server is told has the standard shape and the very same digits. -/
  tells : (Moment.named s.toList).IsReal → ∃ told : String, Shaped isoShape told.toList ∧
    told.toList.filter Char.isDigit = s.toList.filter Char.isDigit ∧
      forge.Tells (some (Moment.named s.toList)) told
  /-- It determines the time, and it is ordered as the times are. -/
  orders : (Moment.named s.toList).IsReal → (Moment.named t.toList).IsReal → ∀ told told',
    forge.stamp (some (Moment.named s.toList)) = some told →
      forge.stamp (some (Moment.named t.toList)) = some told' →
        (told = told' ↔ s = t) ∧
          (told < told' ↔
            (Moment.named s.toList).instant < (Moment.named t.toList).instant)

/-- **Times are forwarded exactly.**

For every two texts that have the form in which the tracker sends a time: each is read exactly if
its digits name a real moment of the calendar.  With the token of an administrator, the issue server
is then told the standard text with the same digits, from which the time can be told, and such texts
are in the order of the times. -/
theorem forwardsExactly (admin : forge.isAdmin = true) {s t : String}
    (hs : Shaped wireShape s.toList) (ht : Shaped wireShape t.toList) :
    forge.ForwardsExactly s t := by
  obtain ⟨m, plain, widths, sent⟩ := Moment.exists_wire_of_shaped hs
  obtain ⟨n, plain', widths', sent'⟩ := Moment.exists_wire_of_shaped ht
  have names : Moment.named s.toList = m := by rw [sent, Moment.named_wire plain widths]
  have names' : Moment.named t.toList = n := by rw [sent', Moment.named_wire plain' widths']
  have stamp (m : Moment) : forge.stamp (some m) = some (String.ofList m.isoZoned) := by
    rw [Forge.stamp, if_pos admin]
    rfl
  constructor
  case reads =>
    rw [names]
    rintro real wire (rfl | rfl)
    all_goals
      rw [momentOf, momentOf.ofText, sent, Moment.ofWire_wire real plain]
  case refuses =>
    rw [names]
    rintro unreal wire (rfl | rfl)
    all_goals
      obtain ⟨fault, refused⟩ := Moment.exists_fault_of_wire unreal plain widths
      rw [momentOf, momentOf.ofText, sent, refused]
      exact ⟨fault.message, rfl⟩
  case tells =>
    rw [names]
    intro _
    refine ⟨String.ofList m.isoZoned, ?_, ?_, tells_of_stamp (stamp m)⟩
    · rw [String.toList_ofList]
      exact plain.shaped_isoZoned
    · rw [String.toList_ofList, sent, plain.filter_isDigit_isoZoned]
  case orders =>
    rw [names, names', stamp, stamp]
    rintro real real' told told' ⟨⟩ ⟨⟩
    constructor
    · rw [String.ofList_inj, ← String.toList_inj, sent, sent', Moment.isoZoned_inj real real' plain
        plain', Moment.wire_inj plain plain' widths widths']
    · rw [String.lt_iff, String.toList_ofList, String.toList_ofList]
      exact Moment.isoZoned_lt_isoZoned_iff real real' plain plain'

/-- The last second of a leap day and the first one after it. -/
theorem forwardsExactly_leapDay :
    let forge : Forge := ⟨"https://b.org", true⟩
    forge.isAdmin = true ∧ Shaped wireShape "20240229T23:59:59".toList ∧
      Shaped wireShape "20240301T00:00:00".toList ∧
      (Moment.named "20240229T23:59:59".toList).IsReal ∧
      (Moment.named "20240301T00:00:00".toList).IsReal ∧
      ¬(Moment.named "20230229T23:59:59".toList).IsReal ∧
      forge.ForwardsExactly "20240229T23:59:59" "20240301T00:00:00" := by
  intro forge
  have shaped : Shaped wireShape "20240229T23:59:59".toList := by decide
  have shaped' : Shaped wireShape "20240301T00:00:00".toList := by decide
  exact ⟨rfl, shaped, shaped', by decide, by decide, by decide,
    forwardsExactly rfl shaped shaped'⟩

end Forge

end TicketMigration
