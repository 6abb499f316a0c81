import TicketMigration.Text.Scan

/-!
# Texts that are cut at a character

Where a text consists of a front and a back, a character that one of them does not have lies in the
other, and so do the places that begin or end with it.

## Main statements

* `exists_of_append_eq`, `exists_of_eq_append` — a cut at such a character lies on one side.
* `isSuffix_append_left_iff`, `isInfix_append_left_iff` — **what begins with it lies behind the
  front.**
* `append_cons_inj` — a text is cut at the first place of a character in one way.
-/

namespace TicketMigration.Text

variable {α : Type} {c : α} {front back s t : List α}

/-- A character that the front does not have stands behind the front. -/
theorem exists_of_append_eq (h : c ∉ front) {before : List α}
    (hs : front ++ s = before ++ c :: t) : ∃ more, before = front ++ more ∧ s = more ++ c :: t := by
  rcases List.append_eq_append_iff.1 hs with ⟨more, hb, ht⟩ | ⟨more, hf, ht⟩
  · exact ⟨more, hb, ht⟩
  · cases more with
    | nil => exact ⟨[], by simp [hf], by simpa using ht.symm⟩
    | cons d more =>
      obtain ⟨rfl, -⟩ := List.cons.inj ht
      exact absurd (by simp [hf]) h

/-- A character that the back does not have stands in front of the back. -/
theorem exists_of_eq_append (h : c ∉ back) {before : List α}
    (hs : s ++ back = before ++ c :: t) : ∃ t', t = t' ++ back ∧ s = before ++ c :: t' := by
  rcases List.append_eq_append_iff.1 hs with ⟨more, hb, ht⟩ | ⟨more, hf, ht⟩
  · exact absurd (by simp [ht]) h
  · cases more with
    | nil => exact absurd (by rw [← List.nil_append back, ← ht]; simp) h
    | cons d more =>
      obtain ⟨rfl, rfl⟩ := List.cons.inj ht
      exact ⟨more, rfl, hf⟩

theorem isSuffix_append_left_iff (h : c ∉ front) : c :: t <:+ front ++ s ↔ c :: t <:+ s := by
  constructor
  · rintro ⟨before, hb⟩
    obtain ⟨more, -, rfl⟩ := exists_of_append_eq h hb.symm
    exact List.suffix_append _ _
  · exact fun ht => ht.trans (List.suffix_append _ _)

/-- A suffix that begins with a character which the back does not have goes on through the back. -/
theorem exists_of_isSuffix_append (h : c ∉ back) (ht : c :: t <:+ s ++ back) :
    ∃ t', t = t' ++ back ∧ c :: t' <:+ s := by
  obtain ⟨before, hb⟩ := ht
  obtain ⟨t', rfl, rfl⟩ := exists_of_eq_append h hb.symm
  exact ⟨t', rfl, List.suffix_append _ _⟩

theorem isInfix_append_left_iff (h : c ∉ front) : c :: t <:+: front ++ s ↔ c :: t <:+: s := by
  induction front with
  | nil => rfl
  | cons d front ih =>
    rw [List.mem_cons, not_or] at h
    rw [List.cons_append, List.infix_cons_iff, ih h.2, List.cons_prefix_cons]
    simp [h.1]

/-- What ends with a character that the back does not have ends in front of the back. -/
theorem isInfix_append_right_iff (h : c ∉ back) : t ++ [c] <:+: s ++ back ↔ t ++ [c] <:+: s := by
  rw [← List.reverse_infix, ← @List.reverse_infix _ (t ++ [c]) s, List.reverse_append,
    List.reverse_append]
  exact isInfix_append_left_iff (by simpa using h)

/-- A marker that begins a text and lacks one of its characters ends in front of it. -/
theorem isPrefix_of_append_cons (h : c ∉ t) (ht : t <+: front ++ c :: s) : t <+: front := by
  induction front generalizing t with
  | nil =>
    cases t with
    | nil => exact List.nil_prefix
    | cons d t =>
      obtain ⟨rfl, -⟩ := List.cons_prefix_cons.1 ht
      simp at h
  | cons d front ih =>
    cases t with
    | nil => exact List.nil_prefix
    | cons e t =>
      obtain ⟨rfl, hp⟩ := List.cons_prefix_cons.1 ht
      rw [List.mem_cons, not_or] at h
      exact List.cons_prefix_cons.2 ⟨rfl, ih h.2 hp⟩

/-- A marker that lacks a character lies in front of it or behind it. -/
theorem isInfix_append_cons_iff (h : c ∉ t) :
    t <:+: front ++ c :: s ↔ t <:+: front ∨ t <:+: s := by
  constructor
  · intro hi
    induction front with
    | nil =>
      rcases List.infix_cons_iff.1 hi with hp | hi
      · have inFront : t <+: [] := isPrefix_of_append_cons h hp
        exact .inl inFront.isInfix
      · exact .inr hi
    | cons d front ih =>
      rcases List.infix_cons_iff.1 hi with hp | hi
      · have inFront : t <+: d :: front := isPrefix_of_append_cons h hp
        exact .inl inFront.isInfix
      · exact (ih hi).imp_left fun hi => hi.trans (List.suffix_cons d front).isInfix
  · rintro (hi | hi)
    · exact hi.trans (List.prefix_append _ _).isInfix
    · exact hi.trans ((List.suffix_cons c s).trans (List.suffix_append _ _)).isInfix

/-- Two texts that are the same are cut alike at the first place of a character. -/
theorem append_cons_inj {front' s' : List α} (h : c ∉ front) (h' : c ∉ front')
    (same : front ++ c :: s = front' ++ c :: s') : front = front' ∧ s = s' := by
  obtain ⟨more, rfl, hs⟩ := exists_of_append_eq h same
  cases more with
  | nil => exact ⟨(List.append_nil _).symm, (List.cons.inj hs).2⟩
  | cons d more =>
    obtain ⟨rfl, -⟩ := List.cons.inj hs
    exact absurd (by simp) h'

/-- A character that occurs once does not occur twice in a row. -/
theorem not_isInfix_pair (h : c ∉ s) : ¬ [c, c] <:+: c :: s := by
  intro hi
  rcases List.infix_cons_iff.1 hi with hp | hi
  · exact h ((List.cons_prefix_cons.1 hp).2.mem List.mem_cons_self)
  · exact h (hi.mem List.mem_cons_self)

end TicketMigration.Text
