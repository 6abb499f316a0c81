import Mathlib.Data.List.Forall2
import TicketMigration.Markup.Document
import TicketMigration.Proofs.Lines

/-!
# Plain line ends

A carriage return is dropped exactly if a newline follows it.  So the lines of a text lose at most
a carriage return at their end, and nothing that stands on one line is put together anew.

## Main definitions

* `SameButReturn` — a line with or without the carriage return of its line end.

## Main statements

* `unixNewlines_append_newline` — a newline between two texts stays.
* `forall₂_lines_unixNewlines`, `map_lines_unixNewlines` — the lines and what they begin with.
* `not_infix_unixNewlines` — a marker on one line is not put together.
-/

namespace TicketMigration.Markup

open Text

theorem unixNewlines_cons {c : Char} (h : c ≠ '\r') (s : List Char) :
    unixNewlines (c :: s) = c :: unixNewlines s := by
  cases s with
  | nil => rfl
  | cons d s => simp [unixNewlines, h]

/-- A carriage return that no newline follows is kept, so the newline between two texts stays. -/
theorem unixNewlines_append_newline {a : List Char} (h : a.getLast? ≠ some '\r') (b : List Char) :
    unixNewlines (a ++ '\n' :: b) = unixNewlines a ++ '\n' :: unixNewlines b := by
  induction a using unixNewlines.induct with
  | case1 => exact unixNewlines_cons (by decide) b
  | case2 c =>
    have hc : c ≠ '\r' := by
      rintro rfl
      exact h rfl
    rw [List.singleton_append, unixNewlines_cons hc, unixNewlines_cons (by decide)]
    rfl
  | case3 c d s hcd ih =>
    have hs : s.getLast? ≠ some '\r' := by
      cases s with
      | nil => simp
      | cons e s => simpa using h
    rw [List.cons_append, List.cons_append, unixNewlines, if_pos hcd, ih hs, unixNewlines,
      if_pos hcd]
    rfl
  | case4 c d s hcd ih =>
    have hs : (d :: s).getLast? ≠ some '\r' := by simpa using h
    rw [List.cons_append, List.cons_append, unixNewlines, if_neg hcd, ← List.cons_append, ih hs,
      unixNewlines, if_neg hcd]
    rfl

/-- Every character but the newlines comes from the old text. -/
theorem mem_of_mem_unixNewlines {c : Char} (hc : c ≠ '\n') {s : List Char}
    (h : c ∈ unixNewlines s) : c ∈ s := by
  induction s using unixNewlines.induct with
  | case1 => exact h
  | case2 d => exact h
  | case3 d e s hde ih =>
    rw [unixNewlines, if_pos hde] at h
    exact List.mem_cons_of_mem _ (List.mem_cons_of_mem _ (ih ((List.mem_cons.1 h).resolve_left hc)))
  | case4 d e s hde ih =>
    rw [unixNewlines, if_neg hde] at h
    rcases List.mem_cons.1 h with rfl | h
    · exact List.mem_cons_self
    · exact List.mem_cons_of_mem _ (ih h)

/-- A line with or without the carriage return of its line end. -/
def SameButReturn (line raw : List Char) : Prop :=
  raw = line ∨ raw = line ++ ['\r']

/-- Only the carriage returns at the ends of lines are dropped. -/
theorem forall₂_lines_unixNewlines (s : List Char) :
    List.Forall₂ SameButReturn (lines (unixNewlines s)) (lines s) := by
  -- a character in front of both texts stands in front of both first lines
  have cons {c : Char} {t s : List Char} (h : List.Forall₂ SameButReturn (lines t) (lines s)) :
      List.Forall₂ SameButReturn (lines (c :: t)) (lines (c :: s)) := by
    by_cases hc : c = '\n'
    · subst hc
      rw [lines_newline, lines_newline]
      exact .cons (.inl rfl) h
    · obtain ⟨l, ls, ht, hct⟩ := lines_cons hc t
      obtain ⟨r, rs, hs, hcs⟩ := lines_cons hc s
      rw [ht, hs, List.forall₂_cons] at h
      rw [hct, hcs]
      refine .cons ?_ h.2
      rcases h.1 with rfl | rfl
      · exact .inl rfl
      · exact .inr rfl
  induction s using unixNewlines.induct with
  | case1 => exact .cons (.inl rfl) .nil
  | case2 c => exact cons (s := []) (t := []) (.cons (.inl rfl) .nil)
  | case3 c d s hcd ih =>
    -- the first line is the carriage return alone, and it is dropped
    rw [Bool.and_eq_true, decide_eq_true_eq, decide_eq_true_eq] at hcd
    obtain ⟨rfl, rfl⟩ := hcd
    obtain ⟨r, rs, hs, hcs⟩ := lines_cons (c := '\r') (by decide) ('\n' :: s)
    rw [lines_newline] at hs
    obtain ⟨rfl, rfl⟩ := List.cons.inj hs
    rw [unixNewlines, if_pos (by decide), lines_newline, hcs]
    exact .cons (.inr rfl) ih
  | case4 c d s hcd ih =>
    rw [unixNewlines, if_neg hcd]
    exact cons ih

/-- A marker without a carriage return is not affected by one at the end of a line. -/
theorem after?_append_return {marker : List Char} (hm : '\r' ∉ marker) (l : List Char) :
    (after? marker (l ++ ['\r'])).isSome = (after? marker l).isSome := by
  induction marker generalizing l with
  | nil => simp
  | cons m marker ih =>
    rw [List.mem_cons, not_or] at hm
    cases l with
    | nil => simp [hm.1]
    | cons c l =>
      rw [List.cons_append, after?_cons_cons, after?_cons_cons]
      split
      · exact ih hm.2 l
      · rfl

/-- What a line begins with stays the same, line by line. -/
theorem map_lines_unixNewlines (marker : List Char) (hm : '\r' ∉ marker) (s : List Char) :
    (lines (unixNewlines s)).map (fun l => (after? marker l).isSome)
      = (lines s).map fun l => (after? marker l).isSome := by
  rw [← List.forall₂_eq_eq_eq, List.forall₂_map_left_iff, List.forall₂_map_right_iff]
  refine (forall₂_lines_unixNewlines s).imp ?_
  rintro l raw (rfl | rfl)
  · rfl
  · exact (after?_append_return hm l).symm

/-- What the new text begins with, the old one begins with. -/
theorem after?_unixNewlines_eq_none {marker : List Char} (hr : '\r' ∉ marker) (hn : '\n' ∉ marker)
    {s : List Char} (h : after? marker s = none) : after? marker (unixNewlines s) = none := by
  induction marker generalizing s with
  | nil => simp at h
  | cons m marker ih =>
    rw [List.mem_cons, not_or] at hr hn
    cases s with
    | nil => rfl
    | cons c s =>
      by_cases hc : c = '\r'
      · -- a carriage return becomes a newline or stays, and the marker begins with neither
        subst hc
        rcases s with _ | ⟨d, s⟩
        · simp [unixNewlines, hr.1]
        · rw [unixNewlines]
          split <;> simp [hr.1, hn.1]
      · rw [unixNewlines_cons hc, after?_cons_cons]
        rw [after?_cons_cons] at h
        split
        · next he => exact ih hr.2 hn.2 (by rwa [if_pos he] at h)
        · rfl

/-- Every end of the new text is made from an end of the old one. -/
theorem exists_suffix_of_suffix_unixNewlines {s t : List Char} (h : t <:+ unixNewlines s) :
    ∃ u, u <:+ s ∧ t = unixNewlines u := by
  induction s using unixNewlines.induct with
  | case1 => exact ⟨[], List.nil_suffix, List.suffix_nil.1 h⟩
  | case2 c =>
    rcases List.suffix_cons_iff.1 h with rfl | h
    · exact ⟨[c], List.suffix_refl _, rfl⟩
    · exact ⟨[], List.nil_suffix, List.suffix_nil.1 h⟩
  | case3 c d s hcd ih =>
    have whole : unixNewlines (c :: d :: s) = '\n' :: unixNewlines s := by
      rw [unixNewlines, if_pos hcd]
    rw [whole] at h
    rcases List.suffix_cons_iff.1 h with rfl | h
    · exact ⟨c :: d :: s, List.suffix_refl _, whole.symm⟩
    · obtain ⟨u, hu, rfl⟩ := ih h
      exact ⟨u, hu.trans ((List.suffix_cons d s).trans (List.suffix_cons c _)), rfl⟩
  | case4 c d s hcd ih =>
    have whole : unixNewlines (c :: d :: s) = c :: unixNewlines (d :: s) := by
      rw [unixNewlines, if_neg hcd]
    rw [whole] at h
    rcases List.suffix_cons_iff.1 h with rfl | h
    · exact ⟨c :: d :: s, List.suffix_refl _, whole.symm⟩
    · obtain ⟨u, hu, rfl⟩ := ih h
      exact ⟨u, hu.trans (List.suffix_cons c _), rfl⟩

/-- A marker on one line that is nowhere in a text is not put together either. -/
theorem not_infix_unixNewlines {marker : List Char} (hr : '\r' ∉ marker) (hn : '\n' ∉ marker)
    {s : List Char} (h : ¬ marker <:+: s) : ¬ marker <:+: unixNewlines s := by
  intro hm
  obtain ⟨t, ht, hts⟩ := List.infix_iff_prefix_suffix.1 hm
  obtain ⟨u, hu, rfl⟩ := exists_suffix_of_suffix_unixNewlines hts
  have none := after?_unixNewlines_eq_none hr hn (after?_eq_none_of_not_isInfix h hu)
  obtain ⟨rest, hrest⟩ := ht
  rw [after?_eq_some_iff.2 hrest.symm] at none
  cases none

end TicketMigration.Markup
