import TicketMigration.Text.Lines
import TicketMigration.Text.Scan

/-!
# Texts as sequences of lines

Cutting a text at its newlines and joining lines respect the places where texts meet: a newline
between two texts cuts their lines apart, and joined texts have the lines of all of them.

## Main definitions

* `furtherLines ls` — each of the lines with a newline in front of it.
* `Linewise f` says that `f` converts what stands before a newline and what follows it on their
  own.

## Main statements

* `lines_append_newline`, `unlines_append` — cutting and joining at a newline.
* `lines_unlines_flatMap` — the lines of joined texts.
* `Linewise.unlines` — a linewise conversion of joined texts converts each of them.
* `takeWhile_append_of_head?` — a run of characters up to its end.
* `upTo?_furtherLines_eq_none`, `upTo?_furtherLines` — the next line that begins with a marker.
-/

namespace TicketMigration.Text

/-- A separator between two texts cuts their parts apart. -/
theorem splitOn_append_separator (separator : Char) (a b : List Char) :
    splitOn separator (a ++ separator :: b) = splitOn separator a ++ splitOn separator b := by
  induction a with
  | nil => rw [List.nil_append, splitOn_cons_self, splitOn_nil, List.singleton_append]
  | cons c a ih =>
    by_cases h : c = separator
    · subst h
      rw [List.cons_append, splitOn_cons_self, splitOn_cons_self, ih, List.cons_append]
    · obtain ⟨p, ps, ha, hca⟩ := splitOn_cons_ne h a
      obtain ⟨q, qs, hab, hcab⟩ := splitOn_cons_ne h (a ++ separator :: b)
      rw [ih, ha, List.cons_append] at hab
      obtain ⟨rfl, rfl⟩ := List.cons.inj hab
      rw [List.cons_append, hcab, hca, List.cons_append]

theorem lines_append_newline (a b : List Char) :
    lines (a ++ '\n' :: b) = lines a ++ lines b :=
  splitOn_append_separator '\n' a b

@[simp] theorem lines_nil : lines [] = [[]] := rfl

@[simp] theorem lines_newline (s : List Char) : lines ('\n' :: s) = [] :: lines s :=
  splitOn_cons_self '\n' s

theorem lines_of_not_mem {l : List Char} (h : '\n' ∉ l) : lines l = [l] := splitOn_of_not_mem h

/-- Every text has a first line. -/
theorem exists_lines (s : List Char) : ∃ l ls, lines s = l :: ls :=
  List.exists_cons_of_ne_nil (lines_ne_nil s)

/-- A character other than the newline stands in front of the first line. -/
theorem lines_cons {c : Char} (h : c ≠ '\n') (s : List Char) :
    ∃ l ls, lines s = l :: ls ∧ lines (c :: s) = (c :: l) :: ls :=
  splitOn_cons_ne h s

/-- A text without a newline is on one line. -/
theorem onLine_of_not_mem {s : List Char} (h : '\n' ∉ s) : ∀ c ∈ s, onLine c = true := by
  intro c hc
  have : c ≠ '\n' := fun he => h (he ▸ hc)
  simpa [onLine] using this

/-- Text without a newline stands in front of the first line. -/
theorem lines_append_of_not_mem {a : List Char} (ha : '\n' ∉ a) {s l : List Char}
    {ls : List (List Char)} (h : lines s = l :: ls) : lines (a ++ s) = (a ++ l) :: ls := by
  induction a with
  | nil => exact h
  | cons c a ih =>
    rw [List.mem_cons, not_or] at ha
    obtain ⟨l', ls', has, hcas⟩ := lines_cons (Ne.symm ha.1) (a ++ s)
    rw [ih ha.2] at has
    obtain ⟨rfl, rfl⟩ := List.cons.inj has
    exact hcas

@[simp] theorem unlines_singleton (l : List Char) : unlines [l] = l := rfl

theorem unlines_cons {ls : List (List Char)} (l : List Char) (h : ls ≠ []) :
    unlines (l :: ls) = l ++ '\n' :: unlines ls := by
  rw [unlines, join_cons_of_ne_nil _ _ h, List.append_assoc, List.singleton_append, unlines]

theorem unlines_append {xs ys : List (List Char)} (hx : xs ≠ []) (hy : ys ≠ []) :
    unlines (xs ++ ys) = unlines xs ++ '\n' :: unlines ys := by
  induction xs with
  | nil => exact absurd rfl hx
  | cons x xs ih =>
    rcases xs with _ | ⟨x', xs⟩
    · rw [List.singleton_append, unlines_cons x hy, unlines_singleton]
    · rw [List.cons_append, unlines_cons x (by simp), ih (by simp), unlines_cons x (by simp),
        List.append_assoc, List.cons_append]

/-- Joined texts have the lines of all of them. -/
theorem lines_unlines_flatMap {ts : List (List Char)} (h : ts ≠ []) :
    lines (unlines ts) = ts.flatMap lines := by
  induction ts with
  | nil => exact absurd rfl h
  | cons t ts ih =>
    rcases ts with _ | ⟨t', ts⟩
    · rw [unlines_singleton, List.flatMap_singleton]
    · rw [unlines_cons t (by simp), lines_append_newline, ih (by simp), ← List.flatMap_cons]

/-- Lines that are joined group by group are joined all together. -/
theorem unlines_flatMap {α : Type} {g : α → List (List Char)} {as : List α}
    (hg : ∀ a ∈ as, g a ≠ []) :
    unlines (as.flatMap g) = unlines (as.map fun a => unlines (g a)) := by
  induction as with
  | nil => rfl
  | cons a as ih =>
    have hg' : ∀ a ∈ as, g a ≠ [] := fun b hb => hg b (List.mem_cons_of_mem _ hb)
    rcases as with _ | ⟨a', as⟩
    · rw [List.flatMap_singleton, List.map_singleton, unlines_singleton]
    · have hne : (a' :: as).flatMap g ≠ [] := by
        rw [List.flatMap_cons]
        exact List.append_ne_nil_of_left_ne_nil (hg' a' List.mem_cons_self) _
      rw [List.flatMap_cons, unlines_append (hg a List.mem_cons_self) hne, ih hg',
        List.map_cons (a := a), unlines_cons _ (by simp)]

/-- Converts the texts before and behind a newline on their own. -/
def Linewise (f : List Char → List Char) : Prop :=
  ∀ a b, f (a ++ '\n' :: b) = f a ++ '\n' :: f b

namespace Linewise

variable {f g : List Char → List Char}

theorem id : Linewise fun s => s := fun _ _ => rfl

theorem comp (hg : Linewise g) (hf : Linewise f) : Linewise fun s => g (f s) := by
  intro a b
  show g (f (a ++ '\n' :: b)) = g (f a) ++ '\n' :: g (f b)
  rw [hf, hg]

theorem mapLines (f : List Char → List Char) : Linewise (mapLines f) := by
  intro a b
  have hne (s : List Char) : (lines s).map f ≠ [] := by simp [lines_ne_nil]
  rw [Text.mapLines, lines_append_newline, List.map_append, unlines_append (hne a) (hne b)]
  rfl

/-- Joined texts are converted one by one. -/
theorem unlines (hf : Linewise f) {ts : List (List Char)} (h : ts ≠ []) :
    f (unlines ts) = unlines (ts.map f) := by
  induction ts with
  | nil => exact absurd rfl h
  | cons t ts ih =>
    rcases ts with _ | ⟨t', ts⟩
    · rfl
    · have hne : (t' :: ts).map f ≠ [] := by simp
      rw [unlines_cons t (by simp), hf, ih (by simp), ← unlines_cons _ hne, ← List.map_cons]

end Linewise

/-! ### Runs of characters -/

/-- What a test takes from the front of a text passes it, -/
theorem mem_takeWhile {test : Char → Bool} {s : List Char} {c : Char}
    (h : c ∈ s.takeWhile test) : test c = true :=
  List.all_eq_true.1 List.all_takeWhile c h

/-- and the next character does not. -/
theorem head?_dropWhile_eq_false {test : Char → Bool} {s : List Char} :
    ∀ c ∈ (s.dropWhile test).head?, test c = false := by
  intro c hc
  have stop := List.head?_dropWhile_not test s
  rw [Option.mem_def.1 hc] at stop
  exact stop

/-- A run that another character follows, or nothing, is taken as a whole. -/
theorem takeWhile_append_of_head? (test : Char → Bool) {front : List Char} (rest : List Char)
    (h : ∀ c ∈ front, test c = true) (ends : ∀ c ∈ rest.head?, test c = false) :
    (front ++ rest).takeWhile test = front ∧ (front ++ rest).dropWhile test = rest := by
  rw [List.takeWhile_append_of_pos h, List.dropWhile_append_of_pos h]
  cases rest with
  | nil => simp
  | cons c rest =>
    have hc : ¬ test c = true := by simp [ends c rfl]
    rw [List.takeWhile_cons_of_neg hc, List.dropWhile_cons_of_neg hc, List.append_nil]
    exact ⟨rfl, rfl⟩

/-- What is passed over, the marker and what is left make up the text. -/
theorem eq_append_of_after?_dropWhile {marker s rest : List Char} {test : Char → Bool}
    (h : after? marker (s.dropWhile test) = some rest) :
    s = s.takeWhile test ++ marker ++ rest := by
  rw [List.append_assoc, ← after?_eq_some_iff.1 h, List.takeWhile_append_dropWhile]

/-! ### Markers at the beginnings of lines -/

/-- A marker is missing exactly if the text does not begin with it. -/
theorem after?_eq_none_iff {marker s : List Char} : after? marker s = none ↔ ¬ marker <+: s := by
  rw [Option.eq_none_iff_forall_ne_some]
  exact ⟨fun h ⟨rest, hs⟩ => h rest (after?_eq_some_iff.2 hs.symm),
    fun h rest hs => h ⟨rest, (after?_eq_some_iff.1 hs).symm⟩⟩

/-- A marker that is nowhere in a text begins no end of it. -/
theorem after?_eq_none_of_not_isInfix {marker s t : List Char} (h : ¬ marker <:+: s)
    (ht : t <:+ s) : after? marker t = none := by
  rcases ha : after? marker t with _ | rest
  · rfl
  · have : marker <+: t := ⟨rest, (after?_eq_some_iff.1 ha).symm⟩
    exact absurd (List.infix_iff_prefix_suffix.2 ⟨t, this, ht⟩) h

/-- A text is cut at a marker behind it if the marker begins nowhere within. -/
theorem upTo?_of_no_marker {allowed : Char → Bool} {marker body rest : List Char}
    (h : ∀ t, t <:+ body → t ≠ [] → ¬ marker <+: t ++ (marker ++ rest))
    (ha : ∀ c ∈ body, allowed c = true) :
    upTo? allowed marker (body ++ (marker ++ rest)) = some (body, rest) := by
  induction body with
  | nil =>
    have found := after?_append marker rest
    rw [List.nil_append]
    cases hs : marker ++ rest with
    | nil => rw [hs] at found; rw [upTo?, found]; rfl
    | cons c s => rw [hs] at found; rw [upTo?, found]
  | cons c body ih =>
    have missing : after? marker (c :: (body ++ (marker ++ rest))) = none :=
      after?_eq_none_iff.2 (h (c :: body) (List.suffix_refl _) (List.cons_ne_nil _ _))
    have found := ih (fun t ht => h t (ht.trans (List.suffix_cons c body)))
      fun d hd => ha d (List.mem_cons_of_mem _ hd)
    rw [List.cons_append, upTo?, missing, found]
    simp [ha c List.mem_cons_self]

/-- Each line with a newline in front of it: what follows the first line of a text. -/
def furtherLines (ls : List (List Char)) : List Char :=
  ls.flatMap ('\n' :: ·)

@[simp] theorem furtherLines_nil : furtherLines [] = [] := rfl

@[simp] theorem furtherLines_cons (l : List Char) (ls : List (List Char)) :
    furtherLines (l :: ls) = '\n' :: (l ++ furtherLines ls) := rfl

theorem furtherLines_append (xs ys : List (List Char)) :
    furtherLines (xs ++ ys) = furtherLines xs ++ furtherLines ys := List.flatMap_append

theorem unlines_cons_eq (l : List Char) (ls : List (List Char)) :
    unlines (l :: ls) = l ++ furtherLines ls := by
  induction ls generalizing l with
  | nil => simp
  | cons l' ls ih => rw [unlines_cons l (by simp), ih, furtherLines_cons]

/-- Every text is a first line and further lines. -/
theorem eq_append_furtherLines {s l : List Char} {ls : List (List Char)} (h : lines s = l :: ls) :
    s = l ++ furtherLines ls := by
  rw [← unlines_lines s, h, unlines_cons_eq]

/-- A marker on one line does not reach over a newline. -/
theorem after?_append_newline {marker : List Char} (hm : '\n' ∉ marker) (l s : List Char) :
    after? marker (l ++ '\n' :: s) = (after? marker l).map (· ++ '\n' :: s) := by
  induction marker generalizing l with
  | nil => simp
  | cons m marker ih =>
    rw [List.mem_cons, not_or] at hm
    cases l with
    | nil => simp [hm.1]
    | cons c l =>
      rw [List.cons_append, after?_cons_cons, after?_cons_cons, ih hm.2]
      split <;> rfl

/-- Whether a text begins with a marker on one line depends on its first line only. -/
theorem after?_append_furtherLines {marker : List Char} (hm : '\n' ∉ marker) (l : List Char)
    (ls : List (List Char)) :
    after? marker (l ++ furtherLines ls) = (after? marker l).map (· ++ furtherLines ls) := by
  cases ls with
  | nil => simp
  | cons l' ls => exact after?_append_newline hm l _

/-- On a single line nothing stands at the beginning of a later one. -/
theorem upTo?_newline_eq_none {l : List Char} (hl : '\n' ∉ l) (marker : List Char) :
    upTo? anywhere ('\n' :: marker) l = none := by
  induction l with
  | nil => rfl
  | cons c l ih =>
    rw [List.mem_cons, not_or] at hl
    rw [upTo?, after?_cons_cons, if_neg (Ne.symm hl.1), ih hl.2]
    rfl

/-- The search for a line that begins with a marker looks at the second line first. -/
theorem upTo?_append_newline {l : List Char} (hl : '\n' ∉ l) (marker s : List Char) :
    upTo? anywhere ('\n' :: marker) (l ++ '\n' :: s)
      = match after? marker s with
        | some rest => some (l, rest)
        | none => (upTo? anywhere ('\n' :: marker) s).map fun parts =>
            (l ++ '\n' :: parts.1, parts.2) := by
  induction l with
  | nil =>
    rw [List.nil_append, upTo?, after?_cons_cons, if_pos rfl]
    rcases after? marker s with _ | rest <;> rfl
  | cons c l ih =>
    rw [List.mem_cons, not_or] at hl
    rw [List.cons_append, upTo?, after?_cons_cons, if_neg (Ne.symm hl.1), ih hl.2]
    rcases after? marker s with _ | rest
    · simp [anywhere, Function.comp_def]
    · rfl

/-- If no further line begins with the marker, it is not found. -/
theorem upTo?_furtherLines_eq_none {marker : List Char} (hm : '\n' ∉ marker) {l : List Char}
    {ls : List (List Char)} (hn : ∀ l' ∈ l :: ls, '\n' ∉ l')
    (h : ∀ l' ∈ ls, after? marker l' = none) :
    upTo? anywhere ('\n' :: marker) (l ++ furtherLines ls) = none := by
  induction ls generalizing l with
  | nil =>
    rw [furtherLines_nil, List.append_nil]
    exact upTo?_newline_eq_none (hn l List.mem_cons_self) marker
  | cons l' ls ih =>
    rw [furtherLines_cons, upTo?_append_newline (hn l List.mem_cons_self),
      after?_append_furtherLines hm, h l' List.mem_cons_self,
      ih (fun x hx => hn x (List.mem_cons_of_mem _ hx))
        fun x hx => h x (List.mem_cons_of_mem _ hx)]
    rfl

/-- The marker is found at the first further line that begins with it. -/
theorem upTo?_furtherLines {marker : List Char} (hm : '\n' ∉ marker) {l : List Char}
    {ls : List (List Char)} (hn : ∀ l' ∈ l :: ls, '\n' ∉ l')
    (h : ∀ l' ∈ ls, after? marker l' = none) (found : List Char) (rest : List (List Char)) :
    upTo? anywhere ('\n' :: marker) (l ++ furtherLines (ls ++ (marker ++ found) :: rest))
      = some (l ++ furtherLines ls, found ++ furtherLines rest) := by
  induction ls generalizing l with
  | nil =>
    rw [List.nil_append, furtherLines_cons, upTo?_append_newline (hn l List.mem_cons_self),
      after?_append_furtherLines hm, after?_append, Option.map_some, furtherLines_nil,
      List.append_nil]
  | cons l' ls ih =>
    rw [List.cons_append, furtherLines_cons, upTo?_append_newline (hn l List.mem_cons_self),
      after?_append_furtherLines hm, h l' List.mem_cons_self,
      ih (fun x hx => hn x (List.mem_cons_of_mem _ hx))
        fun x hx => h x (List.mem_cons_of_mem _ hx)]
    rfl

end TicketMigration.Text
