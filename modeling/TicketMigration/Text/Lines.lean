/-!
# Lines

A text is cut at its newlines and put together again.  Every text has at least one line, and a
text that ends in a newline has an empty last line.

## Main definitions

* `lines` cuts a text, `unlines` joins lines.
* `splitOn` cuts at another separator.
* `mapLines` changes a text line by line.

## Main statements

* `unlines_lines`: joining the lines of a text gives the text back.
* `lines_unlines`: cutting joined lines gives the lines back when none of them holds a newline.
-/

namespace TicketMigration.Text

/-- The parts of a text between the occurrences of a separator, at least one. -/
def splitOn (separator : Char) : List Char → List (List Char)
  | [] => [[]]
  | c :: rest =>
    if c = separator then [] :: splitOn separator rest
    else
      match splitOn separator rest with
      | [] => [[c]]
      | part :: parts => (c :: part) :: parts

/-- Joins parts with a separator between them. -/
def join (separator : List Char) : List (List Char) → List Char
  | [] => []
  | [part] => part
  | part :: parts => part ++ separator ++ join separator parts

/-- The lines of a text, without their newlines. -/
def lines (s : List Char) : List (List Char) :=
  splitOn '\n' s

/-- Joins lines with newlines between them. -/
def unlines (ls : List (List Char)) : List Char :=
  join ['\n'] ls

/-- Changes each line of a text on its own. -/
def mapLines (f : List Char → List Char) (s : List Char) : List Char :=
  unlines ((lines s).map f)

@[simp] theorem splitOn_nil (separator : Char) : splitOn separator [] = [[]] := rfl

theorem splitOn_ne_nil (separator : Char) (s : List Char) : splitOn separator s ≠ [] := by
  cases s with
  | nil => simp
  | cons c rest =>
    rw [splitOn]
    split
    · simp
    · split <;> simp

@[simp] theorem splitOn_cons_self (separator : Char) (s : List Char) :
    splitOn separator (separator :: s) = [] :: splitOn separator s := by
  simp [splitOn]

theorem splitOn_cons_ne {separator c : Char} (h : c ≠ separator) (s : List Char) :
    ∃ part parts, splitOn separator s = part :: parts ∧
      splitOn separator (c :: s) = (c :: part) :: parts := by
  rcases hs : splitOn separator s with _ | ⟨part, parts⟩
  · exact absurd hs (splitOn_ne_nil separator s)
  · exact ⟨part, parts, rfl, by simp [splitOn, h, hs]⟩

@[simp] theorem join_nil (separator : List Char) : join separator [] = [] := rfl

@[simp] theorem join_singleton (separator part : List Char) : join separator [part] = part := rfl

theorem join_cons_cons (separator part part' : List Char) (parts : List (List Char)) :
    join separator (part :: part' :: parts)
      = part ++ separator ++ join separator (part' :: parts) := rfl

theorem join_cons_of_ne_nil (separator part : List Char) {parts : List (List Char)}
    (h : parts ≠ []) :
    join separator (part :: parts) = part ++ separator ++ join separator parts := by
  cases parts with
  | nil => exact absurd rfl h
  | cons => rfl

/-- A character in front of the first part is a character in front of the whole. -/
theorem join_cons_char (separator : List Char) (c : Char) (part : List Char)
    (parts : List (List Char)) :
    join separator ((c :: part) :: parts) = c :: join separator (part :: parts) := by
  cases parts <;> rfl

/-- Joining the parts of a text gives the text back. -/
theorem join_splitOn (separator : Char) (s : List Char) :
    join [separator] (splitOn separator s) = s := by
  induction s with
  | nil => rfl
  | cons c s ih =>
    by_cases h : c = separator
    · subst h
      rw [splitOn_cons_self, join_cons_of_ne_nil _ _ (splitOn_ne_nil _ _), ih]
      rfl
    · obtain ⟨part, parts, hs, hc⟩ := splitOn_cons_ne h s
      rw [hc, join_cons_char, ← hs, ih]

/-- A part that does not hold the separator is one part, and what follows is cut on its own. -/
theorem splitOn_append_cons {separator : Char} {part : List Char} (h : separator ∉ part)
    (s : List Char) :
    splitOn separator (part ++ separator :: s) = part :: splitOn separator s := by
  induction part with
  | nil => simp
  | cons c part ih =>
    rw [List.mem_cons, not_or] at h
    obtain ⟨p, ps, hp, hc⟩ := splitOn_cons_ne (Ne.symm h.1) (part ++ separator :: s)
    rw [ih h.2] at hp
    obtain ⟨rfl, rfl⟩ := List.cons.inj hp
    exact hc

theorem splitOn_of_not_mem {separator : Char} {part : List Char} (h : separator ∉ part) :
    splitOn separator part = [part] := by
  induction part with
  | nil => rfl
  | cons c part ih =>
    rw [List.mem_cons, not_or] at h
    obtain ⟨p, ps, hp, hc⟩ := splitOn_cons_ne (Ne.symm h.1) part
    rw [ih h.2] at hp
    obtain ⟨rfl, rfl⟩ := List.cons.inj hp
    exact hc

/-- No part of a text holds the separator. -/
theorem not_mem_of_mem_splitOn {separator : Char} {s part : List Char}
    (h : part ∈ splitOn separator s) : separator ∉ part := by
  induction s generalizing part with
  | nil =>
    rw [splitOn_nil, List.mem_singleton] at h
    simp [h]
  | cons c s ih =>
    by_cases hc : c = separator
    · subst hc
      rw [splitOn_cons_self, List.mem_cons] at h
      rcases h with rfl | h
      · simp
      · exact ih h
    · obtain ⟨p, ps, hp, hcons⟩ := splitOn_cons_ne hc s
      rw [hcons, List.mem_cons] at h
      rcases h with rfl | h
      · rw [List.mem_cons, not_or]
        exact ⟨Ne.symm hc, ih (by rw [hp]; exact List.mem_cons_self)⟩
      · exact ih (by rw [hp]; exact List.mem_cons_of_mem _ h)

/-- Cutting joined parts gives the parts back when none of them holds the separator. -/
theorem splitOn_join {separator : Char} {parts : List (List Char)} (hne : parts ≠ [])
    (h : ∀ part ∈ parts, separator ∉ part) :
    splitOn separator (join [separator] parts) = parts := by
  induction parts with
  | nil => exact absurd rfl hne
  | cons part parts ih =>
    rcases parts with _ | ⟨part', parts⟩
    · exact splitOn_of_not_mem (h part List.mem_cons_self)
    · rw [join_cons_cons, List.append_assoc, List.singleton_append,
        splitOn_append_cons (h part List.mem_cons_self),
        ih (by simp) fun p hp => h p (List.mem_cons_of_mem _ hp)]

theorem lines_ne_nil (s : List Char) : lines s ≠ [] := splitOn_ne_nil '\n' s

theorem unlines_lines (s : List Char) : unlines (lines s) = s := join_splitOn '\n' s

theorem lines_unlines {ls : List (List Char)} (hne : ls ≠ []) (h : ∀ l ∈ ls, '\n' ∉ l) :
    lines (unlines ls) = ls := splitOn_join hne h

theorem lines_append_cons {l : List Char} (h : '\n' ∉ l) (s : List Char) :
    lines (l ++ '\n' :: s) = l :: lines s := splitOn_append_cons h s

theorem not_mem_of_mem_lines {s l : List Char} (h : l ∈ lines s) : '\n' ∉ l :=
  not_mem_of_mem_splitOn h

end TicketMigration.Text
