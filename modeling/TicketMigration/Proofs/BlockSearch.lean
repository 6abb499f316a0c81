import Mathlib.Data.List.Forall2
import Mathlib.Data.List.TakeWhile
import TicketMigration.Proofs.BlockLines
import TicketMigration.Proofs.FenceSearch

/-!
# The search for block markup

Block markup can also be looked for in the text itself, without cutting it into lines: each kind of
it is searched for at the beginnings of lines, in the whole text, and the kinds follow each other.
A search knows the end of a line only as the place where a newline or nothing follows.  Still none
of them reads over it, so the searches convert what the line rules do.

## Main definitions

* `Rule.applyOnLines` — converts what a rule finds at the beginnings of lines.
* `headingSearch`, `bulletSearch`, `numberedSearch`, `dividerSearch` — the searches, with
  `blockSearches` their order.
* `searchBlockMarkdown` — applies them all.
* `Rule.FindsLines` — a search finds the lines that a line rule accepts.

## Main statements

* `Rule.FindsLines.applyOnLines_eq` — such a search converts a text line by line.
* `searchBlockMarkdown_eq` — **the searches convert what the line rules do.**
-/

namespace TicketMigration.Markup

open Text

/-! ### Rules at the beginnings of lines -/

/-- Converts what a rule finds at the beginnings of lines.  Behind a match a line goes on. -/
def Rule.applyOnLines (rule : Rule) (lineStart : Bool) (s : List Char) : List Char :=
  match _h : firstOnLine? rule.match? lineStart s with
  | some (before, out, rest) => before ++ out ++ rule.applyOnLines false rest
  | none => s
termination_by s.length
decreasing_by exact length_of_firstOnLine? (fun h => rule.shorter h) _h

/-- A search finds the lines that a line rule accepts, whatever lines follow.  It leaves some end of
the line as it is. -/
structure Rule.FindsLines (rule : Rule) (onLine : LineRule) : Prop where
  /-- It does not match where the line is not accepted. -/
  passes : ∀ {l : List Char} (ls : List (List Char)), '\n' ∉ l → onLine l = none →
    rule.match? (l ++ furtherLines ls) = none
  /-- Where the line is accepted, it reads no more than the line. -/
  finds : ∀ {l written : List Char} (ls : List (List Char)), '\n' ∉ l → onLine l = some written →
    ∃ out left, written = out ++ left ∧ '\n' ∉ left ∧
      rule.match? (l ++ furtherLines ls) = some (out, left ++ furtherLines ls)

section Lines

variable {rule : Rule} {lineStart : Bool} {s : List Char}

theorem applyOnLines_of_found {before out rest : List Char}
    (h : firstOnLine? rule.match? lineStart s = some (before, out, rest)) :
    rule.applyOnLines lineStart s = before ++ out ++ rule.applyOnLines false rest := by
  rw [Rule.applyOnLines]
  split
  · next h' =>
    rw [h] at h'
    cases h'
    rfl
  · next h' => rw [h] at h'; cases h'

theorem applyOnLines_of_nothing (h : firstOnLine? rule.match? lineStart s = none) :
    rule.applyOnLines lineStart s = s := by
  rw [Rule.applyOnLines]
  split
  · next h' => rw [h] at h'; cases h'
  · rfl

/-- The rest of a line is kept, and the search goes on at the beginning of the next one. -/
theorem applyOnLines_append_newline {l : List Char} (hl : '\n' ∉ l) (s : List Char) :
    rule.applyOnLines false (l ++ '\n' :: s) = l ++ '\n' :: rule.applyOnLines true s := by
  have next : firstOnLine? rule.match? false (l ++ '\n' :: s) = _ :=
    firstOnLine?_append_newline hl s
  cases hs : firstOnLine? rule.match? true s with
  | none =>
    rw [hs] at next
    rw [applyOnLines_of_nothing next, applyOnLines_of_nothing hs]
  | some found =>
    obtain ⟨before, out, rest⟩ := found
    rw [hs] at next
    rw [applyOnLines_of_found next, applyOnLines_of_found hs]
    simp

/-- The rest of the last line is kept. -/
theorem applyOnLines_last {l : List Char} (hl : '\n' ∉ l) : rule.applyOnLines false l = l :=
  applyOnLines_of_nothing (firstOnLine?_eq_none hl)

end Lines

namespace Rule.FindsLines

variable {rule : Rule} {onLine : LineRule}

/-- The first line is converted, and the search goes on behind it, still on that line. -/
theorem applyOnLines_line (h : rule.FindsLines onLine) {l : List Char} (hl : '\n' ∉ l)
    (ls : List (List Char)) :
    ∃ out left, (onLine l).getD l = out ++ left ∧ '\n' ∉ left ∧
      rule.applyOnLines true (l ++ furtherLines ls)
        = out ++ rule.applyOnLines false (left ++ furtherLines ls) := by
  cases hr : onLine l with
  | none =>
    -- without a match at its beginning the line is searched as its own rest
    have same := firstOnLine?_of_no_match (h.passes ls hl hr)
    refine ⟨[], l, rfl, hl, ?_⟩
    cases hs : firstOnLine? rule.match? false (l ++ furtherLines ls) with
    | none =>
      rw [hs] at same
      rw [applyOnLines_of_nothing same, applyOnLines_of_nothing hs, List.nil_append]
    | some found =>
      obtain ⟨before, out, rest⟩ := found
      rw [hs] at same
      rw [applyOnLines_of_found same, applyOnLines_of_found hs, List.nil_append]
  | some written =>
    obtain ⟨out, left, rfl, hleft, hm⟩ := h.finds ls hl hr
    refine ⟨out, left, rfl, hleft, ?_⟩
    rw [applyOnLines_of_found (firstOnLine?_of_match hm), List.nil_append]

/-- **A search for lines converts a text line by line.** -/
theorem applyOnLines_eq (h : rule.FindsLines onLine) (s : List Char) :
    rule.applyOnLines true s = applyLineRule onLine s := by
  -- by induction on the lines behind the first one: what is left of that is passed over
  have run (ls : List (List Char)) : ∀ l, (∀ l' ∈ l :: ls, '\n' ∉ l') →
      rule.applyOnLines true (l ++ furtherLines ls)
        = unlines ((l :: ls).map fun line => (onLine line).getD line) := by
    induction ls with
    | nil =>
      intro l hn
      obtain ⟨out, left, written, hleft, first⟩ :=
        h.applyOnLines_line (hn l List.mem_cons_self) []
      rw [furtherLines_nil, List.append_nil] at first ⊢
      rw [first, List.append_nil, applyOnLines_last hleft, List.map_singleton, unlines_singleton,
        written]
    | cons l' ls ih =>
      intro l hn
      obtain ⟨out, left, written, hleft, first⟩ :=
        h.applyOnLines_line (hn l List.mem_cons_self) (l' :: ls)
      have further : ((l' :: ls).map fun line => (onLine line).getD line) ≠ [] := by simp
      rw [first, furtherLines_cons, applyOnLines_append_newline hleft,
        ih l' fun x hx => hn x (List.mem_cons_of_mem _ hx), List.map_cons (a := l),
        unlines_cons _ further, written, List.append_assoc]
  obtain ⟨l, ls, hs⟩ := exists_lines s
  have hn : ∀ l' ∈ l :: ls, '\n' ∉ l' := fun l' hl' => not_mem_of_mem_lines (hs ▸ hl')
  rw [applyLineRule, mapLines, hs, ← run ls l hn, ← eq_append_furtherLines hs]

end Rule.FindsLines

/-! ### Ends of lines -/

/-- Nothing is left of the line. -/
def endsLine (s : List Char) : Bool :=
  s.head?.all (· == '\n')

/-- Reads gaps up to the end of the line. -/
def lineEnd? (s : List Char) : Option (List Char) :=
  if endsLine (s.dropWhile isGap) then some (s.dropWhile isGap) else none

/-- Reads gaps and the closing marker of a heading, up to the end of the line. -/
def closingEnd? (level : Nat) (s : List Char) : Option (List Char) :=
  if s.head?.any isGap then
    (after? (List.replicate level '=') (s.dropWhile isGap)).bind lineEnd?
  else none

/-- Reads the end of a heading, with its closing marker if that is there. -/
def headingEnd? (level : Nat) (s : List Char) : Option (List Char) :=
  (closingEnd? level s).or (lineEnd? s)

/-- Reads the shortest title that an end of a heading follows, on one line. -/
def titleUpTo? (level : Nat) : List Char → Option (List Char × List Char)
  | [] => (headingEnd? level []).map fun rest => ([], rest)
  | c :: s =>
    match headingEnd? level (c :: s) with
    | some rest => some ([], rest)
    | none =>
      if onLine c then (titleUpTo? level s).map fun parts => (c :: parts.1, parts.2) else none

section Ends

variable {l : List Char}

theorem dropWhile_append_furtherLines {p : Char → Bool} (hp : p '\n' = false) (l : List Char)
    (ls : List (List Char)) :
    (l ++ furtherLines ls).dropWhile p = l.dropWhile p ++ furtherLines ls := by
  induction l with
  | nil => cases ls <;> simp [hp]
  | cons c l ih =>
    rw [List.cons_append, List.dropWhile_cons, List.dropWhile_cons, ih]
    split <;> rfl

theorem takeWhile_append_furtherLines {p : Char → Bool} (hp : p '\n' = false) (l : List Char)
    (ls : List (List Char)) :
    (l ++ furtherLines ls).takeWhile p = l.takeWhile p := by
  induction l with
  | nil => cases ls <;> simp [hp]
  | cons c l ih => rw [List.cons_append, List.takeWhile_cons, List.takeWhile_cons, ih]

theorem endsLine_append (hl : '\n' ∉ l) (ls : List (List Char)) :
    endsLine (l ++ furtherLines ls) = l.isEmpty := by
  cases l with
  | nil => cases ls <;> simp [endsLine]
  | cons c l =>
    have hc : c ≠ '\n' := fun he => hl (he ▸ List.mem_cons_self)
    simp [endsLine, hc]

theorem lineEnd?_append (hl : '\n' ∉ l) (ls : List (List Char)) :
    lineEnd? (l ++ furtherLines ls) = if l.all isGap then some (furtherLines ls) else none := by
  have hd : '\n' ∉ l.dropWhile isGap := fun hm => hl ((List.dropWhile_suffix _).subset hm)
  rw [lineEnd?, dropWhile_append_furtherLines rfl, endsLine_append hd]
  by_cases h : l.all isGap = true
  · have empty : l.dropWhile isGap = [] :=
      List.dropWhile_eq_nil_iff.2 fun c hc => List.all_eq_true.1 h c hc
    simp [empty, h]
  · have left : l.dropWhile isGap ≠ [] := fun empty =>
      h (List.all_eq_true.2 fun c hc => List.dropWhile_eq_nil_iff.1 empty c hc)
    rw [if_neg (by simpa using left), if_neg h]

theorem closingEnd?_append (level : Nat) (hl : '\n' ∉ l) (ls : List (List Char)) :
    closingEnd? level (l ++ furtherLines ls)
      = if (l.head?.any isGap &&
          match after? (List.replicate level '=') (l.dropWhile isGap) with
          | some rest => rest.all isGap
          | none => false) then some (furtherLines ls) else none := by
  have head : (l ++ furtherLines ls).head?.any isGap = l.head?.any isGap := by
    cases l with
    | nil => cases ls <;> simp [isGap]
    | cons c l => rfl
  have marker : '\n' ∉ List.replicate level '=' := by simp
  rw [closingEnd?, head, dropWhile_append_furtherLines rfl, after?_append_furtherLines marker]
  cases l.head?.any isGap with
  | false => rfl
  | true =>
    cases ha : after? (List.replicate level '=') (l.dropWhile isGap) with
    | none => rfl
    | some rest =>
      have hr : '\n' ∉ rest := fun hm => hl ((List.dropWhile_suffix _).subset
        (after?_eq_some_iff.1 ha ▸ List.mem_append_right _ hm))
      simpa using lineEnd?_append hr ls

/-- The end of a heading is read exactly if the rest of the line is one. -/
theorem headingEnd?_append (level : Nat) (hl : '\n' ∉ l) (ls : List (List Char)) :
    headingEnd? level (l ++ furtherLines ls)
      = if endsHeading level l then some (furtherLines ls) else none := by
  -- with or without a closing marker, the same is left
  have either (closed gaps : Bool) (rest : List Char) :
      (if closed then some rest else none).or (if gaps then some rest else none)
        = if gaps || closed then some rest else none := by
    cases closed <;> cases gaps <;> rfl
  rw [headingEnd?, closingEnd?_append level hl, lineEnd?_append hl, endsHeading]
  exact either _ _ _

/-- The title is read from the line alone. -/
theorem titleUpTo?_append (level : Nat) (hl : '\n' ∉ l) (ls : List (List Char)) :
    titleUpTo? level (l ++ furtherLines ls) = some (headingTitle level l, furtherLines ls) := by
  induction l with
  | nil =>
    have ends := headingEnd?_append level hl ls
    rw [if_pos (show endsHeading level [] = true from rfl)] at ends
    cases hs : ([] : List Char) ++ furtherLines ls with
    | nil => rw [hs] at ends; rw [titleUpTo?, ends]; rfl
    | cons c s => rw [hs] at ends; rw [titleUpTo?, ends]; rfl
  | cons c l ih =>
    have ends := headingEnd?_append level hl ls
    rw [List.mem_cons, not_or] at hl
    rw [List.cons_append] at ends ⊢
    rw [titleUpTo?, ends, headingTitle]
    by_cases h : endsHeading level (c :: l) = true
    · rw [if_pos h, if_pos h]
    · have hc : onLine c = true := by simpa [onLine] using Ne.symm hl.1
      rw [if_neg h, if_neg h, if_pos hc, ih hl.2]
      rfl

end Ends

/-! ### The searches -/

theorem length_of_lineEnd? {s rest : List Char} (h : lineEnd? s = some rest) :
    rest.length ≤ s.length := by
  rw [lineEnd?] at h
  split at h
  · obtain rfl := Option.some.inj h
    exact (List.dropWhile_suffix _).length_le
  · cases h

theorem length_of_headingEnd? {level : Nat} {s rest : List Char}
    (h : headingEnd? level s = some rest) : rest.length ≤ s.length := by
  rw [headingEnd?, Option.or_eq_some_iff] at h
  rcases h with h | ⟨-, h⟩
  · rw [closingEnd?] at h
    split at h
    · obtain ⟨behind, hb, he⟩ := Option.bind_eq_some_iff.1 h
      have gaps := (List.dropWhile_suffix (l := s) isGap).length_le
      have marker := length_of_after? hb
      have ending := length_of_lineEnd? he
      omega
    · cases h
  · exact length_of_lineEnd? h

theorem length_of_titleUpTo? {level : Nat} {s : List Char} {parts : List Char × List Char}
    (h : titleUpTo? level s = some parts) : parts.2.length ≤ s.length := by
  induction s generalizing parts with
  | nil =>
    obtain ⟨rest, hr, rfl⟩ := Option.map_eq_some_iff.1 h
    exact length_of_headingEnd? hr
  | cons c s ih =>
    rw [titleUpTo?] at h
    split at h
    · next rest hr =>
      obtain rfl := Option.some.inj h
      exact length_of_headingEnd? hr
    · split at h
      · obtain ⟨parts', hp, rfl⟩ := Option.map_eq_some_iff.1 h
        have := ih hp
        simp only [List.length_cons]
        omega
      · cases h

/-- Searches for headings of one level. -/
def headingSearch (level : Nat) : Rule where
  match? s :=
    match after? (List.replicate level '=') s with
    | some (c :: rest) =>
      if isGap c then
        (titleUpTo? level (rest.dropWhile isGap)).map fun parts =>
          (List.replicate level '#' ++ ' ' :: parts.1, parts.2)
      else none
    | _ => none
  shorter := by
    intro s out rest h
    split at h
    · next c behind hb =>
      split at h
      · obtain ⟨parts, hp, he⟩ := Option.map_eq_some_iff.1 h
        obtain ⟨-, rfl⟩ := Prod.mk.inj he
        have marker := length_of_after? hb
        have gaps := (List.dropWhile_suffix (l := behind) isGap).length_le
        have title := length_of_titleUpTo? hp
        rw [List.length_cons] at marker
        omega
      · cases h
    · cases h

/-- Searches for bullet points of one indentation. -/
def bulletSearch (indentation depth : Nat) : Rule where
  match? s := (after? (List.replicate indentation ' ' ++ ['*', ' ']) s).map fun rest =>
    (List.replicate depth '*', rest)
  shorter := by
    intro s out rest h
    obtain ⟨behind, hb, he⟩ := Option.map_eq_some_iff.1 h
    obtain ⟨-, rfl⟩ := Prod.mk.inj he
    have marker := length_of_after? hb
    rw [List.length_append, List.length_cons] at marker
    omega

/-- Searches for numbered points. -/
def numberedSearch : Rule where
  match? s :=
    match s with
    | ' ' :: d :: rest =>
      if isDigit d then
        (after? ['.', ' '] (rest.dropWhile isDigit)).map fun rest => (['1', '.', ' '], rest)
      else none
    | _ => none
  shorter := by
    intro s out rest h
    split at h
    · next d behind =>
      split at h
      · obtain ⟨behind', hb, he⟩ := Option.map_eq_some_iff.1 h
        obtain ⟨-, rfl⟩ := Prod.mk.inj he
        have marker := length_of_after? hb
        have digits := (List.dropWhile_suffix (l := behind) isDigit).length_le
        simp only [List.length_cons] at marker ⊢
        omega
      · cases h
    · cases h

/-- Searches for dividers. -/
def dividerSearch : Rule where
  match? s :=
    if 4 ≤ (s.takeWhile (· == '-')).length && endsLine (s.dropWhile (· == '-')) then
      some ('\n' :: s.takeWhile (· == '-'), s.dropWhile (· == '-'))
    else none
  shorter := by
    intro s out rest h
    split at h
    · next hd =>
      obtain ⟨-, rfl⟩ := Prod.mk.inj (Option.some.inj h)
      rw [Bool.and_eq_true, decide_eq_true_eq] at hd
      have parts := congrArg List.length
        (List.takeWhile_append_dropWhile (p := (· == '-')) (l := s))
      rw [List.length_append] at parts
      omega
    · cases h

/-- The searches in the order in which they are made. -/
def blockSearches : List Rule :=
  [6, 5, 4, 3, 2, 1].map headingSearch
    ++ [bulletSearch 13 4, bulletSearch 9 3, bulletSearch 5 2, bulletSearch 1 1, numberedSearch,
      dividerSearch]

/-- Searches a text for each kind of block markup, one kind after the other. -/
def searchBlockMarkdown (s : List Char) : List Char :=
  blockSearches.foldl (fun text rule => rule.applyOnLines true text) s

/-! ### What the searches find -/

/-- A search that reads whole lines finds what the line rule accepts. -/
theorem Rule.FindsLines.of_match? {rule : Rule} {onLine : LineRule}
    (h : ∀ {l : List Char} (ls : List (List Char)), '\n' ∉ l →
      rule.match? (l ++ furtherLines ls) = (onLine l).map fun out => (out, furtherLines ls)) :
    rule.FindsLines onLine where
  passes ls hl hr := by rw [h ls hl, hr, Option.map_none]
  finds {l written} ls hl hr := by
    refine ⟨written, [], (List.append_nil _).symm, List.not_mem_nil, ?_⟩
    rw [h ls hl, hr]
    rfl

theorem findsLines_headingSearch (level : Nat) :
    (headingSearch level).FindsLines (headingRule level) := by
  refine .of_match? fun {l} ls hl => ?_
  have marker : '\n' ∉ List.replicate level '=' := by simp
  simp only [headingSearch, headingRule, after?_append_furtherLines marker]
  cases ha : after? (List.replicate level '=') l with
  | none => rfl
  | some behind =>
    rw [after?_eq_some_iff.1 ha, List.mem_append, not_or] at hl
    cases behind with
    | nil => cases ls <;> rfl
    | cons c rest =>
      rw [Option.map_some, List.cons_append]
      by_cases hc : isGap c = true
      · have hr : '\n' ∉ rest.dropWhile isGap := fun hm =>
          hl.2 (List.mem_cons_of_mem _ ((List.dropWhile_suffix _).subset hm))
        simp only [if_pos hc, dropWhile_append_furtherLines (p := isGap) rfl,
          titleUpTo?_append level hr, Option.map_some]
      · simp only [if_neg hc, Option.map_none]

theorem findsLines_bulletSearch (indentation depth : Nat) :
    (bulletSearch indentation depth).FindsLines (bulletRule indentation depth) := by
  have marker : '\n' ∉ List.replicate indentation ' ' ++ ['*', ' '] := by simp
  constructor
  · intro l ls hl hr
    have none := Option.map_eq_none_iff.1 hr
    simp only [bulletSearch, after?_append_furtherLines marker, none, Option.map_none]
  · intro l written ls hl hr
    obtain ⟨rest, ha, rfl⟩ := Option.map_eq_some_iff.1 hr
    rw [after?_eq_some_iff.1 ha, List.mem_append, not_or] at hl
    refine ⟨List.replicate depth '*', rest, rfl, hl.2, ?_⟩
    simp only [bulletSearch, after?_append_furtherLines marker, ha, Option.map_some]

theorem numberedSearch_eq_none {l : List Char} (h : numberedRule l = none)
    (ls : List (List Char)) : numberedSearch.match? (l ++ furtherLines ls) = none := by
  have newline : isDigit '\n' = false := by decide
  have marker : '\n' ∉ ['.', ' '] := by decide
  match l with
  | [] => cases ls <;> rfl
  | [c] =>
    by_cases hc : c = ' '
    · subst hc
      cases ls <;> simp [numberedSearch, newline]
    · simp [numberedSearch, hc]
  | c :: d :: rest =>
    by_cases hc : c = ' '
    · subst hc
      by_cases hd : isDigit d = true
      · have behind : after? ['.', ' '] (rest.dropWhile isDigit) = none := by
          simpa [numberedRule, hd] using h
        simp [numberedSearch, hd, dropWhile_append_furtherLines newline,
          after?_append_furtherLines marker, behind]
      · simp [numberedSearch, hd]
    · simp [numberedSearch, hc]

theorem findsLines_numberedSearch : numberedSearch.FindsLines numberedRule := by
  have newline : isDigit '\n' = false := by decide
  have marker : '\n' ∉ ['.', ' '] := by decide
  constructor
  · intro l ls _ hr
    exact numberedSearch_eq_none hr ls
  · intro l written ls hl hr
    rw [numberedRule.eq_def] at hr
    split at hr
    · next d rest =>
      split at hr
      · next hd =>
        obtain ⟨left, hb, rfl⟩ := Option.map_eq_some_iff.1 hr
        refine ⟨['1', '.', ' '], left, rfl, ?_, ?_⟩
        · intro hm
          rw [eq_append_of_after?_dropWhile hb] at hl
          simp [hm] at hl
        · simp only [numberedSearch, List.cons_append, if_pos hd,
            dropWhile_append_furtherLines newline, after?_append_furtherLines marker, hb,
            Option.map_some]
      · cases hr
    · cases hr

theorem findsLines_dividerSearch : dividerSearch.FindsLines dividerRule := by
  refine .of_match? fun {l} ls hl => ?_
  have hd : '\n' ∉ l.dropWhile (· == '-') := fun hm => hl ((List.dropWhile_suffix _).subset hm)
  simp only [dividerSearch, dividerRule, takeWhile_append_furtherLines (p := (· == '-')) rfl,
    dropWhile_append_furtherLines (p := (· == '-')) rfl, endsLine_append hd]
  by_cases h : l.all (· == '-') = true
  · have dashes : l.takeWhile (· == '-') = l :=
      List.takeWhile_eq_self_iff.2 fun c hc => List.all_eq_true.1 h c hc
    have nothing : l.dropWhile (· == '-') = [] :=
      List.dropWhile_eq_nil_iff.2 fun c hc => List.all_eq_true.1 h c hc
    rw [dashes, nothing, h, List.isEmpty_nil, List.nil_append]
    by_cases hn : 4 ≤ l.length <;> simp [hn]
  · have left : l.dropWhile (· == '-') ≠ [] := fun empty =>
      h (List.all_eq_true.2 fun c hc => List.dropWhile_eq_nil_iff.1 empty c hc)
    rw [Bool.eq_false_iff.2 h, List.isEmpty_eq_false_iff.2 left]
    simp

/-- **The searches convert what the line rules do.** -/
theorem searchBlockMarkdown_eq (s : List Char) : searchBlockMarkdown s = blockMarkdown s := by
  have found : List.Forall₂ Rule.FindsLines blockSearches blockRules := by
    have headings : List.Forall₂ Rule.FindsLines ([6, 5, 4, 3, 2, 1].map headingSearch)
        ([6, 5, 4, 3, 2, 1].map headingRule) :=
      List.forall₂_map_left_iff.2 (List.forall₂_map_right_iff.2
        (List.forall₂_same.2 fun level _ => findsLines_headingSearch level))
    refine List.rel_append headings ?_
    exact .cons (findsLines_bulletSearch 13 4) <| .cons (findsLines_bulletSearch 9 3) <|
      .cons (findsLines_bulletSearch 5 2) <| .cons (findsLines_bulletSearch 1 1) <|
      .cons findsLines_numberedSearch <| .cons findsLines_dividerSearch .nil
  have run : ∀ {searches : List Rule} {rules : List LineRule},
      List.Forall₂ Rule.FindsLines searches rules → ∀ s : List Char,
      searches.foldl (fun text rule => rule.applyOnLines true text) s
        = rules.foldl (fun text rule => applyLineRule rule text) s := by
    intro searches rules h
    induction h with
    | nil => exact fun _ => rfl
    | cons first _ ih =>
      intro s
      rw [List.foldl_cons, List.foldl_cons, first.applyOnLines_eq, ih]
  exact run found s

end TicketMigration.Markup
