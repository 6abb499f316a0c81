import TicketMigration.Proofs.FenceWalk

/-!
# The search for fenced blocks

Fenced code can also be looked for in the text itself: a block goes from a fence at the beginning
of a line to the end of the next line that begins with a fence.  The blocks are found one after
the other from the left; behind the last one, a fence that is left over begins code that goes on
to the end of the text.

## Main definitions

* `firstOnLine?` — the first match of a reader at the beginning of a line.
* `fencedBlock?` — reads a fenced block.
* `convertAroundBlocks` — converts what the search leaves outside the blocks.

## Main statements

* `convertAroundBlocks_eq_walk`, `convertAroundBlocks_eq_mapUnfenced` — the search finds the
  regions that the lines are cut into.
-/

namespace TicketMigration.Markup

open Text

/-- The first place at the beginning of a line where a reader succeeds: the text before it, what
is read and the text behind that.  Whether the text itself begins a line is given apart. -/
def firstOnLine? {α : Type} (read? : List Char → Option (α × List Char)) :
    Bool → List Char → Option (List Char × α × List Char)
  | lineStart, [] => if lineStart then (read? []).map fun found => ([], found) else none
  | lineStart, c :: s =>
    match if lineStart then read? (c :: s) else none with
    | some found => some ([], found)
    | none => (firstOnLine? read? (c == '\n') s).map fun parts => (c :: parts.1, parts.2)

/-- Reads a fenced block at the beginning of a line: a fence, the shortest text up to a line that
begins with a fence, and all of that line. -/
def fencedBlock? (s : List Char) : Option (List Char × List Char) :=
  (after? fence s).bind fun inside =>
    (upTo? anywhere ('\n' :: fence) inside).map fun parts =>
      (fence ++ parts.1 ++ '\n' :: fence ++ parts.2.takeWhile onLine, parts.2.dropWhile onLine)

/-- Reads a fence. -/
def openFence? (s : List Char) : Option (List Char × List Char) :=
  (after? fence s).map fun rest => (fence, rest)

/-- Converts a text before its first fence. -/
def convertBeforeFence (f : List Char → List Char) (s : List Char) : List Char :=
  match firstOnLine? openFence? true s with
  | some (before, opening, rest) => f before ++ opening ++ rest
  | none => f s

section Search

variable {α : Type} {read? : List Char → Option (α × List Char)}

theorem firstOnLine?_of_match {s : List Char} {found : α × List Char} (h : read? s = some found) :
    firstOnLine? read? true s = some ([], found) := by
  cases s <;> simp [firstOnLine?, h]

theorem firstOnLine?_of_no_match {s : List Char} (h : read? s = none) :
    firstOnLine? read? true s = firstOnLine? read? false s := by
  cases s <;> simp [firstOnLine?, h]

/-- Within its line nothing is found. -/
theorem firstOnLine?_eq_none {l : List Char} (hl : '\n' ∉ l) :
    firstOnLine? read? false l = none := by
  induction l with
  | nil => rfl
  | cons c l ih =>
    rw [List.mem_cons, not_or] at hl
    have hc : (c == '\n') = false := by simpa using Ne.symm hl.1
    simp [firstOnLine?, hc, ih hl.2]

/-- The search goes on at the beginning of the next line. -/
theorem firstOnLine?_append_newline {l : List Char} (hl : '\n' ∉ l) (s : List Char) :
    firstOnLine? read? false (l ++ '\n' :: s)
      = (firstOnLine? read? true s).map fun parts => (l ++ '\n' :: parts.1, parts.2) := by
  induction l with
  | nil => simp [firstOnLine?]
  | cons c l ih =>
    rw [List.mem_cons, not_or] at hl
    have hc : (c == '\n') = false := by simpa using Ne.symm hl.1
    simp [firstOnLine?, hc, ih hl.2, Function.comp_def]

/-- A reader that always reads something leaves a shorter text behind the first match. -/
theorem length_of_firstOnLine? (hread : ∀ {s found}, read? s = some found →
      found.2.length < s.length) {lineStart : Bool} {s before : List Char} {found : α × List Char}
    (h : firstOnLine? read? lineStart s = some (before, found)) :
    found.2.length < s.length := by
  induction s generalizing lineStart before with
  | nil =>
    rw [firstOnLine?] at h
    split at h
    · obtain ⟨found', hf, he⟩ := Option.map_eq_some_iff.1 h
      obtain ⟨-, rfl⟩ := Prod.mk.inj he
      exact hread hf
    · cases h
  | cons c s ih =>
    rw [firstOnLine?] at h
    split at h
    · next found' hf =>
      obtain ⟨-, rfl⟩ := Prod.mk.inj (Option.some.inj h)
      split at hf
      · exact hread hf
      · cases hf
    · obtain ⟨parts, hp, he⟩ := Option.map_eq_some_iff.1 h
      obtain ⟨-, rfl⟩ := Prod.mk.inj he
      have := ih hp
      rw [List.length_cons]
      omega

end Search

theorem length_of_fencedBlock? {s : List Char} {found : List Char × List Char}
    (h : fencedBlock? s = some found) : found.2.length < s.length := by
  obtain ⟨inside, hi, hf⟩ := Option.bind_eq_some_iff.1 h
  obtain ⟨parts, hp, rfl⟩ := Option.map_eq_some_iff.1 hf
  have h1 := length_of_after? hi
  have h2 := length_of_upTo? hp
  have h3 := (List.dropWhile_suffix (l := parts.2) onLine).length_le
  simp only [fence, List.length_cons] at h1 h2
  simp only
  omega

/-- Converts a text around its fenced blocks; behind the last block, up to the first fence. -/
def convertAroundBlocks (f : List Char → List Char) (lineStart : Bool) (s : List Char) :
    List Char :=
  match _h : firstOnLine? fencedBlock? lineStart s with
  | some (before, block, rest) => f before ++ block ++ convertAroundBlocks f false rest
  | none => convertBeforeFence f s
termination_by s.length
decreasing_by exact length_of_firstOnLine? length_of_fencedBlock? _h

/-! ### The search follows the lines -/

theorem newline_not_mem_fence : '\n' ∉ fence := by decide

theorem after?_fence_eq_none {line : List Char} (h : isFence line = false) :
    after? fence line = none := by
  rwa [isFence, Option.isSome_eq_false_iff, Option.isNone_iff_eq_none] at h

theorem fencedBlock?_eq_none {l : List Char} (h : isFence l = false) (ls : List (List Char)) :
    fencedBlock? (l ++ furtherLines ls) = none := by
  rw [fencedBlock?, after?_append_furtherLines newline_not_mem_fence, after?_fence_eq_none h]
  rfl

theorem openFence?_eq_none {l : List Char} (h : isFence l = false) (ls : List (List Char)) :
    openFence? (l ++ furtherLines ls) = none := by
  rw [openFence?, after?_append_furtherLines newline_not_mem_fence, after?_fence_eq_none h]
  rfl

/-- Lines of which none is a fence hold no match of a reader that needs one. -/
theorem firstOnLine?_eq_none_of_not_isFence {α : Type}
    {read? : List Char → Option (α × List Char)}
    (hread : ∀ {l}, isFence l = false → ∀ ls, read? (l ++ furtherLines ls) = none)
    {ls : List (List Char)} (hf : ∀ l ∈ ls, isFence l = false) {l : List Char}
    (hn : ∀ l' ∈ l :: ls, '\n' ∉ l') :
    firstOnLine? read? false (l ++ furtherLines ls) = none := by
  induction ls generalizing l with
  | nil =>
    rw [furtherLines_nil, List.append_nil]
    exact firstOnLine?_eq_none (hn l List.mem_cons_self)
  | cons l' ls ih =>
    rw [furtherLines_cons, firstOnLine?_append_newline (hn l List.mem_cons_self),
      firstOnLine?_of_no_match (hread (hf l' List.mem_cons_self) ls),
      ih (fun x hx => hf x (List.mem_cons_of_mem _ hx))
        fun x hx => hn x (List.mem_cons_of_mem _ hx)]
    rfl

section Convert

variable {f : List Char → List Char} {lineStart : Bool} {l : List Char}

theorem convertAroundBlocks_of_match {s before block rest : List Char}
    (h : firstOnLine? fencedBlock? lineStart s = some (before, block, rest)) :
    convertAroundBlocks f lineStart s = f before ++ block ++ convertAroundBlocks f false rest := by
  rw [convertAroundBlocks]
  split
  · next h' =>
    rw [h] at h'
    cases h'
    rfl
  · next h' => rw [h] at h'; cases h'

theorem convertAroundBlocks_of_no_match {s : List Char}
    (h : firstOnLine? fencedBlock? lineStart s = none) :
    convertAroundBlocks f lineStart s = convertBeforeFence f s := by
  rw [convertAroundBlocks]
  split
  · next h' => rw [h] at h'; cases h'
  · rfl

/-- In front of further lines a line that is no fence is passed over. -/
theorem firstOnLine?_line {α : Type} {read? : List Char → Option (α × List Char)}
    (hread : ∀ {l}, isFence l = false → ∀ ls, read? (l ++ furtherLines ls) = none)
    (hl : '\n' ∉ l) (h : isFence l = false) (l' : List Char) (ls : List (List Char)) :
    firstOnLine? read? lineStart (l ++ furtherLines (l' :: ls))
      = (firstOnLine? read? true (l' ++ furtherLines ls)).map fun parts =>
          (l ++ '\n' :: parts.1, parts.2) := by
  cases lineStart with
  | false => rw [furtherLines_cons, firstOnLine?_append_newline hl]
  | true => rw [firstOnLine?_of_no_match (hread h _), furtherLines_cons,
      firstOnLine?_append_newline hl]

theorem convertBeforeFence_line (hf : Linewise f) (hl : '\n' ∉ l) (h : isFence l = false)
    (l' : List Char) (ls : List (List Char)) :
    convertBeforeFence f (l ++ furtherLines (l' :: ls))
      = f l ++ '\n' :: convertBeforeFence f (l' ++ furtherLines ls) := by
  rw [convertBeforeFence, firstOnLine?_line openFence?_eq_none hl h, convertBeforeFence]
  rcases firstOnLine? openFence? true (l' ++ furtherLines ls) with _ | ⟨before, opening, rest⟩
  · exact hf l _
  · simp [hf l before]

/-- A line that is no fence is converted on its own. -/
theorem convertAroundBlocks_line (hf : Linewise f) (hl : '\n' ∉ l) (h : isFence l = false)
    (l' : List Char) (ls : List (List Char)) :
    convertAroundBlocks f lineStart (l ++ furtherLines (l' :: ls))
      = f l ++ '\n' :: convertAroundBlocks f true (l' ++ furtherLines ls) := by
  have search : firstOnLine? fencedBlock? lineStart (l ++ furtherLines (l' :: ls)) = _ :=
    firstOnLine?_line fencedBlock?_eq_none hl h l' ls
  rcases hs : firstOnLine? fencedBlock? true (l' ++ furtherLines ls) with
    _ | ⟨before, block, rest⟩
  · rw [hs] at search
    rw [convertAroundBlocks_of_no_match search, convertAroundBlocks_of_no_match hs,
      convertBeforeFence_line hf hl h]
  · rw [hs] at search
    rw [convertAroundBlocks_of_match search, convertAroundBlocks_of_match hs, hf l before]
    simp

/-- A last line that is no fence is converted. -/
theorem convertAroundBlocks_last (hl : '\n' ∉ l) (h : isFence l = false) :
    convertAroundBlocks f lineStart l = f l := by
  have pass {α : Type} {read? : List Char → Option (α × List Char)}
      (hread : ∀ {l}, isFence l = false → ∀ ls, read? (l ++ furtherLines ls) = none)
      (lineStart : Bool) : firstOnLine? read? lineStart l = none := by
    cases lineStart with
    | false => exact firstOnLine?_eq_none hl
    | true =>
      have hr := hread h []
      rw [furtherLines_nil, List.append_nil] at hr
      rw [firstOnLine?_of_no_match hr, firstOnLine?_eq_none hl]
  rw [convertAroundBlocks_of_no_match (pass fencedBlock?_eq_none lineStart), convertBeforeFence,
    pass openFence?_eq_none true]

/-- A fence that no later one closes keeps everything behind it. -/
theorem convertAroundBlocks_unclosed (hnil : f [] = []) {ls : List (List Char)}
    (hf : isFence l = true) (hn : ∀ l' ∈ l :: ls, '\n' ∉ l') (h : ∀ l' ∈ ls, isFence l' = false) :
    convertAroundBlocks f true (l ++ furtherLines ls) = l ++ furtherLines ls := by
  obtain ⟨tag, rfl⟩ := isFence_eq_true_iff.1 hf
  have htag : ∀ l' ∈ tag :: ls, '\n' ∉ l' := by
    intro l' hl'
    rcases List.mem_cons.1 hl' with rfl | hl'
    · exact fun hm => hn _ List.mem_cons_self (List.mem_append_right _ hm)
    · exact hn l' (List.mem_cons_of_mem _ hl')
  have noBlock : fencedBlock? (fence ++ tag ++ furtherLines ls) = none := by
    rw [fencedBlock?, List.append_assoc, after?_append, Option.bind_some,
      upTo?_furtherLines_eq_none newline_not_mem_fence htag fun l' hl' =>
        after?_fence_eq_none (h l' hl')]
    rfl
  have noMatch : firstOnLine? fencedBlock? true (fence ++ tag ++ furtherLines ls) = none := by
    rw [firstOnLine?_of_no_match noBlock,
      firstOnLine?_eq_none_of_not_isFence fencedBlock?_eq_none h hn]
  have opening : openFence? (fence ++ tag ++ furtherLines ls)
      = some (fence, tag ++ furtherLines ls) := by
    rw [openFence?, List.append_assoc, after?_append]
    rfl
  rw [convertAroundBlocks_of_no_match noMatch, convertBeforeFence, firstOnLine?_of_match opening]
  simp [hnil]

/-- A fenced block is kept, and the search goes on behind it. -/
theorem convertAroundBlocks_block (hnil : f [] = []) {ls rest : List (List Char)}
    {closing : List Char} (hf : isFence l = true) (hc : isFence closing = true)
    (hn : ∀ l' ∈ l :: closing :: ls, '\n' ∉ l') (h : ∀ l' ∈ ls, isFence l' = false) :
    convertAroundBlocks f true (l ++ furtherLines (ls ++ closing :: rest))
      = l ++ furtherLines (ls ++ [closing]) ++ convertAroundBlocks f false (furtherLines rest) := by
  obtain ⟨tag, rfl⟩ := isFence_eq_true_iff.1 hf
  obtain ⟨behind, rfl⟩ := isFence_eq_true_iff.1 hc
  have htag : ∀ l' ∈ tag :: ls, '\n' ∉ l' := by
    intro l' hl'
    rcases List.mem_cons.1 hl' with rfl | hl'
    · exact fun hm => hn _ List.mem_cons_self (List.mem_append_right _ hm)
    · exact hn l' (List.mem_cons_of_mem _ (List.mem_cons_of_mem _ hl'))
  have hbehind : '\n' ∉ behind := fun hm =>
    hn _ (List.mem_cons_of_mem _ List.mem_cons_self) (List.mem_append_right _ hm)
  have allowed : ∀ c ∈ behind, onLine c = true := onLine_of_not_mem hbehind
  have takes : (behind ++ furtherLines rest).takeWhile onLine = behind := by
    rw [List.takeWhile_append_of_pos allowed]
    cases rest <;> simp [onLine]
  have drops : (behind ++ furtherLines rest).dropWhile onLine = furtherLines rest := by
    rw [List.dropWhile_append_of_pos allowed]
    cases rest <;> simp [onLine]
  have block : fencedBlock? (fence ++ tag ++ furtherLines (ls ++ (fence ++ behind) :: rest))
      = some (fence ++ tag ++ furtherLines (ls ++ [fence ++ behind]), furtherLines rest) := by
    rw [fencedBlock?, List.append_assoc, after?_append, Option.bind_some,
      upTo?_furtherLines newline_not_mem_fence htag fun l' hl' => after?_fence_eq_none (h l' hl'),
      Option.map_some, takes, drops]
    simp [furtherLines_append]
  rw [convertAroundBlocks_of_match (firstOnLine?_of_match block), hnil, List.nil_append]

/-- In front of its lines with a fence open, a list of lines either holds no fence or is cut at
its first one. -/
theorem not_isFence_or_split (ls : List (List Char)) :
    (∀ l ∈ ls, isFence l = false) ∨ ∃ body closing rest, ls = body ++ closing :: rest ∧
      (∀ l ∈ body, isFence l = false) ∧ isFence closing = true := by
  induction ls with
  | nil => exact .inl (by simp)
  | cons l ls ih =>
    by_cases hl : isFence l = true
    · exact .inr ⟨[], l, ls, rfl, by simp, hl⟩
    · rcases ih with h | ⟨body, closing, rest, rfl, hb, hc⟩
      · exact .inl (List.forall_mem_cons.2 ⟨by simpa using hl, h⟩)
      · exact .inr ⟨l :: body, closing, rest, rfl,
          List.forall_mem_cons.2 ⟨by simpa using hl, hb⟩, hc⟩

theorem walk_unlessKept_code_of_forall_not_isFence {ls : List (List Char)}
    (h : ∀ l ∈ ls, isFence l = false) : walk (unlessKept f) .code ls = ls := by
  rw [walk_of_forall_not_isFence _ h]
  exact List.map_id'' (unlessKept_code f) ls

end Convert

/-- The search converts a text as a walk over its lines does. -/
theorem convertAroundBlocks_eq_walk {f : List Char → List Char} (hf : Linewise f)
    (hnil : f [] = []) (l : List Char) (ls : List (List Char)) (hn : ∀ l' ∈ l :: ls, '\n' ∉ l') :
    convertAroundBlocks f true (l ++ furtherLines ls)
      = unlines (walk (unlessKept f) .text (l :: ls)) := by
  -- strong induction on the number of lines, since a fenced block takes several of them at once
  induction hlen : ls.length using Nat.strongRecOn generalizing l ls with
  | ind n ih =>
    have hl : '\n' ∉ l := hn l List.mem_cons_self
    by_cases hfence : isFence l = true
    · rw [walk_cons, unlessKept_of_isFence f .text hfence, FenceState.next_of_isFence hfence]
      -- an opening fence: either no later one closes it, or the first one does
      rcases not_isFence_or_split ls with h | ⟨body, closing, rest, rfl, hbody, hclosing⟩
      · rw [convertAroundBlocks_unclosed hnil hfence hn h, unlines_cons_eq]
        exact congrArg (l ++ furtherLines ·) (walk_unlessKept_code_of_forall_not_isFence h).symm
      · have hbody' : ∀ l' ∈ l :: closing :: body, '\n' ∉ l' := fun l' hl' => hn l' (by grind)
        have hrest : ∀ l' ∈ rest, '\n' ∉ l' := fun l' hl' => hn l' (by grind)
        -- the search goes on at the end of the closing line, with a newline in front of the rest
        have behind : convertAroundBlocks f false (furtherLines rest)
            = furtherLines (walk (unlessKept f) .text rest) := by
          rcases rest with _ | ⟨l', rest⟩
          · exact (convertAroundBlocks_last (by simp) rfl).trans hnil
          · have hlt : rest.length < n := by
              simp only [List.length_append, List.length_cons] at hlen
              omega
            have next : convertAroundBlocks f false ([] ++ furtherLines (l' :: rest)) = _ :=
              convertAroundBlocks_line hf (by simp) rfl l' rest
            rw [List.nil_append, hnil, List.nil_append,
              ih rest.length hlt l' rest hrest rfl] at next
            rw [next, walk_cons, unlines_cons_eq, furtherLines_cons]
        have state : FenceState.text.toggle.after body = .code :=
          FenceState.after_of_forall_not_isFence hbody
        have kept : walk (unlessKept f) FenceState.text.toggle (body ++ closing :: rest)
            = body ++ closing :: walk (unlessKept f) .text rest := by
          rw [walk_append, state, walk_cons, unlessKept_code, FenceState.next_of_isFence hclosing]
          exact congrArg (· ++ _) (walk_unlessKept_code_of_forall_not_isFence hbody)
        rw [convertAroundBlocks_block hnil hfence hclosing hbody' hbody, behind, kept,
          unlines_cons_eq, List.append_assoc, ← furtherLines_append, List.append_assoc]
        rfl
    · have hno : isFence l = false := by simpa using hfence
      rw [walk_cons, unlessKept_text f hno, FenceState.next_of_not_isFence hno, unlines_cons_eq]
      rcases ls with _ | ⟨l', ls⟩
      · rw [furtherLines_nil, List.append_nil]
        exact (convertAroundBlocks_last hl hno).trans (List.append_nil _).symm
      · have hlt : ls.length < n := by
          rw [List.length_cons] at hlen
          omega
        rw [convertAroundBlocks_line hf hl hno,
          ih ls.length hlt l' ls (fun x hx => hn x (List.mem_cons_of_mem _ hx)) rfl, walk_cons,
          unlines_cons_eq, furtherLines_cons]

/-- The search for fenced blocks converts what cutting the lines into regions does. -/
theorem convertAroundBlocks_eq_mapUnfenced {f : List Char → List Char} (hf : Linewise f)
    (hnil : f [] = []) (s : List Char) : convertAroundBlocks f true s = mapUnfenced f s := by
  rw [mapUnfenced_eq_walk hf]
  obtain ⟨l, ls, hs⟩ := exists_lines s
  have hn : ∀ l' ∈ l :: ls, '\n' ∉ l' := fun l' hl' => not_mem_of_mem_lines (hs ▸ hl')
  rw [hs, ← convertAroundBlocks_eq_walk hf hnil l ls hn, ← eq_append_furtherLines hs]

end TicketMigration.Markup
