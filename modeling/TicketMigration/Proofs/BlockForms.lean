import TicketMigration.Proofs.BlockSearch
import TicketMigration.Proofs.PlainText

/-!
# The forms of block markup

Each block rule accepts the lines of one form, and a line has at most one of them.  The rules run
over the whole text one after the other, but what a rule has written for a line has no form any
more: it begins with a number sign, an asterisk or a one.  Only a divider keeps its form, and its
rule is the last.  So the twelve passes over a text are one pass over its lines, in which each line
is written by the form that it has.

## Main definitions

* `HeadingEnd level`, `IsTitle level` — the ends of headings and the shortest title before one.
* `BlockForm`, `blockForms` — the forms and their order.
* `BlockForm.Writes form line out` — the line has the form, and `out` is written for it.
* `ConvertsByForm convert write` — a text is converted line by line, each by the form that it has.

## Main statements

* `BlockForm.rule_eq_some_iff` — a block rule accepts the lines of its form.
* `BlockForm.eq_of_writes` — a line has at most one form.
* `foldl_applyLineRule_line` — rules that do not act on what others write are one first match.
* `convertsByForm_blockMarkdown` — **block markup is converted line by line, by form.**
-/

namespace TicketMigration.Markup

open Text

/-! ### Titles of headings -/

/-- What may stand behind the title of a heading: gaps, or the closing marker between gaps. -/
inductive HeadingEnd (level : Nat) : List Char → Prop
  | unclosed {gaps : List Char} (h : ∀ c ∈ gaps, isGap c = true) : HeadingEnd level gaps
  | closed {before behind : List Char} (hne : before ≠ []) (hb : ∀ c ∈ before, isGap c = true)
      (ha : ∀ c ∈ behind, isGap c = true) :
      HeadingEnd level (before ++ List.replicate level '=' ++ behind)

/-- The title is the shortest front of a line that leaves the end of a heading. -/
structure IsTitle (level : Nat) (s title : List Char) : Prop where
  /-- The end of a heading follows it. -/
  ends : ∃ back, s = title ++ back ∧ HeadingEnd level back
  /-- No shorter front has one behind it. -/
  shortest : ∀ front back, s = front ++ back → HeadingEnd level back →
    title.length ≤ front.length

theorem isGap_equals : isGap '=' = false := by decide

/-- The test for the end of a heading is exact. -/
theorem endsHeading_iff {level : Nat} {s : List Char} :
    endsHeading level s = true ↔ HeadingEnd level s := by
  rw [endsHeading, Bool.or_eq_true, Bool.and_eq_true]
  constructor
  · intro h
    rcases h with h | ⟨first, h⟩
    · exact .unclosed (List.all_eq_true.1 h)
    · split at h
      · next behind hb =>
        rw [eq_append_of_after?_dropWhile hb]
        refine .closed ?_ (fun c hc => mem_takeWhile hc) (List.all_eq_true.1 h)
        cases s with
        | nil => cases first
        | cons c s =>
          have gap : isGap c = true := first
          rw [List.takeWhile_cons_of_pos gap]
          exact List.cons_ne_nil _ _
      · cases h
  · intro h
    cases h with
    | unclosed h => exact .inl (List.all_eq_true.2 h)
    | @closed before behind hne hb ha =>
      cases level with
      | zero => exact .inl (by simpa using ⟨hb, ha⟩)
      | succ n =>
        refine .inr ⟨?_, ?_⟩
        · obtain ⟨c, before, rfl⟩ := List.exists_cons_of_ne_nil hne
          exact hb c List.mem_cons_self
        · have marker : ∀ c ∈ (List.replicate (n + 1) '=' ++ behind).head?, isGap c = false := by
            simp [List.replicate_succ, isGap_equals]
          rw [List.append_assoc, (takeWhile_append_of_head? isGap _ hb marker).2, after?_append]
          exact List.all_eq_true.2 ha

theorem isTitle_headingTitle (level : Nat) (s : List Char) :
    IsTitle level s (headingTitle level s) := by
  induction s with
  | nil => exact ⟨⟨[], rfl, .unclosed (by simp)⟩, fun _ _ _ _ => Nat.zero_le _⟩
  | cons c s ih =>
    rw [headingTitle]
    by_cases h : endsHeading level (c :: s) = true
    · rw [if_pos h]
      exact ⟨⟨c :: s, rfl, endsHeading_iff.1 h⟩, fun _ _ _ _ => Nat.zero_le _⟩
    · rw [if_neg h]
      refine ⟨?_, ?_⟩
      · obtain ⟨back, hs, hb⟩ := ih.ends
        exact ⟨back, by rw [List.cons_append, ← hs], hb⟩
      · intro front back hs hb
        cases front with
        | nil =>
          rw [List.nil_append] at hs
          exact absurd (endsHeading_iff.2 (hs ▸ hb)) h
        | cons d front =>
          have := ih.shortest front back (List.cons.inj hs).2 hb
          simpa using this

/-- A text has one title only. -/
theorem IsTitle.unique {level : Nat} {s title title' : List Char} (h : IsTitle level s title)
    (h' : IsTitle level s title') : title = title' := by
  obtain ⟨back, hs, hb⟩ := h.ends
  obtain ⟨back', hs', hb'⟩ := h'.ends
  have same : title.length = title'.length :=
    Nat.le_antisymm (h.shortest title' back' hs' hb') (h'.shortest title back hs hb)
  exact (List.append_inj (hs.symm.trans hs') same).1

/-- A front is the title if no end of it can be taken for the end of the heading. -/
theorem IsTitle.append {level : Nat} {title back : List Char} (hback : HeadingEnd level back)
    (h : ∀ front u, title = front ++ u → HeadingEnd level (u ++ back) → u = []) :
    IsTitle level (title ++ back) title := by
  refine ⟨⟨back, rfl, hback⟩, ?_⟩
  intro front back' hs hend
  rcases List.append_eq_append_iff.1 hs with ⟨u, rfl, -⟩ | ⟨u, htitle, rfl⟩
  · simp
  · rw [htitle, h front u htitle hend, List.append_nil]

/-! Gaps at the end of a text are told from what stands before them. -/

theorem eq_nil_of_gaps {u : List Char} (hlast : ∀ c ∈ u.getLast?, isGap c = false)
    (h : ∀ c ∈ u, isGap c = true) : u = [] := by
  rcases List.eq_nil_or_concat u with rfl | ⟨front, c, rfl⟩
  · rfl
  · have no := hlast c (by simp)
    rw [h c (by simp)] at no
    cases no

theorem append_gaps_inj {a b x y : List Char} (h : a ++ x = b ++ y)
    (ha : ∀ c ∈ a.getLast?, isGap c = false) (hb : ∀ c ∈ b.getLast?, isGap c = false)
    (hx : ∀ c ∈ x, isGap c = true) (hy : ∀ c ∈ y, isGap c = true) : a = b := by
  rcases List.append_eq_append_iff.1 h with ⟨u, rfl, rfl⟩ | ⟨u, rfl, rfl⟩
  · have nothing : u = [] := eq_nil_of_gaps
      (fun c hc => hb c (List.mem_getLast?_append_of_mem_getLast? hc))
      fun c hc => hx c (List.mem_append_left _ hc)
    rw [nothing, List.append_nil]
  · have nothing : u = [] := eq_nil_of_gaps
      (fun c hc => ha c (List.mem_getLast?_append_of_mem_getLast? hc))
      fun c hc => hy c (List.mem_append_left _ hc)
    rw [nothing, List.append_nil]

section Titles

variable {level : Nat} {title between behind : List Char}

theorem getLast?_append_marker (hl : level ≠ 0) (s : List Char) :
    ∀ c ∈ (s ++ List.replicate level '=').getLast?, isGap c = false := by
  obtain ⟨n, rfl⟩ := Nat.exists_eq_succ_of_ne_zero hl
  simp [List.replicate_succ', ← List.append_assoc, isGap_equals]

/-- **A closed heading has the title between its markers**, whatever equals signs that has. -/
theorem headingTitle_closed (hl : level ≠ 0) (hlast : ∀ c ∈ title.getLast?, isGap c = false)
    (hne : between ≠ []) (hb : ∀ c ∈ between, isGap c = true)
    (ha : ∀ c ∈ behind, isGap c = true) :
    headingTitle level (title ++ (between ++ List.replicate level '=' ++ behind)) = title := by
  refine (isTitle_headingTitle level _).unique (.append (.closed hne hb ha) ?_)
  -- an end `u` of the title could belong to the end of the heading, but it does not end in a gap
  rintro front u rfl hend
  have ends : ∀ c ∈ u.getLast?, isGap c = false := fun c hc =>
    hlast c (List.mem_getLast?_append_of_mem_getLast? hc)
  generalize hs : u ++ (between ++ List.replicate level '=' ++ behind) = s at hend
  cases hend with
  | unclosed h =>
    -- the marker is no gap
    have gap := h '=' (by simp [← hs, hl])
    rw [isGap_equals] at gap
    cases gap
  | @closed before behind' _ hb' ha' =>
    -- both ends have the same marker, the last thing on the line that is no gap
    rw [← List.append_assoc] at hs
    have fronts := append_gaps_inj hs
      (by rw [← List.append_assoc]; exact getLast?_append_marker hl _)
      (getLast?_append_marker hl _) ha ha'
    rw [← List.append_assoc] at fronts
    have gaps : u ++ between = before := List.append_cancel_right fronts
    exact eq_nil_of_gaps ends fun c hc => hb' c (gaps ▸ List.mem_append_left _ hc)

/-- A heading without a closing marker has the title up to the gaps at the end of the line, unless
that ends in what could be the closing marker. -/
theorem headingTitle_unclosed (hl : level ≠ 0) (hlast : ∀ c ∈ title.getLast?, isGap c = false)
    (hopen : ∀ front before, before ≠ [] → (∀ c ∈ before, isGap c = true) →
      title ≠ front ++ (before ++ List.replicate level '='))
    (ha : ∀ c ∈ behind, isGap c = true) : headingTitle level (title ++ behind) = title := by
  refine (isTitle_headingTitle level _).unique (.append (.unclosed ha) ?_)
  rintro front u htitle hend
  have ends : ∀ c ∈ u.getLast?, isGap c = false := fun c hc =>
    hlast c (htitle ▸ List.mem_getLast?_append_of_mem_getLast? hc)
  generalize hs : u ++ behind = s at hend
  cases hend with
  | unclosed h => exact eq_nil_of_gaps ends fun c hc => h c (hs ▸ List.mem_append_left _ hc)
  | @closed before behind' hne hb' ha' =>
    -- then the marker stands at the end of the title itself
    have marker : u = before ++ List.replicate level '=' :=
      append_gaps_inj hs ends (getLast?_append_marker hl _) ha ha'
    exact absurd (marker ▸ htitle) (hopen front before hne hb')

end Titles

/-! ### Forms -/

/-- The forms of block markup. -/
inductive BlockForm where
  /-- A heading of a level. -/
  | heading (level : Nat)
  /-- A bullet point behind an indentation, of a depth. -/
  | bullet (indentation depth : Nat)
  /-- A numbered point. -/
  | numbered
  /-- A divider. -/
  | divider
  deriving DecidableEq

namespace BlockForm

/-- The rule for the lines of a form. -/
def rule : BlockForm → LineRule
  | heading level => headingRule level
  | bullet indentation depth => bulletRule indentation depth
  | numbered => numberedRule
  | divider => dividerRule

/-- What the lines of a form look like, and what is written for them. -/
inductive Writes : BlockForm → List Char → List Char → Prop
  | heading {level : Nat} {gaps s title : List Char} (hne : gaps ≠ [])
      (hgaps : ∀ c ∈ gaps, isGap c = true) (hs : ∀ c ∈ s.head?, isGap c = false)
      (htitle : IsTitle level s title) :
      Writes (heading level) (List.replicate level '=' ++ (gaps ++ s))
        (List.replicate level '#' ++ ' ' :: title)
  | bullet {indentation depth : Nat} (s : List Char) :
      Writes (bullet indentation depth) (List.replicate indentation ' ' ++ '*' :: ' ' :: s)
        (List.replicate depth '*' ++ s)
  | numbered {digits : List Char} (hne : digits ≠ []) (hd : ∀ d ∈ digits, isDigit d = true)
      (s : List Char) :
      Writes numbered (' ' :: (digits ++ '.' :: ' ' :: s)) ('1' :: '.' :: ' ' :: s)
  | divider {n : Nat} (h : 4 ≤ n) :
      Writes divider (List.replicate n '-') ('\n' :: List.replicate n '-')

end BlockForm

/-- The forms in the order of their rules. -/
def blockForms : List BlockForm :=
  [6, 5, 4, 3, 2, 1].map .heading
    ++ [.bullet 13 4, .bullet 9 3, .bullet 5 2, .bullet 1 1, .numbered, .divider]

theorem blockRules_eq : blockRules = blockForms.map BlockForm.rule := rfl

section Exact

variable {line out : List Char}

theorem headingRule_eq_some_iff {level : Nat} :
    headingRule level line = some out ↔ (BlockForm.heading level).Writes line out := by
  constructor
  · intro h
    obtain ⟨gaps, s, hne, hgaps, hs, rfl, rfl⟩ := exists_of_headingRule h
    exact .heading hne hgaps hs (isTitle_headingTitle level s)
  · intro h
    cases h with
    | @heading _ gaps s title hne hgaps hs htitle =>
      obtain ⟨c, gaps, rfl⟩ := List.exists_cons_of_ne_nil hne
      have gap : isGap c = true := hgaps c List.mem_cons_self
      have rest := (takeWhile_append_of_head? isGap s
        (fun d hd => hgaps d (List.mem_cons_of_mem _ hd)) hs).2
      rw [headingRule, after?_append]
      simp only [List.cons_append, if_pos gap, rest,
        htitle.unique (isTitle_headingTitle level s)]

theorem bulletRule_eq_some_iff {indentation depth : Nat} :
    bulletRule indentation depth line = some out
      ↔ (BlockForm.bullet indentation depth).Writes line out := by
  constructor
  · intro h
    obtain ⟨s, rfl, rfl⟩ := exists_of_bulletRule h
    exact .bullet s
  · intro h
    cases h with
    | bullet s =>
      have marker : List.replicate indentation ' ' ++ '*' :: ' ' :: s
          = (List.replicate indentation ' ' ++ ['*', ' ']) ++ s := by simp
      rw [bulletRule, marker, after?_append, Option.map_some]

theorem numberedRule_eq_some_iff :
    numberedRule line = some out ↔ BlockForm.numbered.Writes line out := by
  constructor
  · intro h
    obtain ⟨digits, s, hne, hd, rfl, rfl⟩ := exists_of_numberedRule h
    exact .numbered hne hd s
  · intro h
    cases h with
    | @numbered digits hne hd s =>
      obtain ⟨d, digits, rfl⟩ := List.exists_cons_of_ne_nil hne
      have first : isDigit d = true := hd d List.mem_cons_self
      have stop : ∀ c ∈ ('.' :: ' ' :: s).head?, isDigit c = false := by
        intro c hc
        obtain rfl := Option.some.inj hc
        decide
      have rest := (takeWhile_append_of_head? isDigit _
        (fun c hc => hd c (List.mem_cons_of_mem _ hc)) stop).2
      simp [numberedRule, first, rest]

theorem dividerRule_eq_some_iff :
    dividerRule line = some out ↔ BlockForm.divider.Writes line out := by
  constructor
  · intro h
    obtain ⟨n, hn, rfl, rfl⟩ := exists_of_dividerRule h
    exact .divider hn
  · intro h
    cases h with
    | divider h => simp [dividerRule, h]

/-- **A block rule accepts the lines of its form, and writes what the form says.** -/
theorem BlockForm.rule_eq_some_iff (form : BlockForm) :
    form.rule line = some out ↔ form.Writes line out := by
  cases form with
  | heading level => exact headingRule_eq_some_iff
  | bullet indentation depth => exact bulletRule_eq_some_iff
  | numbered => exact numberedRule_eq_some_iff
  | divider => exact dividerRule_eq_some_iff

end Exact

/-! ### One form for each line -/

/-- The form that a line has if it has one, told from how it begins. -/
def formOf : List Char → BlockForm
  | ' ' :: s =>
    if s.head?.any isDigit then .numbered
    else .bullet (s.takeWhile (· == ' ')).length.succ
      (((s.takeWhile (· == ' ')).length.succ + 3) / 4)
  | '=' :: s => .heading (s.takeWhile (· == '=')).length.succ
  | _ => .divider

theorem takeWhile_replicate_append {c d : Char} (h : d ≠ c) (n : Nat) (s : List Char) :
    (List.replicate n c ++ d :: s).takeWhile (· == c) = List.replicate n c := by
  refine (takeWhile_append_of_head? (· == c) (d :: s) ?_ ?_).1
  · intro e he
    simp [(List.mem_replicate.1 he).2]
  · intro e he
    obtain rfl := Option.some.inj he
    simp [h]

namespace BlockForm

variable {form form' : BlockForm} {line out out' : List Char}

theorem level_ne_zero {level : Nat} (h : heading level ∈ blockForms) : level ≠ 0 := by
  rintro rfl
  exact absurd h (by decide)

/-- Four columns of indentation are one level of depth. -/
theorem indentation_eq {indentation depth : Nat} (h : bullet indentation depth ∈ blockForms) :
    indentation ≠ 0 ∧ depth = (indentation + 3) / 4 := by
  simp only [blockForms, List.mem_append, List.mem_map, reduceCtorEq, and_false, exists_false,
    List.mem_cons, List.not_mem_nil, bullet.injEq, false_or, or_false] at h
  omega

theorem eq_formOf (hf : form ∈ blockForms) (h : form.Writes line out) : form = formOf line := by
  cases h with
  | @heading level gaps s title hne hgaps hs htitle =>
    obtain ⟨n, rfl⟩ := Nat.exists_eq_succ_of_ne_zero (level_ne_zero hf)
    obtain ⟨c, gaps, rfl⟩ := List.exists_cons_of_ne_nil hne
    have stop : c ≠ '=' := by
      rintro rfl
      exact absurd (hgaps '=' List.mem_cons_self) (by decide)
    rw [List.replicate_succ, List.cons_append, formOf, List.cons_append,
      takeWhile_replicate_append stop, List.length_replicate]
  | @bullet indentation depth s =>
    obtain ⟨hne, rfl⟩ := indentation_eq hf
    obtain ⟨n, rfl⟩ := Nat.exists_eq_succ_of_ne_zero hne
    -- this tells a bullet point from a numbered one
    have noDigit : (List.replicate n ' ' ++ '*' :: ' ' :: s).head?.any isDigit = false := by
      cases n with
      | zero => exact (by decide : isDigit '*' = false)
      | succ n => exact (by decide : isDigit ' ' = false)
    rw [List.replicate_succ, List.cons_append, formOf, noDigit,
      takeWhile_replicate_append (by decide), List.length_replicate]
    rfl
  | @numbered digits hne hd s =>
    obtain ⟨d, digits, rfl⟩ := List.exists_cons_of_ne_nil hne
    have first : isDigit d = true := hd d List.mem_cons_self
    simp [formOf, first]
  | @divider n h =>
    obtain ⟨m, rfl⟩ := Nat.exists_eq_add_of_le' h
    rfl

/-- **A line has at most one form, and one thing is written for it.** -/
theorem eq_of_writes (hf : form ∈ blockForms) (hf' : form' ∈ blockForms)
    (h : form.Writes line out) (h' : form'.Writes line out') : form = form' ∧ out = out' := by
  have same : form = form' := (eq_formOf hf h).trans (eq_formOf hf' h').symm
  subst same
  rw [← rule_eq_some_iff] at h h'
  exact ⟨rfl, Option.some.inj (h.symm.trans h')⟩

end BlockForm

/-! ### One pass over the lines -/

/-- **Rules of which none acts on what another has written before are one first match**: applied to
a line one after the other, they write what the first rule that accepts it writes. -/
theorem foldl_applyLineRule_line {rules : List LineRule}
    (h : rules.Pairwise fun rule later => ∀ {line out : List Char}, '\n' ∉ line →
      rule line = some out → applyLineRule later out = out)
    {line : List Char} (hn : '\n' ∉ line) :
    rules.foldl (fun text rule => applyLineRule rule text) line
      = (rules.findSome? fun rule => rule line).getD line := by
  induction rules with
  | nil => rfl
  | cons rule rules ih =>
    rw [List.pairwise_cons] at h
    rw [List.foldl_cons, applyLineRule_line rule hn, List.findSome?_cons]
    cases hr : rule line with
    | none => exact ih h.2
    | some out =>
      -- the later rules keep what this one has written
      exact foldl_eq_self fun later hl => h.1 later hl hn hr

/-- What is written for a line with another form than a divider has no mark at its front. -/
theorem BlockForm.noMark_of_writes {form : BlockForm} {line out : List Char}
    (hf : form ∈ blockForms) (hd : form ≠ .divider) (h : form.Writes line out) :
    ∀ mark ∈ lineMarks, ¬ mark <+: out := by
  have front {c : Char} (hc : c = '#' ∨ c = '*' ∨ c = '1') (s : List Char) :
      ∀ mark ∈ lineMarks, ¬ mark <+: c :: s := by
    rcases hc with rfl | rfl | rfl <;> simp [lineMarks, List.cons_prefix_cons]
  cases h with
  | @heading level gaps s title _ _ _ _ =>
    obtain ⟨n, rfl⟩ := Nat.exists_eq_succ_of_ne_zero (level_ne_zero hf)
    exact front (.inl rfl) _
  | @bullet indentation depth s =>
    obtain ⟨hne, rfl⟩ := indentation_eq hf
    obtain ⟨n, hn⟩ : ∃ n, (indentation + 3) / 4 = n + 1 := ⟨(indentation - 1) / 4, by omega⟩
    rw [hn]
    exact front (.inr (.inl rfl)) _
  | numbered => exact front (.inr (.inr rfl)) _
  | divider => exact absurd rfl hd

/-- Nor is there a newline in it. -/
theorem BlockForm.newline_not_mem_of_writes {form : BlockForm} {line out : List Char}
    (hd : form ≠ .divider) (h : form.Writes line out) (hn : '\n' ∉ line) : '\n' ∉ out := by
  cases h with
  | @heading level gaps s title _ _ _ htitle =>
    obtain ⟨back, rfl, -⟩ := htitle.ends
    have : '\n' ∉ title := fun hm => hn (by simp [hm])
    simpa using this
  | bullet s => simpa using hn
  | numbered hne hd s =>
    have : '\n' ∉ s := fun hm => hn (by simp [hm])
    simpa using this
  | divider => exact absurd rfl hd

/-- No block rule acts on what an earlier one has written. -/
theorem pairwise_blockRules :
    blockRules.Pairwise fun rule later => ∀ {line out : List Char}, '\n' ∉ line →
      rule line = some out → applyLineRule later out = out := by
  -- the divider is the last form
  have early : blockForms.Pairwise fun form _ => form ≠ .divider := by decide
  rw [blockRules_eq, List.pairwise_map]
  refine early.imp_of_mem fun {form later} hf hl hd line out hn hr => ?_
  have writes := (form.rule_eq_some_iff).1 hr
  exact applyLineRule_of_noMark (form.newline_not_mem_of_writes hd writes hn)
    (form.noMark_of_writes hf hd writes) (blockRules_eq ▸ List.mem_map_of_mem hl)

theorem blockMarkdown_eq_blockLineMarkdown {line : List Char} (hn : '\n' ∉ line) :
    blockMarkdown line = blockLineMarkdown line :=
  foldl_applyLineRule_line pairwise_blockRules hn

/-- **The passes over a text are one pass over its lines.** -/
theorem blockMarkdown_eq_unlines (s : List Char) :
    blockMarkdown s = unlines ((lines s).map blockLineMarkdown) := by
  have each : (lines s).map blockMarkdown = (lines s).map blockLineMarkdown :=
    List.map_congr_left fun line hl =>
      blockMarkdown_eq_blockLineMarkdown (not_mem_of_mem_lines hl)
  calc blockMarkdown s = blockMarkdown (unlines (lines s)) := by rw [unlines_lines]
    _ = unlines ((lines s).map blockMarkdown) := linewise_blockMarkdown.unlines (lines_ne_nil s)
    _ = unlines ((lines s).map blockLineMarkdown) := by rw [each]

/-- A line that has a form is written as the form says. -/
theorem blockLineMarkdown_of_writes {form : BlockForm} {line out : List Char}
    (hf : form ∈ blockForms) (h : form.Writes line out) : blockLineMarkdown line = out := by
  have accepts := (form.rule_eq_some_iff).2 h
  rw [blockLineMarkdown, blockRules_eq, List.findSome?_map]
  cases hfound : blockForms.findSome? ((fun rule => rule line) ∘ BlockForm.rule) with
  | none =>
    have no := List.findSome?_eq_none_iff.1 hfound form hf
    rw [Function.comp_apply, accepts] at no
    cases no
  | some out' =>
    obtain ⟨form', hf', h'⟩ := List.exists_of_findSome?_eq_some hfound
    exact (BlockForm.eq_of_writes hf' hf ((form'.rule_eq_some_iff).1 h') h).2

/-- A line that has none is kept. -/
theorem blockLineMarkdown_of_not_writes {line : List Char}
    (h : ∀ form ∈ blockForms, ∀ out, ¬ form.Writes line out) : blockLineMarkdown line = line := by
  have none : (blockRules.findSome? fun rule => rule line) = none := by
    rw [blockRules_eq, List.findSome?_map, List.findSome?_eq_none_iff]
    intro form hf
    rw [Option.eq_none_iff_forall_ne_some]
    intro out hr
    exact h form hf out ((form.rule_eq_some_iff).1 hr)
  rw [blockLineMarkdown, none, Option.getD_none]

/-- A conversion of texts writes each line on its own with `write`, and that writes a line as its
form says. -/
structure ConvertsByForm (convert write : List Char → List Char) : Prop where
  /-- A text is converted line by line. -/
  lines : ∀ s, convert s = unlines ((lines s).map write)
  /-- A line that has a form is written by it. -/
  fires : ∀ form ∈ blockForms, ∀ line out, form.Writes line out → write line = out
  /-- A line has one form at most. -/
  once : ∀ form ∈ blockForms, ∀ form' ∈ blockForms, ∀ line out out',
    form.Writes line out → form'.Writes line out' → form = form' ∧ out = out'
  /-- A line that has none is kept. -/
  other : ∀ line, (∀ form ∈ blockForms, ∀ out, ¬ form.Writes line out) → write line = line
  /-- A closed heading is written with its title, whatever that is. -/
  closed : ∀ level title before between behind, 1 ≤ level → level ≤ 6 →
    '\n' ∉ title → title ≠ [] → (∀ c ∈ title.head?, isGap c = false) →
    (∀ c ∈ title.getLast?, isGap c = false) →
    before ≠ [] → (∀ c ∈ before, isGap c = true) →
    between ≠ [] → (∀ c ∈ between, isGap c = true) → (∀ c ∈ behind, isGap c = true) →
    convert (List.replicate level '='
        ++ (before ++ (title ++ (between ++ List.replicate level '=' ++ behind))))
      = List.replicate level '#' ++ ' ' :: title
  /-- So is one without a closing marker, unless its title ends in one. -/
  unclosed : ∀ level title before behind, 1 ≤ level → level ≤ 6 →
    '\n' ∉ title → title ≠ [] → (∀ c ∈ title.head?, isGap c = false) →
    (∀ c ∈ title.getLast?, isGap c = false) →
    (∀ front gaps, gaps ≠ [] → (∀ c ∈ gaps, isGap c = true) →
      title ≠ front ++ (gaps ++ List.replicate level '=')) →
    before ≠ [] → (∀ c ∈ before, isGap c = true) → (∀ c ∈ behind, isGap c = true) →
    convert (List.replicate level '=' ++ (before ++ (title ++ behind)))
      = List.replicate level '#' ++ ' ' :: title

section Headings

variable {level : Nat} {title before back : List Char}

theorem newline_not_mem_of_gaps {s : List Char} (h : ∀ c ∈ s, isGap c = true) : '\n' ∉ s :=
  fun hm => absurd (h '\n' hm) (by decide)

/-- A line that begins as a heading of one of the six levels is written as one. -/
theorem blockMarkdown_heading (hl : 1 ≤ level ∧ level ≤ 6) (hne : before ≠ [])
    (hb : ∀ c ∈ before, isGap c = true) (hs : ∀ c ∈ (title ++ back).head?, isGap c = false)
    (hn : '\n' ∉ title ++ back) (htitle : headingTitle level (title ++ back) = title) :
    blockMarkdown (List.replicate level '=' ++ (before ++ (title ++ back)))
      = List.replicate level '#' ++ ' ' :: title := by
  have form : BlockForm.heading level ∈ blockForms := by
    simp only [blockForms, List.mem_append, List.mem_map, List.mem_cons, List.not_mem_nil,
      BlockForm.heading.injEq, exists_eq_right, reduceCtorEq, or_false]
    omega
  have isTitle : IsTitle level (title ++ back) title := by
    have := isTitle_headingTitle level (title ++ back)
    rwa [htitle] at this
  have line : '\n' ∉ List.replicate level '=' ++ (before ++ (title ++ back)) :=
    List.not_mem_append (by simp) (List.not_mem_append (newline_not_mem_of_gaps hb) hn)
  rw [blockMarkdown_eq_blockLineMarkdown line]
  exact blockLineMarkdown_of_writes form (.heading hne hb hs isTitle)

end Headings

/-- **Block markup is converted line by line, each line by the one form that it has**, and the
searches through the whole text do the same. -/
theorem convertsByForm_blockMarkdown :
    ConvertsByForm blockMarkdown blockLineMarkdown ∧
      ∀ s, searchBlockMarkdown s = blockMarkdown s := by
  refine ⟨⟨blockMarkdown_eq_unlines, fun _ hf _ _ => blockLineMarkdown_of_writes hf,
    fun _ hf _ hf' _ _ _ => BlockForm.eq_of_writes hf hf', fun _ => blockLineMarkdown_of_not_writes,
    ?_, ?_⟩, searchBlockMarkdown_eq⟩
  · intro level title before between behind low high hn hne hfirst hlast hb hbefore ht hbetween
      hbehind
    have first : ∀ c ∈ (title ++ (between ++ List.replicate level '=' ++ behind)).head?,
        isGap c = false := by
      rwa [List.head?_append_of_ne_nil _ hne]
    refine blockMarkdown_heading ⟨low, high⟩ hb hbefore first ?_
      (headingTitle_closed (by omega) hlast ht hbetween hbehind)
    have gaps := newline_not_mem_of_gaps hbetween
    have gaps' := newline_not_mem_of_gaps hbehind
    simp [hn, gaps, gaps']
  · intro level title before behind low high hn hne hfirst hlast hopen hb hbefore hbehind
    have first : ∀ c ∈ (title ++ behind).head?, isGap c = false := by
      rwa [List.head?_append_of_ne_nil _ hne]
    exact blockMarkdown_heading ⟨low, high⟩ hb hbefore first
      (List.not_mem_append hn (newline_not_mem_of_gaps hbehind))
      (headingTitle_unclosed (by omega) hlast hopen hbehind)

end TicketMigration.Markup
