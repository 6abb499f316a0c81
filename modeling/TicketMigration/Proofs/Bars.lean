import TicketMigration.Proofs.BlockLines
import TicketMigration.Proofs.LineEnds

/-!
# Bars at the beginning of a text

The conversions of code and of inline markup neither read a bar nor write one at the front of a
text.  So they pass over the bars that a row of a table begins with, and a line is a row after
them exactly if it was one before.

## Main definitions

* `KeepsBars f` — `f` passes over a bar at the front of a text and puts none there.

## Main statements

* `KeepsBars.isRow` — a conversion that keeps bars keeps rows.
* `keepsBars_codeMarkdown`, `keepsBars_inlineMarkdown`, `keepsBars_mapBetweenSpans`,
  `keepsBars_unixNewlines` — the conversions that do.
-/

namespace TicketMigration.Markup

open Text

/-- A bar at the front of a text stays there, in front of the converted rest, and a text without
one gets none. -/
structure KeepsBars (f : List Char → List Char) : Prop where
  /-- A bar is passed over. -/
  cons : ∀ s, f ('|' :: s) = '|' :: f s
  /-- No bar comes to the front. -/
  front : ∀ {s : List Char}, s.head? ≠ some '|' → (f s).head? ≠ some '|'

namespace KeepsBars

variable {f g : List Char → List Char}

theorem comp (hg : KeepsBars g) (hf : KeepsBars f) : KeepsBars fun s => g (f s) where
  cons s := by
    show g (f ('|' :: s)) = '|' :: g (f s)
    rw [hf.cons, hg.cons]
  front h := hg.front (hf.front h)

/-- Rows stay rows, and nothing else becomes one. -/
theorem isRow (hf : KeepsBars f) (s : List Char) : isRow (f s) = isRow s := by
  -- after the first bar the same question is asked of the rest
  have first {marker s : List Char} (h : s.head? ≠ some '|') :
      after? ('|' :: marker) s = none := by
    cases s with
    | nil => rfl
    | cons c s =>
      rw [after?_cons_cons, if_neg]
      simpa using h
  have bar {s : List Char} (h : s.head? = some '|') : ∃ t, s = '|' :: t := by
    cases s with
    | nil => cases h
    | cons c t => exact ⟨t, by rw [Option.some.inj h]⟩
  rw [Markup.isRow, Markup.isRow]
  by_cases h1 : s.head? = some '|'
  · obtain ⟨t, rfl⟩ := bar h1
    rw [hf.cons, after?_cons_cons, if_pos rfl, after?_cons_cons, if_pos rfl]
    by_cases h2 : t.head? = some '|'
    · obtain ⟨u, rfl⟩ := bar h2
      rw [hf.cons]
      rfl
    · rw [first h2, first (hf.front h2)]
  · rw [first h1, first (hf.front h1)]

/-- Conversions that keep bars can be made one after the other. -/
theorem foldl {rules : List Rule} (h : ∀ rule ∈ rules, KeepsBars rule.apply) :
    KeepsBars fun s => rules.foldl (fun text rule => rule.apply text) s := by
  induction rules with
  | nil => exact ⟨fun _ => rfl, fun h => h⟩
  | cons rule rules ih =>
    exact (ih fun r hr => h r (List.mem_cons_of_mem _ hr)).comp (h rule List.mem_cons_self)

end KeepsBars

/-! ### Rules -/

/-- A rule that begins with no bar and writes something that does not begin with one. -/
theorem keepsBars_apply {rule : Rule} (hbar : ∀ s, rule.match? ('|' :: s) = none)
    (hout : ∀ {s out rest}, rule.match? s = some (out, rest) → ∃ c t, out = c :: t ∧ c ≠ '|') :
    KeepsBars rule.apply where
  cons s := Rule.apply_of_no_match (hbar s)
  front := by
    intro s h
    rcases hm : rule.match? s with _ | ⟨out, rest⟩
    · cases s with
      | nil => simp
      | cons c s =>
        rw [Rule.apply_of_no_match hm]
        exact h
    · obtain ⟨c, t, rfl, hc⟩ := hout hm
      rw [Rule.apply_of_match hm]
      simpa using hc

/-- What a rule writes for something that it has read begins with the same character always. -/
theorem exists_cons_of_map {α : Type} {read : Option α} {write : α → List Char × List Char}
    {out rest : List Char} (c : Char) (hc : c ≠ '|') (hw : ∀ a, ∃ t, (write a).1 = c :: t)
    (h : read.map write = some (out, rest)) : ∃ c t, out = c :: t ∧ c ≠ '|' := by
  obtain ⟨a, -, he⟩ := Option.map_eq_some_iff.1 h
  obtain ⟨t, ht⟩ := hw a
  exact ⟨c, t, by rw [← ht, he], hc⟩

theorem keepsBars_codeSpanRule : KeepsBars codeSpanRule.apply :=
  keepsBars_apply (fun _ => rfl) (exists_cons_of_map '`' (by decide) fun _ => ⟨_, rfl⟩)

theorem keepsBars_codeBlockRule : KeepsBars codeBlockRule.apply :=
  keepsBars_apply (fun _ => rfl) (exists_cons_of_map '`' (by decide) fun _ => ⟨_, rfl⟩)

theorem keepsBars_codeMarkdown : KeepsBars codeMarkdown :=
  keepsBars_codeBlockRule.comp keepsBars_codeSpanRule

theorem keepsBars_linkRule : KeepsBars linkRule.apply :=
  keepsBars_apply (fun _ => rfl) (exists_cons_of_map '[' (by decide) fun _ => ⟨_, rfl⟩)

theorem keepsBars_imageRule : KeepsBars imageRule.apply :=
  keepsBars_apply (fun _ => rfl) (exists_cons_of_map '!' (by decide) fun _ => ⟨_, rfl⟩)

theorem keepsBars_boldRule : KeepsBars boldRule.apply := by
  refine keepsBars_apply (fun _ => rfl) ?_
  intro s out rest h
  obtain ⟨inside, -, h⟩ := Option.bind_eq_some_iff.1 h
  exact exists_cons_of_map '*' (by decide) (fun _ => ⟨_, rfl⟩) h

theorem keepsBars_apostropheItalicRule : KeepsBars apostropheItalicRule.apply :=
  keepsBars_apply (fun _ => rfl) (exists_cons_of_map '_' (by decide) fun _ => ⟨_, rfl⟩)

theorem keepsBars_slashItalicRule : KeepsBars slashItalicRule.apply := by
  refine keepsBars_apply (fun s => rfl) ?_
  intro s out rest h
  rcases Option.or_eq_some_iff.1 h with h | ⟨-, h⟩
  · -- an address is kept, and it begins with a letter
    cases s with
    | nil => cases h
    | cons c s =>
      rw [address?] at h
      split at h
      · next hc =>
        obtain ⟨tail, -, he⟩ := Option.map_eq_some_iff.1 h
        obtain ⟨rfl, -⟩ := Prod.mk.inj he
        refine ⟨c, _, rfl, ?_⟩
        rintro rfl
        exact absurd hc (by decide)
      · cases h
  · exact exists_cons_of_map '_' (by decide) (fun _ => ⟨_, rfl⟩) h

theorem exists_cons_of_afterHump? {word : List Char} (h : (afterHump? word).isSome = true) :
    ∃ c rest, word = c :: rest ∧ c.isUpper = true := by
  match word with
  | [] => simp [afterHump?] at h
  | [c] => simp [afterHump?] at h
  | c :: d :: rest =>
    refine ⟨c, d :: rest, rfl, ?_⟩
    rw [afterHump?] at h
    split at h
    · next hc =>
      rw [Bool.and_eq_true] at hc
      exact hc.1
    · simp at h

/-- The escape rule writes nothing, but only in front of a word that begins with a capital. -/
theorem keepsBars_escapeRule : KeepsBars escapeRule.apply where
  cons s := Rule.apply_of_no_match rfl
  front := by
    intro s h
    cases s with
    | nil => simp
    | cons c s =>
      rcases hm : escapeRule.match? (c :: s) with _ | ⟨out, rest⟩
      · rw [Rule.apply_of_no_match hm]
        exact h
      · obtain ⟨word, -, hw⟩ := Option.bind_eq_some_iff.1 hm
        split at hw
        · next hump =>
          obtain ⟨rfl, rfl⟩ := Prod.mk.inj (Option.some.inj hw)
          have first : (afterHump? word).isSome = true := by
            cases hf : afterHump? word with
            | none => simp [hf] at hump
            | some tail => rfl
          obtain ⟨d, rest, rfl, hd⟩ := exists_cons_of_afterHump? first
          have noMatch : escapeRule.match? (d :: rest) = none := by
            have : d ≠ '!' := by rintro rfl; exact absurd hd (by decide)
            simp [escapeRule, this]
          have noBar : d ≠ '|' := by rintro rfl; exact absurd hd (by decide)
          rw [Rule.apply_of_match hm, Rule.apply_of_no_match noMatch, List.nil_append]
          simpa using noBar
        · cases hw

theorem keepsBars_of_mem_inlineRules {rule : Rule} (h : rule ∈ inlineRules) :
    KeepsBars rule.apply := by
  simp only [inlineRules, List.mem_cons, List.not_mem_nil, or_false] at h
  rcases h with rfl | rfl | rfl | rfl | rfl | rfl
  · exact keepsBars_linkRule
  · exact keepsBars_imageRule
  · exact keepsBars_escapeRule
  · exact keepsBars_boldRule
  · exact keepsBars_apostropheItalicRule
  · exact keepsBars_slashItalicRule

/-! ### References -/

theorem ReferenceForm.read?_congr (form : ReferenceForm) {before before' : Option Char}
    (h : wordGoesOn before = wordGoesOn before') (s : List Char) :
    form.read? before s = form.read? before' s := by
  rw [ReferenceForm.read?, ReferenceForm.read?, h]

theorem segment?_congr {before before' : Option Char}
    (h : wordGoesOn before = wordGoesOn before') (s : List Char) :
    segment? before s = segment? before' s := by
  simp only [segment?, fun form : ReferenceForm => form.read?_congr h s]

/-- Of the character in front of a text it only matters whether it is part of a word. -/
theorem segmentsAfter_congr {before before' : Option Char}
    (h : wordGoesOn before = wordGoesOn before') (s : List Char) :
    segmentsAfter before s = segmentsAfter before' s := by
  induction before, s using segmentsAfter.induct generalizing before' with
  | case1 before => rw [segmentsAfter, segmentsAfter]
  | case2 before c s segment hs ih =>
    have hs' : segment? before' (c :: s) = some segment := by rw [← segment?_congr h, hs]
    rw [segmentsAfter, segmentsAfter, hs, hs']
    -- behind a segment its own last character stands in front, if it has any
    refine congrArg (segment :: ·) (ih ?_)
    cases segment.text.getLast? with
    | none => exact h
    | some d => rfl
  | case3 before c s hs ih =>
    have hs' : segment? before' (c :: s) = none := by rw [← segment?_congr h, hs]
    rw [segmentsAfter, segmentsAfter, hs, hs', ih rfl]

/-- No segment begins with a bar. -/
theorem segment?_bar (before : Option Char) (s : List Char) :
    segment? before ('|' :: s) = none := by
  have noForm : ∀ form : ReferenceForm, form.read? before ('|' :: s) = none := by
    intro form
    rw [ReferenceForm.read?]
    split
    · rfl
    · cases form <;> rfl
  have noAddress : webAddress? ('|' :: s) = none := rfl
  rw [segment?, noAddress]
  simp [macroCall?, linkTarget?, noForm]

/-- A reference becomes a link. -/
theorem ReferenceForm.exists_cons_of_read? {form : ReferenceForm} {before : Option Char}
    {s : List Char} {segment : Segment} (h : form.read? before s = some segment)
    (base : List Char) : ∃ t, segment.render base = '[' :: t := by
  rw [ReferenceForm.read?] at h
  split at h
  · cases h
  · obtain ⟨tail, -, h⟩ := Option.bind_eq_some_iff.1 h
    split at h
    · cases h
    · obtain ⟨rest, -, h⟩ := Option.bind_eq_some_iff.1 h
      split at h
      · cases h
      · obtain rfl := Option.some.inj h
        exact ⟨_, rfl⟩

/-- What is written for a segment does not begin with a bar. -/
theorem exists_cons_of_segment? {before : Option Char} {s : List Char} {segment : Segment}
    (h : segment? before s = some segment) (base : List Char) :
    ∃ c t, segment.render base = c :: t ∧ c ≠ '|' := by
  rcases Option.or_eq_some_iff.1 h with h | ⟨-, h⟩
  · obtain ⟨inside, -, h⟩ := Option.bind_eq_some_iff.1 h
    split at h
    · obtain rfl := Option.some.inj h
      exact ⟨'[', _, rfl, by decide⟩
    · cases h
  rcases Option.or_eq_some_iff.1 h with h | ⟨-, h⟩
  · obtain ⟨inside, -, h⟩ := Option.bind_eq_some_iff.1 h
    split at h
    · obtain rfl := Option.some.inj h
      exact ⟨']', _, rfl, by decide⟩
    · cases h
  rcases Option.or_eq_some_iff.1 h with h | ⟨-, h⟩
  · -- an address stays as it is and begins with its scheme
    obtain ⟨parts, hp, h⟩ := Option.bind_eq_some_iff.1 h
    split at h
    · cases h
    · obtain rfl := Option.some.inj h
      rcases Option.or_eq_some_iff.1 hp with hp | ⟨-, hp⟩ <;>
      · obtain ⟨rest, -, rfl⟩ := Option.map_eq_some_iff.1 hp
        exact ⟨'h', _, rfl, by decide⟩
  · obtain ⟨form, -, h⟩ := List.exists_of_findSome?_eq_some h
    obtain ⟨t, ht⟩ := form.exists_cons_of_read? h base
    exact ⟨'[', t, ht, by decide⟩

/-- A bar is no part of a word. -/
theorem wordGoesOn_bar : wordGoesOn (some '|') = wordGoesOn none := by
  decide +kernel

theorem keepsBars_linkReferences (base : List Char) : KeepsBars (linkReferences base) where
  cons s := by
    rw [linkReferences, segments, segmentsAfter, segment?_bar, List.flatMap_cons,
      segmentsAfter_congr wordGoesOn_bar]
    rfl
  front := by
    intro s h
    rw [linkReferences, segments]
    cases s with
    | nil => simp [segmentsAfter]
    | cons c s =>
      rcases hs : segment? none (c :: s) with _ | segment
      · rw [segmentsAfter, hs, List.flatMap_cons]
        exact h
      · obtain ⟨d, t, hr, hd⟩ := exists_cons_of_segment? hs base
        rw [segmentsAfter, hs, List.flatMap_cons, hr]
        simpa using hd

theorem keepsBars_inlineMarkdown (base : List Char) : KeepsBars (inlineMarkdown base) :=
  (keepsBars_linkReferences base).comp (KeepsBars.foldl fun _ h => keepsBars_of_mem_inlineRules h)

/-! ### The parts between code spans, and line ends -/

/-- A bar is in front of the first code span. -/
theorem spans_bar (s : List Char) : spans ('|' :: s) = ('|' :: (spans s).1, (spans s).2) := by
  rw [spans]
  split
  · next h => simp at h
  · rfl

theorem keepsBars_mapBetweenSpans {f : List Char → List Char} (hf : KeepsBars f) :
    KeepsBars (mapBetweenSpans f) where
  cons s := by
    rw [mapBetweenSpans, spans_bar, hf.cons]
    rfl
  front := by
    intro s h
    have front : (spans s).1.head? ≠ some '|' := by
      cases s with
      | nil => simp [spans]
      | cons c s =>
        rw [spans]
        split
        · simp
        · exact h
    rw [mapBetweenSpans]
    rcases hfs : f (spans s).1 with _ | ⟨c, t⟩
    · -- nothing in front of the first code span, which begins with a backtick
      cases (spans s).2 with
      | nil => simp
      | cons part parts => simp [codeSpan]
    · have := hf.front front
      rw [hfs] at this
      exact this

theorem keepsBars_unixNewlines : KeepsBars unixNewlines where
  cons s := unixNewlines_cons (by decide) s
  front := by
    intro s h
    match s with
    | [] => simp [unixNewlines]
    | [c] => exact h
    | c :: d :: s =>
      rw [unixNewlines]
      split
      · simp
      · exact h

end TicketMigration.Markup
