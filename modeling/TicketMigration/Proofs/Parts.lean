import TicketMigration.Markup.Inline
import TicketMigration.Proofs.Lines

/-!
# The parts that a text is cut into

A line is cut at its code spans, and the text between them into segments, before anything is
written.
Put together again, the parts are the text.

Only references are written as something else than they were read from, and what is written for one
has more closing brackets than its text.  So a text comes through unchanged exactly if there is no
reference among its segments.

## Main definitions

* `Segment.isReference` — the segment is a reference.

## Main statements

* `mapBetweenSpans_eq_self` — a line whose parts are unchanged is unchanged.
* `flatMap_text_segmentsAfter` — the segments make up the text.
* `exists_read?_of_mem_segmentsAfter` — where a reference comes from.
* `linkReferences_eq_self_iff` — **a text is unchanged exactly if it is cut into literal text
  only.**
-/

namespace TicketMigration.Markup

open Text

/-! ### Code spans -/

/-- At a backtick that another one on its line closes, a code span is cut off. -/
theorem spans_of_match {c : Char} {s code rest : List Char}
    (h : (after? ['`'] (c :: s)).bind (upTo? onLine ['`']) = some (code, rest)) :
    spans (c :: s) = ([], (code, (spans rest).1) :: (spans rest).2) := by
  rw [spans]
  split
  · next code' rest' h' =>
    rw [h] at h'
    obtain ⟨rfl, rfl⟩ := Prod.mk.inj (Option.some.inj h')
    rfl
  · next h' => rw [h] at h'; cases h'

/-- Every other character stands in front of the first span. -/
theorem spans_of_no_match {c : Char} {s : List Char}
    (h : (after? ['`'] (c :: s)).bind (upTo? onLine ['`']) = none) :
    spans (c :: s) = (c :: (spans s).1, (spans s).2) := by
  rw [spans]
  split
  · next h' => rw [h] at h'; cases h'
  · rfl

/-- A code span that is cut off is what stands at the front of the text. -/
theorem eq_append_of_codeSpan {s code rest : List Char}
    (h : (after? ['`'] s).bind (upTo? onLine ['`']) = some (code, rest)) :
    s = codeSpan code ++ rest := by
  obtain ⟨inside, hi, hu⟩ := Option.bind_eq_some_iff.1 h
  rw [after?_eq_some_iff.1 hi, eq_append_of_upTo? hu]
  simp [codeSpan]

/-- **The code spans and the texts between them make up the text.** -/
theorem spans_append_flatMap (s : List Char) :
    (spans s).1 ++ (spans s).2.flatMap (fun part => codeSpan part.1 ++ part.2) = s := by
  induction s using spans.induct with
  | case1 => simp [spans]
  | case2 c s code rest h ih =>
    rw [spans_of_match h, List.nil_append, List.flatMap_cons, List.append_assoc, ih,
      ← eq_append_of_codeSpan h]
  | case3 c s h ih =>
    rw [spans_of_no_match h, List.cons_append, ih]

/-- Each text between code spans stands somewhere in the text. -/
theorem isInfix_of_mem_spans {s part : List Char}
    (h : part = (spans s).1 ∨ ∃ code, (code, part) ∈ (spans s).2) : part <:+: s := by
  rcases h with rfl | ⟨code, hp⟩
  · conv => rhs; rw [← spans_append_flatMap s]
    exact (List.prefix_append _ _).isInfix
  · obtain ⟨front, behind, hs⟩ := List.append_of_mem hp
    refine ⟨(spans s).1 ++ front.flatMap (fun part => codeSpan part.1 ++ part.2) ++ codeSpan code,
      behind.flatMap (fun part => codeSpan part.1 ++ part.2), ?_⟩
    conv => rhs; rw [← spans_append_flatMap s, hs]
    simp

/-- **A line is unchanged if no text between its code spans is changed.** -/
theorem mapBetweenSpans_eq_self {f : List Char → List Char} {s : List Char}
    (h : ∀ part, part <:+: s → f part = part) : mapBetweenSpans f s = s := by
  have front : f (spans s).1 = (spans s).1 := h _ (isInfix_of_mem_spans (.inl rfl))
  have behind : (spans s).2.flatMap (fun part => codeSpan part.1 ++ f part.2)
      = (spans s).2.flatMap fun part => codeSpan part.1 ++ part.2 := by
    rw [List.flatMap_def, List.flatMap_def, List.map_congr_left fun part hp => ?_]
    rw [h _ (isInfix_of_mem_spans (.inr ⟨part.1, hp⟩))]
  rw [mapBetweenSpans, front, behind, spans_append_flatMap]

/-! ### Reading one segment -/

/-- Whether the segment is a reference. -/
def Segment.isReference : Segment → Bool
  | .literal _ => false
  | .reference _ _ => true

theorem eq_append_of_macroCall? {s : List Char} {segment : Segment}
    (h : macroCall? s = some segment) :
    ∃ inside rest, segment = .literal (['[', '['] ++ inside ++ [']', ']']) ∧
      s = segment.text ++ rest := by
  obtain ⟨tail, ht, h⟩ := Option.bind_eq_some_iff.1 h
  split at h
  · next closed =>
    obtain ⟨rest, hr⟩ := Option.isSome_iff_exists.1 closed
    obtain rfl := Option.some.inj h
    refine ⟨_, rest, rfl, ?_⟩
    rw [after?_eq_some_iff.1 ht]
    conv => lhs; rw [eq_append_of_after?_dropWhile hr]
    simp [Segment.text]
  · cases h

theorem eq_append_of_linkTarget? {s : List Char} {segment : Segment}
    (h : linkTarget? s = some segment) :
    ∃ target rest, segment = .literal ([']', '('] ++ target ++ [')']) ∧
      s = segment.text ++ rest := by
  obtain ⟨tail, ht, h⟩ := Option.bind_eq_some_iff.1 h
  split at h
  · next closed =>
    obtain ⟨rest, hr⟩ := Option.isSome_iff_exists.1 closed
    obtain rfl := Option.some.inj h
    refine ⟨_, rest, rfl, ?_⟩
    rw [after?_eq_some_iff.1 ht]
    conv => lhs; rw [eq_append_of_after?_dropWhile hr]
    simp [Segment.text]
  · cases h

/-- A scheme begins with a letter. -/
theorem exists_cons_of_scheme? {s scheme rest : List Char} (h : scheme? s = some (scheme, rest)) :
    ∃ t, scheme = 'h' :: t := by
  rcases Option.or_eq_some_iff.1 h with h | ⟨-, h⟩ <;>
  · obtain ⟨r, -, he⟩ := Option.map_eq_some_iff.1 h
    obtain ⟨rfl, -⟩ := Prod.mk.inj he
    exact ⟨_, rfl⟩

theorem eq_append_of_webAddress? {s : List Char} {segment : Segment}
    (h : webAddress? s = some segment) :
    ∃ address rest, segment = .literal ('h' :: address) ∧ s = segment.text ++ rest := by
  obtain ⟨⟨scheme, tail⟩, hp, h⟩ := Option.bind_eq_some_iff.1 h
  split at h
  · cases h
  · obtain rfl := Option.some.inj h
    obtain ⟨t, rfl⟩ := exists_cons_of_scheme? hp
    refine ⟨_, tail.dropWhile (!isBlank ·), rfl, ?_⟩
    rw [eq_append_of_scheme? hp]
    simp [Segment.text, List.takeWhile_append_dropWhile]

/-- A reference is read as one, from its own text. -/
theorem ReferenceForm.eq_append_of_read? {form : ReferenceForm} {before : Option Char}
    {s : List Char} {segment : Segment} (h : form.read? before s = some segment) :
    ∃ number rest, segment = .reference form number ∧ s = segment.text ++ rest := by
  rw [ReferenceForm.read?] at h
  split at h
  · cases h
  · obtain ⟨tail, ht, h⟩ := Option.bind_eq_some_iff.1 h
    split at h
    · cases h
    · obtain ⟨rest, hr, h⟩ := Option.bind_eq_some_iff.1 h
      split at h
      · cases h
      · obtain rfl := Option.some.inj h
        refine ⟨_, rest, rfl, ?_⟩
        rw [after?_eq_some_iff.1 ht]
        conv => lhs; rw [eq_append_of_after?_dropWhile hr]
        simp [Segment.text]

/-- The ways in which a segment is read. -/
theorem segment?_cases {before : Option Char} {s : List Char} {segment : Segment}
    (h : segment? before s = some segment) :
    macroCall? s = some segment ∨ linkTarget? s = some segment ∨ webAddress? s = some segment ∨
      ∃ form : ReferenceForm, form.read? before s = some segment := by
  rcases Option.or_eq_some_iff.1 h with h | ⟨-, h⟩
  · exact .inl h
  rcases Option.or_eq_some_iff.1 h with h | ⟨-, h⟩
  · exact .inr (.inl h)
  rcases Option.or_eq_some_iff.1 h with h | ⟨-, h⟩
  · exact .inr (.inr (.inl h))
  obtain ⟨form, -, h⟩ := List.exists_of_findSome?_eq_some h
  exact .inr (.inr (.inr ⟨form, h⟩))

/-- Only a reference is read as one. -/
theorem exists_read?_of_segment? {before : Option Char} {s : List Char} {segment : Segment}
    (h : segment? before s = some segment) (refers : segment.isReference = true) :
    ∃ form : ReferenceForm, form.read? before s = some segment := by
  rcases segment?_cases h with h | h | h | h
  · obtain ⟨inside, rest, rfl, hs⟩ := eq_append_of_macroCall? h
    cases refers
  · obtain ⟨target, rest, rfl, hs⟩ := eq_append_of_linkTarget? h
    cases refers
  · obtain ⟨address, rest, rfl, hs⟩ := eq_append_of_webAddress? h
    cases refers
  · exact h

/-- A segment is what stands at the front of the text. -/
theorem eq_append_of_segment? {before : Option Char} {s : List Char} {segment : Segment}
    (h : segment? before s = some segment) : ∃ rest, s = segment.text ++ rest := by
  rcases segment?_cases h with h | h | h | ⟨form, h⟩
  · obtain ⟨-, rest, -, hs⟩ := eq_append_of_macroCall? h
    exact ⟨rest, hs⟩
  · obtain ⟨-, rest, -, hs⟩ := eq_append_of_linkTarget? h
    exact ⟨rest, hs⟩
  · obtain ⟨-, rest, -, hs⟩ := eq_append_of_webAddress? h
    exact ⟨rest, hs⟩
  · obtain ⟨-, rest, -, hs⟩ := form.eq_append_of_read? h
    exact ⟨rest, hs⟩

/-- A segment begins with one of these characters. -/
theorem exists_cons_text_of_segment? {before : Option Char} {s : List Char} {segment : Segment}
    (h : segment? before s = some segment) :
    ∃ c t, segment.text = c :: t ∧ c ∈ ['[', ']', 'h', '#', 't', 'c', 'r', '{'] := by
  rcases segment?_cases h with h | h | h | ⟨form, h⟩
  · obtain ⟨inside, -, rfl, -⟩ := eq_append_of_macroCall? h
    exact ⟨'[', _, rfl, by decide⟩
  · obtain ⟨target, -, rfl, -⟩ := eq_append_of_linkTarget? h
    exact ⟨']', _, rfl, by decide⟩
  · obtain ⟨address, -, rfl, -⟩ := eq_append_of_webAddress? h
    exact ⟨'h', _, rfl, by decide⟩
  · obtain ⟨number, -, rfl, -⟩ := form.eq_append_of_read? h
    cases form <;> exact ⟨_, _, rfl, by decide⟩

/-- No segment begins with any other character. -/
theorem segment?_cons_eq_none {c : Char} (hc : c ∉ ['[', ']', 'h', '#', 't', 'c', 'r', '{'])
    (before : Option Char) (s : List Char) : segment? before (c :: s) = none := by
  cases hs : segment? before (c :: s) with
  | none => rfl
  | some segment =>
    obtain ⟨d, t, ht, hd⟩ := exists_cons_text_of_segment? hs
    obtain ⟨rest, hr⟩ := eq_append_of_segment? hs
    rw [ht] at hr
    obtain ⟨rfl, -⟩ := List.cons.inj hr
    exact absurd hd hc

/-! ### Cutting a text -/

@[simp] theorem segmentsAfter_nil (before : Option Char) : segmentsAfter before [] = [] := by
  rw [segmentsAfter]

/-- Behind a segment the cutting goes on, with the last character of the segment in front. -/
theorem segmentsAfter_of_segment? {before : Option Char} {s rest : List Char} {segment : Segment}
    (h : segment? before s = some segment) (hs : s = segment.text ++ rest) :
    segmentsAfter before s = segment :: segmentsAfter segment.text.getLast? rest := by
  obtain ⟨c, t, ht, -⟩ := exists_cons_text_of_segment? h
  cases s with
  | nil => simp [ht] at hs
  | cons d s =>
    have behind : s.drop (segment.text.length - 1) = rest := by
      rw [ht, List.cons_append] at hs
      obtain ⟨rfl, rfl⟩ := List.cons.inj hs
      simp [ht]
    have last : segment.text.getLast?.or before = segment.text.getLast? := by
      rw [ht, List.getLast?_cons]
      rfl
    rw [segmentsAfter, h]
    simp only [behind, last]

/-- A character at which nothing is read is literal text. -/
theorem segmentsAfter_of_none {before : Option Char} {c : Char} {s : List Char}
    (h : segment? before (c :: s) = none) :
    segmentsAfter before (c :: s) = .literal [c] :: segmentsAfter (some c) s := by
  rw [segmentsAfter, h]

/-- A text is cut either behind a segment or behind its first character. -/
theorem segmentsAfter_induction {motive : Option Char → List Char → Prop}
    (nil : ∀ before, motive before [])
    (read : ∀ before s segment rest, segment? before s = some segment →
      s = segment.text ++ rest → motive segment.text.getLast? rest → motive before s)
    (pass : ∀ before c s, segment? before (c :: s) = none → motive (some c) s →
      motive before (c :: s)) (before : Option Char) (s : List Char) : motive before s := by
  induction hn : s.length using Nat.strongRecOn generalizing before s with
  | ind n ih =>
    subst hn
    cases s with
    | nil => exact nil before
    | cons c s =>
      cases h : segment? before (c :: s) with
      | none => exact pass before c s h (ih s.length (by simp) _ _ rfl)
      | some segment =>
        obtain ⟨rest, hs⟩ := eq_append_of_segment? h
        obtain ⟨d, t, ht, -⟩ := exists_cons_text_of_segment? h
        have shorter : rest.length < (c :: s).length := by
          rw [hs, ht, List.length_append, List.length_cons]
          omega
        exact read before _ segment rest h hs (ih _ shorter _ _ rfl)

/-- **The segments make up the text.** -/
theorem flatMap_text_segmentsAfter (before : Option Char) (s : List Char) :
    (segmentsAfter before s).flatMap Segment.text = s := by
  induction before, s using segmentsAfter_induction with
  | nil => simp
  | read before s segment rest h hs ih =>
    rw [segmentsAfter_of_segment? h hs, List.flatMap_cons, ih, ← hs]
  | pass before c s h ih =>
    rw [segmentsAfter_of_none h, List.flatMap_cons, ih]
    rfl

/-- A reference among the segments has been read at some place of the text. -/
theorem exists_read?_of_mem_segmentsAfter {before : Option Char} {s : List Char}
    {segment : Segment} (h : segment ∈ segmentsAfter before s)
    (refers : segment.isReference = true) :
    ∃ (form : ReferenceForm) (previous : Option Char) (t : List Char),
      t <:+ s ∧ form.read? previous t = some segment := by
  induction before, s using segmentsAfter_induction with
  | nil => simp at h
  | read before s first rest hf hs ih =>
    rw [segmentsAfter_of_segment? hf hs, List.mem_cons] at h
    rcases h with rfl | h
    · obtain ⟨form, hr⟩ := exists_read?_of_segment? hf refers
      exact ⟨form, before, s, List.suffix_refl s, hr⟩
    · obtain ⟨form, previous, t, ht, hr⟩ := ih h
      exact ⟨form, previous, t, ht.trans ⟨first.text, hs.symm⟩, hr⟩
  | pass before c s hn ih =>
    rw [segmentsAfter_of_none hn, List.mem_cons] at h
    rcases h with rfl | h
    · cases refers
    · obtain ⟨form, previous, t, ht, hr⟩ := ih h
      exact ⟨form, previous, t, ht.trans (List.suffix_cons c s), hr⟩

/-! ### Writing segments -/

/-- Literal text is written as it was read. -/
theorem Segment.render_of_not_isReference {segment : Segment} (h : segment.isReference = false)
    (base : List Char) : segment.render base = segment.text := by
  cases segment with
  | literal text => rfl
  | reference form number => cases h

/-- What is written for a reference has more closing brackets than its text. -/
theorem Segment.count_text_lt {segment : Segment} (h : segment.isReference = true)
    (base : List Char) : segment.text.count ']' < (segment.render base).count ']' := by
  cases segment with
  | literal text => cases h
  | reference form number =>
    have written : (Segment.reference form number).render base
        = ['['] ++ (Segment.reference form number).text ++
          ([']', '('] ++ base ++ '/' :: form.kind.path ++ '/' :: number ++ [')']) := by
      simp [Segment.render]
    rw [written, List.count_append, List.count_append]
    simp only [List.cons_append, List.count_cons_self]
    omega

/-- What is written for segments has no fewer closing brackets than their text. -/
theorem count_flatMap_text_le (base : List Char) (ss : List Segment) :
    (ss.flatMap Segment.text).count ']' ≤ (ss.flatMap (·.render base)).count ']' := by
  induction ss with
  | nil => exact Nat.le_refl _
  | cons segment ss ih =>
    rw [List.flatMap_cons, List.flatMap_cons, List.count_append, List.count_append]
    cases h : segment.isReference with
    | false =>
      rw [Segment.render_of_not_isReference h]
      omega
    | true =>
      have := Segment.count_text_lt h base
      omega

/-- It has as many only if there is no reference among them. -/
theorem not_isReference_of_count_le (base : List Char) {ss : List Segment}
    (h : (ss.flatMap (·.render base)).count ']' ≤ (ss.flatMap Segment.text).count ']') :
    ∀ segment ∈ ss, segment.isReference = false := by
  induction ss with
  | nil => simp
  | cons segment ss ih =>
    rw [List.flatMap_cons, List.flatMap_cons, List.count_append, List.count_append] at h
    rw [List.forall_mem_cons]
    cases hs : segment.isReference with
    | false =>
      rw [Segment.render_of_not_isReference hs] at h
      exact ⟨rfl, ih (by omega)⟩
    | true =>
      -- a reference adds a bracket, and nothing behind it takes one away again
      have first := Segment.count_text_lt hs base
      have rest := count_flatMap_text_le base ss
      omega

/-- A text has no reference if it has as many closing brackets once its references are written. -/
theorem not_isReference_of_count_linkReferences_le (base : List Char) {s : List Char}
    (h : (linkReferences base s).count ']' ≤ s.count ']') :
    ∀ segment ∈ segments s, segment.isReference = false := by
  refine not_isReference_of_count_le base ?_
  rwa [segments, flatMap_text_segmentsAfter]

/-- **A text is unchanged exactly if there is no reference among its segments.** -/
theorem linkReferences_eq_self_iff (base s : List Char) :
    linkReferences base s = s ↔ ∀ segment ∈ segments s, segment.isReference = false := by
  constructor
  · intro same
    exact not_isReference_of_count_linkReferences_le base (Nat.le_of_eq (congrArg _ same))
  · intro literal
    have written : (segments s).map (·.render base) = (segments s).map Segment.text :=
      List.map_congr_left fun segment h =>
        Segment.render_of_not_isReference (literal segment h) base
    rw [linkReferences, List.flatMap_def, written, ← List.flatMap_def, segments,
      flatMap_text_segmentsAfter]

end TicketMigration.Markup
