import TicketMigration.Proofs.LinkTargets
import TicketMigration.Proofs.WithinLines

/-!
# What markup within a line adds

The rules within a line write brackets, asterisks and underscores of their own, the links of
references also the words of an address.  Every other character of what they write has stood in the
text, or in the address below which references lead.  So the rules add no backtick and no newline.

## Main definitions

* `inlineMarks` — the characters that the rules write of their own.
* `linkMarks` — those that references write.

## Main statements

* `addsNo_of_mem_inlineRules` — a rule adds nothing but marks.
* `not_mem_inlineMarkdown` — **all rules and the references together add nothing but marks.**
* `not_mem_mapBetweenSpans` — neither does the conversion of the parts between code spans.
-/

namespace TicketMigration.Markup

open Text

/-- What the rules within a line write of their own. -/
def inlineMarks : List Char :=
  "![image]()*_".toList

/-- What the links of references have besides their text and the address. -/
def linkMarks : List Char :=
  "[]()/ticketchangesetreport".toList

section Rules

variable {c : Char}

theorem addsNo_linkRule (hc : c ∉ ['[', ']', '(', ')']) : linkRule.AddsNo c := by
  intro s out rest h hs
  obtain ⟨⟨link, rest'⟩, hl, he⟩ := Option.map_eq_some_iff.1 h
  obtain ⟨rfl, rfl⟩ := Prod.mk.inj he
  obtain ⟨blank, rfl, -⟩ := Link.eq_append_of_read? hl
  simp only [List.mem_cons, List.mem_append, List.not_mem_nil, or_false, not_or] at hs hc
  simp [Link.markdown, hs, hc]

/-- What an image is read from. -/
theorem eq_append_of_image? {s file rest : List Char} (h : image? s = some (file, rest)) :
    s = "[[Image(".toList ++ file ++ ")]]".toList ++ rest := by
  obtain ⟨inside, hi, h⟩ := Option.bind_eq_some_iff.1 h
  split at h
  · cases h
  · split at h
    · split at h
      · obtain ⟨parts, hp, he⟩ := Option.map_eq_some_iff.1 h
        obtain ⟨rfl, rfl⟩ := Prod.mk.inj he
        rw [after?_eq_some_iff.1 hi, eq_append_of_upTo? hp]
        simp
      · cases h
    · cases h

theorem addsNo_imageRule (hc : c ∉ "![image]()".toList) : imageRule.AddsNo c := by
  intro s out rest h hs
  obtain ⟨⟨file, rest'⟩, hf, he⟩ := Option.map_eq_some_iff.1 h
  obtain ⟨rfl, rfl⟩ := Prod.mk.inj he
  rw [eq_append_of_image? hf] at hs
  simp only [List.mem_append, not_or] at hs
  have opening : c ∉ "![image](".toList := fun hm => hc (by simp_all)
  have closing : c ∉ [')'] := fun hm => hc (by simp_all)
  exact ⟨List.not_mem_append (List.not_mem_append opening hs.1.1.2) closing, hs.2⟩

theorem addsNo_escapeRule (c : Char) : escapeRule.AddsNo c := by
  intro s out rest h hs
  obtain ⟨word, hw, h⟩ := Option.bind_eq_some_iff.1 h
  split at h
  · obtain ⟨rfl, rfl⟩ := Prod.mk.inj (Option.some.inj h)
    rw [after?_eq_some_iff.1 hw, List.mem_append, not_or] at hs
    exact ⟨List.not_mem_nil, hs.2⟩
  · cases h

theorem addsNo_boldRule (hc : c ≠ '*') : boldRule.AddsNo c := by
  intro s out rest h hs
  obtain ⟨body, rfl, rfl⟩ := eq_append_of_boldRule h
  simp only [List.mem_append, not_or] at hs
  simp [hs, hc]

/-- A text between markers is written between other ones. -/
theorem not_mem_of_between? (hc : c ≠ '_') {marker s body rest : List Char}
    (h : between? marker s = some (body, rest)) (hs : c ∉ s) :
    c ∉ '_' :: body ++ ['_'] ∧ c ∉ rest := by
  rw [eq_append_of_between? h] at hs
  simp only [List.mem_append, not_or] at hs
  simp [hs, hc]

theorem addsNo_apostropheItalicRule (hc : c ≠ '_') : apostropheItalicRule.AddsNo c := by
  intro s out rest h hs
  obtain ⟨⟨body, rest'⟩, hp, he⟩ := Option.map_eq_some_iff.1 h
  obtain ⟨rfl, rfl⟩ := Prod.mk.inj he
  exact not_mem_of_between? hc hp hs

theorem addsNo_slashItalicRule (hc : c ≠ '_') : slashItalicRule.AddsNo c := by
  intro s out rest h hs
  rcases Option.or_eq_some_iff.1 h with h | ⟨-, h⟩
  · rw [eq_append_of_address? h, List.mem_append, not_or] at hs
    exact hs
  · obtain ⟨⟨body, rest'⟩, hp, he⟩ := Option.map_eq_some_iff.1 h
    obtain ⟨rfl, rfl⟩ := Prod.mk.inj he
    exact not_mem_of_between? hc hp hs

theorem addsNo_of_mem_inlineRules (hc : c ∉ inlineMarks) {rule : Rule} (h : rule ∈ inlineRules) :
    rule.AddsNo c := by
  have other (marks : List Char) (sub : marks ⊆ inlineMarks) : c ∉ marks := fun hm => hc (sub hm)
  simp only [inlineRules, List.mem_cons, List.not_mem_nil, or_false] at h
  rcases h with rfl | rfl | rfl | rfl | rfl | rfl
  · exact addsNo_linkRule (other _ (by decide))
  · exact addsNo_imageRule (other _ (by decide))
  · exact addsNo_escapeRule c
  · exact addsNo_boldRule fun h => other ['*'] (by decide) (by simp [h])
  · exact addsNo_apostropheItalicRule fun h => other ['_'] (by decide) (by simp [h])
  · exact addsNo_slashItalicRule fun h => other ['_'] (by decide) (by simp [h])

theorem not_mem_foldl_apply {rules : List Rule} (h : ∀ rule ∈ rules, rule.AddsNo c)
    {s : List Char} (hs : c ∉ s) : c ∉ rules.foldl (fun text rule => rule.apply text) s := by
  induction rules generalizing s with
  | nil => exact hs
  | cons rule rules ih =>
    exact ih (fun r hr => h r (List.mem_cons_of_mem _ hr))
      ((h rule List.mem_cons_self).not_mem_apply hs)

end Rules

section Line

variable {c : Char} {base s : List Char} (hl : c ∉ linkMarks) (hb : c ∉ base)

include hl hb

/-- Besides its marks, a link has the characters of the reference and of the address below which it
leads. -/
theorem Segment.not_mem_render {segment : Segment} (h : c ∉ segment.text) :
    c ∉ segment.render base := by
  cases segment with
  | literal text => exact h
  | reference form number =>
    have path : c ∉ form.kind.path := by
      intro hm
      refine hl ?_
      have sub : form.kind.path ⊆ linkMarks := by cases form <;> decide
      exact sub hm
    have digits : c ∉ number := fun hm => h (by simp [Segment.text, hm])
    have marks (d : Char) (hd : d ∈ linkMarks) : c ≠ d := fun he => hl (he ▸ hd)
    simp [Segment.render, h, hb, path, digits, marks '[' (by decide), marks ']' (by decide),
      marks '(' (by decide), marks ')' (by decide), marks '/' (by decide)]

theorem not_mem_linkReferences (hs : c ∉ s) : c ∉ linkReferences base s := by
  intro hm
  obtain ⟨segment, hseg, hm⟩ := List.mem_flatMap.1 hm
  refine Segment.not_mem_render hl hb (fun ht => hs ?_) hm
  rw [← flatMap_text_segmentsAfter none s]
  exact List.mem_flatMap.2 ⟨segment, hseg, ht⟩

/-- **Markup within a line adds nothing but its marks.** -/
theorem not_mem_inlineMarkdown (hc : c ∉ inlineMarks) (hs : c ∉ s) : c ∉ inlineMarkdown base s :=
  not_mem_linkReferences hl hb (not_mem_foldl_apply (fun _ h => addsNo_of_mem_inlineRules hc h) hs)

end Line

/-- The parts between the code spans are converted, and the code spans stay as they are. -/
theorem not_mem_mapBetweenSpans {c : Char} {f : List Char → List Char}
    (h : ∀ {part}, c ∉ part → c ∉ f part) {s : List Char} (hs : c ∉ s) :
    c ∉ mapBetweenSpans f s := by
  have whole : c ∉ (spans s).1 ++ (spans s).2.flatMap fun part => codeSpan part.1 ++ part.2 := by
    rwa [spans_append_flatMap]
  rw [List.mem_append, not_or] at whole
  intro hm
  rcases List.mem_append.1 hm with hm | hm
  · exact h whole.1 hm
  · obtain ⟨part, hp, hm⟩ := List.mem_flatMap.1 hm
    have inSpans : c ∉ codeSpan part.1 ++ part.2 := fun hc =>
      whole.2 (List.mem_flatMap.2 ⟨part, hp, hc⟩)
    rw [List.mem_append, not_or] at inSpans
    rcases List.mem_append.1 hm with hm | hm
    · exact inSpans.1 hm
    · exact h inSpans.2 hm

end TicketMigration.Markup
