import TicketMigration.Proofs.EmphasisRules
import TicketMigration.Proofs.PlainText

/-!
# Addresses and link targets

An address that stands on its own and one that is linked should come through the inline rules as
they are.  They do so unless they look like markup themselves: only the rule for slashes passes over
addresses, and while references are looked for, a link target is taken to end at its first closing
parenthesis, and not to be one if a blank comes before it.

## Main definitions

* `IsWebAddress`, `IsLabel` — what a link is made of.
* `unprotected` — the part of a link target in which references are looked for.

## Main statements

* `Link.linkReferences_markdown_iff` — when a link that has been written comes through the emphasis
  and the references.
* `inlineMarkdown_webAddress_iff`, `inlineMarkdown_link_iff` — **when an address and a linked
  address are left alone.**
-/

namespace TicketMigration.Markup

open Text

/-! ### Formatting behind a front and before a parenthesis -/

theorem beginsCapitalised_append_paren_iff {word : List Char} :
    BeginsCapitalised (word ++ [')']) ↔ BeginsCapitalised word := by
  constructor
  · rintro ⟨capital, part, capital', c, rest, hw, upper, nonempty, smalls, upper', small⟩
    have other : c ∉ [')'] := fun h => by
      rw [List.mem_singleton.1 h] at small
      cases small
    have cut : word ++ [')'] = (capital :: (part ++ [capital'])) ++ c :: rest := by
      rw [hw]
      simp
    obtain ⟨rest', -, rfl⟩ := exists_of_eq_append other cut
    exact ⟨capital, part, capital', c, rest', by simp, upper, nonempty, smalls, upper', small⟩
  · rintro ⟨capital, part, capital', c, rest, rfl, upper, nonempty, smalls, upper', small⟩
    exact ⟨capital, part, capital', c, rest ++ [')'], by simp, upper, nonempty, smalls, upper',
      small⟩

/-- A front without marks does not format anything, and neither does a parenthesis. -/
theorem unformatted_between_iff {front target : List Char} (escape : '!' ∉ front)
    (quote : '\'' ∉ front) : Unformatted (front ++ (target ++ [')'])) ↔ Unformatted target := by
  have infix_iff (body : List Char) :
      ['\'', '\''] ++ body ++ ['\'', '\''] <:+: front ++ (target ++ [')']) ↔
        ['\'', '\''] ++ body ++ ['\'', '\''] <:+: target := by
    have left : ['\'', '\''] ++ body ++ ['\'', '\''] = '\'' :: ('\'' :: body ++ ['\'', '\'']) := rfl
    have right : ['\'', '\''] ++ body ++ ['\'', '\'']
        = (['\'', '\''] ++ body ++ ['\'']) ++ ['\''] := by simp
    -- two pairs begin and end with an apostrophe, so neither end of the text adds any
    rw [left, isInfix_append_left_iff quote, ← left, right, isInfix_append_right_iff (by decide)]
  constructor
  · rintro ⟨noEscape, noPairs⟩
    refine ⟨fun word hw => ?_, fun body hi => noPairs body ((infix_iff body).2 hi)⟩
    rw [← beginsCapitalised_append_paren_iff]
    obtain ⟨before, rfl⟩ := hw
    exact noEscape _ ⟨front ++ before, by simp⟩
  · rintro ⟨noEscape, noPairs⟩
    refine ⟨fun word hw => ?_, fun body hi => noPairs body ((infix_iff body).1 hi)⟩
    obtain ⟨inner, rfl, hi⟩ :=
      exists_of_isSuffix_append (by decide) ((isSuffix_append_left_iff escape).1 hw)
    rw [beginsCapitalised_append_paren_iff]
    exact noEscape inner hi

/-- No address goes through a parenthesis that opens a link target. -/
theorem inAddress_append_paren_iff {front s : List Char} (colon : ':' ∉ front) :
    InAddress (front ++ '(' :: s) ↔ InAddress s := by
  refine ⟨?_, fun h => by simpa using h.append_left (front ++ ['('])⟩
  rintro ⟨before, address, hs, nonblank, found⟩
  rw [List.append_cons] at hs
  rcases List.append_eq_append_iff.1 hs with ⟨more, -, rfl⟩ | ⟨more, hm, rfl⟩
  · exact ⟨more, address, rfl, nonblank, found⟩
  rcases List.eq_nil_or_concat more with rfl | ⟨inner, last, rfl⟩
  · exact ⟨[], s, rfl, nonblank, found⟩
  · -- the parenthesis would be in the address, but in front of its colon
    rw [List.concat_eq_append, ← List.append_assoc] at hm
    obtain ⟨rfl, hl⟩ := List.append_inj' hm rfl
    obtain rfl := (List.cons.inj hl).1
    rw [List.concat_eq_append] at found
    obtain ⟨c, scheme, rest, hr, letter, chars⟩ := isSome_address?_iff.1 found
    have outside : ':' ∉ inner ++ ['('] := by
      rw [List.mem_append, not_or] at colon ⊢
      exact ⟨colon.2, by decide⟩
    have whole : inner ++ ['('] ++ (s ++ ['/', '/'])
        = c :: scheme ++ ':' :: (['/', '/'] ++ rest) := by
      rw [← List.append_assoc, hr]
      simp
    obtain ⟨more, hc, -⟩ := exists_of_append_eq outside whole
    have inScheme : '(' ∈ c :: scheme := by simp [hc]
    rcases List.mem_cons.1 inScheme with rfl | inScheme
    · cases letter
    · exact absurd (chars _ inScheme) (by decide)

/-- A front without slashes does not change which slashes count, and neither does a parenthesis. -/
theorem unslashed_between_iff {front target : List Char} (slash : '/' ∉ front)
    (colon : ':' ∉ front) :
    Unslashed (front ++ '(' :: (target ++ [')'])) ↔ Unslashed target := by
  constructor
  · rintro h before body rest rfl
    exact (inAddress_append_paren_iff colon).1
      (h (front ++ '(' :: before) body (rest ++ [')']) (by simp))
  · intro h before body rest hs
    have outside : '/' ∉ front ++ ['('] := by simp [slash]
    rw [List.append_cons] at hs
    have opening : front ++ ['('] ++ (target ++ [')'])
        = before ++ '/' :: ('/' :: body ++ ['/', '/'] ++ rest) := by
      rw [hs]
      simp
    obtain ⟨more, rfl, ht⟩ := exists_of_append_eq outside opening
    have closing : target ++ [')'] = more ++ ['/', '/'] ++ body ++ ['/'] ++ '/' :: rest := by
      rw [ht]
      simp
    obtain ⟨rest', rfl, ht'⟩ := exists_of_eq_append (by decide) closing
    have inside := h more body rest' (by rw [ht']; simp)
    rw [List.append_assoc, List.singleton_append]
    exact (inAddress_append_paren_iff colon).2 inside

/-! ### Web addresses -/

/-- The schemes of web addresses, with their colon and slashes. -/
def webSchemes : List (List Char) :=
  ["https://".toList, "http://".toList]

/-- A web address that may be linked: its scheme and at least one more character, none of them a
blank or a bracket. -/
def IsWebAddress (url : List Char) : Prop :=
  ∃ scheme rest, scheme ∈ webSchemes ∧ rest ≠ [] ∧ (∀ c ∈ rest, isAddressChar c = true) ∧
    url = scheme ++ rest

theorem mem_webSchemes_of_scheme? {s scheme rest : List Char}
    (h : scheme? s = some (scheme, rest)) : scheme ∈ webSchemes := by
  rcases Option.or_eq_some_iff.1 h with h | ⟨-, h⟩ <;>
  · obtain ⟨r, -, he⟩ := Option.map_eq_some_iff.1 h
    obtain ⟨rfl, -⟩ := Prod.mk.inj he
    simp [webSchemes]

theorem scheme?_append {scheme : List Char} (h : scheme ∈ webSchemes) (rest : List Char) :
    scheme? (scheme ++ rest) = some (scheme, rest) := by
  simp only [webSchemes, List.mem_cons, List.not_mem_nil, or_false] at h
  rcases h with rfl | rfl
  · rw [scheme?, after?_append]
    rfl
  · have other : after? "https://".toList ("http://".toList ++ rest) = none := rfl
    rw [scheme?, other, after?_append]
    rfl

namespace IsWebAddress

variable {url : List Char}

/-- All characters of a web address may stand in a linked address. -/
theorem isAddressChar (h : IsWebAddress url) : ∀ c ∈ url, isAddressChar c = true := by
  obtain ⟨scheme, rest, hs, -, chars, rfl⟩ := h
  have schemes : ∀ scheme ∈ webSchemes, scheme.all Markup.isAddressChar = true := by decide
  intro c hc
  rcases List.mem_append.1 hc with hc | hc
  · exact List.all_eq_true.1 (schemes scheme hs) c hc
  · exact chars c hc

theorem isBlank_eq_false (h : IsWebAddress url) : ∀ c ∈ url, isBlank c = false := by
  intro c hc
  have char := h.isAddressChar c hc
  simp only [Markup.isAddressChar, Bool.and_eq_true, Bool.not_eq_true'] at char
  exact char.1.1

/-- A web address has no character that may not stand in a linked address. -/
theorem not_mem (h : IsWebAddress url) {c : Char} (hc : Markup.isAddressChar c = false) : c ∉ url :=
  fun hm => absurd (h.isAddressChar c hm) (by simp [hc])

/-- A web address begins with a letter. -/
theorem exists_cons (h : IsWebAddress url) : ∃ t, url = 'h' :: t := by
  obtain ⟨scheme, rest, hs, -, -, rfl⟩ := h
  obtain ⟨t, rfl⟩ := exists_cons_of_scheme? (scheme?_append hs rest)
  exact ⟨t ++ rest, rfl⟩

/-- The rule for slashes passes over a web address, and over all that follows it up to a blank. -/
theorem address?_append (h : IsWebAddress url) {s : List Char}
    (nonblank : ∀ c ∈ s, isBlank c = false) :
    address? (url ++ s) = some (url ++ s, []) := by
  have found : (address? (url ++ s)).isSome = true := by
    obtain ⟨scheme, rest, hs, -, -, rfl⟩ := h
    rw [isSome_address?_iff]
    simp only [webSchemes, List.mem_cons, List.not_mem_nil, or_false] at hs
    rcases hs with rfl | rfl
    · exact ⟨'h', "ttps".toList, rest ++ s, by simp, by decide,
        List.all_eq_true.1 (by decide)⟩
    · exact ⟨'h', "ttp".toList, rest ++ s, by simp, by decide,
        List.all_eq_true.1 (by decide)⟩
  obtain ⟨⟨address, behind⟩, ha⟩ := Option.isSome_iff_exists.1 found
  have parts := eq_append_of_address? ha
  cases behind with
  | nil => rw [ha, parts, List.append_nil]
  | cons c behind =>
    have blank := (address?_ends ha).2 c rfl
    have member : c ∈ url ++ s := by rw [parts]; simp
    rcases List.mem_append.1 member with hm | hm
    · rw [h.isBlank_eq_false c hm] at blank
      cases blank
    · rw [nonblank c hm] at blank
      cases blank

/-- A web address is one segment. -/
theorem segments_eq (h : IsWebAddress url) : segments url = [.literal url] := by
  obtain ⟨t, ht⟩ := h.exists_cons
  have call : macroCall? url = none := by rw [ht]; rfl
  have target : linkTarget? url = none := by rw [ht]; rfl
  have address : webAddress? url = some (.literal url) := by
    have nonblank := h.isBlank_eq_false
    obtain ⟨scheme, rest, hs, hne, -, rfl⟩ := h
    have whole : rest.takeWhile (!isBlank ·) = rest := by
      have taken := @List.takeWhile_append_of_pos _ (!isBlank ·) rest [] fun c hc => by
        simp [nonblank c (List.mem_append_right _ hc)]
      simpa using taken
    rw [webAddress?, scheme?_append hs, Option.bind_some, whole, if_neg (by simpa using hne)]
  have first : segment? none url = some (.literal url) := by
    rw [segment?, call, target, address]
    rfl
  rw [segments, segmentsAfter_of_segment? first (List.append_nil url).symm,
    segmentsAfter_nil]

end IsWebAddress

/-! ### References in a link target -/

/-- No word of a web address is in a front without colons. -/
theorem webAddress?_caption_eq_none {front : List Char} (colon : ':' ∉ front) (s : List Char) :
    webAddress? (front ++ ']' :: s) = none := by
  cases hs : scheme? (front ++ ']' :: s) with
  | none => rw [webAddress?, hs]; rfl
  | some parts =>
    have schemes : ∀ scheme ∈ webSchemes, ']' ∉ scheme ∧ ':' ∈ scheme := by decide
    obtain ⟨bracket, member⟩ := schemes parts.1 (mem_webSchemes_of_scheme? hs)
    have hp : parts.1 <+: front ++ ']' :: s := ⟨parts.2, (eq_append_of_scheme? hs).symm⟩
    exact absurd ((isPrefix_of_append_cons bracket hp).mem member) colon

/-- No reference is in a front without digits. -/
theorem read?_caption_eq_none {front : List Char} (digits : ∀ c ∈ front, isDigit c = false)
    (form : ReferenceForm) (before : Option Char) (s : List Char) :
    form.read? before (front ++ ']' :: s) = none := by
  cases hr : form.read? before (front ++ ']' :: s) with
  | none => rfl
  | some segment =>
    obtain ⟨d, digit, hp⟩ := form.exists_digit_of_read? hr
    have bracket : ']' ∉ form.opening ++ [d] := by
      rw [List.mem_append, not_or]
      refine ⟨by cases form <;> decide, fun h => ?_⟩
      obtain rfl := List.mem_singleton.1 h
      exact absurd digit (by decide)
    have member : d ∈ front := (isPrefix_of_append_cons bracket hp).mem (by simp)
    rw [digits d member] at digit
    cases digit

/-- No segment begins in the text of a caption. -/
theorem segment?_caption_eq_none {front : List Char} (hne : front ≠ [])
    (plain : ∀ c ∈ front, isDigit c = false ∧ c ≠ ':' ∧ c ≠ ']') (call : ¬ ['[', '['] <+: front)
    (before : Option Char) (s : List Char) : segment? before (front ++ ']' :: s) = none := by
  have macroCall : macroCall? (front ++ ']' :: s) = none := by
    have opening : after? ['[', '['] (front ++ ']' :: s) = none :=
      after?_eq_none_iff.2 fun h => call (isPrefix_of_append_cons (by decide) h)
    rw [macroCall?, opening]
    rfl
  have linkTarget : linkTarget? (front ++ ']' :: s) = none := by
    cases front with
    | nil => exact absurd rfl hne
    | cons c front =>
      have other := (plain c List.mem_cons_self).2.2
      rw [linkTarget?, List.cons_append, after?_cons_cons, if_neg other]
      rfl
  have webAddress := webAddress?_caption_eq_none (fun h => (plain ':' h).2.1 rfl) s
  have reference (form : ReferenceForm) :=
    read?_caption_eq_none (fun c hc => (plain c hc).1) form before s
  rw [segment?, macroCall, linkTarget, webAddress]
  simp [reference]

/-- Where no segment begins in a front, the references are those behind it. -/
theorem forall_segmentsAfter_append_iff {front s : List Char}
    (h : ∀ (before : Option Char) (t : List Char), t <:+ front → t ≠ [] →
      segment? before (t ++ s) = none) (before : Option Char) :
    (∀ segment ∈ segmentsAfter before (front ++ s), segment.isReference = false) ↔
      ∀ segment ∈ segmentsAfter (front.getLast?.or before) s, segment.isReference = false := by
  induction front generalizing before with
  | nil => rfl
  | cons c front ih =>
    have here := h before (c :: front) (List.suffix_refl _) (by simp)
    rw [List.cons_append] at here ⊢
    rw [segmentsAfter_of_none here, List.forall_mem_cons,
      ih fun before t ht => h before t (ht.trans (List.suffix_cons c front)), List.getLast?_cons]
    cases front.getLast? <;> simp [Segment.isReference]

/-- What is left of a link target and its closing parenthesis once the target has been read up to
its first parenthesis.  If a blank comes before that, no target is read, and all of it is left. -/
def unprotected (target : List Char) : List Char :=
  match (target ++ [')']).dropWhile isTargetChar with
  | ')' :: rest => rest
  | _ => target ++ [')']

section Target

variable {before : Option Char} {target rest : List Char}

theorem read?_target_eq_none (form : ReferenceForm) :
    form.read? before (']' :: '(' :: (target ++ [')'])) = none := by
  cases hr : form.read? before (']' :: '(' :: (target ++ [')'])) with
  | none => rfl
  | some segment =>
    obtain ⟨number, rest, hs, ht⟩ := form.eq_append_of_read? hr
    subst hs
    cases form <;> cases ht

/-- A link target is one segment, up to its first parenthesis. -/
theorem forall_segmentsAfter_of_closed
    (closed : (target ++ [')']).dropWhile isTargetChar = ')' :: rest) :
    (∀ segment ∈ segmentsAfter before (']' :: '(' :: (target ++ [')'])),
        segment.isReference = false) ↔
      ∀ segment ∈ segments rest, segment.isReference = false := by
  let read : List Char := [']', '('] ++ (target ++ [')']).takeWhile isTargetChar ++ [')']
  have closing : after? [')'] ((target ++ [')']).dropWhile isTargetChar) = some rest := by
    rw [closed]
    rfl
  have link : linkTarget? (']' :: '(' :: (target ++ [')'])) = some (.literal read) := by
    show (if (after? [')'] ((target ++ [')']).dropWhile isTargetChar)).isSome = true
      then _ else _) = _
    rw [closing, Option.isSome_some, if_pos rfl]
  have call : macroCall? (']' :: '(' :: (target ++ [')'])) = none := rfl
  have first : segment? before (']' :: '(' :: (target ++ [')'])) = some (.literal read) := by
    rw [segment?, call, link]
    rfl
  have parts : ']' :: '(' :: (target ++ [')']) = (Segment.literal read).text ++ rest := by
    conv => lhs; rw [eq_append_of_after?_dropWhile closing]
    simp [Segment.text, read]
  have last : (Segment.literal read).text.getLast? = some ')' := List.getLast?_concat
  have word : wordGoesOn (some ')') = wordGoesOn none := by decide +kernel
  rw [segmentsAfter_of_segment? first parts, List.forall_mem_cons, last, segments,
    segmentsAfter_congr word]
  simp [Segment.isReference]

/-- What has a blank in front of the parenthesis is no link target. -/
theorem forall_segmentsAfter_of_open
    (closed : ¬ ∃ rest, (target ++ [')']).dropWhile isTargetChar = ')' :: rest) :
    (∀ segment ∈ segmentsAfter before (']' :: '(' :: (target ++ [')'])),
        segment.isReference = false) ↔
      ∀ segment ∈ segments (target ++ [')']), segment.isReference = false := by
  have closing : after? [')'] ((target ++ [')']).dropWhile isTargetChar) = none := by
    cases ha : after? [')'] ((target ++ [')']).dropWhile isTargetChar) with
    | none => rfl
    | some rest => exact absurd ⟨rest, after?_eq_some_iff.1 ha⟩ closed
  have link : linkTarget? (']' :: '(' :: (target ++ [')'])) = none := by
    show (if (after? [')'] ((target ++ [')']).dropWhile isTargetChar)).isSome = true
      then _ else _) = _
    rw [closing]
    rfl
  have call : macroCall? (']' :: '(' :: (target ++ [')'])) = none := rfl
  have address : webAddress? (']' :: '(' :: (target ++ [')'])) = none := rfl
  have first : segment? before (']' :: '(' :: (target ++ [')'])) = none := by
    rw [segment?, call, link, address]
    simp [read?_target_eq_none]
  have second : segment? (some ']') ('(' :: (target ++ [')'])) = none :=
    segment?_cons_eq_none (by decide) _ _
  have word : wordGoesOn (some '(') = wordGoesOn none := by decide +kernel
  rw [segmentsAfter_of_none first, segmentsAfter_of_none second, segments,
    segmentsAfter_congr word]
  simp [Segment.isReference]

/-- **References are looked for in what is left of the target.** -/
theorem forall_segmentsAfter_target_iff (before : Option Char) (target : List Char) :
    (∀ segment ∈ segmentsAfter before (']' :: '(' :: (target ++ [')'])),
        segment.isReference = false) ↔
      ∀ segment ∈ segments (unprotected target), segment.isReference = false := by
  unfold unprotected
  split
  · next rest closed => exact forall_segmentsAfter_of_closed closed
  · next other => exact forall_segmentsAfter_of_open fun ⟨rest, closed⟩ => other rest closed

end Target

/-! ### Links -/

/-- A label has letters and spaces, at least one of them. -/
structure IsLabel (label : List Char) : Prop where
  /-- It is not empty. -/
  nonempty : label ≠ []
  /-- All its characters are letters or spaces. -/
  chars : ∀ c ∈ label, isLetter c = true ∨ c = ' '

theorem isDigit_of_isLetter {c : Char} (h : isLetter c = true) : isDigit c = false := by
  have bounds := toNat_of_isAlpha h
  rw [isDigit, digitValue?, Option.isSome_map, Option.isSome_eq_false_iff,
    Option.isNone_iff_eq_none, List.find?_eq_none]
  intro first hz
  simp only [digitZeros, List.mem_cons, List.not_mem_nil, or_false] at hz
  simp only [Bool.and_eq_true, decide_eq_true_eq]
  omega

namespace IsLabel

variable {label : List Char}

theorem of_all (nonempty : label ≠ []) (h : (label.all fun c => isLetter c || c == ' ') = true) :
    IsLabel label where
  nonempty := nonempty
  chars c hc := by simpa using List.all_eq_true.1 h c hc

theorem not_mem (h : IsLabel label) {c : Char} (letter : isLetter c = false) (space : c ≠ ' ') :
    c ∉ label := by
  intro hc
  rcases h.chars c hc with hl | rfl
  · rw [letter] at hl
    cases hl
  · exact space rfl

theorem isDigit_eq_false (h : IsLabel label) : ∀ c ∈ label, isDigit c = false := by
  intro c hc
  rcases h.chars c hc with hl | rfl
  · exact isDigit_of_isLetter hl
  · decide

theorem isLabelChar (h : IsLabel label) : ∀ c ∈ label, isLabelChar c = true := by
  intro c hc
  have opening : c ≠ '[' := fun he => h.not_mem (c := '[') (by decide) (by decide) (he ▸ hc)
  have closing : c ≠ ']' := fun he => h.not_mem (c := ']') (by decide) (by decide) (he ▸ hc)
  simp [Markup.isLabelChar, opening, closing]

end IsLabel

namespace Link

theorem markdown_eq (link : Link) :
    link.markdown = ('[' :: link.label) ++ ']' :: '(' :: (link.url ++ [')']) := by
  simp [markdown]

section Markdown

variable {link : Link} (label : IsLabel link.label)

include label

/-- The caption of a link has letters, spaces and brackets only. -/
theorem not_mem_caption {c : Char} (letter : isLetter c = false)
    (other : c ≠ ' ' ∧ c ≠ '[' ∧ c ≠ ']') : c ∉ ('[' :: link.label) ++ [']'] := by
  have := label.not_mem letter other.1
  simp [this, other]

theorem unformatted_markdown_iff : Unformatted link.markdown ↔ Unformatted link.url := by
  have parts :
      link.markdown = (('[' :: link.label) ++ [']'] ++ ['(']) ++ (link.url ++ [')']) := by
    simp [markdown]
  have escape : '!' ∉ ('[' :: link.label) ++ [']'] ++ ['('] := by
    rw [List.mem_append, not_or]
    exact ⟨not_mem_caption label (by decide) (by decide), by decide⟩
  have quote : '\'' ∉ ('[' :: link.label) ++ [']'] ++ ['('] := by
    rw [List.mem_append, not_or]
    exact ⟨not_mem_caption label (by decide) (by decide), by decide⟩
  rw [parts]
  exact unformatted_between_iff escape quote

theorem unslashed_markdown_iff : Unslashed link.markdown ↔ Unslashed link.url := by
  have parts : link.markdown = (('[' :: link.label) ++ [']']) ++ '(' :: (link.url ++ [')']) := by
    simp [markdown]
  rw [parts]
  exact unslashed_between_iff (not_mem_caption label (by decide) (by decide))
    (not_mem_caption label (by decide) (by decide))

theorem segments_markdown_iff :
    (∀ segment ∈ segments link.markdown, segment.isReference = false) ↔
      ∀ segment ∈ segments (unprotected link.url), segment.isReference = false := by
  rw [segments, markdown_eq, forall_segmentsAfter_append_iff, forall_segmentsAfter_target_iff]
  intro before t ht hne
  refine segment?_caption_eq_none hne (fun c hc => ?_) ?_ before _
  · rcases List.mem_cons.1 (ht.mem hc) with rfl | hc
    · decide
    · refine ⟨label.isDigit_eq_false c hc, ?_, ?_⟩ <;>
      · rintro rfl
        exact label.not_mem (by decide) (by decide) hc
  · exact fun call => not_isInfix_pair (label.not_mem (by decide) (by decide))
      (call.isInfix.trans ht.isInfix)

/-- **A link comes through the emphasis and the references exactly if its target has neither.** -/
theorem linkReferences_markdown_iff (line : '\n' ∉ link.url) (base : List Char) :
    linkReferences base (emphasisRules.foldl (fun text rule => rule.apply text) link.markdown)
        = link.markdown ↔
      Unformatted link.url ∧ Unslashed link.url ∧
        ∀ segment ∈ segments (unprotected link.url), segment.isReference = false := by
  have newline : '\n' ∉ link.markdown := by
    have := label.not_mem (c := '\n') (by decide) (by decide)
    simp [markdown, this, line]
  rw [linkReferences_foldl_eq_self_iff fun _ => unwraps_of_mem_emphasisRules,
    emphasisRules_keep_iff newline, unformatted_markdown_iff label, unslashed_markdown_iff label,
    segments_markdown_iff label, and_assoc]

end Markdown

end Link

/-! ### The three constructs -/

theorem IsWebAddress.unslashed {url : List Char} (h : IsWebAddress url) : Unslashed url := by
  have line : '\n' ∉ url := h.not_mem (by decide)
  have address := h.address?_append (s := []) (by simp)
  rw [List.append_nil] at address
  have passed : slashItalicRule.match? url = some (url, []) := by
    show (address? url).or _ = _
    rw [address]
    rfl
  rw [← slashItalicRule_eq_self_iff line, Rule.apply_of_match passed, Rule.apply_nil,
    List.append_nil]

/-- **An address that stands on its own is left alone exactly if it has no formatting.** -/
theorem inlineMarkdown_webAddress_iff (base : List Char) {url : List Char} (h : IsWebAddress url) :
    inlineMarkdown base url = url ↔ Unformatted url := by
  have opening : ¬ ['['] <:+: url := fun hi =>
    h.not_mem (c := '[') (by decide) (hi.mem List.mem_cons_self)
  have link : linkRule.apply url = url := needs_linkRule.apply_eq_self opening
  have image : imageRule.apply url = url := needs_imageRule.apply_eq_self fun hi =>
    opening (List.IsInfix.trans ⟨[], ['['], rfl⟩ hi)
  have line : '\n' ∉ url := h.not_mem (by decide)
  rw [inlineMarkdown_eq, link, image,
    linkReferences_foldl_eq_self_iff fun _ => unwraps_of_mem_emphasisRules,
    emphasisRules_keep_iff line, h.segments_eq]
  simp [h.unslashed, Segment.isReference]

namespace Link

/-- A link is read from its address, one blank and its label. -/
theorem read?_append {url label : List Char} {c : Char} (hu : IsWebAddress url)
    (blank : isBlank c = true) (hne : label ≠ []) (hl : ∀ d ∈ label, isLabelChar d = true)
    (rest : List Char) :
    read? ('[' :: (url ++ c :: (label ++ ']' :: rest))) = some (⟨url, label⟩, rest) := by
  obtain ⟨scheme, behind, hs, hb, chars, rfl⟩ := hu
  have inAddress : isAddressChar c = false := by simp [isAddressChar, blank]
  have taken : (behind ++ c :: (label ++ ']' :: rest)).takeWhile isAddressChar = behind := by
    rw [List.takeWhile_append_of_pos chars, List.takeWhile_cons_of_neg (by simp [inAddress]),
      List.append_nil]
  have left : (behind ++ c :: (label ++ ']' :: rest)).dropWhile isAddressChar
      = c :: (label ++ ']' :: rest) := by
    rw [List.dropWhile_append_of_pos chars, List.dropWhile_cons_of_neg (by simp [inAddress])]
  have taken' : (label ++ ']' :: rest).takeWhile isLabelChar = label := by
    rw [List.takeWhile_append_of_pos hl, List.takeWhile_cons_of_neg (by decide), List.append_nil]
  have left' : (label ++ ']' :: rest).dropWhile isLabelChar = ']' :: rest := by
    rw [List.dropWhile_append_of_pos hl, List.dropWhile_cons_of_neg (by decide)]
  have labelled (url : List Char) :
      readLabel? url (label ++ ']' :: rest) = some (⟨url, label⟩, rest) := by
    rw [readLabel?, left', taken']
    simp [hne]
  have opening : after? ['['] ('[' :: (scheme ++ behind ++ c :: (label ++ ']' :: rest)))
      = some (scheme ++ (behind ++ c :: (label ++ ']' :: rest))) := by
    rw [← List.append_assoc]
    exact after?_append ['['] _
  rw [read?, opening, Option.bind_some, scheme?_append hs, Option.bind_some, readAddress?]
  simp [left, taken, blank, hb, labelled]

/-- What a link is read from. -/
theorem eq_append_of_read? {s rest : List Char} {link : Link} (h : read? s = some (link, rest)) :
    ∃ c, s = '[' :: (link.url ++ c :: (link.label ++ ']' :: rest)) ∧ IsWebAddress link.url ∧
      isBlank c = true ∧ link.label ≠ [] ∧ ∀ d ∈ link.label, isLabelChar d = true := by
  obtain ⟨inside, hi, h⟩ := Option.bind_eq_some_iff.1 h
  obtain ⟨⟨scheme, tail⟩, hs, h⟩ := Option.bind_eq_some_iff.1 h
  rw [after?_eq_some_iff.1 hi, eq_append_of_scheme? hs]
  unfold readAddress? at h
  split at h
  · next c behind hc =>
    split at h
    · next chars =>
      rw [Bool.and_eq_true, Bool.not_eq_true', List.isEmpty_eq_false_iff] at chars
      unfold readLabel? at h
      split at h
      · next rest' hr =>
        split at h
        · cases h
        · next nonempty =>
          obtain ⟨rfl, rfl⟩ := Prod.mk.inj (Option.some.inj h)
          rw [List.isEmpty_iff] at nonempty
          refine ⟨c, ?_, ⟨scheme, _, mem_webSchemes_of_scheme? hs, chars.2,
            fun d hd => List.all_eq_true.1 List.all_takeWhile d hd, rfl⟩, chars.1, nonempty,
            fun d hd => List.all_eq_true.1 List.all_takeWhile d hd⟩
          rw [← hr, List.takeWhile_append_dropWhile, List.append_assoc, ← hc,
            List.takeWhile_append_dropWhile]
          rfl
      · cases h
    · cases h
  · cases h

end Link

theorem linkRule_match?_eq (s : List Char) :
    linkRule.match? s = (Link.read? s).map fun parts => (parts.1.markdown, parts.2) := rfl

/-- **A linked address is left alone exactly if it has no formatting, and no reference in the part
that is not protected.** -/
theorem inlineMarkdown_link_iff (base : List Char) {url label : List Char} (hu : IsWebAddress url)
    (hl : IsLabel label) :
    inlineMarkdown base ('[' :: (url ++ ' ' :: (label ++ [']']))) = (Link.mk url label).markdown ↔
      Unformatted url ∧ ∀ segment ∈ segments (unprotected url), segment.isReference = false := by
  have link : linkRule.apply ('[' :: (url ++ ' ' :: (label ++ [']'])))
      = (Link.mk url label).markdown := by
    have read : linkRule.match? ('[' :: (url ++ ' ' :: (label ++ [']'])))
        = some ((Link.mk url label).markdown, []) := by
      rw [linkRule_match?_eq, Link.read?_append hu (by decide) hl.nonempty hl.isLabelChar [],
        Option.map_some]
    rw [Rule.apply_of_match read, Rule.apply_nil, List.append_nil]
  have image : imageRule.apply (Link.mk url label).markdown = (Link.mk url label).markdown := by
    refine needs_imageRule.apply_eq_self ?_
    rw [Link.markdown_eq, List.cons_append]
    refine not_isInfix_pair ?_
    have inLabel := hl.not_mem (c := '[') (by decide) (by decide)
    have inUrl := hu.not_mem (c := '[') (by decide)
    simp [inLabel, inUrl]
  have line : '\n' ∉ url := hu.not_mem (by decide)
  rw [inlineMarkdown_eq, link, image, Link.linkReferences_markdown_iff hl line]
  simp [hu.unslashed]

end TicketMigration.Markup
