import TicketMigration.Proofs.Composition
import TicketMigration.Proofs.Parts

/-!
# Plain text

Prose comes through the conversion as it is.  Each rule needs something to begin with: a bracket, an
exclamation mark, a pair of apostrophes or of slashes, a number behind a word that makes it a
reference, or a mark at the front of a line.  A text that has none of these is plain, and then no
rule matches anywhere in it.

A plain text may still have code spans and fences.  The parts that it is cut into at them are plain
again, since they all stand somewhere in the text.

## Main definitions

* `PlainText` — the text has nothing that a rule begins with.
* `InlinePlain` — the same for the rules that are applied within a line.
* `Rule.Needs` — the rule matches only texts that have a marker.

## Main statements

* `inlineMarkdown_of_inlinePlain` — no inline rule changes such a text.
* `LineState.convert_of_plain` — no line is changed, whatever the state is.
* `toMarkdown_of_plainText` — **plain text passes unchanged.**
-/

namespace TicketMigration.Markup

open Text

/-! ### Words with a number -/

/-- The word stands in the text, and a digit right behind it. -/
def NumberBehind (word s : List Char) : Prop :=
  ∃ d, isDigit d = true ∧ word ++ [d] <:+: s

theorem numberBehind_nil (word : List Char) : ¬ NumberBehind word [] := by
  rintro ⟨d, -, h⟩
  simpa using List.infix_nil.1 h

/-- The first such place is at the front or further on. -/
theorem numberBehind_cons (word : List Char) (c : Char) (s : List Char) :
    NumberBehind word (c :: s) ↔
      ((after? word (c :: s)).bind List.head?).any isDigit = true ∨ NumberBehind word s := by
  have front : (∃ d, isDigit d = true ∧ word ++ [d] <+: c :: s) ↔
      ((after? word (c :: s)).bind List.head?).any isDigit = true := by
    simp only [Option.any_eq_true, Option.bind_eq_some_iff]
    constructor
    · rintro ⟨d, hd, rest, hr⟩
      exact ⟨d, ⟨d :: rest, after?_eq_some_iff.2 (by rw [← hr]; simp), rfl⟩, hd⟩
    · rintro ⟨d, ⟨tail, ht, hh⟩, hd⟩
      obtain ⟨rest, rfl⟩ := List.head?_eq_some_iff.1 hh
      exact ⟨d, hd, rest, by rw [after?_eq_some_iff.1 ht]; simp⟩
  rw [← front]
  simp only [NumberBehind, List.infix_cons_iff, and_or_left, exists_or]

instance decidableNumberBehind (word : List Char) :
    (s : List Char) → Decidable (NumberBehind word s)
  | [] => isFalse (numberBehind_nil word)
  | c :: s =>
    have := decidableNumberBehind word s
    decidable_of_iff _ (numberBehind_cons word c s).symm

/-! ### What a plain text does not have -/

/-- The marks of headings, of list items, of dividers and of table rows. -/
def lineMarks : List (List Char) :=
  [['='], [' '], ['-', '-', '-', '-'], ['|', '|']]

/-- The words that make a number a reference. -/
def referenceWords : List (List Char) :=
  [['r'], "ticket:".toList, "changeset:".toList, "report:".toList]

/-- A text that has nothing which the rules within a line look for. -/
structure InlinePlain (s : List Char) : Prop where
  /-- It has none of the characters that open code, links, references and escapes. -/
  noOpening : ∀ c ∈ ['{', '[', '!', '#'], c ∉ s
  /-- It has no two apostrophes and no two slashes in a row. -/
  noPair : ∀ pair ∈ [['\'', '\''], ['/', '/']], ¬ pair <:+: s
  /-- It has no word with a number that makes a reference. -/
  noNumber : ∀ word ∈ referenceWords, ¬ NumberBehind word s

/-- A text that has nothing which any rule looks for. -/
structure PlainText (s : List Char) : Prop extends InlinePlain s where
  /-- No line ends with a carriage return. -/
  noReturn : ¬ ['\r', '\n'] <:+: s
  /-- No line begins with a mark. -/
  noMark : ∀ line ∈ lines s, ∀ mark ∈ lineMarks, ¬ mark <+: line

/-- Whether a mark stands in a text is tested at one place after the other. -/
def decidableIsInfix (mark s : List Char) : Decidable (mark <:+: s) :=
  List.instDecidableIsInfixOfDecidableEq mark s

instance (s : List Char) : Decidable (InlinePlain s) :=
  have (pair : List Char) := decidableIsInfix pair s
  decidable_of_iff ((['{', '[', '!', '#'].all (· ∉ s)) = true ∧
      (∀ pair ∈ [['\'', '\''], ['/', '/']], ¬ pair <:+: s) ∧
      ∀ word ∈ referenceWords, ¬ NumberBehind word s)
    ⟨fun h => ⟨by simpa using h.1, h.2.1, h.2.2⟩,
      fun h => ⟨by simpa using h.noOpening, h.noPair, h.noNumber⟩⟩

instance (s : List Char) : Decidable (PlainText s) :=
  have := decidableIsInfix ['\r', '\n'] s
  decidable_of_iff (InlinePlain s ∧ ¬ ['\r', '\n'] <:+: s ∧
      ∀ line ∈ lines s, ∀ mark ∈ lineMarks, ¬ mark <+: line)
    ⟨fun h => ⟨h.1, h.2.1, h.2.2⟩, fun h => ⟨h.toInlinePlain, h.noReturn, h.noMark⟩⟩

/-- What stands in a plain text is plain. -/
theorem InlinePlain.of_isInfix {s t : List Char} (h : InlinePlain s) (ht : t <:+: s) :
    InlinePlain t where
  noOpening c hc hm := h.noOpening c hc (ht.mem hm)
  noPair pair hp hi := h.noPair pair hp (hi.trans ht)
  noNumber word hw := fun ⟨d, hd, hi⟩ => h.noNumber word hw ⟨d, hd, hi.trans ht⟩

/-! ### Rules that need a marker -/

/-- Where the rule matches, the marker stands in the text. -/
def Rule.Needs (rule : Rule) (marker : List Char) : Prop :=
  ∀ {s parts}, rule.match? s = some parts → marker <:+: s

/-- **A rule does not change a text without the marker that it needs.** -/
theorem Rule.Needs.apply_eq_self {rule : Rule} {marker s : List Char} (needs : rule.Needs marker)
    (h : ¬ marker <:+: s) : rule.apply s = s := by
  refine Rule.apply_eq_self fun t ht => ?_
  cases hm : rule.match? t with
  | none => rfl
  | some parts => exact absurd ((needs hm).trans ht.isInfix) h

/-- A marker that begins with another one. -/
theorem isInfix_of_after? {marker s rest : List Char} (more : List Char)
    (h : after? (marker ++ more) s = some rest) : marker <:+: s := by
  rw [after?_eq_some_iff.1 h, List.append_assoc]
  exact (List.prefix_append _ _).isInfix

theorem needs_linkRule : linkRule.Needs ['['] := fun h => by
  obtain ⟨link, hl, -⟩ := Option.map_eq_some_iff.1 h
  obtain ⟨inside, hi, -⟩ := Option.bind_eq_some_iff.1 hl
  exact isInfix_of_after? [] hi

theorem needs_imageRule : imageRule.Needs ['[', '['] := fun h => by
  obtain ⟨file, hf, -⟩ := Option.map_eq_some_iff.1 h
  obtain ⟨inside, hi, -⟩ := Option.bind_eq_some_iff.1 hf
  exact isInfix_of_after? "Image(".toList hi

theorem needs_escapeRule : escapeRule.Needs ['!'] := fun h => by
  obtain ⟨word, hw, -⟩ := Option.bind_eq_some_iff.1 h
  exact isInfix_of_after? [] hw

theorem needs_boldRule : boldRule.Needs ['\'', '\''] := fun h => by
  obtain ⟨inside, hi, -⟩ := Option.bind_eq_some_iff.1 h
  exact isInfix_of_after? ['\''] hi

theorem isInfix_of_between? {marker s : List Char} {parts : List Char × List Char}
    (h : between? marker s = some parts) : marker <:+: s := by
  obtain ⟨inside, hi, -⟩ := Option.bind_eq_some_iff.1 h
  exact isInfix_of_after? [] (by rwa [List.append_nil])

theorem needs_apostropheItalicRule : apostropheItalicRule.Needs ['\'', '\''] := fun h => by
  obtain ⟨parts, hp, -⟩ := Option.map_eq_some_iff.1 h
  exact isInfix_of_between? hp

/-- An address has two slashes behind its scheme. -/
theorem isInfix_of_address? {s : List Char} {parts : List Char × List Char}
    (h : address? s = some parts) : ['/', '/'] <:+: s := by
  cases s with
  | nil => cases h
  | cons c s =>
    rw [address?] at h
    split at h
    · obtain ⟨tail, ht, -⟩ := Option.map_eq_some_iff.1 h
      refine List.IsInfix.trans ⟨[':'], tail, ?_⟩
        ((List.dropWhile_suffix (l := s) isSchemeChar).trans (List.suffix_cons c s)).isInfix
      rw [after?_eq_some_iff.1 ht]
      rfl
    · cases h

theorem needs_slashItalicRule : slashItalicRule.Needs ['/', '/'] := fun h => by
  rcases Option.or_eq_some_iff.1 h with h | ⟨-, h⟩
  · exact isInfix_of_address? h
  · obtain ⟨parts, hp, -⟩ := Option.map_eq_some_iff.1 h
    exact isInfix_of_between? hp

/-! ### References -/

/-- A reference has a digit behind its opening. -/
theorem ReferenceForm.exists_digit_of_read? {form : ReferenceForm} {before : Option Char}
    {s : List Char} {segment : Segment} (h : form.read? before s = some segment) :
    ∃ d, isDigit d = true ∧ form.opening ++ [d] <+: s := by
  rw [ReferenceForm.read?] at h
  split at h
  · cases h
  · obtain ⟨tail, ht, h⟩ := Option.bind_eq_some_iff.1 h
    split at h
    · cases h
    · next digits =>
      rw [after?_eq_some_iff.1 ht]
      cases tail with
      | nil => exact absurd rfl digits
      | cons d tail =>
        by_cases hd : isDigit d = true
        · exact ⟨d, hd, tail, by simp⟩
        · exact absurd (by simp [hd]) digits

/-- What a reference begins with is an opening character or one of the words. -/
theorem ReferenceForm.opening_cases (form : ReferenceForm) :
    (∃ c ∈ ['{', '[', '!', '#'], form.opening = [c]) ∨ form.opening ∈ referenceWords := by
  cases form with
  | hash => exact .inl ⟨'#', by decide, rfl⟩
  | bracket => exact .inl ⟨'[', by decide, rfl⟩
  | brace => exact .inl ⟨'{', by decide, rfl⟩
  | ticket => exact .inr (by decide)
  | changeset => exact .inr (by decide)
  | revision => exact .inr (by decide)
  | report => exact .inr (by decide)

/-- A text in which no reference can be read is unchanged. -/
theorem linkReferences_eq_self_of_read? {s : List Char}
    (h : ∀ (form : ReferenceForm) before t, t <:+ s → form.read? before t = none)
    (base : List Char) : linkReferences base s = s := by
  refine (linkReferences_eq_self_iff base s).2 fun segment hs => ?_
  by_contra refers
  obtain ⟨form, before, t, ht, hr⟩ :=
    exists_read?_of_mem_segmentsAfter hs (Bool.not_eq_false _ ▸ refers)
  rw [h form before t ht] at hr
  cases hr

namespace InlinePlain

variable {s : List Char}

/-- A plain text has no reference. -/
theorem read?_eq_none (h : InlinePlain s) (form : ReferenceForm) (before : Option Char) :
    form.read? before s = none := by
  cases hr : form.read? before s with
  | none => rfl
  | some segment =>
    obtain ⟨d, hd, hp⟩ := form.exists_digit_of_read? hr
    rcases form.opening_cases with ⟨c, hc, ho⟩ | hw
    · exact absurd (hp.mem (by simp [ho])) (h.noOpening c hc)
    · exact absurd ⟨d, hd, hp.isInfix⟩ (h.noNumber _ hw)

theorem linkReferences_eq_self (h : InlinePlain s) (base : List Char) :
    linkReferences base s = s :=
  linkReferences_eq_self_of_read? (fun form before _ ht =>
    (h.of_isInfix ht.isInfix).read?_eq_none form before) base

/-- No rule that replaces one construct by another changes a plain text. -/
theorem apply_eq_self (h : InlinePlain s) {rule : Rule} (hr : rule ∈ inlineRules) :
    rule.apply s = s := by
  have opening (c : Char) (hc : c ∈ ['{', '[', '!', '#']) : ¬ [c] <:+: s := fun hi =>
    h.noOpening c hc (hi.mem List.mem_cons_self)
  simp only [inlineRules, List.mem_cons, List.not_mem_nil, or_false] at hr
  rcases hr with rfl | rfl | rfl | rfl | rfl | rfl
  · exact needs_linkRule.apply_eq_self (opening '[' (by decide))
  · exact needs_imageRule.apply_eq_self fun hi =>
      opening '[' (by decide) (List.IsInfix.trans ⟨[], ['['], rfl⟩ hi)
  · exact needs_escapeRule.apply_eq_self (opening '!' (by decide))
  · exact needs_boldRule.apply_eq_self (h.noPair _ (by decide))
  · exact needs_apostropheItalicRule.apply_eq_self (h.noPair _ (by decide))
  · exact needs_slashItalicRule.apply_eq_self (h.noPair _ (by decide))

end InlinePlain

/-- Conversions that all keep a text keep it one after the other. -/
theorem foldl_eq_self {α : Type} {apply : α → List Char → List Char} {as : List α} {s : List Char}
    (h : ∀ a ∈ as, apply a s = s) : as.foldl (fun text a => apply a text) s = s := by
  induction as with
  | nil => rfl
  | cons a as ih =>
    rw [List.foldl_cons, h a List.mem_cons_self, ih fun b hb => h b (List.mem_cons_of_mem _ hb)]

/-- **The inline markup of a plain text is the text.** -/
theorem inlineMarkdown_of_inlinePlain {s : List Char} (h : InlinePlain s) (base : List Char) :
    inlineMarkdown base s = s := by
  rw [inlineMarkdown, foldl_eq_self fun rule hr => h.apply_eq_self hr, h.linkReferences_eq_self]

/-! ### Lines -/

section NoMark

variable {line : List Char}

theorem headingRule_eq_none (h : ¬ ['='] <+: line) {level : Nat} (hl : level ≠ 0) :
    headingRule level line = none := by
  obtain ⟨n, rfl⟩ := Nat.exists_eq_succ_of_ne_zero hl
  have none : after? (List.replicate (n + 1) '=') line = none :=
    after?_eq_none_iff.2 fun hp => h ((List.prefix_append ['='] (List.replicate n '=')).trans hp)
  rw [headingRule, none]

theorem bulletRule_eq_none (h : ¬ [' '] <+: line) {indentation : Nat} (hi : indentation ≠ 0)
    (depth : Nat) : bulletRule indentation depth line = none := by
  obtain ⟨n, rfl⟩ := Nat.exists_eq_succ_of_ne_zero hi
  have none : after? (List.replicate (n + 1) ' ' ++ ['*', ' ']) line = none :=
    after?_eq_none_iff.2 fun hp =>
      h ((List.prefix_append [' '] (List.replicate n ' ' ++ ['*', ' '])).trans hp)
  rw [bulletRule, none, Option.map_none]

theorem numberedRule_eq_none (h : ¬ [' '] <+: line) : numberedRule line = none := by
  unfold numberedRule
  split
  · exact absurd (List.prefix_append [' '] _) h
  · rfl

/-- A divider has nothing but dashes, so it begins with the four that it has at least. -/
theorem dividerRule_eq_none (h : ¬ ['-', '-', '-', '-'] <+: line) : dividerRule line = none := by
  rw [Option.eq_none_iff_forall_ne_some]
  intro out hr
  obtain ⟨n, hn, rfl, -⟩ := exists_of_dividerRule hr
  exact h (List.prefix_replicate_iff.2 ⟨by simpa using hn, rfl⟩)

/-- A block rule accepts no line without a mark. -/
theorem blockRule_of_noMark (h : ∀ mark ∈ lineMarks, ¬ mark <+: line) {rule : LineRule}
    (hr : rule ∈ blockRules) : rule line = none := by
  have equals := h ['='] (by decide)
  have space := h [' '] (by decide)
  apply of_mem_blockRules (P := fun rule => rule line = none) hr
  · intro _ hl
    exact headingRule_eq_none equals hl
  · intro _ depth hi _
    exact bulletRule_eq_none space hi depth
  · exact numberedRule_eq_none space
  · exact dividerRule_eq_none (h _ (by decide))

theorem applyLineRule_of_noMark (hn : '\n' ∉ line) (h : ∀ mark ∈ lineMarks, ¬ mark <+: line)
    {rule : LineRule} (hr : rule ∈ blockRules) : applyLineRule rule line = line := by
  rw [applyLineRule_line rule hn, blockRule_of_noMark h hr, Option.getD_none]

theorem blockMarkdown_of_noMark (hn : '\n' ∉ line)
    (h : ∀ mark ∈ lineMarks, ¬ mark <+: line) : blockMarkdown line = line :=
  foldl_eq_self fun _ hr => applyLineRule_of_noMark hn h hr

end NoMark

/-- **The pass over the lines keeps a plain line, in whatever state it comes to it.** -/
theorem LineState.convert_of_plain (base : List Char) (state : LineState) {line : List Char}
    (h : InlinePlain line) (hrow : isRow line = false) : (state.convert base line).2 = line := by
  have converted : mapBetweenSpans (inlineMarkdown base) line = line :=
    mapBetweenSpans_eq_self fun part hp => inlineMarkdown_of_inlinePlain (h.of_isInfix hp) base
  cases hf : isFence line with
  | true => rw [convert_of_isFence base hf]
  | false =>
    cases hc : state.code with
    | code => rw [convert_of_code base hf hc]
    | text =>
      rw [convert_of_not_kept base (FenceState.keeps_eq_false_iff.2 ⟨hf, hc⟩), converted,
        if_neg (by simp [hrow])]

theorem linesMarkdownFrom_of_plain (base : List Char) (state : LineState) {ls : List (List Char)}
    (h : ∀ line ∈ ls, InlinePlain line) (hrow : ∀ line ∈ ls, isRow line = false) :
    linesMarkdownFrom base state ls = ls := by
  induction ls generalizing state with
  | nil => rfl
  | cons line rest ih =>
    rw [linesMarkdownFrom, state.convert_of_plain base (h line List.mem_cons_self)
        (hrow line List.mem_cons_self),
      ih _ (fun l hl => h l (List.mem_cons_of_mem _ hl))
        fun l hl => hrow l (List.mem_cons_of_mem _ hl)]

/-! ### Texts -/

/-- Without a newline behind a carriage return, the line ends stay. -/
theorem unixNewlines_eq_self {s : List Char} (h : ¬ ['\r', '\n'] <:+: s) : unixNewlines s = s := by
  induction s using unixNewlines.induct with
  | case1 => rfl
  | case2 c => rfl
  | case3 c d s hcd ih =>
    simp only [Bool.and_eq_true, decide_eq_true_eq] at hcd
    obtain ⟨rfl, rfl⟩ := hcd
    exact absurd ⟨[], s, rfl⟩ h
  | case4 c d s hcd ih =>
    rw [unixNewlines, if_neg hcd, ih fun hi => h (hi.trans (List.suffix_cons _ _).isInfix)]

namespace PlainText

variable {s : List Char}

/-- Each line of a plain text is plain. -/
theorem inlinePlain_of_mem_lines (h : PlainText s) {line : List Char} (hl : line ∈ lines s) :
    InlinePlain line := by
  refine h.toInlinePlain.of_isInfix ?_
  obtain ⟨front, behind, hs⟩ := List.append_of_mem hl
  cases front with
  | nil =>
    rw [eq_append_furtherLines hs]
    exact (List.prefix_append _ _).isInfix
  | cons first front =>
    rw [List.cons_append] at hs
    rw [eq_append_furtherLines hs, furtherLines_append, furtherLines_cons]
    exact ⟨first ++ furtherLines front ++ ['\n'], furtherLines behind, by simp⟩

theorem isRow_of_mem_lines (h : PlainText s) {line : List Char} (hl : line ∈ lines s) :
    isRow line = false := by
  rw [Bool.eq_false_iff, ne_eq, isRow_eq_true_iff]
  exact h.noMark line hl _ (by decide)

theorem codeMarkdown_eq_self (h : PlainText s) : codeMarkdown s = s :=
  codeMarkdown_of_noCode fun hi => h.noOpening '{' (by decide) (hi.mem List.mem_cons_self)

theorem mapUnfenced_eq_self (h : PlainText s) : mapUnfenced blockMarkdown s = s := by
  have kept : walk (unlessKept blockMarkdown) .text (lines s) = lines s := by
    rw [walk_eq_mapIdx]
    refine List.ext_getElem (by simp) fun i _ hi => ?_
    have member : (lines s)[i] ∈ lines s := List.getElem_mem hi
    rw [List.getElem_mapIdx, unlessKept, blockMarkdown_of_noMark (not_mem_of_mem_lines member)
      (h.noMark _ member), ite_self]
  rw [mapUnfenced_eq_walk linewise_blockMarkdown, kept, unlines_lines]

theorem textMarkdown_eq_self (h : PlainText s) (base : List Char) : textMarkdown base s = s := by
  rw [textMarkdown, unixNewlines_eq_self h.noReturn, h.codeMarkdown_eq_self, h.mapUnfenced_eq_self,
    linesMarkdown, linesMarkdownFrom_of_plain base {} (fun _ => h.inlinePlain_of_mem_lines)
      (fun _ => h.isRow_of_mem_lines), unlines_lines]

end PlainText

/-- **Plain text passes unchanged**, wherever references would lead. -/
theorem toMarkdown_of_plainText (text base : String) (h : PlainText text.toList) :
    toMarkdown text base = text := by
  rw [toMarkdown_eq, h.textMarkdown_eq_self, String.ofList_toList]

/-- Prose with code, a fence, and single characters that would be markup in other places. -/
theorem toMarkdown_of_plainText_prose :
    toMarkdown
        "It isn't a||b] or = c, see `x /\n```py\ny = 2*(x) and/or r = 12\n```\n1. ** ticket: 12(5"
        "https://trac.example.org"
      = "It isn't a||b] or = c, see `x /\n```py\ny = 2*(x) and/or r = 12\n```\n1. ** ticket: 12(5" :=
  toMarkdown_of_plainText _ _ (by simp only [String.reduceToList]; decide +kernel)

end TicketMigration.Markup
