import TicketMigration.Proofs.Composition
import TicketMigration.Proofs.Parts
import TicketMigration.Proofs.WrittenNumber

/-!
# Texts that say nothing

Every construct of the markup begins with a character that is no blank, and so does what is written
for it, or what follows it where nothing is written.  So no rule matches in a text of blanks, and
none makes such a text of another one: a text has something to say after the conversion exactly if
it had before.

## Main definitions

* `Visible s` — the text has a character that is no blank.
* `KeepsBlankness f` — `f` turns blank texts into blank texts, and visible ones into visible ones.
* `Rule.IsVisible`, `LineRule.IsVisible` — what the rule reads and what it leaves is visible.

## Main statements

* `keepsBlankness_apply`, `keepsBlankness_applyLineRule` — visible rules keep blankness.
* `keepsBlankness_textMarkdown` — **the whole conversion keeps blankness.**
-/

namespace TicketMigration.Text

/-! ### Blank texts -/

/-- No printing character of ASCII is a blank. -/
theorem isBlank_eq_false {c : Char} (h : 32 < c.toNat) (h' : c.toNat < 127) :
    isBlank c = false := by
  simp only [isBlank, blankRanges, within_cons, within_nil, Bool.or_false, Bool.or_eq_false_iff,
    Bool.and_eq_false_iff, decide_eq_false_iff_not]
  omega

theorem toNat_of_isUpper {c : Char} (h : c.isUpper = true) : 65 ≤ c.toNat ∧ c.toNat ≤ 90 := by
  obtain ⟨low, high⟩ : c.val ≥ 'A'.val ∧ c.val ≤ 'Z'.val := of_decide_eq_true h
  exact ⟨UInt32.le_iff_toNat_le.1 low, UInt32.le_iff_toNat_le.1 high⟩

theorem toNat_of_isLower {c : Char} (h : c.isLower = true) : 97 ≤ c.toNat ∧ c.toNat ≤ 122 := by
  obtain ⟨low, high⟩ := Bool.and_eq_true_iff.1 h
  exact ⟨UInt32.le_iff_toNat_le.1 (of_decide_eq_true low),
    UInt32.le_iff_toNat_le.1 (of_decide_eq_true high)⟩

theorem toNat_of_isAlpha {c : Char} (h : c.isAlpha = true) :
    (65 ≤ c.toNat ∧ c.toNat ≤ 90) ∨ (97 ≤ c.toNat ∧ c.toNat ≤ 122) :=
  (Bool.or_eq_true_iff.1 h).imp toNat_of_isUpper toNat_of_isLower

/-- Letters and digits of ASCII are no blanks. -/
theorem isBlank_of_isAlphanum {c : Char} (h : c.isAlphanum = true) : isBlank c = false := by
  rcases Bool.or_eq_true_iff.1 h with letter | digit
  · have bounds := toNat_of_isAlpha letter
    exact isBlank_eq_false (by omega) (by omega)
  · exact isBlank_of_isDigit digit

theorem isBlankText_append (a b : List Char) :
    isBlankText (a ++ b) = (isBlankText a && isBlankText b) := List.all_append

theorem isBlankText_flatMap {α : Type} (f : α → List Char) (as : List α) :
    isBlankText (as.flatMap f) = as.all fun a => isBlankText (f a) := List.all_flatMap

/-- Joined texts are blank if all of them are, since a newline is a blank. -/
theorem isBlankText_unlines (ls : List (List Char)) :
    isBlankText (unlines ls) = ls.all isBlankText := by
  cases ls with
  | nil => rfl
  | cons l ls =>
    have newline : isBlank '\n' = true := by decide
    rw [unlines_cons_eq, isBlankText_append, furtherLines, isBlankText_flatMap, List.all_cons]
    simp [newline]

theorem all_isBlankText_lines (s : List Char) : (lines s).all isBlankText = isBlankText s := by
  rw [← isBlankText_unlines, unlines_lines]

end TicketMigration.Text

namespace TicketMigration.Markup

open Text

/-- The text has a character that is no blank. -/
abbrev Visible (s : List Char) : Prop :=
  isBlankText s = false

theorem visible_cons {c : Char} (h : isBlank c = false) (s : List Char) : Visible (c :: s) := by
  simp [Visible, h]

theorem visible_append_left {a : List Char} (h : Visible a) (b : List Char) : Visible (a ++ b) := by
  rw [Visible, isBlankText_append, h, Bool.false_and]

theorem visible_append_right (a : List Char) {b : List Char} (h : Visible b) :
    Visible (a ++ b) := by
  rw [Visible, isBlankText_append, h, Bool.and_false]

/-- What begins with a visible marker is visible. -/
theorem visible_of_after? {marker s rest : List Char} (hm : Visible marker)
    (h : after? marker s = some rest) : Visible s := by
  rw [after?_eq_some_iff.1 h]
  exact visible_append_left hm rest

theorem isBlank_of_isLetter {c : Char} (h : isLetter c = true) : isBlank c = false :=
  isBlank_of_isAlphanum (Bool.or_eq_true_iff.2 (.inl h))

/-! ### Conversions that keep blankness -/

/-- The conversion turns blank texts into blank texts, and visible ones into visible ones. -/
def KeepsBlankness (f : List Char → List Char) : Prop :=
  ∀ s, isBlankText (f s) = isBlankText s

namespace KeepsBlankness

variable {f g : List Char → List Char}

theorem comp (hg : KeepsBlankness g) (hf : KeepsBlankness f) : KeepsBlankness fun s => g (f s) :=
  fun s => (hg (f s)).trans (hf s)

/-- Conversions that are made one after the other. -/
theorem foldl {α : Type} {apply : α → List Char → List Char} {as : List α}
    (h : ∀ a ∈ as, KeepsBlankness (apply a)) :
    KeepsBlankness fun s => as.foldl (fun text a => apply a text) s := by
  induction as with
  | nil => exact fun _ => rfl
  | cons a as ih =>
    exact (ih fun b hb => h b (List.mem_cons_of_mem _ hb)).comp (h a List.mem_cons_self)

/-- Lines that are converted one by one. -/
theorem mapLines (hf : KeepsBlankness f) : KeepsBlankness (mapLines f) := by
  intro s
  rw [Text.mapLines, isBlankText_unlines, List.all_map, ← all_isBlankText_lines s]
  exact congrArg (fun p => List.all (lines s) p) (funext hf)

/-- Texts between code spans that are converted one by one.  A code span itself is visible. -/
theorem mapBetweenSpans (hf : KeepsBlankness f) : KeepsBlankness (mapBetweenSpans f) := by
  intro s
  conv => rhs; rw [← spans_append_flatMap s]
  rw [Markup.mapBetweenSpans, isBlankText_append, isBlankText_append, isBlankText_flatMap,
    isBlankText_flatMap, hf]
  simp only [isBlankText_append, hf _]

end KeepsBlankness

/-! ### Rules -/

/-- What the rule reads is visible, and so is what it writes with the rest. -/
structure Rule.IsVisible (rule : Rule) : Prop where
  /-- A match begins with something visible. -/
  reads : ∀ {s out rest}, rule.match? s = some (out, rest) → Visible s
  /-- A match leaves something visible. -/
  leaves : ∀ {s out rest}, rule.match? s = some (out, rest) → Visible (out ++ rest)

/-- **A visible rule keeps blankness.** -/
theorem keepsBlankness_apply {rule : Rule} (h : rule.IsVisible) : KeepsBlankness rule.apply := by
  intro s
  induction s using Rule.apply.induct rule with
  | case1 => rw [Rule.apply_nil]
  | case2 c s out rest hm ih =>
    rw [Rule.apply_of_match hm, isBlankText_append, ih, ← isBlankText_append, h.leaves hm,
      h.reads hm]
  | case3 c s hm ih => rw [Rule.apply_of_no_match hm, isBlankText_cons, isBlankText_cons, ih]

/-- A rule that reads a visible marker and writes something that begins with a visible
character. -/
theorem Rule.IsVisible.of_marker {rule : Rule} (marker : List Char) (c : Char)
    (hm : Visible marker) (hc : isBlank c = false)
    (h : ∀ {s out rest}, rule.match? s = some (out, rest) →
      (∃ inside, after? marker s = some inside) ∧ ∃ t, out = c :: t) : rule.IsVisible where
  reads hmatch := by
    obtain ⟨⟨inside, hi⟩, -⟩ := h hmatch
    exact visible_of_after? hm hi
  leaves hmatch := by
    obtain ⟨-, t, rfl⟩ := h hmatch
    exact visible_cons hc _

theorem isVisible_codeSpanRule : codeSpanRule.IsVisible := by
  refine .of_marker codeOpening '`' (by decide) (by decide) fun h => ?_
  obtain ⟨parts, hp, he⟩ := Option.map_eq_some_iff.1 h
  obtain ⟨inside, hi, -⟩ := Option.bind_eq_some_iff.1 hp
  exact ⟨⟨inside, hi⟩, _, (Prod.mk.inj he).1.symm⟩

theorem isVisible_codeBlockRule : codeBlockRule.IsVisible := by
  refine .of_marker (codeOpening ++ ['\n']) '`' (by decide) (by decide) fun h => ?_
  obtain ⟨parts, hp, he⟩ := Option.map_eq_some_iff.1 h
  obtain ⟨inside, hi, -⟩ := Option.bind_eq_some_iff.1 hp
  exact ⟨⟨inside, hi⟩, _, (Prod.mk.inj he).1.symm⟩

theorem isVisible_linkRule : linkRule.IsVisible := by
  refine .of_marker ['['] '[' (by decide) (by decide) fun h => ?_
  obtain ⟨parts, hp, he⟩ := Option.map_eq_some_iff.1 h
  obtain ⟨inside, hi, -⟩ := Option.bind_eq_some_iff.1 hp
  exact ⟨⟨inside, hi⟩, _, (Prod.mk.inj he).1.symm⟩

theorem isVisible_imageRule : imageRule.IsVisible := by
  refine .of_marker "[[Image(".toList '!' (by decide) (by decide) fun h => ?_
  obtain ⟨parts, hp, he⟩ := Option.map_eq_some_iff.1 h
  obtain ⟨inside, hi, -⟩ := Option.bind_eq_some_iff.1 hp
  exact ⟨⟨inside, hi⟩, _, (Prod.mk.inj he).1.symm⟩

/-- The escape rule writes nothing, but leaves a word that begins with a capital. -/
theorem isVisible_escapeRule : escapeRule.IsVisible := by
  have humps {word : List Char} (h : ((afterHump? word).bind afterHump?).isSome = true) :
      Visible word := by
    have first : (afterHump? word).isSome = true := by
      cases hf : afterHump? word with
      | none => simp [hf] at h
      | some tail => rfl
    obtain ⟨c, rest, rfl, hc⟩ := exists_cons_of_afterHump? first
    exact visible_cons (isBlank_of_isLetter (by simp [isLetter, hc])) rest
  constructor
  · intro s out rest h
    obtain ⟨word, hw, -⟩ := Option.bind_eq_some_iff.1 h
    exact visible_of_after? (by decide) hw
  · intro s out rest h
    obtain ⟨word, -, h⟩ := Option.bind_eq_some_iff.1 h
    split at h
    · next hump =>
      obtain ⟨rfl, rfl⟩ := Prod.mk.inj (Option.some.inj h)
      exact humps hump
    · cases h

theorem isVisible_boldRule : boldRule.IsVisible := by
  refine .of_marker ['\'', '\'', '\''] '*' (by decide) (by decide) fun h => ?_
  obtain ⟨inside, hi, h⟩ := Option.bind_eq_some_iff.1 h
  obtain ⟨rest, -, he⟩ := Option.map_eq_some_iff.1 h
  exact ⟨⟨inside, hi⟩, _, (Prod.mk.inj he).1.symm⟩

theorem isVisible_apostropheItalicRule : apostropheItalicRule.IsVisible := by
  refine .of_marker ['\'', '\''] '_' (by decide) (by decide) fun h => ?_
  obtain ⟨parts, hp, he⟩ := Option.map_eq_some_iff.1 h
  obtain ⟨inside, hi, -⟩ := Option.bind_eq_some_iff.1 hp
  exact ⟨⟨inside, hi⟩, _, (Prod.mk.inj he).1.symm⟩

/-- An address begins with a letter and is kept. -/
theorem exists_cons_of_address? {s address rest : List Char}
    (h : address? s = some (address, rest)) :
    ∃ c t u, s = c :: t ∧ address = c :: u ∧ isLetter c = true := by
  cases s with
  | nil => cases h
  | cons c t =>
    rw [address?] at h
    split at h
    · next hc =>
      obtain ⟨tail, -, he⟩ := Option.map_eq_some_iff.1 h
      obtain ⟨rfl, -⟩ := Prod.mk.inj he
      exact ⟨c, t, _, rfl, rfl, hc⟩
    · cases h

theorem isVisible_slashItalicRule : slashItalicRule.IsVisible := by
  have italics {s out rest : List Char}
      (h : (between? ['/', '/'] s).map (fun parts => ('_' :: parts.1 ++ ['_'], parts.2))
        = some (out, rest)) : Visible s ∧ Visible out := by
    obtain ⟨parts, hp, he⟩ := Option.map_eq_some_iff.1 h
    obtain ⟨inside, hi, -⟩ := Option.bind_eq_some_iff.1 hp
    obtain ⟨rfl, -⟩ := Prod.mk.inj he
    exact ⟨visible_of_after? (by decide) hi, visible_cons (by decide) _⟩
  constructor
  · intro s out rest h
    rcases Option.or_eq_some_iff.1 h with h | ⟨-, h⟩
    · obtain ⟨c, t, u, rfl, rfl, hc⟩ := exists_cons_of_address? h
      exact visible_cons (isBlank_of_isLetter hc) t
    · exact (italics h).1
  · intro s out rest h
    rcases Option.or_eq_some_iff.1 h with h | ⟨-, h⟩
    · obtain ⟨c, t, u, rfl, rfl, hc⟩ := exists_cons_of_address? h
      exact visible_cons (isBlank_of_isLetter hc) _
    · exact visible_append_left (italics h).2 rest

theorem isVisible_cellHeadingRule : cellHeadingRule.IsVisible := by
  refine .of_marker ['=', ' '] '*' (by decide) (by decide) fun h => ?_
  obtain ⟨parts, hp, he⟩ := Option.map_eq_some_iff.1 h
  obtain ⟨inside, hi, -⟩ := Option.bind_eq_some_iff.1 hp
  exact ⟨⟨inside, hi⟩, _, (Prod.mk.inj he).1.symm⟩

theorem isVisible_of_mem_inlineRules {rule : Rule} (h : rule ∈ inlineRules) : rule.IsVisible := by
  simp only [inlineRules, List.mem_cons, List.not_mem_nil, or_false] at h
  rcases h with rfl | rfl | rfl | rfl | rfl | rfl
  · exact isVisible_linkRule
  · exact isVisible_imageRule
  · exact isVisible_escapeRule
  · exact isVisible_boldRule
  · exact isVisible_apostropheItalicRule
  · exact isVisible_slashItalicRule

/-! ### Inline markup -/

theorem visible_text_of_segment? {before : Option Char} {s : List Char} {segment : Segment}
    (h : segment? before s = some segment) : Visible segment.text := by
  have marks : (['[', ']', 'h', '#', 't', 'c', 'r', '{'].all (!isBlank ·)) = true := by decide
  obtain ⟨c, t, ht, hc⟩ := exists_cons_text_of_segment? h
  rw [ht]
  exact visible_cons (by simpa using List.all_eq_true.1 marks c hc) t

/-- A visible segment is written visibly. -/
theorem Segment.visible_render {segment : Segment} (h : Visible segment.text) (base : List Char) :
    Visible (segment.render base) := by
  cases segment with
  | literal text => exact h
  | reference form number => exact visible_cons (by decide) _

theorem keepsBlankness_linkReferences (base : List Char) :
    KeepsBlankness (linkReferences base) := by
  intro s
  rw [linkReferences, segments]
  generalize (none : Option Char) = before
  induction before, s using segmentsAfter_induction with
  | nil => simp
  | read before s segment rest h hs ih =>
    have text := visible_text_of_segment? h
    rw [segmentsAfter_of_segment? h hs, List.flatMap_cons,
      visible_append_left (segment.visible_render text base), hs, visible_append_left text]
  | pass before c s h ih =>
    rw [segmentsAfter_of_none h, List.flatMap_cons, isBlankText_append, ih]
    simp [Segment.render]

theorem keepsBlankness_inlineMarkdown (base : List Char) : KeepsBlankness (inlineMarkdown base) :=
  (keepsBlankness_linkReferences base).comp
    (KeepsBlankness.foldl fun _ h => keepsBlankness_apply (isVisible_of_mem_inlineRules h))

/-! ### Line rules -/

/-- The line rule accepts only visible lines and writes visible text for them. -/
def LineRule.IsVisible (rule : LineRule) : Prop :=
  ∀ {line out}, rule line = some out → Visible line ∧ Visible out

theorem keepsBlankness_applyLineRule {rule : LineRule} (h : rule.IsVisible) :
    KeepsBlankness (applyLineRule rule) := by
  refine KeepsBlankness.mapLines fun line => ?_
  cases hr : rule line with
  | none => rfl
  | some out => rw [Option.getD_some, (h hr).1, (h hr).2]

theorem visible_replicate {n : Nat} {c : Char} (hn : n ≠ 0) (hc : isBlank c = false) :
    Visible (List.replicate n c) := by
  obtain ⟨n, rfl⟩ := Nat.exists_eq_succ_of_ne_zero hn
  exact visible_cons hc _

theorem isVisible_headingRule {level : Nat} (hl : level ≠ 0) : (headingRule level).IsVisible := by
  intro line out h
  obtain ⟨gaps, s, -, -, -, rfl, rfl⟩ := exists_of_headingRule h
  exact ⟨visible_append_left (visible_replicate hl (by decide)) _,
    visible_append_left (visible_replicate hl (by decide)) _⟩

theorem isVisible_bulletRule (indentation : Nat) {depth : Nat} (hd : depth ≠ 0) :
    (bulletRule indentation depth).IsVisible := by
  intro line out h
  obtain ⟨s, rfl, rfl⟩ := exists_of_bulletRule h
  exact ⟨visible_append_right _ (visible_cons (by decide) _),
    visible_append_left (visible_replicate hd (by decide)) _⟩

/-- Behind the digits of a numbered point there is a point. -/
theorem isVisible_numberedRule : numberedRule.IsVisible := by
  intro line out h
  obtain ⟨digits, s, -, -, rfl, rfl⟩ := exists_of_numberedRule h
  exact ⟨visible_append_right (' ' :: digits) (visible_cons (by decide) _),
    visible_cons (by decide) _⟩

theorem isVisible_dividerRule : dividerRule.IsVisible := by
  intro line out h
  obtain ⟨n, hn, rfl, rfl⟩ := exists_of_dividerRule h
  have dashes : Visible (List.replicate n '-') := visible_replicate (by omega) (by decide)
  exact ⟨dashes, visible_append_right ['\n'] dashes⟩

theorem isVisible_of_mem_blockRules {rule : LineRule} (h : rule ∈ blockRules) :
    rule.IsVisible := by
  apply of_mem_blockRules (P := LineRule.IsVisible) h
  · intro level hl
    exact isVisible_headingRule hl
  · intro indentation depth _ hd
    exact isVisible_bulletRule indentation hd
  · exact isVisible_numberedRule
  · exact isVisible_dividerRule

theorem keepsBlankness_blockMarkdown : KeepsBlankness blockMarkdown :=
  KeepsBlankness.foldl fun _ h => keepsBlankness_applyLineRule (isVisible_of_mem_blockRules h)

/-- Outside the fences every line is converted on its own. -/
theorem keepsBlankness_mapUnfenced {f : List Char → List Char} (hf : Linewise f)
    (h : KeepsBlankness f) : KeepsBlankness (mapUnfenced f) := by
  intro s
  have line (state : FenceState) (l : List Char) :
      isBlankText (unlessKept f state l) = isBlankText l := by
    rw [unlessKept]
    split
    · rfl
    · exact h l
  have walked (state : FenceState) (ls : List (List Char)) :
      (walk (unlessKept f) state ls).all isBlankText = ls.all isBlankText := by
    induction ls generalizing state with
    | nil => rfl
    | cons l ls ih => rw [walk_cons, List.all_cons, List.all_cons, ih, line]
  rw [mapUnfenced_eq_walk hf, isBlankText_unlines, walked, all_isBlankText_lines]

/-! ### The pass over the lines -/

/-- The first bar of a pair is kept. -/
theorem keepsBlankness_singleBars : KeepsBlankness singleBars := by
  intro s
  induction s using singleBars.induct with
  | case1 => rfl
  | case2 c => rfl
  | case3 c d s h ih =>
    rw [Bool.and_eq_true, decide_eq_true_eq, decide_eq_true_eq] at h
    obtain ⟨rfl, rfl⟩ := h
    rw [singleBars, if_pos (by decide), visible_cons (by decide), visible_cons (by decide)]
  | case4 c d s h ih => rw [singleBars, if_neg h, isBlankText_cons, ih, ← isBlankText_cons]

/-- A row begins with bars. -/
theorem visible_of_isRow {line : List Char} (h : isRow line = true) : Visible line := by
  obtain ⟨rest, hr⟩ := Option.isSome_iff_exists.1 h
  exact visible_of_after? (by decide) hr

theorem visible_rowMarkdown (table : RowState) {row : List Char} (h : Visible row) :
    Visible (rowMarkdown table row) := by
  rw [rowMarkdown.eq_def, Visible, keepsBlankness_apply isVisible_cellHeadingRule,
    keepsBlankness_singleBars]
  cases table with
  | outside => exact visible_append_right ['\n'] (visible_append_left h _)
  | inside => exact h

theorem LineState.isBlankText_convert (base : List Char) (state : LineState) (line : List Char) :
    isBlankText (state.convert base line).2 = isBlankText line := by
  have inline := (keepsBlankness_inlineMarkdown base).mapBetweenSpans line
  cases hk : state.code.keeps line with
  | true =>
    have kept : (LineStep.mk state line).kept = true := hk
    rw [show (state.convert base line).2 = line from LineStep.written_of_kept base kept]
  | false =>
    rw [convert_of_not_kept base hk]
    split
    · next row =>
      have shown := visible_of_isRow row
      rw [visible_rowMarkdown state.table shown, ← inline, shown]
    · exact inline

theorem all_isBlankText_linesMarkdown (base : List Char) (ls : List (List Char)) :
    (linesMarkdown base ls).all isBlankText = ls.all isBlankText := by
  rw [linesMarkdown]
  generalize ({} : LineState) = state
  induction ls generalizing state with
  | nil => rfl
  | cons l ls ih =>
    rw [linesMarkdownFrom, List.all_cons, List.all_cons, ih, LineState.isBlankText_convert]

/-! ### The conversion as a whole -/

theorem keepsBlankness_unixNewlines : KeepsBlankness unixNewlines := by
  intro s
  induction s using unixNewlines.induct with
  | case1 => rfl
  | case2 c => rfl
  | case3 c d s h ih =>
    rw [Bool.and_eq_true, decide_eq_true_eq, decide_eq_true_eq] at h
    obtain ⟨rfl, rfl⟩ := h
    have return' : isBlank '\r' = true := by decide
    rw [unixNewlines, if_pos (by decide), isBlankText_cons, ih, isBlankText_cons, isBlankText_cons,
      return', Bool.true_and]
  | case4 c d s h ih => rw [unixNewlines, if_neg h, isBlankText_cons, ih, ← isBlankText_cons]

theorem keepsBlankness_codeMarkdown : KeepsBlankness codeMarkdown :=
  (keepsBlankness_apply isVisible_codeBlockRule).comp (keepsBlankness_apply isVisible_codeSpanRule)

/-- **The conversion of a text keeps blankness.** -/
theorem keepsBlankness_textMarkdown (base : List Char) : KeepsBlankness (textMarkdown base) := by
  intro s
  rw [textMarkdown, isBlankText_unlines, all_isBlankText_linesMarkdown, all_isBlankText_lines,
    keepsBlankness_mapUnfenced linewise_blockMarkdown keepsBlankness_blockMarkdown,
    keepsBlankness_codeMarkdown, keepsBlankness_unixNewlines]

/-- A text is blank after the conversion exactly if it was before. -/
theorem isBlankText_toMarkdown (text base : String) :
    isBlankText (toMarkdown text base).toList = isBlankText text.toList := by
  rw [toMarkdown_eq, String.toList_ofList, keepsBlankness_textMarkdown]

end TicketMigration.Markup
