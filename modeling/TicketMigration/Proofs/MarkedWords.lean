import Mathlib.Data.List.Chain
import TicketMigration.Proofs.AddedCharacters

/-!
# Words between apostrophes

Bold words stand between three apostrophes and italic words between two, and both may have single
apostrophes of their own.  Bold is looked for first, and what it may hold ends at the first
apostrophe of any kind; italic goes on to the next pair.  So an italic word is always read as it is
written, and a bold one exactly if it has no apostrophe.  One that has is torn: the search for
italic takes two apostrophes of its marker and leaves the third ones.

## Main definitions

* `Markable s` — markers can stand around the text.
* `Stretch` — a stretch of a line: plain words, bold or italic ones, with `Stretch.source` and
  `Stretch.markdown`.
* `emphasize` — what is done about apostrophes.
* `MarkersPair base` — which markers pair as they are written.

## Main statements

* `emphasize_append` — one stretch is converted, and the search goes on behind it.
* `emphasize_flatMap_iff` — stretches are converted one by one if no bold one has an apostrophe.
* `inlineMarkdown_eq_emphasize` — nothing else is done to such a line.
* `markersPair` — **bold and italic words are converted on their own exactly if no bold word has an
  apostrophe.**
-/

namespace TicketMigration.Markup

open Text

/-! ### Marked text -/

/-- The marker of italic text. -/
def italicMarker : List Char :=
  ['\'', '\'']

/-- The marker of bold text. -/
def boldMarker : List Char :=
  ['\'', '\'', '\'']

/-- Text that markers can stand around: letters, spaces and single apostrophes inside. -/
structure Markable (s : List Char) : Prop where
  /-- There is something between the markers. -/
  nonempty : s ≠ []
  /-- It has no other characters. -/
  chars : ∀ c ∈ s, isLetter c = true ∨ c = ' ' ∨ c = '\''
  /-- Its apostrophes are no markers. -/
  single : ¬ italicMarker <:+: s
  /-- The marker in front ends before it. -/
  first : s.head? ≠ some '\''
  /-- The marker behind begins after it. -/
  last : s.getLast? ≠ some '\''

instance (s : List Char) : Decidable (Markable s) :=
  have := decidableIsInfix italicMarker s
  have := List.decidableBAll (fun c => isLetter c = true ∨ c = ' ' ∨ c = '\'') s
  decidable_of_iff (s ≠ [] ∧ (∀ c ∈ s, isLetter c = true ∨ c = ' ' ∨ c = '\'') ∧
      ¬ italicMarker <:+: s ∧ s.head? ≠ some '\'' ∧ s.getLast? ≠ some '\'')
    ⟨fun h => ⟨h.1, h.2.1, h.2.2.1, h.2.2.2.1, h.2.2.2.2⟩,
      fun h => ⟨h.nonempty, h.chars, h.single, h.first, h.last⟩⟩

/-- A stretch of a line. -/
inductive Stretch where
  /-- Words without markers. -/
  | plain (s : List Char)
  /-- Bold words. -/
  | bold (s : List Char)
  /-- Italic words. -/
  | italic (s : List Char)

namespace Stretch

/-- How a stretch is written in the wiki. -/
def source : Stretch → List Char
  | plain s => s
  | bold s => boldMarker ++ (s ++ boldMarker)
  | italic s => italicMarker ++ (s ++ italicMarker)

/-- How it is written in Markdown. -/
def markdown : Stretch → List Char
  | plain s => s
  | bold s => ['*', '*'] ++ (s ++ ['*', '*'])
  | italic s => ['_'] ++ (s ++ ['_'])

/-- Plain stretches have letters and spaces, as the labels of links do, marked ones what markers
can stand around. -/
def WellFormed : Stretch → Prop
  | plain s => IsLabel s
  | bold s => Markable s
  | italic s => Markable s

/-- Whether the stretch is plain. -/
def isPlain : Stretch → Bool
  | plain _ => true
  | _ => false

end Stretch

/-- No two marked stretches stand next to each other. -/
def Separated (pieces : List Stretch) : Prop :=
  pieces.IsChain fun piece next => piece.isPlain = true ∨ next.isPlain = true

/-! ### Where the rules match -/

theorem boldRule_match? (s : List Char) :
    boldRule.match? s = (after? boldMarker s).bind fun inside =>
      (after? boldMarker (inside.dropWhile (· != '\''))).map fun rest =>
        (['*', '*'] ++ inside.takeWhile (· != '\'') ++ ['*', '*'], rest) := rfl

theorem apostropheItalicRule_match? (s : List Char) :
    apostropheItalicRule.match? s = ((after? italicMarker s).bind (upTo? onLine italicMarker)).map
      fun parts => ('_' :: parts.1 ++ ['_'], parts.2) := rfl

theorem boldRule_match?_eq_none {s : List Char} (h : ¬ boldMarker <+: s) :
    boldRule.match? s = none := by
  rw [boldRule_match?, after?_eq_none_iff.2 h, Option.bind_none]

theorem apostropheItalicRule_match?_eq_none {s : List Char} (h : ¬ italicMarker <+: s) :
    apostropheItalicRule.match? s = none := by
  rw [apostropheItalicRule_match?, after?_eq_none_iff.2 h, Option.bind_none, Option.map_none]

/-- A marker begins with an apostrophe, so text without one is passed over. -/
theorem apply_append_of_noApostrophe {rule : Rule}
    (begins : ∀ {c : Char} {s : List Char}, c ≠ '\'' → rule.match? (c :: s) = none)
    {a : List Char} (h : '\'' ∉ a) (b : List Char) : rule.apply (a ++ b) = a ++ rule.apply b := by
  refine Rule.apply_append_of_no_match b ?_
  intro t ht hne
  obtain ⟨c, t, rfl⟩ := List.exists_cons_of_ne_nil hne
  refine begins ?_
  rintro rfl
  exact h (ht.subset List.mem_cons_self)

theorem boldRule_begins {c : Char} {s : List Char} (h : c ≠ '\'') :
    boldRule.match? (c :: s) = none :=
  boldRule_match?_eq_none fun hp => h (List.cons_prefix_cons.1 hp).1.symm

theorem apostropheItalicRule_begins {c : Char} {s : List Char} (h : c ≠ '\'') :
    apostropheItalicRule.match? (c :: s) = none :=
  apostropheItalicRule_match?_eq_none fun hp => h (List.cons_prefix_cons.1 hp).1.symm

/-- Two apostrophes and no third one are no marker of bold text. -/
theorem boldRule_apply_italicMarker {s : List Char} (hs : s.head? ≠ some '\'') :
    boldRule.apply (italicMarker ++ s) = italicMarker ++ boldRule.apply s := by
  have third : ¬ ['\''] <+: s := by
    rintro ⟨t, rfl⟩
    exact hs rfl
  have one : boldRule.match? ('\'' :: s) = none :=
    boldRule_match?_eq_none fun hp =>
      third (List.IsPrefix.trans ⟨['\''], rfl⟩ (List.cons_prefix_cons.1 hp).2)
  have two : boldRule.match? ('\'' :: '\'' :: s) = none :=
    boldRule_match?_eq_none fun hp =>
      third (List.cons_prefix_cons.1 (List.cons_prefix_cons.1 hp).2).2
  change boldRule.apply ('\'' :: '\'' :: s) = '\'' :: '\'' :: boldRule.apply s
  rw [Rule.apply_of_no_match two, Rule.apply_of_no_match one]

namespace Markable

variable {x : List Char} (h : Markable x)

include h

/-- No marker begins within the text, whatever comes behind it. -/
theorem not_prefix_within (b : List Char) :
    ∀ t, t <:+ x → t ≠ [] → ¬ italicMarker <+: t ++ b := by
  intro t ht hne hp
  match t with
  | [] => exact hne rfl
  | [c] =>
    obtain rfl : '\'' = c := (List.cons_prefix_cons.1 hp).1
    obtain ⟨front, rfl⟩ := ht
    exact h.last (by simp)
  | c :: d :: t =>
    obtain ⟨rfl, behind⟩ := List.cons_prefix_cons.1 hp
    obtain rfl : '\'' = d := (List.cons_prefix_cons.1 behind).1
    exact h.single (List.infix_iff_prefix_suffix.2 ⟨_, ⟨t, rfl⟩, ht⟩)

/-- Apostrophes in front of the text end there. -/
theorem head?_append (b : List Char) : (x ++ b).head? ≠ some '\'' := by
  rw [List.head?_append_of_ne_nil _ h.nonempty]
  exact h.first

/-- The text stands on one line. -/
theorem onLine : ∀ c ∈ x, onLine c = true := by
  refine onLine_of_not_mem fun hm => ?_
  have char := h.chars '\n' hm
  revert char
  decide

/-- The marker behind the text is the next one, also if one apostrophe comes before the text. -/
theorem upTo?_italicMarker (rest : List Char) :
    upTo? Text.onLine italicMarker (x ++ (italicMarker ++ rest)) = some (x, rest) ∧
      upTo? Text.onLine italicMarker ('\'' :: x ++ (italicMarker ++ rest))
        = some ('\'' :: x, rest) := by
  refine ⟨upTo?_of_no_marker (h.not_prefix_within _) h.onLine, upTo?_of_no_marker ?_ ?_⟩
  · intro t ht hne hp
    rcases List.suffix_cons_iff.1 ht with rfl | ht
    · have second : ['\''] <+: x ++ (italicMarker ++ rest) := (List.cons_prefix_cons.1 hp).2
      obtain ⟨u, hu⟩ := second
      exact h.head?_append (italicMarker ++ rest) (by rw [← hu]; rfl)
    · exact h.not_prefix_within _ t ht hne hp
  · intro c hc
    rcases List.mem_cons.1 hc with rfl | hc
    · decide
    · exact h.onLine c hc

/-- The text in front of apostrophes is passed over in the search for bold text. -/
theorem boldRule_apply_append (b : List Char) :
    boldRule.apply (x ++ b) = x ++ boldRule.apply b := by
  refine Rule.apply_append_of_no_match b fun t ht hne => boldRule_match?_eq_none fun hp => ?_
  have double : italicMarker <+: boldMarker := ⟨['\''], rfl⟩
  exact h.not_prefix_within b t ht hne (double.trans hp)

/-- Bold text with an apostrophe is not found. -/
theorem boldRule_apply_boldMarker (hx : '\'' ∈ x) (b : List Char) :
    boldRule.apply (boldMarker ++ (x ++ b)) = boldMarker ++ (x ++ boldRule.apply b) := by
  obtain ⟨front, t, hcut, hf⟩ := List.eq_append_cons_of_mem hx
  -- the text is read up to its first apostrophe, and no marker begins there
  have stops : (x ++ b).dropWhile (· != '\'') = ('\'' :: t) ++ b := by
    have chars : ∀ c ∈ front, (c != '\'') = true := fun c hc => by
      simpa using ne_of_mem_of_not_mem hc hf
    rw [hcut, List.append_assoc]
    exact (takeWhile_append_of_head? (· != '\'') _ chars (by simp)).2
  have missing : after? boldMarker (('\'' :: t) ++ b) = none := by
    refine after?_eq_none_iff.2 fun hp => ?_
    have double : italicMarker <+: boldMarker := ⟨['\''], rfl⟩
    exact h.not_prefix_within b ('\'' :: t) ⟨front, hcut.symm⟩ (List.cons_ne_nil _ _)
      (double.trans hp)
  have none : boldRule.match? ('\'' :: (italicMarker ++ (x ++ b))) = none := by
    change boldRule.match? (boldMarker ++ (x ++ b)) = none
    rw [boldRule_match?, after?_append, Option.bind_some, stops, missing, Option.map_none]
  change boldRule.apply ('\'' :: (italicMarker ++ (x ++ b))) = _
  rw [Rule.apply_of_no_match none, boldRule_apply_italicMarker (h.head?_append b),
    h.boldRule_apply_append]
  rfl

end Markable

/-! ### Bold text first, then italic text -/

/-- What is done about apostrophes: bold text is converted first, then italic text. -/
def emphasize (s : List Char) : List Char :=
  apostropheItalicRule.apply (boldRule.apply s)

section Emphasize

variable {x s : List Char}

theorem emphasize_of_noApostrophe (hx : '\'' ∉ x) (s : List Char) :
    emphasize (x ++ s) = x ++ emphasize s := by
  rw [emphasize, apply_append_of_noApostrophe boldRule_begins hx,
    apply_append_of_noApostrophe apostropheItalicRule_begins hx, emphasize]

/-- **Italic text is read as it is written.** -/
theorem emphasize_italic (h : Markable x) (hs : s.head? ≠ some '\'') :
    emphasize (italicMarker ++ (x ++ (italicMarker ++ s)))
      = ['_'] ++ (x ++ ['_']) ++ emphasize s := by
  have read : apostropheItalicRule.match?
        (italicMarker ++ (x ++ (italicMarker ++ boldRule.apply s)))
      = some (['_'] ++ (x ++ ['_']), boldRule.apply s) := by
    rw [apostropheItalicRule_match?, after?_append, Option.bind_some, (h.upTo?_italicMarker _).1]
    rfl
  rw [emphasize, boldRule_apply_italicMarker (h.head?_append _), h.boldRule_apply_append,
    boldRule_apply_italicMarker hs, Rule.apply_of_match read, emphasize]

/-- **Bold text without apostrophes is read as it is written.** -/
theorem emphasize_bold (hx : '\'' ∉ x) (s : List Char) :
    emphasize (boldMarker ++ (x ++ (boldMarker ++ s)))
      = ['*', '*'] ++ (x ++ ['*', '*']) ++ emphasize s := by
  have chars : ∀ c ∈ x, (c != '\'') = true := fun c hc => by
    simpa using ne_of_mem_of_not_mem hc hx
  obtain ⟨taken, left⟩ := takeWhile_append_of_head? (· != '\'') (boldMarker ++ s) chars
    (by simp [boldMarker])
  have read : boldRule.match? (boldMarker ++ (x ++ (boldMarker ++ s)))
      = some (['*', '*'] ++ (x ++ ['*', '*']), s) := by
    rw [boldRule_match?, after?_append, Option.bind_some, taken, left, after?_append,
      Option.map_some, List.append_assoc]
  have marked : '\'' ∉ ['*', '*'] ++ (x ++ ['*', '*']) := by simp [hx]
  rw [emphasize, Rule.apply_of_match read,
    apply_append_of_noApostrophe apostropheItalicRule_begins marked, ← emphasize]

/-- Bold text with an apostrophe does not become bold. -/
theorem head?_emphasize_torn (h : Markable x) (hx : '\'' ∈ x) (s : List Char) :
    (emphasize (boldMarker ++ (x ++ s))).head? ≠ some '*' := by
  rw [emphasize, h.boldRule_apply_boldMarker hx]
  change (apostropheItalicRule.apply ('\'' :: (italicMarker ++ (x ++ boldRule.apply s)))).head? ≠ _
  cases hm : apostropheItalicRule.match? ('\'' :: (italicMarker ++ (x ++ boldRule.apply s))) with
  | none =>
    rw [Rule.apply_of_no_match hm]
    simp
  | some parts =>
    obtain ⟨body, -, he⟩ := Option.map_eq_some_iff.1 hm
    rw [Rule.apply_of_match hm, ← he]
    simp

/-- **Bold text with an apostrophe is torn**: two apostrophes of each marker are taken for italic,
and the third ones are left. -/
theorem emphasize_torn (h : Markable x) (hx : '\'' ∈ x) :
    emphasize (boldMarker ++ (x ++ boldMarker)) = ['_', '\''] ++ (x ++ ['_', '\'']) := by
  -- no marker of bold text follows the last one, so it is kept for italic text
  have noBold : boldRule.apply boldMarker = boldMarker := by
    have two := boldRule_apply_italicMarker (s := []) (by decide)
    rw [List.append_nil, Rule.apply_nil] at two
    change boldRule.apply ('\'' :: italicMarker) = _
    rw [Rule.apply_of_no_match rfl, two]
    rfl
  have read : apostropheItalicRule.match? (boldMarker ++ (x ++ boldMarker))
      = some (['_', '\''] ++ (x ++ ['_']), ['\'']) := by
    change apostropheItalicRule.match?
      (italicMarker ++ ('\'' :: x ++ (italicMarker ++ ['\'']))) = _
    rw [apostropheItalicRule_match?, after?_append, Option.bind_some, (h.upTo?_italicMarker _).2]
    rfl
  have single : apostropheItalicRule.apply ['\''] = ['\''] := by
    rw [Rule.apply_of_no_match rfl, Rule.apply_nil]
  rw [emphasize, h.boldRule_apply_boldMarker hx, noBold, Rule.apply_of_match read, single]
  simp

end Emphasize

/-! ### Stretches one after the other -/

namespace Stretch

variable {piece : Stretch} {pieces : List Stretch}

/-- A plain stretch has no apostrophe. -/
theorem noApostrophe_of_label {s : List Char} (h : IsLabel s) : '\'' ∉ s :=
  h.not_mem (by decide) (by decide)

/-- **One stretch is converted, and the search goes on behind it**, unless it is bold and has an
apostrophe. -/
theorem emphasize_append (h : piece.WellFormed) (hx : ∀ x, piece = .bold x → '\'' ∉ x)
    {s : List Char} (hs : piece.isPlain = true ∨ s.head? ≠ some '\'') :
    emphasize (piece.source ++ s) = piece.markdown ++ emphasize s := by
  cases piece with
  | plain words => exact emphasize_of_noApostrophe (noApostrophe_of_label h) s
  | bold x =>
    rw [source, List.append_assoc, List.append_assoc, emphasize_bold (hx x rfl), markdown]
  | italic x =>
    have ends : s.head? ≠ some '\'' := hs.resolve_left (by simp [isPlain])
    rw [source, List.append_assoc, List.append_assoc, emphasize_italic h ends, markdown]

/-- Behind a marked stretch no other marker begins. -/
theorem isPlain_or_head? (hp : ∀ next ∈ pieces, next.WellFormed)
    (h : Separated (piece :: pieces)) :
    piece.isPlain = true ∨ (pieces.flatMap source).head? ≠ some '\'' := by
  refine Classical.or_iff_not_imp_left.2 fun marked => ?_
  cases pieces with
  | nil => simp
  | cons next pieces =>
    have plain : next.isPlain = true := ((List.isChain_cons.1 h).1 next rfl).resolve_left marked
    cases next with
    | plain words =>
      have label : IsLabel words := hp _ List.mem_cons_self
      rw [List.flatMap_cons, source, List.head?_append_of_ne_nil _ label.nonempty]
      intro hc
      exact noApostrophe_of_label label (List.mem_of_mem_head? hc)
    | bold x => cases plain
    | italic x => cases plain

/-- **Stretches are converted one by one exactly if no bold one has an apostrophe.** -/
theorem emphasize_flatMap_iff (hp : ∀ piece ∈ pieces, piece.WellFormed) (h : Separated pieces) :
    emphasize (pieces.flatMap source) = pieces.flatMap markdown ↔
      ∀ x, .bold x ∈ pieces → '\'' ∉ x := by
  induction pieces with
  | nil => simp [emphasize]
  | cons piece pieces ih =>
    have behind := isPlain_or_head? (fun next hn => hp next (List.mem_cons_of_mem _ hn)) h
    have rest := ih (fun next hn => hp next (List.mem_cons_of_mem _ hn)) (List.isChain_cons.1 h).2
    have here := hp piece List.mem_cons_self
    rw [List.flatMap_cons, List.flatMap_cons]
    by_cases hx : ∀ x, piece = .bold x → '\'' ∉ x
    · rw [emphasize_append here hx behind, List.append_cancel_left_eq, rest]
      constructor
      · intro all x hm
        rcases List.mem_cons.1 hm with he | hm
        · exact hx x he.symm
        · exact all x hm
      · intro all x hm
        exact all x (List.mem_cons_of_mem _ hm)
    · -- the markers of this one are left to the search for italic text
      push Not at hx
      obtain ⟨x, rfl, torn⟩ := hx
      have apart : emphasize ((bold x).source ++ pieces.flatMap source)
          ≠ (bold x).markdown ++ pieces.flatMap markdown := by
        intro same
        refine head?_emphasize_torn here torn (boldMarker ++ pieces.flatMap source) ?_
        rw [source, List.append_assoc, List.append_assoc] at same
        rw [same]
        rfl
      exact ⟨fun same => absurd same apart, fun all => absurd torn (all x List.mem_cons_self)⟩

end Stretch

/-! ### The whole conversion -/

/-- Letters, spaces and apostrophes have no other inline markup, and no references. -/
theorem inlineMarkdown_eq_emphasize {s : List Char}
    (h : ∀ c ∈ s, isLetter c = true ∨ c = ' ' ∨ c = '\'') (base : List Char) :
    inlineMarkdown base s = emphasize s := by
  have absent {c : Char} (letter : isLetter c = false) (others : c ≠ ' ' ∧ c ≠ '\'') : c ∉ s := by
    intro hc
    rcases h c hc with hl | hs | ha
    · rw [letter] at hl
      cases hl
    · exact others.1 hs
    · exact others.2 ha
  have absent' {c : Char} (letter : isLetter c = false)
      (others : c ≠ ' ' ∧ c ≠ '\'' ∧ c ≠ '*' ∧ c ≠ '_') : c ∉ emphasize s :=
    (addsNo_apostropheItalicRule others.2.2.2).not_mem_apply
      ((addsNo_boldRule others.2.2.1).not_mem_apply (absent letter ⟨others.1, others.2.1⟩))
  have link : linkRule.apply s = s := needs_linkRule.apply_eq_self fun hi =>
    absent (c := '[') (by decide) (by decide) (hi.mem (by decide))
  have image : imageRule.apply s = s := needs_imageRule.apply_eq_self fun hi =>
    absent (c := '[') (by decide) (by decide) (hi.mem (by decide))
  have escape : escapeRule.apply s = s := needs_escapeRule.apply_eq_self fun hi =>
    absent (c := '!') (by decide) (by decide) (hi.mem (by decide))
  have slash : slashItalicRule.apply (emphasize s) = emphasize s :=
    needs_slashItalicRule.apply_eq_self fun hi =>
      absent' (c := '/') (by decide) (by decide) (hi.mem (by decide))
  have references : linkReferences base (emphasize s) = emphasize s := by
    refine linkReferences_eq_self_of_read? (fun form before t ht => ?_) base
    cases hr : form.read? before t with
    | none => rfl
    | some segment =>
      -- every reference has a number
      obtain ⟨d, hd, hp⟩ := form.exists_digit_of_read? hr
      have letter : isLetter d = false := by
        rw [Bool.eq_false_iff]
        intro hl
        rw [isDigit_of_isLetter hl] at hd
        cases hd
      have others : d ≠ ' ' ∧ d ≠ '\'' ∧ d ≠ '*' ∧ d ≠ '_' := by
        refine ⟨?_, ?_, ?_, ?_⟩ <;>
        · rintro rfl
          revert hd
          decide
      exact absurd (ht.subset (hp.subset (by simp))) (absent' letter others)
  simp only [inlineMarkdown, inlineRules, List.foldl_cons, List.foldl_nil, link, image, escape]
  change linkReferences base (slashItalicRule.apply (emphasize s)) = emphasize s
  rw [slash, references]

theorem Markable.chars_source {x : List Char} (h : Markable x) {marker : List Char}
    (hm : ∀ c ∈ marker, c = '\'') :
    ∀ c ∈ marker ++ (x ++ marker), isLetter c = true ∨ c = ' ' ∨ c = '\'' := by
  intro c hc
  rcases List.mem_append.1 hc with hc | hc
  · exact .inr (.inr (hm c hc))
  · rcases List.mem_append.1 hc with hc | hc
    · exact h.chars c hc
    · exact .inr (.inr (hm c hc))

theorem Stretch.chars_source {piece : Stretch} (h : piece.WellFormed) :
    ∀ c ∈ piece.source, isLetter c = true ∨ c = ' ' ∨ c = '\'' := by
  cases piece with
  | plain words =>
    intro c hc
    rcases (show IsLabel words from h).chars c hc with hl | hs
    · exact .inl hl
    · exact .inr (.inl hs)
  | bold x => exact Markable.chars_source h (by simp [boldMarker])
  | italic x => exact Markable.chars_source h (by simp [italicMarker])

/-- Which markers pair as they are written. -/
structure MarkersPair (base : List Char) : Prop where
  /-- Those of italic text do. -/
  italic : ∀ x, Markable x → inlineMarkdown base (italicMarker ++ (x ++ italicMarker))
    = ['_'] ++ (x ++ ['_'])
  /-- Those of bold text do exactly if it has no apostrophe. -/
  bold : ∀ x, Markable x → (inlineMarkdown base (boldMarker ++ (x ++ boldMarker))
    = ['*', '*'] ++ (x ++ ['*', '*']) ↔ '\'' ∉ x)
  /-- Otherwise two apostrophes of each of them are taken for markers of italic text. -/
  torn : ∀ x, Markable x → '\'' ∈ x → inlineMarkdown base (boldMarker ++ (x ++ boldMarker))
    = ['_', '\''] ++ (x ++ ['_', '\''])
  /-- Marked words that plain ones separate are converted on their own exactly if no bold ones have
  an apostrophe. -/
  stretches : ∀ pieces : List Stretch, (∀ piece ∈ pieces, piece.WellFormed) → Separated pieces →
    (inlineMarkdown base (pieces.flatMap Stretch.source) = pieces.flatMap Stretch.markdown ↔
      ∀ x, .bold x ∈ pieces → '\'' ∉ x)

/-- **Bold and italic words are converted on their own exactly if no bold word has an
apostrophe**, whatever the address is below which references lead. -/
theorem markersPair (base : List Char) : MarkersPair base := by
  have stretches (pieces : List Stretch) (hp : ∀ piece ∈ pieces, piece.WellFormed)
      (h : Separated pieces) :
      inlineMarkdown base (pieces.flatMap Stretch.source) = pieces.flatMap Stretch.markdown ↔
        ∀ x, .bold x ∈ pieces → '\'' ∉ x := by
    rw [inlineMarkdown_eq_emphasize, Stretch.emphasize_flatMap_iff hp h]
    intro c hc
    obtain ⟨piece, hm, hc⟩ := List.mem_flatMap.1 hc
    exact Stretch.chars_source (hp piece hm) c hc
  refine ⟨?_, ?_, ?_, stretches⟩
  · intro x hx
    have alone := (stretches [.italic x] (by simpa [Stretch.WellFormed] using hx)
      (List.isChain_singleton _)).2 (by simp)
    simpa [Stretch.source, Stretch.markdown] using alone
  · intro x hx
    have alone := stretches [.bold x] (by simpa [Stretch.WellFormed] using hx)
      (List.isChain_singleton _)
    simpa [Stretch.source, Stretch.markdown] using alone
  · intro x hx apostrophe
    rw [inlineMarkdown_eq_emphasize (hx.chars_source (by simp [boldMarker])),
      emphasize_torn hx apostrophe]

/-- **A bold word with an apostrophe becomes italic**, with apostrophes left over, and what stands
between it and the next bold word becomes bold. -/
theorem not_markersPair_apostrophe :
    Markable "don't".toList ∧
      inlineMarkdown "https://trac.example.org".toList "'''don't'''".toList
        ≠ "**don't**".toList ∧
      inlineMarkdown "https://trac.example.org".toList "'''it's''' and '''one'''".toList
        ≠ "**it's** and **one**".toList := by
  refine ⟨?_, ?_, ?_⟩ <;> decide +kernel

end TicketMigration.Markup
