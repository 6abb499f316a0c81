import TicketMigration.Proofs.Blankness
import TicketMigration.Proofs.Cuts

/-!
# What emphasis leaves alone

The rules for escapes and emphasis take marks away from around a text and put fewer ones there, and
none of the marks is a bracket.  References are written with brackets.  So what one rule changes no
later one can change back: a text comes through all of them exactly if it comes through each.

## Main definitions

* `Unwraps` — marks around a text are replaced by fewer marks.
* `BeginsCapitalised` — a text begins with a word of two capitalised parts.
* `Unformatted` — a text has no escaped word and no two pairs of apostrophes.
* `Unslashed` — a text has no two pairs of slashes, the first one outside all addresses.

## Main statements

* `foldl_apply_eq_self_iff` — rules that unwrap keep a text together exactly if each of them does.
* `linkReferences_foldl_eq_self_iff` — **the same with the references behind them.**
* `keeps_iff_unformatted`, `slashItalicRule_eq_self_iff` — which texts are kept.
-/

namespace TicketMigration.Markup

open Text

/-! ### Taking marks away -/

/-- A text between marks is read, and it is written between fewer marks.  No mark is a closing
bracket. -/
structure Unwraps (s out rest : List Char) : Prop where
  /-- How the marks and the text make up what is read and what is written. -/
  parts : ∃ left body right left' right', s = left ++ body ++ right ++ rest ∧
    out = left' ++ body ++ right' ∧ ']' ∉ left ++ right ++ left' ++ right' ∧
      left'.length + right'.length < left.length + right.length

namespace Unwraps

variable {s out rest : List Char}

theorem length_lt (h : Unwraps s out rest) : (out ++ rest).length < s.length := by
  obtain ⟨left, body, right, left', right', rfl, rfl, -, fewer⟩ := h
  simp only [List.length_append]
  omega

theorem count_eq (h : Unwraps s out rest) : (out ++ rest).count ']' = s.count ']' := by
  obtain ⟨left, body, right, left', right', rfl, rfl, marks, -⟩ := h
  simp only [List.mem_append, not_or] at marks
  obtain ⟨⟨⟨hl, hr⟩, hl'⟩, hr'⟩ := marks
  simp only [List.count_append, List.count_eq_zero_of_not_mem hl, List.count_eq_zero_of_not_mem hr,
    List.count_eq_zero_of_not_mem hl', List.count_eq_zero_of_not_mem hr']

end Unwraps

namespace Rule

/-- Each match is passed over, or marks are taken away. -/
def Unwraps (rule : Rule) : Prop :=
  ∀ ⦃s out rest⦄, rule.match? s = some (out, rest) → s = out ++ rest ∨ Markup.Unwraps s out rest

variable {rule : Rule} {rules : List Rule}

/-- The text is kept, or it becomes shorter. -/
theorem Unwraps.apply_eq_or_lt (h : rule.Unwraps) (s : List Char) :
    rule.apply s = s ∨ (rule.apply s).length < s.length := by
  induction s using Rule.apply.induct rule with
  | case1 => exact .inl rule.apply_nil
  | case2 c s out rest hm ih =>
    rw [apply_of_match hm]
    rcases h hm with whole | unwraps
    · rw [whole]
      rcases ih with same | shorter
      · exact .inl (by rw [same])
      · refine .inr ?_
        simp only [List.length_append]
        omega
    · have fewer := unwraps.length_lt
      have rest' : (rule.apply rest).length ≤ rest.length := by
        rcases ih with same | shorter
        · exact Nat.le_of_eq (by rw [same])
        · omega
      refine .inr ?_
      simp only [List.length_append] at fewer ⊢
      omega
  | case3 c s hm ih =>
    rw [apply_of_no_match hm]
    rcases ih with same | shorter
    · exact .inl (by rw [same])
    · exact .inr (by simpa using shorter)

theorem Unwraps.length_apply_le (h : rule.Unwraps) (s : List Char) :
    (rule.apply s).length ≤ s.length := by
  rcases h.apply_eq_or_lt s with same | shorter
  · exact Nat.le_of_eq (by rw [same])
  · omega

/-- The closing brackets stay. -/
theorem Unwraps.count_apply (h : rule.Unwraps) (s : List Char) :
    (rule.apply s).count ']' = s.count ']' := by
  induction s using Rule.apply.induct rule with
  | case1 => rw [rule.apply_nil]
  | case2 c s out rest hm ih =>
    rw [apply_of_match hm, List.count_append, ih, ← List.count_append]
    rcases h hm with whole | unwraps
    · rw [← whole]
    · exact unwraps.count_eq
  | case3 c s hm ih => rw [apply_of_no_match hm, List.count_cons, List.count_cons, ih]

/-- **A rule that takes marks away at each match keeps a text exactly if it matches nowhere.** -/
theorem apply_eq_self_iff
    (h : ∀ {s out rest}, rule.match? s = some (out, rest) → Markup.Unwraps s out rest)
    (s : List Char) : rule.apply s = s ↔ ∀ t, t <:+ s → rule.match? t = none := by
  refine ⟨fun same => ?_, apply_eq_self⟩
  induction s using Rule.apply.induct rule with
  | case1 =>
    intro t ht
    rw [List.suffix_nil.1 ht]
    cases hm : rule.match? [] with
    | none => rfl
    | some parts => exact absurd (rule.shorter hm) (by simp)
  | case2 c s out rest hm ih =>
    have unwraps : rule.Unwraps := fun _ _ _ hm => .inr (h hm)
    have shorter := (h hm).length_lt
    have rest' := unwraps.length_apply_le rest
    have whole := congrArg List.length same
    rw [apply_of_match hm, List.length_append] at whole
    rw [List.length_append] at shorter
    omega
  | case3 c s hm ih =>
    rw [apply_of_no_match hm] at same
    intro t ht
    rcases List.suffix_cons_iff.1 ht with rfl | ht
    · exact hm
    · exact ih (List.cons.inj same).2 t ht

end Rule

section Rules

variable {rules : List Rule} (h : ∀ rule ∈ rules, rule.Unwraps)

include h

theorem length_foldl_apply_le (s : List Char) :
    (rules.foldl (fun text rule => rule.apply text) s).length ≤ s.length := by
  induction rules generalizing s with
  | nil => exact Nat.le_refl _
  | cons rule rules ih =>
    have rest := ih (fun r hr => h r (List.mem_cons_of_mem _ hr)) (rule.apply s)
    have first := (h rule List.mem_cons_self).length_apply_le s
    exact Nat.le_trans rest first

theorem count_foldl_apply (s : List Char) :
    (rules.foldl (fun text rule => rule.apply text) s).count ']' = s.count ']' := by
  induction rules generalizing s with
  | nil => rfl
  | cons rule rules ih =>
    rw [List.foldl_cons, ih fun r hr => h r (List.mem_cons_of_mem _ hr),
      (h rule List.mem_cons_self).count_apply]

/-- **Rules that take marks away keep a text together exactly if each of them does.** -/
theorem foldl_apply_eq_self_iff (s : List Char) :
    rules.foldl (fun text rule => rule.apply text) s = s ↔ ∀ rule ∈ rules, rule.apply s = s := by
  induction rules generalizing s with
  | nil => simp
  | cons rule rules ih =>
    have rest (r : Rule) (hr : r ∈ rules) : r.Unwraps := h r (List.mem_cons_of_mem _ hr)
    rw [List.foldl_cons, List.forall_mem_cons]
    rcases (h rule List.mem_cons_self).apply_eq_or_lt s with same | shorter
    · rw [same, ih rest]
      simp
    · -- what has become shorter stays so
      have whole := length_foldl_apply_le rest (rule.apply s)
      refine ⟨fun kept => absurd (congrArg List.length kept) (by omega), fun kept => ?_⟩
      exact absurd (congrArg List.length kept.1) (by omega)

/-- **With the references behind them, a text is kept exactly if every rule keeps it and it has no
references.** -/
theorem linkReferences_foldl_eq_self_iff (base s : List Char) :
    linkReferences base (rules.foldl (fun text rule => rule.apply text) s) = s ↔
      (∀ rule ∈ rules, rule.apply s = s) ∧ ∀ segment ∈ segments s, segment.isReference = false := by
  rw [← foldl_apply_eq_self_iff h, ← linkReferences_eq_self_iff base]
  constructor
  · intro same
    -- a reference would add a bracket that the rules cannot have taken away
    have literal : linkReferences base (rules.foldl (fun text rule => rule.apply text) s)
        = rules.foldl (fun text rule => rule.apply text) s := by
      refine (linkReferences_eq_self_iff base _).2 (not_isReference_of_count_linkReferences_le
        base ?_)
      exact Nat.le_of_eq (by rw [same, count_foldl_apply h])
    have kept := literal.symm.trans same
    rw [kept] at same
    exact ⟨kept, same⟩
  · rintro ⟨kept, literal⟩
    rw [kept, literal]

end Rules

/-! ### The rules -/

/-- The rules for escapes and emphasis, in the order in which they are applied. -/
def emphasisRules : List Rule :=
  [escapeRule, boldRule, apostropheItalicRule, slashItalicRule]

/-- Links and images come first, and the references last. -/
theorem inlineMarkdown_eq (base s : List Char) :
    inlineMarkdown base s = linkReferences base
      (emphasisRules.foldl (fun text rule => rule.apply text)
        (imageRule.apply (linkRule.apply s))) := rfl

theorem unwraps_of_escapeRule {s out rest : List Char}
    (h : escapeRule.match? s = some (out, rest)) : Unwraps s out rest := by
  obtain ⟨word, hw, h⟩ := Option.bind_eq_some_iff.1 h
  split at h
  · obtain ⟨rfl, rfl⟩ := Prod.mk.inj (Option.some.inj h)
    exact ⟨['!'], [], [], [], [], by simp [after?_eq_some_iff.1 hw], rfl, by decide, by decide⟩
  · cases h

/-- What a bold text is read from. -/
theorem eq_append_of_boldRule {s out rest : List Char}
    (h : boldRule.match? s = some (out, rest)) :
    ∃ body, s = ['\'', '\'', '\''] ++ body ++ ['\'', '\'', '\''] ++ rest ∧
      out = ['*', '*'] ++ body ++ ['*', '*'] := by
  obtain ⟨inside, hi, h⟩ := Option.bind_eq_some_iff.1 h
  obtain ⟨rest', hr, he⟩ := Option.map_eq_some_iff.1 h
  obtain ⟨rfl, rfl⟩ := Prod.mk.inj he
  refine ⟨_, ?_, rfl⟩
  rw [after?_eq_some_iff.1 hi]
  conv => lhs; rw [eq_append_of_after?_dropWhile hr]
  simp

theorem unwraps_of_boldRule {s out rest : List Char} (h : boldRule.match? s = some (out, rest)) :
    Unwraps s out rest := by
  obtain ⟨body, hs, ho⟩ := eq_append_of_boldRule h
  exact ⟨_, body, _, _, _, hs, ho, by decide, by decide⟩

/-- What a text between markers is read from. -/
theorem eq_append_of_between? {marker s body rest : List Char}
    (h : between? marker s = some (body, rest)) : s = marker ++ body ++ marker ++ rest := by
  obtain ⟨inside, hi, hu⟩ := Option.bind_eq_some_iff.1 h
  rw [after?_eq_some_iff.1 hi, eq_append_of_upTo? hu]
  simp

theorem unwraps_of_apostropheItalicRule {s out rest : List Char}
    (h : apostropheItalicRule.match? s = some (out, rest)) : Unwraps s out rest := by
  obtain ⟨parts, hp, he⟩ := Option.map_eq_some_iff.1 h
  obtain ⟨rfl, rfl⟩ := Prod.mk.inj he
  exact ⟨_, parts.1, _, ['_'], ['_'], eq_append_of_between? hp, rfl, by decide, by decide⟩

/-- The scheme, the slashes and what is behind them make up an address. -/
theorem eq_append_of_address? {s address rest : List Char} (h : address? s = some (address, rest)) :
    s = address ++ rest := by
  cases s with
  | nil => cases h
  | cons c s =>
    rw [address?] at h
    split at h
    · obtain ⟨tail, ht, he⟩ := Option.map_eq_some_iff.1 h
      obtain ⟨rfl, rfl⟩ := Prod.mk.inj he
      conv => lhs; rw [eq_append_of_after?_dropWhile ht]
      simp [List.takeWhile_append_dropWhile]
    · cases h

theorem unwraps_slashItalicRule : slashItalicRule.Unwraps := by
  intro s out rest h
  rcases Option.or_eq_some_iff.1 h with h | ⟨-, h⟩
  · exact .inl (eq_append_of_address? h)
  · obtain ⟨parts, hp, he⟩ := Option.map_eq_some_iff.1 h
    obtain ⟨rfl, rfl⟩ := Prod.mk.inj he
    exact .inr ⟨_, parts.1, _, ['_'], ['_'], eq_append_of_between? hp, rfl, by decide, by decide⟩

theorem unwraps_of_mem_emphasisRules {rule : Rule} (h : rule ∈ emphasisRules) : rule.Unwraps := by
  simp only [emphasisRules, List.mem_cons, List.not_mem_nil, or_false] at h
  rcases h with rfl | rfl | rfl | rfl
  · exact fun _ _ _ hm => .inr (unwraps_of_escapeRule hm)
  · exact fun _ _ _ hm => .inr (unwraps_of_boldRule hm)
  · exact fun _ _ _ hm => .inr (unwraps_of_apostropheItalicRule hm)
  · exact unwraps_slashItalicRule

/-! ### Words of capitalised parts -/

/-- A small letter or a digit. -/
def isSmall (c : Char) : Bool :=
  c.isLower || c.isDigit

/-- The text begins with two capitalised parts of a word: each has a capital letter, and at least one
small letter or digit behind it. -/
def BeginsCapitalised (s : List Char) : Prop :=
  ∃ capital part capital' c rest, s = capital :: (part ++ capital' :: c :: rest) ∧
    capital.isUpper = true ∧ part ≠ [] ∧ (∀ d ∈ part, isSmall d = true) ∧
      capital'.isUpper = true ∧ isSmall c = true

theorem isSmall_of_isUpper {c : Char} (h : c.isUpper = true) : isSmall c = false := by
  have capital := toNat_of_isUpper h
  rw [isSmall, Bool.or_eq_false_iff]
  constructor
  · rw [Bool.eq_false_iff]
    intro small
    have := toNat_of_isLower small
    omega
  · rw [Bool.eq_false_iff]
    intro digit
    have := toNat_of_isDigit digit
    omega

theorem afterHump?_cons_cons (capital c : Char) (rest : List Char) :
    afterHump? (capital :: c :: rest)
      = if (capital.isUpper && isSmall c) = true then some (rest.dropWhile isSmall) else none := rfl

/-- What a capitalised part is read from. -/
theorem eq_append_of_afterHump? {s tail : List Char} (h : afterHump? s = some tail) :
    ∃ capital c part, s = capital :: c :: (part ++ tail) ∧ capital.isUpper = true ∧
      isSmall c = true ∧ ∀ d ∈ part, isSmall d = true := by
  unfold afterHump? at h
  split at h
  · next capital c rest =>
    split at h
    · next parts =>
      rw [Bool.and_eq_true] at parts
      cases h
      refine ⟨capital, c, rest.takeWhile isSmall, ?_, parts.1, parts.2, fun d hd => ?_⟩
      · exact congrArg (capital :: c :: ·) List.takeWhile_append_dropWhile.symm
      · exact List.all_eq_true.1 List.all_takeWhile d hd
    · cases h
  · cases h

/-- A part goes on as long as there are small letters and digits. -/
theorem afterHump?_eq_some {capital c : Char} {part tail : List Char}
    (upper : capital.isUpper = true) (small : isSmall c = true)
    (smalls : ∀ d ∈ part, isSmall d = true) (ends : ∀ d, tail.head? = some d → isSmall d = false) :
    afterHump? (capital :: c :: (part ++ tail)) = some tail := by
  have behind : tail.dropWhile isSmall = tail := by
    cases tail with
    | nil => rfl
    | cons d tail => exact List.dropWhile_cons_of_neg (by simp [ends d rfl])
  rw [afterHump?_cons_cons, if_pos (Bool.and_eq_true_iff.2 ⟨upper, small⟩),
    List.dropWhile_append_of_pos smalls, behind]

/-- Two parts are read exactly where there are two. -/
theorem isSome_humps_iff {s : List Char} :
    ((afterHump? s).bind afterHump?).isSome = true ↔ BeginsCapitalised s := by
  constructor
  · intro h
    obtain ⟨behind, h⟩ := Option.isSome_iff_exists.1 h
    obtain ⟨tail, first, second⟩ := Option.bind_eq_some_iff.1 h
    obtain ⟨capital, c, part, rfl, upper, small, smalls⟩ := eq_append_of_afterHump? first
    obtain ⟨capital', c', part', rfl, upper', small', -⟩ := eq_append_of_afterHump? second
    exact ⟨capital, c :: part, capital', c', part' ++ behind, rfl, upper, by simp,
      List.forall_mem_cons.2 ⟨small, smalls⟩, upper', small'⟩
  · rintro ⟨capital, part, capital', c', rest, rfl, upper, nonempty, smalls, upper', small'⟩
    cases part with
    | nil => exact absurd rfl nonempty
    | cons c part =>
      obtain ⟨small, smalls⟩ := List.forall_mem_cons.1 smalls
      -- the second capital is not small, so it ends the first part
      have ends : ∀ d, (capital' :: c' :: rest).head? = some d → isSmall d = false := by
        rintro d ⟨⟩
        exact isSmall_of_isUpper upper'
      rw [List.cons_append, afterHump?_eq_some upper small smalls ends, Option.bind_some,
        afterHump?_cons_cons, if_pos (Bool.and_eq_true_iff.2 ⟨upper', small'⟩), Option.isSome_some]

/-! ### Texts without formatting -/

/-- No word that is kept from being a link, and no two pairs of apostrophes. -/
structure Unformatted (s : List Char) : Prop where
  /-- No exclamation mark stands before a word of two capitalised parts. -/
  noEscape : ∀ word, '!' :: word <:+ s → ¬ BeginsCapitalised word
  /-- No two pairs of apostrophes, one behind the other. -/
  noPairs : ∀ body, ¬ ['\'', '\''] ++ body ++ ['\'', '\''] <:+: s

/-- A text without the marks has no formatting. -/
theorem unformatted_of_not_mem {s : List Char} (escape : '!' ∉ s) (quote : '\'' ∉ s) :
    Unformatted s :=
  ⟨fun _ hw _ => escape (hw.mem List.mem_cons_self),
    fun _ hi => quote (hi.mem (by simp))⟩

theorem escapeRule_match?_eq_none_iff {s : List Char} :
    escapeRule.match? s = none ↔ ∀ word, s = '!' :: word → ¬ BeginsCapitalised word := by
  constructor
  · rintro h word rfl
    rw [← isSome_humps_iff]
    simpa [escapeRule] using h
  · intro h
    cases ha : after? ['!'] s with
    | none => simp [escapeRule, ha]
    | some word =>
      have no := h word (after?_eq_some_iff.1 ha)
      rw [← isSome_humps_iff] at no
      simp [escapeRule, ha, no]

/-- A marker is found if only allowed characters stand in front of it. -/
theorem isSome_upTo? {allowed : Char → Bool} {marker body : List Char}
    (h : ∀ c ∈ body, allowed c = true) (rest : List Char) :
    (upTo? allowed marker (body ++ marker ++ rest)).isSome = true := by
  induction body with
  | nil =>
    rw [List.nil_append]
    cases ht : marker ++ rest with
    | nil =>
      obtain ⟨rfl, rfl⟩ := List.append_eq_nil_iff.1 ht
      rfl
    | cons c t =>
      have found : after? marker (c :: t) = some rest := after?_eq_some_iff.2 ht.symm
      rw [upTo?, found]
      rfl
  | cons c body ih =>
    rw [List.cons_append, List.cons_append, upTo?]
    split
    · rfl
    · rw [if_pos (h c List.mem_cons_self), Option.isSome_map]
      exact ih fun d hd => h d (List.mem_cons_of_mem _ hd)

theorem isSome_between? {marker body : List Char} (h : '\n' ∉ body) (rest : List Char) :
    (between? marker (marker ++ body ++ marker ++ rest)).isSome = true := by
  rw [between?, List.append_assoc, List.append_assoc, after?_append, Option.bind_some,
    ← List.append_assoc]
  exact isSome_upTo? (onLine_of_not_mem h) rest

/-- Two markers behind each other are found as a pair. -/
theorem between?_eq_none_iff {marker s : List Char} (hs : '\n' ∉ s) :
    between? marker s = none ↔ ¬ ∃ body, marker ++ body ++ marker <+: s := by
  constructor
  · rintro h ⟨body, rest, rfl⟩
    have inside : '\n' ∉ body := fun hm => hs (by simp [hm])
    have found : (between? marker (marker ++ body ++ marker ++ rest)).isSome = true :=
      isSome_between? inside rest
    rw [h] at found
    cases found
  · intro h
    cases hb : between? marker s with
    | none => rfl
    | some parts => exact absurd ⟨parts.1, parts.2, (eq_append_of_between? hb).symm⟩ h

/-- **The rules for escapes and apostrophes keep a line exactly if it has neither.** -/
theorem keeps_iff_unformatted {s : List Char} (hs : '\n' ∉ s) :
    (escapeRule.apply s = s ∧ boldRule.apply s = s ∧ apostropheItalicRule.apply s = s) ↔
      Unformatted s := by
  rw [Rule.apply_eq_self_iff unwraps_of_escapeRule, Rule.apply_eq_self_iff unwraps_of_boldRule,
    Rule.apply_eq_self_iff unwraps_of_apostropheItalicRule]
  have line {t : List Char} (ht : t <:+ s) : '\n' ∉ t := fun hm => hs (ht.mem hm)
  constructor
  · rintro ⟨escape, -, italic⟩
    refine ⟨fun word hw => escapeRule_match?_eq_none_iff.1 (escape _ hw) word rfl, ?_⟩
    intro body hi
    obtain ⟨t, hp, ht⟩ := List.infix_iff_prefix_suffix.1 hi
    have none := Option.map_eq_none_iff.1 (italic t ht)
    exact (between?_eq_none_iff (line ht)).1 none ⟨body, hp⟩
  · rintro ⟨noEscape, noPairs⟩
    refine ⟨fun t ht => ?_, fun t ht => ?_, fun t ht => ?_⟩
    · exact escapeRule_match?_eq_none_iff.2 fun word hw => noEscape word (hw ▸ ht)
    · cases hm : boldRule.match? t with
      | none => rfl
      | some parts =>
        obtain ⟨out, rest⟩ := parts
        -- three apostrophes begin with two, and end with two
        obtain ⟨body, hb, -⟩ := eq_append_of_boldRule hm
        refine absurd (List.IsInfix.trans ⟨[], rest, ?_⟩ ht.isInfix)
          (noPairs (['\''] ++ body ++ ['\'']))
        rw [hb]
        simp
    · refine Option.map_eq_none_iff.2 ((between?_eq_none_iff (line ht)).2 ?_)
      rintro ⟨body, hb⟩
      exact noPairs body (hb.isInfix.trans ht.isInfix)

/-! ### Texts without slashes -/

/-- The end of the text lies in an address: from some place on, it has no blank and would be an
address if two slashes followed. -/
def InAddress (s : List Char) : Prop :=
  ∃ front address, s = front ++ address ∧ (∀ c ∈ address, isBlank c = false) ∧
    (address? (address ++ ['/', '/'])).isSome = true

/-- No two pairs of slashes, one behind the other, of which the first is outside all addresses. -/
def Unslashed (s : List Char) : Prop :=
  ∀ front body rest, s = front ++ ['/', '/'] ++ body ++ ['/', '/'] ++ rest → InAddress front

theorem unslashed_of_not_mem {s : List Char} (h : '/' ∉ s) : Unslashed s := by
  rintro front body rest rfl
  exact absurd (by simp) h

/-- An address begins with a letter, goes on with the rest of its scheme and then has a colon and
two slashes. -/
theorem isSome_address?_iff {s : List Char} :
    (address? s).isSome = true ↔ ∃ c scheme rest, s = c :: scheme ++ [':', '/', '/'] ++ rest ∧
      isLetter c = true ∧ ∀ d ∈ scheme, isSchemeChar d = true := by
  have behind : "://".toList = [':', '/', '/'] := rfl
  constructor
  · intro h
    cases s with
    | nil => cases h
    | cons c s =>
      rw [address?] at h
      split at h
      · next letter =>
        rw [Option.isSome_map] at h
        obtain ⟨rest, hr⟩ := Option.isSome_iff_exists.1 h
        refine ⟨c, s.takeWhile isSchemeChar, rest, ?_, letter, fun d hd => ?_⟩
        · conv => lhs; rw [eq_append_of_after?_dropWhile hr, behind]
          rfl
        · exact List.all_eq_true.1 List.all_takeWhile d hd
      · cases h
  · rintro ⟨c, scheme, rest, rfl, letter, chars⟩
    have passed : (scheme ++ [':', '/', '/'] ++ rest).dropWhile isSchemeChar
        = [':', '/', '/'] ++ rest := by
      rw [List.append_assoc, List.dropWhile_append_of_pos chars]
      rfl
    rw [List.cons_append, List.cons_append, address?, if_pos letter, passed, behind, after?_append]
    rfl

/-- Two slashes behind a text are found, whatever stands behind them. -/
theorem exists_slashes {more rest tail : List Char}
    (h : '/' :: '/' :: tail = more ++ '/' :: rest) :
    ∃ tail', more ++ ['/', '/'] = '/' :: '/' :: tail' := by
  match more with
  | [] => exact ⟨[], rfl⟩
  | [a] =>
    obtain ⟨rfl, -⟩ := List.cons.inj h
    exact ⟨['/'], rfl⟩
  | a :: b :: more =>
    simp only [List.cons_append, List.cons.injEq] at h
    obtain ⟨rfl, rfl, -⟩ := h
    exact ⟨more ++ ['/', '/'], rfl⟩

/-- What follows two slashes does not decide whether there is an address in front of them. -/
theorem isSome_address?_append (address rest : List Char) :
    (address? (address ++ ['/', '/'] ++ rest)).isSome
      = (address? (address ++ ['/', '/'])).isSome := by
  rw [Bool.eq_iff_iff, isSome_address?_iff, isSome_address?_iff]
  constructor
  · rintro ⟨c, scheme, tail, hs, letter, chars⟩
    -- the scheme has no slash, and neither has its colon, so both are in front of the two slashes
    have outside : '/' ∉ c :: scheme ++ [':'] := by
      simp only [List.cons_append, List.mem_cons, List.mem_append, List.not_mem_nil, or_false,
        not_or]
      refine ⟨?_, fun hm => absurd (chars '/' hm) (by decide), by decide⟩
      rintro rfl
      cases letter
    have cut : c :: scheme ++ [':'] ++ '/' :: '/' :: tail = address ++ '/' :: ('/' :: rest) := by
      simpa using hs.symm
    obtain ⟨more, rfl, slashes⟩ := exists_of_append_eq outside cut
    obtain ⟨tail', ht⟩ := exists_slashes slashes
    refine ⟨c, scheme, tail', ?_, letter, chars⟩
    rw [List.append_assoc, ht]
    simp
  · rintro ⟨c, scheme, tail, hs, letter, chars⟩
    exact ⟨c, scheme, tail ++ rest, by rw [hs]; simp, letter, chars⟩

theorem isBlank_of_isSchemeChar {c : Char} (h : isSchemeChar c = true) : isBlank c = false := by
  simp only [isSchemeChar, Bool.or_eq_true, beq_iff_eq] at h
  rcases h with ((h | rfl) | rfl) | rfl
  · exact isBlank_of_isAlphanum h
  · decide
  · decide
  · decide

/-- An address goes on to a blank or to the end of the text, and has no blank itself. -/
theorem address?_ends {s address rest : List Char} (h : address? s = some (address, rest)) :
    (∀ c ∈ address, isBlank c = false) ∧ ∀ c, rest.head? = some c → isBlank c = true := by
  cases s with
  | nil => cases h
  | cons c s =>
    rw [address?] at h
    split at h
    · next letter =>
      obtain ⟨tail, -, he⟩ := Option.map_eq_some_iff.1 h
      obtain ⟨rfl, rfl⟩ := Prod.mk.inj he
      constructor
      · intro d hd
        rw [List.mem_append, List.mem_append, List.mem_cons] at hd
        rcases hd with ((rfl | hd) | hd) | hd
        · exact isBlank_of_isLetter letter
        · exact isBlank_of_isSchemeChar (List.all_eq_true.1 List.all_takeWhile d hd)
        · have slashes : ("://".toList.all (!isBlank ·)) = true := by decide
          simpa using List.all_eq_true.1 slashes d hd
        · simpa using List.all_eq_true.1 List.all_takeWhile d hd
      · intro d hd
        have := List.head?_dropWhile_not (fun c => !isBlank c) tail
        rw [hd] at this
        simpa using this
    · cases h

/-- What lies in an address goes on to lie in it behind more text. -/
theorem InAddress.append_left {s : List Char} (h : InAddress s) (front : List Char) :
    InAddress (front ++ s) := by
  obtain ⟨front', address, rfl, nonblank, found⟩ := h
  exact ⟨front ++ front', address, (List.append_assoc ..).symm, nonblank, found⟩

theorem not_inAddress_nil : ¬ InAddress [] := by
  rintro ⟨front, address, hs, -, found⟩
  obtain ⟨-, rfl⟩ := List.append_eq_nil_iff.1 hs.symm
  exact absurd found (by decide)

/-- Where no address begins, the slashes behind it count as they do without it. -/
theorem unslashed_cons_iff {c : Char} {s : List Char} (hs : '\n' ∉ c :: s)
    (address : address? (c :: s) = none) (pair : between? ['/', '/'] (c :: s) = none) :
    Unslashed (c :: s) ↔ Unslashed s := by
  constructor
  · rintro h front body rest rfl
    obtain ⟨front', address', hf, nonblank, found⟩ := h (c :: front) body rest (by simp)
    cases front' with
    | nil =>
      -- the address would have begun at the character itself
      rw [List.nil_append] at hf
      subst hf
      have whole := isSome_address?_append (c :: front) (body ++ ['/', '/'] ++ rest)
      rw [found] at whole
      simp only [List.cons_append, List.append_assoc] at whole address
      rw [address] at whole
      cases whole
    | cons d front' => exact ⟨front', address', (List.cons.inj hf).2, nonblank, found⟩
  · intro h front body rest hf
    cases front with
    | nil => exact absurd ⟨body, rest, hf.symm⟩ ((between?_eq_none_iff hs).1 pair)
    | cons d front =>
      simp only [List.cons_append, List.cons.injEq] at hf
      obtain ⟨rfl, hf⟩ := hf
      exact (h front body rest hf).append_left [c]

/-- An address in front does not count. -/
theorem unslashed_append_iff {s address rest : List Char} (h : address? s = some (address, rest)) :
    Unslashed s ↔ Unslashed rest := by
  obtain ⟨nonblank, ends⟩ := address?_ends h
  have hs := eq_append_of_address? h
  constructor
  · rintro unslashed front body behind rfl
    obtain ⟨front', address', hf, nonblank', found⟩ := unslashed (address ++ front) body behind (by
      rw [hs]
      simp)
    rcases List.append_eq_append_iff.1 hf with ⟨more, rfl, rfl⟩ | ⟨more, rfl, rfl⟩
    · exact ⟨more, address', rfl, nonblank', found⟩
    · -- what is behind an address begins with a blank
      cases front with
      | nil => exact absurd (ends '/' rfl) (by decide)
      | cons c front =>
        have blank := ends c rfl
        rw [nonblank' c (by simp)] at blank
        cases blank
  · intro unslashed front body behind hf
    rw [hs, List.append_assoc, List.append_assoc, List.append_assoc,
      List.append_eq_append_iff] at hf
    rcases hf with ⟨more, rfl, hr⟩ | ⟨more, rfl, hr⟩
    · exact (unslashed more body behind (by simp [hr])).append_left address
    · have found : (address? (front ++ ['/', '/'])).isSome = true := by
        rw [← isSome_address?_append front (body ++ ['/', '/'] ++ behind)]
        have whole : s = front ++ ['/', '/'] ++ (body ++ ['/', '/'] ++ behind) := by
          rw [hs, List.append_assoc, ← hr]
          simp
        rw [← whole, h]
        rfl
      exact ⟨[], front, rfl, fun c hc => nonblank c (by simp [hc]), found⟩

/-- **The rule for slashes keeps a line exactly if it has no two pairs of slashes outside
addresses.** -/
theorem slashItalicRule_eq_self_iff {s : List Char} (hs : '\n' ∉ s) :
    slashItalicRule.apply s = s ↔ Unslashed s := by
  induction s using Rule.apply.induct slashItalicRule with
  | case1 =>
    refine ⟨fun _ front body rest h => ?_, fun _ => Rule.apply_nil _⟩
    simp at h
  | case2 c s out rest hm ih =>
    rw [Rule.apply_of_match hm]
    rcases Option.or_eq_some_iff.1 hm with address | ⟨none, pair⟩
    · have whole := eq_append_of_address? address
      have line : '\n' ∉ rest := fun h => hs (by rw [whole]; simp [h])
      rw [unslashed_append_iff address, ← ih line, whole, List.append_cancel_left_eq]
    · obtain ⟨parts, hp, he⟩ := Option.map_eq_some_iff.1 pair
      obtain ⟨rfl, rfl⟩ := Prod.mk.inj he
      have read := eq_append_of_between? hp
      constructor
      · intro same
        have rest := unwraps_slashItalicRule.length_apply_le parts.2
        have whole := congrArg List.length same
        rw [read] at whole
        simp only [List.length_append, List.length_cons, List.length_nil] at whole
        omega
      · intro unslashed
        exact absurd (unslashed [] parts.1 parts.2 (by simpa using read)) not_inAddress_nil
  | case3 c s hm ih =>
    obtain ⟨address, pair⟩ := Option.or_eq_none_iff.1 hm
    rw [Rule.apply_of_no_match hm, unslashed_cons_iff hs address (Option.map_eq_none_iff.1 pair),
      ← ih fun h => hs (List.mem_cons_of_mem _ h)]
    simp

/-- A line comes through all rules for escapes and emphasis exactly if it has no formatting. -/
theorem emphasisRules_keep_iff {s : List Char} (hs : '\n' ∉ s) :
    (∀ rule ∈ emphasisRules, rule.apply s = s) ↔ Unformatted s ∧ Unslashed s := by
  rw [← keeps_iff_unformatted hs, ← slashItalicRule_eq_self_iff hs]
  simp [emphasisRules, and_assoc]

end TicketMigration.Markup
