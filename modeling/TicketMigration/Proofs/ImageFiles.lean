import TicketMigration.Proofs.LinkTargets

/-!
# Images

The file of an image becomes the target of a link.  Images are read once the links have been read,
so a link inside the file is taken first, and the first closing bracket of the image with it: the
image is then left as it is written in the wiki, with the link in it.  Without one, the image comes
through the later rules as a link does.

## Main definitions

* `IsImageFile` — what an image is made of.
* `HasLink` — the file has a link inside, which is read before the image.

## Main statements

* `linkRule_apply_append_bracket` — what becomes of a text up to its first closing bracket.
* `inlineMarkdown_image_iff` — **when the file of an image is left alone.**
* `inlineMarkdown_targets_iff` — the same for addresses, linked addresses and images together.
-/

namespace TicketMigration.Markup

open Text

/-- The file of an image: a name on one line, without what closes the image, that is no attachment
of a page. -/
structure IsImageFile (file : List Char) : Prop where
  /-- It has nothing that closes the image, and no newline. -/
  chars : ∀ c ∈ [')', ']', '\n'], c ∉ file
  /-- It does not begin with the word of an attachment. -/
  site : ∀ site ∈ attachmentSites, ¬ site <+: file

/-- The file has a link inside, which goes on behind the file to the first closing bracket. -/
def HasLink (file : List Char) : Prop :=
  ∃ front url c rest, file = front ++ '[' :: (url ++ c :: rest) ∧ IsWebAddress url ∧
    isBlank c = true ∧ '[' ∉ rest

/-- What opens an image. -/
def imageOpening : List Char :=
  "[[Image(".toList

/-- An image as it is written in the wiki. -/
def imageMarkup (file : List Char) : List Char :=
  imageOpening ++ (file ++ [')']) ++ [']', ']']

/-- What an image becomes. -/
def imageMarkdown (file : List Char) : List Char :=
  '!' :: (Link.mk file "image".toList).markdown

/-! ### Links in front of a closing bracket -/

/-- A link whose closing bracket is left off. -/
structure IsOpenLink (s : List Char) (link : Link) : Prop where
  /-- The link has an address. -/
  url : IsWebAddress link.url
  /-- It has a label, without brackets. -/
  label : link.label ≠ [] ∧ ∀ c ∈ link.label, isLabelChar c = true
  /-- It is read from the address, one blank and the label. -/
  parts : ∃ c, isBlank c = true ∧ s = '[' :: (link.url ++ c :: link.label)

/-- With its bracket, an open link is read. -/
theorem IsOpenLink.read? {s : List Char} {link : Link} (h : IsOpenLink s link) (rest : List Char) :
    Link.read? (s ++ ']' :: rest) = some (link, rest) := by
  obtain ⟨c, blank, rfl⟩ := h.parts
  have found := Link.read?_append h.url blank h.label.1 h.label.2 rest
  simpa using found

/-- What is read up to the first closing bracket of a text is an open link. -/
theorem isOpenLink_of_read? {s rest rest' : List Char} {link : Link} (hs : ']' ∉ s)
    (h : Link.read? (s ++ ']' :: rest) = some (link, rest')) :
    IsOpenLink s link ∧ rest' = rest := by
  obtain ⟨c, parts, url, blank, nonempty, label⟩ := Link.eq_append_of_read? h
  have inLabel : ']' ∉ link.label := fun hm => absurd (label _ hm) (by decide)
  have inUrl : ']' ∉ link.url := url.not_mem (by decide)
  have other : c ≠ ']' := fun hc => absurd blank (by rw [hc]; decide)
  have outside : ']' ∉ '[' :: (link.url ++ c :: link.label) := by
    simp [inLabel, inUrl, other.symm]
  have whole : s ++ ']' :: rest = '[' :: (link.url ++ c :: link.label) ++ ']' :: rest' := by
    simpa using parts
  obtain ⟨same, rfl⟩ := append_cons_inj hs outside whole
  exact ⟨⟨url, ⟨nonempty, label⟩, c, blank, same⟩, rfl⟩

/-- **Up to the first closing bracket of a text, there is no link, or there is one that goes on to
the bracket.** -/
theorem linkRule_apply_append_bracket {s : List Char} (hs : ']' ∉ s) (rest : List Char) :
    (linkRule.apply (s ++ ']' :: rest) = s ++ ']' :: linkRule.apply rest ∧
        ∀ t link, t <:+ s → ¬ IsOpenLink t link) ∨
      ∃ front t link, s = front ++ t ∧ IsOpenLink t link ∧
        linkRule.apply (s ++ ']' :: rest) = front ++ link.markdown ++ linkRule.apply rest := by
  induction s with
  | nil =>
    refine .inl ⟨Rule.apply_of_no_match rfl, fun t link ht hl => ?_⟩
    obtain ⟨c, -, rfl⟩ := hl.parts
    simp at ht
  | cons d s ih =>
    cases hr : Link.read? (d :: s ++ ']' :: rest) with
    | some parts =>
      obtain ⟨link, rest'⟩ := parts
      obtain ⟨hl, rfl⟩ := isOpenLink_of_read? hs hr
      have read : linkRule.match? (d :: s ++ ']' :: rest') = some (link.markdown, rest') := by
        rw [linkRule_match?_eq, hr, Option.map_some]
      exact .inr ⟨[], d :: s, link, rfl, hl, Rule.apply_of_match read⟩
    | none =>
      have read : linkRule.match? (d :: (s ++ ']' :: rest)) = none := by
        rw [linkRule_match?_eq, ← List.cons_append, hr, Option.map_none]
      rw [List.cons_append, Rule.apply_of_no_match read]
      rcases ih fun hm => hs (List.mem_cons_of_mem _ hm) with
        ⟨kept, no⟩ | ⟨front, t, link, rfl, hl, he⟩
      · refine .inl ⟨by rw [kept, List.cons_append], fun t link ht hl => ?_⟩
        rcases List.suffix_cons_iff.1 ht with rfl | ht
        · -- an open link would have been read here
          rw [hl.read? rest] at hr
          cases hr
        · exact no t link ht hl
      · exact .inr ⟨d :: front, t, link, rfl, hl, by rw [he]; rfl⟩

theorem linkRule_apply_bracket : linkRule.apply [']'] = [']'] := by
  rw [Rule.apply_of_no_match rfl, Rule.apply_nil]

/-- **A link stands open behind an image's opening exactly if the file has one.** -/
theorem exists_isOpenLink_iff {file : List Char} (bracket : ']' ∉ file) :
    (∃ t link, t <:+ imageOpening ++ (file ++ [')']) ∧ IsOpenLink t link) ↔ HasLink file := by
  constructor
  · rintro ⟨_, link, ht, url, label, c, blank, rfl⟩
    rw [← List.append_assoc] at ht
    obtain ⟨t', hp, ht⟩ := exists_of_isSuffix_append (by decide) ht
    -- the parenthesis behind the file is the end of the label
    obtain ⟨rest, last, hr⟩ : ∃ rest last, link.label = rest ++ [last] :=
      ⟨_, _, (List.dropLast_append_getLast label.1).symm⟩
    rw [hr, ← List.cons_append, ← List.append_assoc] at hp
    obtain ⟨rfl, -⟩ := List.append_inj' hp rfl
    obtain ⟨address, hu⟩ := url.exists_cons
    have opening : imageOpening ++ file = '[' :: '[' :: ("Image(".toList ++ file) := rfl
    rw [opening, List.suffix_cons_iff, List.suffix_cons_iff, hu] at ht
    rcases ht with ht | ht | ht
    · simp at ht
    · simp at ht
    · rw [← hu] at ht
      obtain ⟨front, hf⟩ := (isSuffix_append_left_iff (by decide)).1 ht
      refine ⟨front, link.url, c, rest, hf.symm, url, blank, fun hm => ?_⟩
      exact absurd (label.2 '[' (by simp [hr, hm])) (by decide)
  · rintro ⟨front, url, c, rest, rfl, hu, blank, opening⟩
    refine ⟨_, ⟨url, rest ++ [')']⟩, ?_, hu, ⟨by simp, fun d hd => ?_⟩, c, blank, rfl⟩
    · exact ⟨imageOpening ++ front, by simp⟩
    · rcases List.mem_append.1 hd with hd | hd
      · have closing : d ≠ ']' := by
          rintro rfl
          exact bracket (by simp [hd])
        have opening : d ≠ '[' := by
          rintro rfl
          exact opening hd
        simp [isLabelChar, opening, closing]
      · rw [List.mem_singleton.1 hd]
        decide

/-! ### What images are read from -/

/-- A marker is found where its first character comes up first. -/
theorem upTo?_append {allowed : Char → Bool} {c : Char} {body : List Char} (hc : c ∉ body)
    (h : ∀ d ∈ body, allowed d = true) (marker rest : List Char) :
    upTo? allowed (c :: marker) (body ++ (c :: marker) ++ rest) = some (body, rest) := by
  rw [List.append_assoc]
  refine upTo?_of_no_marker ?_ h
  intro t ht hne hp
  obtain ⟨d, t, rfl⟩ := List.exists_cons_of_ne_nil hne
  obtain rfl : c = d := (List.cons_prefix_cons.1 hp).1
  exact hc (ht.subset List.mem_cons_self)

theorem closing_eq : ")]]".toList = [')'] ++ [']', ']'] := rfl

/-- An image is closed by two brackets. -/
theorem imageRule_needs_closing : imageRule.Needs [']', ']'] := fun {s _} h => by
  obtain ⟨⟨file, rest⟩, hf, -⟩ := Option.map_eq_some_iff.1 h
  obtain ⟨inside, hi, h⟩ := Option.bind_eq_some_iff.1 hf
  split at h
  · cases h
  · split at h
    · split at h
      · obtain ⟨parts, hp, he⟩ := Option.map_eq_some_iff.1 h
        have brackets : [']', ']'] <:+: parts.1 ++ ")]]".toList ++ parts.2 :=
          ⟨parts.1 ++ [')'], parts.2, by rw [closing_eq]; simp⟩
        rw [after?_eq_some_iff.1 hi, eq_append_of_upTo? hp]
        exact brackets.trans ((List.suffix_cons _ _).trans (List.suffix_append _ _)).isInfix
      · cases h
    · cases h

namespace IsImageFile

variable {file : List Char}

/-- The image is no attachment, whatever is behind the parenthesis that closes it. -/
theorem any_attachmentSites (h : IsImageFile file) (rest : List Char) :
    (attachmentSites.any fun site => (after? site (file ++ ')' :: rest)).isSome) = false := by
  rw [List.any_eq_false]
  intro site hs
  have paren : ∀ site ∈ attachmentSites, ')' ∉ site := by decide
  have none : after? site (file ++ ')' :: rest) = none :=
    after?_eq_none_iff.2 fun hp => h.site site hs (isPrefix_of_append_cons (paren site hs) hp)
  rw [none]
  simp

/-- An image is read from its markup. -/
theorem match?_imageMarkup (h : IsImageFile file) (nonempty : file ≠ []) :
    imageRule.match? (imageMarkup file) = some (imageMarkdown file, []) := by
  have closing : ')' ∉ file := h.chars _ (by simp)
  have newline : '\n' ∉ file := h.chars _ (by simp)
  have opening : after? "[[Image(".toList (imageMarkup file) = some (file ++ ")]]".toList) :=
    after?_eq_some_iff.2 (by
      rw [imageMarkup, List.append_assoc, List.append_assoc, ← closing_eq]
      rfl)
  have noSite := h.any_attachmentSites "]]".toList
  have read : image? (imageMarkup file) = some (file, []) := by
    rw [image?, opening, Option.bind_some, if_neg (by rw [Bool.not_eq_true]; exact noSite)]
    cases file with
    | nil => exact absurd rfl nonempty
    | cons c file =>
      rw [List.mem_cons, not_or] at closing newline
      have online : onLine c = true := by simpa [onLine] using Ne.symm newline.1
      have found : upTo? onLine ")]]".toList (file ++ ")]]".toList) = some (file, []) := by
        rw [← List.append_nil (file ++ _)]
        refine upTo?_append (c := ')') closing.2 (fun d hd => ?_) "]]".toList []
        simp only [onLine, bne_iff_ne]
        rintro rfl
        exact newline.2 hd
      show (if onLine c = true then (upTo? onLine _ (file ++ ")]]".toList)).map _ else _) = _
      rw [if_pos online, found]
      rfl
  show (image? _).map _ = _
  rw [read]
  simp [imageMarkdown, Link.markdown]

end IsImageFile

/-! ### Images behind the inline rules -/

theorem unformatted_mark_iff {s : List Char} :
    Unformatted ('!' :: '[' :: s) ↔ Unformatted ('[' :: s) := by
  constructor
  · exact fun ⟨noEscape, noPairs⟩ =>
      ⟨fun word hw => noEscape word (hw.trans (List.suffix_cons _ _)),
        fun body hi => noPairs body (hi.trans (List.suffix_cons _ _).isInfix)⟩
  · rintro ⟨noEscape, noPairs⟩
    refine ⟨fun word hw => ?_, fun body hi => ?_⟩
    · rcases List.suffix_cons_iff.1 hw with he | hw
      · rw [(List.cons.inj he).2]
        rintro ⟨capital, part, capital', c, rest, hs, upper, -⟩
        -- a bracket is no capital letter
        obtain ⟨rfl, -⟩ := List.cons.inj hs
        cases upper
      · exact noEscape word hw
    · have quote : '\'' ∉ ['!'] := by decide
      exact noPairs body ((isInfix_append_left_iff quote).1 hi)

/-- The exclamation mark of an image does not change what becomes of its link. -/
theorem linkReferences_mark_iff {s : List Char} (line : '\n' ∉ s) (base : List Char) :
    linkReferences base (emphasisRules.foldl (fun text rule => rule.apply text) ('!' :: '[' :: s))
        = '!' :: '[' :: s ↔
      linkReferences base (emphasisRules.foldl (fun text rule => rule.apply text) ('[' :: s))
        = '[' :: s := by
  have line' : '\n' ∉ '[' :: s := by simp [line]
  have mark : '\n' ∉ '!' :: '[' :: s := by simp [line]
  have first : segment? none ('!' :: '[' :: s) = none := segment?_cons_eq_none (by decide) _ _
  have word : wordGoesOn (some '!') = wordGoesOn none := by decide +kernel
  have references : (∀ segment ∈ segments ('!' :: '[' :: s), segment.isReference = false) ↔
      ∀ segment ∈ segments ('[' :: s), segment.isReference = false := by
    rw [segments, segments, segmentsAfter_of_none first, segmentsAfter_congr word]
    simp [Segment.isReference]
  have rules := linkReferences_foldl_eq_self_iff (fun _ => unwraps_of_mem_emphasisRules) base
  rw [rules, rules, emphasisRules_keep_iff mark, emphasisRules_keep_iff line', unformatted_mark_iff,
    unslashed_cons_iff mark rfl rfl, references]

/-- The closing brackets that the rules for links and images leave are there in the end. -/
theorem count_le_inlineMarkdown (base s : List Char) :
    (imageRule.apply (linkRule.apply s)).count ']' ≤ (inlineMarkdown base s).count ']' := by
  rw [inlineMarkdown_eq, ← count_foldl_apply fun _ => unwraps_of_mem_emphasisRules, linkReferences]
  conv => lhs; rw [← flatMap_text_segmentsAfter none (emphasisRules.foldl _ _)]
  exact count_flatMap_text_le base _

namespace IsImageFile

variable {file : List Char} (h : IsImageFile file)

include h

/-- No closing bracket stands in front of those of the image. -/
theorem not_mem_inside : ']' ∉ imageOpening ++ (file ++ [')']) := by
  rw [List.mem_append, List.mem_append, not_or, not_or]
  exact ⟨by decide, h.chars _ (by simp), by decide⟩

theorem count_imageMarkdown : (imageMarkdown file).count ']' = 1 := by
  have bracket : file.count ']' = 0 := List.count_eq_zero_of_not_mem (h.chars _ (by simp))
  simp [imageMarkdown, Link.markdown, bracket]

/-- What keeps both brackets of an image is no image any more. -/
theorem inlineMarkdown_ne_imageMarkdown {s : List Char}
    (brackets : (imageRule.apply (linkRule.apply s)).count ']' = 2) (base : List Char) :
    inlineMarkdown base s ≠ imageMarkdown file := by
  intro same
  -- what an image becomes has one bracket, and no later rule takes the other one away
  have kept := count_le_inlineMarkdown base s
  rw [brackets, same, h.count_imageMarkdown] at kept
  omega

/-- An image with a link inside keeps its brackets, and a parenthesis comes between them. -/
theorem count_of_link {front t : List Char} {link : Link} (hl : IsOpenLink t link)
    (parts : imageOpening ++ (file ++ [')']) = front ++ t) :
    (imageRule.apply (front ++ link.markdown ++ [']'])).count ']' = 2 := by
  obtain ⟨c, blank, rfl⟩ := hl.parts
  have bracket := h.not_mem_inside
  rw [parts] at bracket
  simp only [List.mem_append, List.mem_cons, not_or] at bracket
  obtain ⟨inFront, -, inUrl, -, inLabel⟩ := bracket
  have written : front ++ link.markdown ++ [']']
      = (front ++ '[' :: link.label) ++ ']' :: (('(' :: link.url ++ [')']) ++ [']']) := by
    simp [Link.markdown]
  have first : ']' ∉ front ++ '[' :: link.label := by simp [inFront, inLabel]
  have second : ']' ∉ '(' :: link.url ++ [')'] := by simp [inUrl]
  have apart : ¬ [']', ']'] <:+: front ++ link.markdown ++ [']'] := by
    rw [written, isInfix_append_left_iff first]
    intro hi
    rcases List.infix_cons_iff.1 hi with hp | hi
    · have := (List.cons_prefix_cons.1 hp).2
      simp at this
    · have := ((isInfix_append_left_iff second).1 hi).length_le
      simp at this
  rw [imageRule_needs_closing.apply_eq_self apart, written, List.count_append,
    List.count_eq_zero_of_not_mem first, List.count_cons_self, List.count_append,
    List.count_eq_zero_of_not_mem second]
  rfl

/-- Without a link inside, no link is read in an image. -/
theorem linkRule_apply_imageMarkup (without : ¬ HasLink file) :
    linkRule.apply (imageMarkup file) = imageMarkup file := by
  rcases linkRule_apply_append_bracket h.not_mem_inside [']'] with
    ⟨kept, -⟩ | ⟨front, t, link, hs, hl, -⟩
  · rwa [linkRule_apply_bracket] at kept
  · refine absurd ((exists_isOpenLink_iff (h.chars _ (by simp))).1 ⟨t, link, ?_, hl⟩) without
    rw [hs]
    exact List.suffix_append _ _

/-- With one, the image is not read. -/
theorem inlineMarkdown_ne_of_hasLink (within : HasLink file) (base : List Char) :
    inlineMarkdown base (imageMarkup file) ≠ imageMarkdown file := by
  obtain ⟨t, link, ht, hl⟩ := (exists_isOpenLink_iff (h.chars _ (by simp))).2 within
  rcases linkRule_apply_append_bracket h.not_mem_inside [']'] with
    ⟨-, noLink⟩ | ⟨front, t, link, hs, hl, he⟩
  · exact absurd hl (noLink t link ht)
  · rw [linkRule_apply_bracket] at he
    have links : linkRule.apply (imageMarkup file) = front ++ link.markdown ++ [']'] := he
    exact h.inlineMarkdown_ne_imageMarkdown (by rw [links]; exact h.count_of_link hl hs) base

/-- An image without a link inside comes through as the link to its file does. -/
theorem inlineMarkdown_iff_of_not_hasLink (nonempty : file ≠ []) (without : ¬ HasLink file)
    (base : List Char) :
    inlineMarkdown base (imageMarkup file) = imageMarkdown file ↔
      Unformatted file ∧ Unslashed file ∧
        ∀ segment ∈ segments (unprotected file), segment.isReference = false := by
  have newline : '\n' ∉ file := h.chars _ (by simp)
  have images : imageRule.apply (imageMarkup file) = imageMarkdown file := by
    rw [Rule.apply_of_match (h.match?_imageMarkup nonempty), Rule.apply_nil, List.append_nil]
  have label : IsLabel "image".toList := .of_all (by decide) (by decide)
  have emphasis := @Link.linkReferences_markdown_iff ⟨file, "image".toList⟩ label newline base
  rw [Link.markdown_eq, List.cons_append] at emphasis
  have line : '\n' ∉ "image".toList ++ ']' :: '(' :: (file ++ [')']) := by
    simp [newline]
  rw [inlineMarkdown_eq, h.linkRule_apply_imageMarkup without, images, imageMarkdown,
    Link.markdown_eq, List.cons_append, linkReferences_mark_iff line, emphasis]

end IsImageFile

/-- What has no file is no image. -/
theorem inlineMarkdown_imageMarkup_nil_ne (h : IsImageFile []) (base : List Char) :
    inlineMarkdown base (imageMarkup []) ≠ imageMarkdown [] := by
  have without : ¬ HasLink [] := by
    rintro ⟨front, url, c, rest, hf, -⟩
    simp at hf
  have brackets : (imageRule.apply (imageMarkup [])).count ']' = 2 := by decide +kernel
  exact h.inlineMarkdown_ne_imageMarkdown
    (by rw [h.linkRule_apply_imageMarkup without, brackets]) base

/-- **The file of an image is left alone exactly if there is one, it has no link and no formatting,
and no reference in the part that is not protected.** -/
theorem inlineMarkdown_image_iff (base : List Char) {file : List Char} (h : IsImageFile file) :
    inlineMarkdown base (imageMarkup file) = imageMarkdown file ↔
      file ≠ [] ∧ ¬ HasLink file ∧ Unformatted file ∧ Unslashed file ∧
        ∀ segment ∈ segments (unprotected file), segment.isReference = false := by
  by_cases nonempty : file = []
  · subst nonempty
    simp [inlineMarkdown_imageMarkup_nil_ne h base]
  · by_cases within : HasLink file
    · simp [h.inlineMarkdown_ne_of_hasLink within base, within]
    · rw [h.inlineMarkdown_iff_of_not_hasLink nonempty within base]
      simp [nonempty, within]

/-! ### Addresses, links and images -/

/-- **Addresses and link targets are left alone exactly if they have no formatting, and no reference
in the part that is not protected.**  An address that stands on its own is protected as a whole;
slashes format the file of an image only, which need not be an address. -/
theorem inlineMarkdown_targets_iff (base : List Char) :
    (∀ url, IsWebAddress url → (inlineMarkdown base url = url ↔ Unformatted url)) ∧
    (∀ url label, IsWebAddress url → IsLabel label →
      (inlineMarkdown base ('[' :: (url ++ ' ' :: (label ++ [']'])))
          = (Link.mk url label).markdown ↔
        Unformatted url ∧ ∀ segment ∈ segments (unprotected url), segment.isReference = false)) ∧
    ∀ file, IsImageFile file →
      (inlineMarkdown base (imageMarkup file) = imageMarkdown file ↔
        file ≠ [] ∧ ¬ HasLink file ∧ Unformatted file ∧ Unslashed file ∧
          ∀ segment ∈ segments (unprotected file), segment.isReference = false) :=
  ⟨fun _ hu => inlineMarkdown_webAddress_iff base hu,
    fun _ _ hu hl => inlineMarkdown_link_iff base hu hl,
    fun _ h => inlineMarkdown_image_iff base h⟩

/-- Digits behind a number sign are no reference in any of the three. -/
theorem inlineMarkdown_targets_iff_numbers :
    inlineMarkdown [] "https://example.org/r12/x#3".toList = "https://example.org/r12/x#3".toList ∧
    inlineMarkdown [] ('[' :: ("https://example.org/r12#4_(b)".toList ++ ' ' ::
        ("Example page".toList ++ [']'])))
      = (Link.mk "https://example.org/r12#4_(b)".toList "Example page".toList).markdown ∧
    inlineMarkdown [] (imageMarkup "shot#2.png".toList) = imageMarkdown "shot#2.png".toList := by
  obtain ⟨address, link, image⟩ := inlineMarkdown_targets_iff []
  refine ⟨?_, ?_, ?_⟩
  · have url : IsWebAddress "https://example.org/r12/x#3".toList :=
      ⟨"https://".toList, "example.org/r12/x#3".toList, by decide, by decide,
        List.all_eq_true.1 (by decide), rfl⟩
    exact (address _ url).2 (unformatted_of_not_mem (by decide) (by decide))
  · have url : IsWebAddress "https://example.org/r12#4_(b)".toList :=
      ⟨"https://".toList, "example.org/r12#4_(b)".toList, by decide, by decide,
        List.all_eq_true.1 (by decide), rfl⟩
    have label : IsLabel "Example page".toList := .of_all (by decide) (by decide)
    exact (link _ _ url label).2 ⟨unformatted_of_not_mem (by decide) (by decide), by decide +kernel⟩
  · have file : IsImageFile "shot#2.png".toList := by
      refine ⟨fun c hc => ?_, by decide⟩
      simp only [List.mem_cons, List.not_mem_nil, or_false] at hc
      rcases hc with rfl | rfl | rfl <;> decide
    have noLink : ¬ HasLink "shot#2.png".toList := by
      rintro ⟨front, url, c, rest, hf, -⟩
      have bracket : '[' ∈ "shot#2.png".toList := by rw [hf]; simp
      exact absurd bracket (by decide)
    exact (image _ file).2 ⟨by decide, noLink, unformatted_of_not_mem (by decide) (by decide),
      unslashed_of_not_mem (by decide), by decide +kernel⟩

/-- A reference in a link target behind a parenthesis is written as a link of its own. -/
theorem linkTarget_changed_behindParenthesis :
    IsWebAddress "https://example.org/a)#12".toList ∧ IsLabel "docs".toList ∧
      inlineMarkdown "https://trac.example.org".toList
          ('[' :: ("https://example.org/a)#12".toList ++ ' ' :: ("docs".toList ++ [']'])))
        ≠ (Link.mk "https://example.org/a)#12".toList "docs".toList).markdown := by
  refine ⟨?_, .of_all (by decide) (by decide), by decide +kernel⟩
  exact ⟨"https://".toList, "example.org/a)#12".toList, by decide, by decide,
        List.all_eq_true.1 (by decide), rfl⟩

end TicketMigration.Markup
