import TicketMigration.Proofs.LinkTargets
import TicketMigration.Proofs.Bars
import TicketMigration.Markup.Document

/-!
# References are found in one pass

A text is cut into segments from the left, and only then are the references among them written as
links.  So what a reference is does not depend on where links lead, and a link is never looked at
again.  Where the scan meets a macro call, a link target or a web address, it passes over the whole
of it; elsewhere it takes a reference if one begins there, and otherwise a single character.

Nothing of a link but its opening bracket comes to the front of a line, whatever the address of the
tracker is.  So the address does not decide either which lines are rows of a table.

## Main definitions

* `Shielded` — the texts that are passed over as a whole.
* `BeginsReference` — a reference stands at the front of a text.
* `FoundInOnePass` — what the segments of a text are.

## Main statements

* `segmentsAfter_place` — at each place between two segments the scan goes on as from the start.
* `segment?_of_shielded`, `read?_eq_some_iff` — what the readers of segments accept.
* `foundInOnePass_and_base_apart` — **references are found in one pass, and independently of the
  address that they lead below.**
-/

namespace TicketMigration.Markup

open Text

/-! ### What the scan meets -/

/-- The text stands in front of the other one and is passed over as a whole. -/
inductive Shielded : List Char → List Char → Prop
  /-- A macro call. -/
  | macroCall {inside : List Char} (h : ']' ∉ inside) (rest : List Char) :
    Shielded (['[', '['] ++ inside ++ [']', ']']) rest
  /-- The target of a link, which has no blanks. -/
  | target {inside : List Char} (h : ')' ∉ inside) (nonblank : ∀ c ∈ inside, isBlank c = false)
      (rest : List Char) : Shielded ([']', '('] ++ inside ++ [')']) rest
  /-- A web address, which goes on to the next blank. -/
  | address {scheme tail rest : List Char} (hs : scheme ∈ webSchemes) (nonempty : tail ≠ [])
      (nonblank : ∀ c ∈ tail, isBlank c = false) (ends : ∀ c ∈ rest.head?, isBlank c = true) :
    Shielded (scheme ++ tail) rest

/-- A reference of this form and with this number stands at the front of a text, which the given
character precedes. -/
def BeginsReference (form : ReferenceForm) (number : List Char) (before : Option Char)
    (s : List Char) : Prop :=
  ∃ rest, s = form.opening ++ number ++ form.closing ++ rest ∧
    -- the number is the whole run of digits
    number ≠ [] ∧ (∀ d ∈ number, isDigit d = true) ∧
    (∀ d ∈ (form.closing ++ rest).head?, isDigit d = false) ∧
    -- no word goes on over its ends
    (form.beginsWord = true → wordGoesOn before = false) ∧
    (form.endsWord = true → wordGoesOn rest.head? = false)

/-! ### What the readers accept -/

/-- **What is shielded is one segment**, whatever comes before it. -/
theorem segment?_of_shielded {text rest : List Char} (h : Shielded text rest)
    (before : Option Char) : segment? before (text ++ rest) = some (.literal text) := by
  cases h with
  | @macroCall inside h rest =>
    obtain ⟨taken, left⟩ := takeWhile_append_of_head? (· != ']')
      ([']', ']'] ++ rest) (fun c hc => by simpa using ne_of_mem_of_not_mem hc h) (by simp)
    have read : macroCall? (['[', '['] ++ (inside ++ ([']', ']'] ++ rest)))
        = some (.literal (['[', '['] ++ inside ++ [']', ']'])) := by
      rw [macroCall?, after?_append, Option.bind_some, taken, left, after?_append]
      rfl
    rw [List.append_assoc, List.append_assoc, segment?, read, Option.some_or]
  | @target inside h nonblank rest =>
    obtain ⟨taken, left⟩ := takeWhile_append_of_head? isTargetChar ([')'] ++ rest)
      (fun c hc => by simpa [isTargetChar, nonblank c hc] using ne_of_mem_of_not_mem hc h)
      (by simp [isTargetChar])
    have read : linkTarget? ([']', '('] ++ (inside ++ ([')'] ++ rest)))
        = some (.literal ([']', '('] ++ inside ++ [')'])) := by
      rw [linkTarget?, after?_append, Option.bind_some, taken, left, after?_append]
      rfl
    have call : macroCall? ([']', '('] ++ (inside ++ ([')'] ++ rest))) = none := rfl
    rw [List.append_assoc, List.append_assoc, segment?, call, Option.none_or, read, Option.some_or]
  | @address scheme tail rest hs nonempty nonblank ends =>
    obtain ⟨taken, -⟩ := takeWhile_append_of_head? (!isBlank ·) rest
      (fun c hc => by simp [nonblank c hc]) (fun c hc => by simp [ends c hc])
    have read : webAddress? (scheme ++ (tail ++ rest)) = some (.literal (scheme ++ tail)) := by
      rw [webAddress?, scheme?_append hs, Option.bind_some, taken,
        if_neg (by simpa using nonempty)]
    -- no address begins with a bracket
    obtain ⟨t, rfl⟩ := exists_cons_of_scheme? (scheme?_append hs [])
    have call : macroCall? ('h' :: t ++ (tail ++ rest)) = none := rfl
    have target : linkTarget? ('h' :: t ++ (tail ++ rest)) = none := rfl
    rw [List.append_assoc, segment?, call, Option.none_or, target, Option.none_or, read,
      Option.some_or]

/-- A literal text that is read as a whole is shielded. -/
theorem shielded_of_segment? {before : Option Char} {s text : List Char}
    (h : segment? before s = some (.literal text)) :
    ∃ rest, s = text ++ rest ∧ Shielded text rest := by
  rcases segment?_cases h with h | h | h | ⟨form, h⟩
  · obtain ⟨tail, ht, h⟩ := Option.bind_eq_some_iff.1 h
    split at h
    · next closed =>
      obtain ⟨rest, hr⟩ := Option.isSome_iff_exists.1 closed
      obtain rfl := Segment.literal.inj (Option.some.inj h)
      refine ⟨rest, ?_, .macroCall (fun hc => by simpa using mem_takeWhile hc) rest⟩
      rw [after?_eq_some_iff.1 ht]
      conv_lhs => rw [eq_append_of_after?_dropWhile hr]
      simp
    · cases h
  · obtain ⟨tail, ht, h⟩ := Option.bind_eq_some_iff.1 h
    split at h
    · next closed =>
      obtain ⟨rest, hr⟩ := Option.isSome_iff_exists.1 closed
      obtain rfl := Segment.literal.inj (Option.some.inj h)
      refine ⟨rest, ?_, .target (fun hc => ?_) (fun c hc => ?_) rest⟩
      · rw [after?_eq_some_iff.1 ht]
        conv_lhs => rw [eq_append_of_after?_dropWhile hr]
        simp
      · simpa [isTargetChar] using mem_takeWhile hc
      · have char := mem_takeWhile hc
        simp only [isTargetChar, Bool.and_eq_true, Bool.not_eq_true'] at char
        exact char.2
    · cases h
  · obtain ⟨⟨scheme, tail⟩, hp, h⟩ := Option.bind_eq_some_iff.1 h
    split at h
    · cases h
    · next nonempty =>
      obtain rfl := Segment.literal.inj (Option.some.inj h)
      refine ⟨tail.dropWhile (!isBlank ·), ?_, .address (mem_webSchemes_of_scheme? hp)
        (by simpa using nonempty) (fun c hc => by simpa using mem_takeWhile hc)
        (fun c hc => by simpa using head?_dropWhile_eq_false c hc)⟩
      rw [eq_append_of_scheme? hp, List.append_assoc, List.takeWhile_append_dropWhile]
  · obtain ⟨number, -, he, -⟩ := form.eq_append_of_read? h
    cases he

namespace ReferenceForm

/-- **A form is read exactly where a reference of it begins.** -/
theorem read?_eq_some_iff {form : ReferenceForm} {number : List Char} {before : Option Char}
    {s : List Char} :
    form.read? before s = some (.reference form number) ↔ BeginsReference form number before s := by
  constructor
  · intro h
    rw [read?] at h
    split at h
    · cases h
    · next first =>
      obtain ⟨tail, ht, h⟩ := Option.bind_eq_some_iff.1 h
      split at h
      · cases h
      · next digits =>
        obtain ⟨rest, hr, h⟩ := Option.bind_eq_some_iff.1 h
        split at h
        · cases h
        · next last =>
          obtain ⟨-, rfl⟩ := Segment.reference.inj (Option.some.inj h)
          refine ⟨rest, ?_, by simpa using digits,
            fun d hd => List.all_eq_true.1 List.all_takeWhile d hd, ?_, ?_, ?_⟩
          · rw [after?_eq_some_iff.1 ht]
            conv_lhs => rw [eq_append_of_after?_dropWhile hr]
            simp
          · rw [← after?_eq_some_iff.1 hr]
            exact head?_dropWhile_eq_false
          · intro hb
            simpa [hb] using first
          · intro he
            simpa [he] using last
  · rintro ⟨rest, rfl, nonempty, digits, ends, first, last⟩
    obtain ⟨taken, left⟩ := takeWhile_append_of_head? _ _ digits ends
    rw [read?, if_neg (by simpa using first), List.append_assoc, List.append_assoc, after?_append,
      Option.bind_some, taken, left, after?_append, Option.bind_some,
      if_neg (by simpa using nonempty), if_neg (by simpa using last)]

/-- What stands before the number tells the forms apart, -/
theorem opening_inj {form form' : ReferenceForm} (h : form.opening = form'.opening) :
    form = form' := by
  cases form <;> cases form' <;> first | rfl | exact absurd h (by decide)

/-- and it has no digits. -/
theorem isDigit_of_mem_opening (form : ReferenceForm) :
    ∀ c ∈ form.opening, isDigit c = false := by
  have none : form.opening.all (!isDigit ·) = true := by cases form <;> decide
  intro c hc
  simpa using List.all_eq_true.1 none c hc

/-- At most one form begins at a place. -/
theorem eq_of_read? {form form' : ReferenceForm} {before : Option Char} {s : List Char}
    {segment segment' : Segment} (h : form.read? before s = some segment)
    (h' : form'.read? before s = some segment') : form = form' := by
  obtain ⟨d, hd, hp⟩ := form.exists_digit_of_read? h
  obtain ⟨e, he, hp'⟩ := form'.exists_digit_of_read? h'
  have shorter {f f' : ReferenceForm} {d e : Char} (hd : isDigit d = true)
      (hp : f.opening ++ [d] <+: f'.opening ++ [e]) : f = f' := by
    rcases List.prefix_concat_iff.1 hp with same | inside
    · exact opening_inj (List.append_inj_left' same rfl)
    · have := isDigit_of_mem_opening f' d (inside.mem (by simp))
      rw [hd] at this
      cases this
  rcases List.prefix_or_prefix_of_prefix hp hp' with hpp | hpp
  · exact shorter hd hpp
  · exact (shorter he hpp).symm

end ReferenceForm

/-- Where a reference begins, nothing else does. -/
theorem not_passedOver_of_read? {form : ReferenceForm} {before : Option Char} {s : List Char}
    {segment : Segment} (h : form.read? before s = some segment) :
    macroCall? s = none ∧ linkTarget? s = none ∧ webAddress? s = none := by
  obtain ⟨d, hd, hp⟩ := form.exists_digit_of_read? h
  have digit : d ≠ '[' := by rintro rfl; exact absurd hd (by decide)
  obtain ⟨rest, rfl⟩ := hp
  refine ⟨?_, ?_, ?_⟩
  · cases form with
    | bracket =>
      have single : after? ['[', '['] ('[' :: d :: rest) = none := by simp [digit]
      exact congrArg (Option.bind · _) single
    | _ => rfl
  · cases form <;> rfl
  · cases form <;> rfl

/-- **A reference is the next segment exactly where one begins.** -/
theorem segment?_eq_some_reference_iff {form : ReferenceForm} {number : List Char}
    {before : Option Char} {s : List Char} :
    segment? before s = some (.reference form number) ↔ BeginsReference form number before s := by
  rw [← ReferenceForm.read?_eq_some_iff]
  constructor
  · intro h
    obtain ⟨form', h'⟩ := exists_read?_of_segment? h rfl
    obtain ⟨number', -, he, -⟩ := form'.eq_append_of_read? h'
    obtain ⟨rfl, rfl⟩ := Segment.reference.inj he
    exact h'
  · intro h
    obtain ⟨call, target, address⟩ := not_passedOver_of_read? h
    have found : (ReferenceForm.all.findSome? fun f => f.read? before s)
        = some (.reference form number) := by
      have member : form ∈ ReferenceForm.all := by cases form <;> decide
      obtain ⟨segment, hs⟩ := Option.isSome_iff_exists.1
        (List.findSome?_isSome_iff (f := fun f : ReferenceForm => f.read? before s) |>.2
          ⟨form, member, Option.isSome_of_eq_some h⟩)
      obtain ⟨form', -, h'⟩ := List.exists_of_findSome?_eq_some hs
      rw [hs, ← h', ← ReferenceForm.eq_of_read? h h', h]
    rw [segment?, call, target, address, found]
    rfl

/-! ### Places of the scan -/

/-- **At each place between two segments the scan goes on as from the start**, with the last
character that it has passed in front. -/
theorem segmentsAfter_place {before : Option Char} {s : List Char} {front behind : List Segment}
    (h : segmentsAfter before s = front ++ behind) :
    behind = segmentsAfter ((front.flatMap Segment.text).getLast?.or before)
      (behind.flatMap Segment.text) := by
  induction before, s using segmentsAfter_induction generalizing front with
  | nil before =>
    obtain ⟨rfl, rfl⟩ := List.append_eq_nil_iff.1 (h.symm.trans (segmentsAfter_nil before))
    rw [List.flatMap_nil, segmentsAfter_nil]
  | read before s segment rest hf hs ih =>
    cases front with
    | nil =>
      rw [List.nil_append] at h
      rw [← h, flatMap_text_segmentsAfter]
      rfl
    | cons first front =>
      rw [segmentsAfter_of_segment? hf hs] at h
      obtain ⟨rfl, hrest⟩ := List.cons.inj h
      obtain ⟨c, t, ht, -⟩ := exists_cons_text_of_segment? hf
      have last : (front.flatMap Segment.text).getLast?.or segment.text.getLast?
          = ((segment :: front).flatMap Segment.text).getLast?.or before := by
        rw [List.flatMap_cons, List.getLast?_append, ht, List.getLast?_cons, Option.or_assoc]
        rfl
      rw [← last]
      exact ih hrest
  | pass before c s hn ih =>
    cases front with
    | nil =>
      rw [List.nil_append] at h
      rw [← h, flatMap_text_segmentsAfter]
      rfl
    | cons first front =>
      rw [segmentsAfter_of_none hn] at h
      obtain ⟨rfl, hrest⟩ := List.cons.inj h
      have last : (front.flatMap Segment.text).getLast?.or (some c)
          = ((Segment.literal [c] :: front).flatMap Segment.text).getLast?.or before := by
        rw [List.flatMap_cons, List.getLast?_append, Option.or_assoc]
        rfl
      rw [← last]
      exact ih hrest

/-- What the segments of a text are. -/
structure FoundInOnePass (s : List Char) : Prop where
  /-- In their order they make up the text. -/
  text : (segments s).flatMap Segment.text = s
  /-- Wherever references lead, literal text is written as it is, and a reference as a link with its
  text, below the address, by its kind and its number. -/
  written (base : List Char) :
    linkReferences base s = (segments s).flatMap fun segment =>
      match segment with
      | .literal text => text
      | .reference form number =>
        ['['] ++ (form.opening ++ number ++ form.closing) ++ [']', '('] ++ base ++ ['/']
          ++ form.kind.path ++ ['/'] ++ number ++ [')']
  /-- What is shielded where the scan comes to it is one literal segment, so no reference lies in
  it. -/
  shielded {front behind : List Segment} {text rest : List Char} :
    segments s = front ++ behind → behind.flatMap Segment.text = text ++ rest →
      Shielded text rest → ∃ ss, behind = .literal text :: ss ∧ ss.flatMap Segment.text = rest
  /-- A reference is the next segment exactly where one begins. -/
  references {front behind : List Segment} {form : ReferenceForm} {number : List Char} :
    segments s = front ++ behind →
      ((∃ ss, behind = .reference form number :: ss) ↔
        BeginsReference form number (front.flatMap Segment.text).getLast?
          (behind.flatMap Segment.text))
  /-- All other segments are single characters. -/
  others {front behind : List Segment} {text : List Char} :
    segments s = front ++ .literal text :: behind →
      Shielded text (behind.flatMap Segment.text) ∨ ∃ c, text = [c]

/-- What the scan takes at a place of a text. -/
theorem segmentsAfter_eq_cons {before : Option Char} {s : List Char} {segment : Segment}
    {ss : List Segment} (h : segmentsAfter before s = segment :: ss) :
    s = segment.text ++ ss.flatMap Segment.text ∧
      (segment? before s = some segment ∨
        segment? before s = none ∧ ∃ c, segment = .literal [c]) := by
  refine ⟨by rw [← flatMap_text_segmentsAfter before s, h, List.flatMap_cons], ?_⟩
  cases s with
  | nil => simp at h
  | cons c s =>
    cases hs : segment? before (c :: s) with
    | none =>
      rw [segmentsAfter_of_none hs] at h
      exact .inr ⟨rfl, c, (List.cons.inj h).1.symm⟩
    | some first =>
      obtain ⟨rest, hr⟩ := eq_append_of_segment? hs
      rw [segmentsAfter_of_segment? hs hr] at h
      exact .inl (congrArg some (List.cons.inj h).1)

/-- Where the scan reads a segment, that is the next one. -/
theorem exists_of_segment? {before : Option Char} {s : List Char} {segment : Segment}
    (h : segment? before s = some segment) :
    ∃ ss, segmentsAfter before s = segment :: ss := by
  obtain ⟨rest, hr⟩ := eq_append_of_segment? h
  exact ⟨_, segmentsAfter_of_segment? h hr⟩

theorem foundInOnePass (s : List Char) : FoundInOnePass s where
  text := flatMap_text_segmentsAfter none s
  written base := by
    rw [linkReferences]
    refine congrArg (List.flatMap · (segments s)) (funext fun segment => ?_)
    cases segment with
    | literal text => rfl
    | reference form number => simp [Segment.render, Segment.text]
  shielded := by
    intro front behind text rest hs hb shield
    have place := segmentsAfter_place hs
    rw [Option.or_none, hb] at place
    obtain ⟨ss, hss⟩ := exists_of_segment? (segment?_of_shielded shield _)
    rw [hss] at place
    subst place
    exact ⟨ss, rfl, List.append_cancel_left ((List.flatMap_cons ..).symm.trans hb)⟩
  references := by
    intro front behind form number hs
    have place := segmentsAfter_place hs
    rw [Option.or_none] at place
    rw [← segment?_eq_some_reference_iff]
    constructor
    · rintro ⟨ss, rfl⟩
      rcases (segmentsAfter_eq_cons place.symm).2 with read | ⟨-, c, he⟩
      · exact read
      · cases he
    · intro read
      obtain ⟨ss, hss⟩ := exists_of_segment? read
      exact ⟨ss, place.trans hss⟩
  others := by
    intro front behind text hs
    have place := segmentsAfter_place hs
    rcases (segmentsAfter_eq_cons place.symm).2 with read | ⟨-, c, he⟩
    · obtain ⟨rest, hr, shield⟩ := shielded_of_segment? read
      rw [List.flatMap_cons] at hr
      exact .inl (List.append_cancel_left hr ▸ shield)
    · exact .inr ⟨c, Segment.literal.inj he⟩

/-! ### The address that references lead below -/

/-- The state behind a line is decided by the line. -/
theorem LineState.state_convert_congr (base base' : List Char) (state : LineState)
    (line : List Char) : (state.convert base line).1 = (state.convert base' line).1 := by
  have row (b : List Char) : isRow (mapBetweenSpans (inlineMarkdown b) line) = isRow line :=
    (keepsBars_mapBetweenSpans (keepsBars_inlineMarkdown b)).isRow line
  rw [convert, convert]
  split
  · rfl
  · cases state.code with
    | code => rfl
    | text =>
      dsimp only
      rw [row base, row base']
      split <;> rfl

theorem dropTrailing_append_replicate (c : Char) (s : String) (n : Nat) :
    dropTrailing c (s ++ String.ofList (List.replicate n c)) = dropTrailing c s := by
  have ends : ∀ d ∈ List.replicate n c, (d == c) = true := fun d hd => by
    simpa using List.eq_of_mem_replicate hd
  rw [dropTrailing, dropTrailing, String.toList_append, String.toList_ofList, dropEndWhile,
    List.reverse_append, List.reverse_replicate, List.dropWhile_append_of_pos ends, dropEndWhile]

/-- **References are found in one pass, and independently of the address that they lead below.**
Neither do the states along the lines depend on that address, and slashes at its end do not
count. -/
theorem foundInOnePass_and_base_apart :
    (∀ s : List Char, FoundInOnePass s) ∧
    (∀ (base base' : List Char) (state : LineState) (ls : List (List Char)),
      ls.scanl (fun state line => (state.convert base line).1) state
        = ls.scanl (fun state line => (state.convert base' line).1) state) ∧
    ∀ (text base : String) (n : Nat),
      toMarkdown text (base ++ String.ofList (List.replicate n '/')) = toMarkdown text base := by
  refine ⟨foundInOnePass, fun base base' state ls => ?_, fun text base n => ?_⟩
  · have step : (fun (state : LineState) line => (state.convert base line).1)
        = fun state line => (state.convert base' line).1 :=
      funext fun state => funext fun line => state.state_convert_congr base base' line
    rw [step]
  · rw [toMarkdown, toMarkdown, dropTrailing_append_replicate]

end TicketMigration.Markup
