import TicketMigration.Proofs.ImageFiles

/-!
# Texts with code spans

A text with code spans is a text in front and, for each span, its code and the text behind it.  If
no other backtick stands in it, cutting it at its spans gives these parts back.

A conversion that keeps the length of a text may keep the spans in place.  It does so exactly if
none of the places that it changes lies in a span.

## Main definitions

* `spanned` — the text that is made up of given parts.
* `HasSpans` — a text has code spans of given codes, one after the other.
* `InPlace` — a text has the same spans as another one at the same places.
* `spanMask`, `Apart` — the places of the spans, and places that are none of them.

## Main statements

* `spans_spanned`, `mapBetweenSpans_spanned` — the parts are found again, and converted.
* `inPlace_iff_apart` — **the spans are in place exactly if all changes are apart from them.**
* `HasSpans.inPlace` — spans that are still there are in place if no backtick has moved.
-/

namespace TicketMigration.Markup

open Text

variable {t : List Char} {parts : List (List Char × List Char)}

/-- A text in front, and code spans with the text behind each of them. -/
def spanned (t : List Char) (parts : List (List Char × List Char)) : List Char :=
  t ++ parts.flatMap fun part => codeSpan part.1 ++ part.2

/-- The text has code spans of these codes, in this order. -/
def HasSpans (codes : List (List Char)) (s : List Char) : Prop :=
  ∃ t parts, s = spanned t parts ∧ parts.map Prod.fst = codes

/-- Neither a code nor a text in front of or behind one has the character. -/
def Lacks (c : Char) (t : List Char) (parts : List (List Char × List Char)) : Prop :=
  c ∉ t ∧ ∀ part ∈ parts, c ∉ part.1 ∧ c ∉ part.2

@[simp] theorem spanned_nil (t : List Char) : spanned t [] = t := List.append_nil t

theorem spanned_cons (t : List Char) (part : List Char × List Char)
    (parts : List (List Char × List Char)) :
    spanned t (part :: parts) = t ++ (codeSpan part.1 ++ spanned part.2 parts) := by
  simp [spanned]

/-- The two backticks of the first span. -/
theorem spanned_cons_eq (t : List Char) (part : List Char × List Char)
    (parts : List (List Char × List Char)) :
    spanned t (part :: parts) = t ++ '`' :: (part.1 ++ '`' :: spanned part.2 parts) := by
  simp [spanned, codeSpan]

theorem append_spanned (s t : List Char) (parts : List (List Char × List Char)) :
    s ++ spanned t parts = spanned (s ++ t) parts :=
  (List.append_assoc _ _ _).symm

theorem hasSpans_nil (s : List Char) : HasSpans [] s := ⟨s, [], (spanned_nil s).symm, rfl⟩

/-- Each of the spans stands in the text. -/
theorem HasSpans.isInfix {codes : List (List Char)} {s code : List Char} (h : HasSpans codes s)
    (hc : code ∈ codes) : codeSpan code <:+: s := by
  obtain ⟨t, parts, rfl, rfl⟩ := h
  obtain ⟨part, hp, rfl⟩ := List.mem_map.1 hc
  obtain ⟨before, behind, rfl⟩ := List.append_of_mem hp
  refine ⟨t ++ before.flatMap fun part => codeSpan part.1 ++ part.2,
    part.2 ++ behind.flatMap fun part => codeSpan part.1 ++ part.2, ?_⟩
  simp [spanned]

theorem lacks_cons {c : Char} {part : List Char × List Char} :
    Lacks c t (part :: parts) ↔ c ∉ t ∧ c ∉ part.1 ∧ Lacks c part.2 parts := by
  simp only [Lacks, List.forall_mem_cons, and_assoc]

/-- A character that no part has stands nowhere in the text, if it is no backtick. -/
theorem Lacks.not_mem {c : Char} (h : Lacks c t parts) (hc : c ≠ '`') : c ∉ spanned t parts := by
  induction parts generalizing t with
  | nil => simpa using h.1
  | cons part parts ih =>
    obtain ⟨front, code, behind⟩ := lacks_cons.1 h
    simp [spanned_cons_eq, front, hc, code, ih behind]

theorem lacks_of_not_mem {c : Char} (h : c ∉ spanned t parts) : Lacks c t parts := by
  induction parts generalizing t with
  | nil => exact ⟨by simpa using h, by simp⟩
  | cons part parts ih =>
    rw [spanned_cons_eq] at h
    simp only [List.mem_append, List.mem_cons, not_or] at h
    exact lacks_cons.2 ⟨h.1, h.2.2.1, ih h.2.2.2.2⟩

/-! ### Cutting at the spans -/

theorem spans_append_of_not_mem (h : '`' ∉ t) (s : List Char) :
    spans (t ++ s) = (t ++ (spans s).1, (spans s).2) := by
  induction t with
  | nil => rfl
  | cons c t ih =>
    rw [List.mem_cons, not_or] at h
    have noMatch : (after? ['`'] (c :: (t ++ s))).bind (upTo? onLine ['`']) = none := by
      rw [after?_cons_cons, if_neg (Ne.symm h.1), Option.bind_none]
    rw [List.cons_append, spans_of_no_match noMatch, ih h.2, List.cons_append]

/-- **The parts of a text with code spans are found again.** -/
theorem spans_spanned (ticks : Lacks '`' t parts) (line : Lacks '\n' t parts) :
    spans (spanned t parts) = (t, parts) := by
  induction parts generalizing t with
  | nil =>
    have whole := spans_append_of_not_mem ticks.1 []
    rw [List.append_nil] at whole
    rw [spanned_nil, whole, spans, List.append_nil]
  | cons part parts ih =>
    obtain ⟨front, code, behind⟩ := lacks_cons.1 ticks
    obtain ⟨-, onCode, onRest⟩ := lacks_cons.1 line
    have first : (after? ['`'] ('`' :: (part.1 ++ '`' :: spanned part.2 parts))).bind
        (upTo? onLine ['`']) = some (part.1, spanned part.2 parts) := by
      have found : upTo? onLine ['`'] (part.1 ++ ['`'] ++ spanned part.2 parts)
          = some (part.1, spanned part.2 parts) :=
        upTo?_append code (onLine_of_not_mem onCode) [] _
      rw [List.append_assoc] at found
      rw [after?_cons_cons, if_pos rfl, after?_nil, Option.bind_some]
      exact found
    rw [spanned_cons_eq, spans_append_of_not_mem front, spans_of_match first, ih behind onRest,
      List.append_nil]

/-- The texts are converted and the codes are not. -/
theorem mapBetweenSpans_spanned (f : List Char → List Char) (ticks : Lacks '`' t parts)
    (line : Lacks '\n' t parts) :
    mapBetweenSpans f (spanned t parts)
      = spanned (f t) (parts.map fun part => (part.1, f part.2)) := by
  rw [mapBetweenSpans, spans_spanned ticks line, spanned, List.flatMap_map]

/-! ### Places -/

/-- The text has the same codes, and texts of the same lengths around them. -/
def InPlace (t : List Char) (parts : List (List Char × List Char)) (s : List Char) : Prop :=
  ∃ t' parts', s = spanned t' parts' ∧ t'.length = t.length ∧
    parts'.map (fun part => (part.1, part.2.length)) = parts.map fun part => (part.1, part.2.length)

/-- The places of the spans: true at the characters of the codes and at their backticks. -/
def spanMask (t : List Char) (parts : List (List Char × List Char)) : List Bool :=
  List.replicate t.length false ++ parts.flatMap fun part =>
    List.replicate (codeSpan part.1).length true ++ List.replicate part.2.length false

/-- There is no place of both kinds. -/
def Apart (marks mask : List Bool) : Prop :=
  ∀ both ∈ marks.zip mask, both ≠ (true, true)

instance (marks mask : List Bool) : Decidable (Apart marks mask) :=
  List.decidableBAll (fun both => both ≠ (true, true)) (marks.zip mask)

theorem InPlace.hasSpans {s : List Char} (h : InPlace t parts s) :
    HasSpans (parts.map Prod.fst) s := by
  obtain ⟨t', parts', rfl, -, same⟩ := h
  refine ⟨t', parts', rfl, ?_⟩
  have codes := congrArg (List.map Prod.fst) same
  simpa only [List.map_map, Function.comp_def] using codes

theorem inPlace_nil_iff {s : List Char} : InPlace t [] s ↔ s.length = t.length := by
  constructor
  · rintro ⟨t', parts', rfl, ht, hp⟩
    rw [List.map_nil, List.map_eq_nil_iff] at hp
    rw [hp, spanned_nil, ht]
  · exact fun h => ⟨s, [], (spanned_nil s).symm, h, rfl⟩

/-- The first code is the same, and the spans behind it are in place. -/
theorem inPlace_cons_iff {part : List Char × List Char} {t' code s : List Char}
    (front : t'.length = t.length) (span : code.length = (codeSpan part.1).length) :
    InPlace t (part :: parts) (t' ++ (code ++ s)) ↔
      code = codeSpan part.1 ∧ InPlace part.2 parts s := by
  constructor
  · rintro ⟨u, us, whole, ht, hp⟩
    cases us with
    | nil => simp at hp
    | cons first us =>
      rw [List.map_cons, List.map_cons, List.cons.injEq, Prod.mk.injEq] at hp
      obtain ⟨⟨hc, hl⟩, hp⟩ := hp
      rw [spanned_cons] at whole
      obtain ⟨-, whole⟩ := List.append_inj whole (front.trans ht.symm)
      obtain ⟨rfl, rfl⟩ := List.append_inj whole (by rw [span, hc])
      exact ⟨by rw [hc], first.2, us, rfl, hl, hp⟩
  · rintro ⟨rfl, u, us, rfl, hl, hp⟩
    refine ⟨t', (part.1, u) :: us, (spanned_cons t' (part.1, u) us).symm, front, ?_⟩
    rw [List.map_cons, List.map_cons, hp, hl]

theorem apart_append_iff {marks marks' mask mask' : List Bool} (h : marks.length = mask.length) :
    Apart (marks ++ marks') (mask ++ mask') ↔ Apart marks mask ∧ Apart marks' mask' := by
  rw [Apart, List.zip_append h]
  exact List.forall_mem_append

theorem apart_replicate_false (marks : List Bool) (n : Nat) :
    Apart marks (List.replicate n false) := by
  rintro ⟨mark, place⟩ h
  rw [List.eq_of_mem_replicate (List.of_mem_zip h).2]
  simp

/-- No place is changed at all. -/
theorem apart_replicate_true_iff {s o : List Char} (h : o.length = s.length) :
    Apart (List.zipWith (· != ·) s o) (List.replicate s.length true) ↔ o = s := by
  induction s generalizing o with
  | nil => simp [Apart, List.length_eq_zero_iff.1 h]
  | cons c s ih =>
    cases o with
    | nil => cases h
    | cons d o =>
      have same := ih (Nat.succ.inj h)
      rw [Apart] at same ⊢
      rw [List.zipWith_cons_cons, List.length_cons, List.replicate_succ, List.zip_cons_cons,
        List.forall_mem_cons, same, List.cons.injEq]
      simp only [ne_eq, Prod.mk.injEq, bne_iff_ne, and_true, Classical.not_not, eq_comm (a := c)]

/-- A text has a front of any length up to its own. -/
theorem exists_append_of_length {s : List Char} {m n : Nat} (h : s.length = m + n) :
    ∃ front behind, s = front ++ behind ∧ front.length = m ∧ behind.length = n :=
  ⟨s.take m, s.drop m, (List.take_append_drop m s).symm, by simp [h], by simp [h]⟩

/-- **The spans are in place exactly if all changes are apart from them.** -/
theorem inPlace_iff_apart {o : List Char} (h : o.length = (spanned t parts).length) :
    InPlace t parts o ↔ Apart (List.zipWith (· != ·) (spanned t parts) o) (spanMask t parts) := by
  induction parts generalizing t o with
  | nil =>
    rw [spanned_nil] at h
    refine ⟨fun _ => ?_, fun _ => inPlace_nil_iff.2 h⟩
    rw [spanMask, List.flatMap_nil, List.append_nil]
    exact apart_replicate_false _ _
  | cons part parts ih =>
    rw [spanned_cons, List.length_append] at h
    obtain ⟨t', o, rfl, front, h⟩ := exists_append_of_length h
    rw [List.length_append] at h
    obtain ⟨code, o, rfl, span, behind⟩ := exists_append_of_length h
    have mask : spanMask t (part :: parts) = List.replicate t.length false
        ++ (List.replicate (codeSpan part.1).length true ++ spanMask part.2 parts) := by
      simp [spanMask]
    rw [inPlace_cons_iff front span, ih behind, spanned_cons, mask,
      List.zipWith_append front.symm, List.zipWith_append span.symm,
      apart_append_iff (by simp [front]), apart_append_iff (by simp [span]),
      apart_replicate_true_iff span]
    simp only [apart_replicate_false, true_and]

/-! ### Spans that are still there -/

/-- All backticks but those of the spans. -/
theorem le_count_spanned (t : List Char) (parts : List (List Char × List Char)) :
    2 * parts.length ≤ (spanned t parts).count '`' := by
  induction parts generalizing t with
  | nil => simp
  | cons part parts ih =>
    have behind := ih part.2
    rw [spanned_cons_eq]
    simp only [List.count_append, List.count_cons_self, List.length_cons]
    omega

theorem lacks_of_count_le (codes : ∀ part ∈ parts, '`' ∉ part.1)
    (h : (spanned t parts).count '`' ≤ 2 * parts.length) : Lacks '`' t parts := by
  induction parts generalizing t with
  | nil =>
    refine ⟨List.count_eq_zero.1 ?_, by simp⟩
    simpa using h
  | cons part parts ih =>
    have behind := le_count_spanned part.2 parts
    rw [spanned_cons_eq] at h
    simp only [List.count_append, List.count_cons_self, List.length_cons] at h
    refine lacks_cons.2 ⟨List.count_eq_zero.1 (by omega), codes part List.mem_cons_self, ?_⟩
    exact ih (fun p hp => codes p (List.mem_cons_of_mem _ hp)) (by omega)

theorem count_spanned (h : Lacks '`' t parts) : (spanned t parts).count '`' = 2 * parts.length := by
  induction parts generalizing t with
  | nil =>
    rw [spanned_nil]
    exact List.count_eq_zero_of_not_mem h.1
  | cons part parts ih =>
    obtain ⟨front, code, behind⟩ := lacks_cons.1 h
    rw [spanned_cons_eq]
    simp only [List.count_append, List.count_cons_self, List.length_cons, ih behind,
      List.count_eq_zero_of_not_mem front, List.count_eq_zero_of_not_mem code]
    omega

/-- The backticks of the spans say how long the texts around the codes are. -/
theorem inPlace_of_map_eq {u : List Char} {us : List (List Char × List Char)}
    (ticks : Lacks '`' t parts) (ticks' : Lacks '`' u us)
    (codes : us.map Prod.fst = parts.map Prod.fst)
    (same : (spanned u us).map (· == '`') = (spanned t parts).map (· == '`')) :
    InPlace t parts (spanned u us) := by
  -- what lacks the backtick is all false
  have plain {s : List Char} (hs : '`' ∉ s) : true ∉ s.map (· == '`') := by simpa using hs
  induction parts generalizing t u us with
  | nil =>
    obtain rfl := List.map_eq_nil_iff.1 codes
    have lengths := congrArg List.length same
    rw [List.length_map, List.length_map, spanned_nil, spanned_nil] at lengths
    rw [spanned_nil, inPlace_nil_iff, lengths]
  | cons part parts ih =>
    cases us with
    | nil => cases codes
    | cons first us =>
      obtain ⟨code, codes⟩ := List.cons.inj codes
      obtain ⟨front, inside, behind⟩ := lacks_cons.1 ticks
      obtain ⟨front', inside', behind'⟩ := lacks_cons.1 ticks'
      rw [spanned_cons_eq, spanned_cons_eq] at same
      simp only [List.map_append, List.map_cons, beq_self_eq_true] at same
      obtain ⟨fronts, same⟩ := append_cons_inj (plain front') (plain front) same
      obtain ⟨-, same⟩ := append_cons_inj (plain inside') (plain inside) same
      have lengths := congrArg List.length fronts
      rw [List.length_map, List.length_map] at lengths
      rw [spanned_cons, code]
      exact (inPlace_cons_iff lengths rfl).2 ⟨rfl, ih behind behind' codes same⟩

/-- A character that has the same places in two texts stands in them equally often. -/
theorem count_eq_of_map_eq {c : Char} {s s' : List Char}
    (h : s.map (· == c) = s'.map (· == c)) : s.count c = s'.count c := by
  have marks := congrArg (List.count true) h
  simpa only [List.count_eq_countP, List.countP_map, Function.comp_def, beq_true] using marks

/-- **Spans that are still there are in place, if the backticks of the text are at the places where
those of the spans were.** -/
theorem HasSpans.inPlace {s : List Char} (h : HasSpans (parts.map Prod.fst) s)
    (ticks : Lacks '`' t parts)
    (same : s.map (· == '`') = (spanned t parts).map (· == '`')) : InPlace t parts s := by
  obtain ⟨u, us, rfl, codes⟩ := h
  have count : (spanned u us).count '`' = (spanned t parts).count '`' := count_eq_of_map_eq same
  have length : us.length = parts.length := by
    simpa using congrArg List.length codes
  have noTick : ∀ part ∈ us, '`' ∉ part.1 := by
    intro part hp
    have member : part.1 ∈ parts.map Prod.fst := codes ▸ List.mem_map_of_mem hp
    obtain ⟨part', hp', he⟩ := List.mem_map.1 member
    rw [← he]
    exact (ticks.2 part' hp').1
  refine inPlace_of_map_eq ticks (lacks_of_count_le noTick ?_) codes same
  exact Nat.le_of_eq (by rw [count, count_spanned ticks, length])

end TicketMigration.Markup
