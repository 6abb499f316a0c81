import TicketMigration.Proofs.CodeMarks
import TicketMigration.Proofs.SpannedText
import TicketMigration.Proofs.TableCells
import TicketMigration.Proofs.WithinLines

/-!
# Code spans in a table row

A row is converted as a whole, its code spans included.  Writing a pair of bars as one bar and a
space, and a heading between equals signs as bold text, changes characters and moves none.  So the
spans of a row are in place exactly if no pair of bars and no mark of a heading lies in one of them.

## Main definitions

* `headingMarks` — the places of the marks around the headings of a row.
* `SparesSpans` — what is written anew in a row is apart from its spans.

## Main statements

* `zipWith_ne_cellHeadingRule_apply` — writing the headings changes their marks and nothing else.
* `map_bar_singleBars_iff` — the bars are in place exactly if there is no pair of them.
* `inPlace_row_iff` — **the spans of a row are in place exactly if they are spared.**
-/

namespace TicketMigration.Markup

open Text

variable {t : List Char} {parts : List (List Char × List Char)}

/-! ### Pairs of bars -/

/-- Pairs of bars lie in front of another character or behind it. -/
theorem singleBars_append_cons {c : Char} (hc : c ≠ '|') (a b : List Char) :
    singleBars (a ++ c :: b) = singleBars a ++ c :: singleBars b := by
  induction a using singleBars.induct with
  | case1 => exact singleBars_cons hc b
  | case2 d =>
    show singleBars (d :: c :: b) = d :: c :: singleBars b
    rw [singleBars, if_neg (by simp [hc]), singleBars_cons hc]
  | case3 d e s h ih =>
    rw [List.cons_append, List.cons_append, singleBars, if_pos h, ih, singleBars, if_pos h]
    rfl
  | case4 d e s h ih =>
    rw [List.cons_append, List.cons_append, singleBars, if_neg h, ← List.cons_append, ih,
      singleBars, if_neg h]
    rfl

theorem linewise_singleBars : Linewise singleBars := singleBars_append_cons (by decide)

theorem length_singleBars (s : List Char) : (singleBars s).length = s.length := by
  induction s using singleBars.induct with
  | case1 => rfl
  | case2 c => rfl
  | case3 c d s h ih =>
    rw [singleBars, if_pos h]
    simp [ih]
  | case4 c d s h ih =>
    rw [singleBars, if_neg h, List.length_cons, ih]
    rfl

/-- Only bars are written anew, and only spaces for them. -/
theorem map_eq_singleBars {c : Char} (bar : c ≠ '|') (space : c ≠ ' ') (s : List Char) :
    (singleBars s).map (· == c) = s.map (· == c) := by
  induction s using singleBars.induct with
  | case1 => rfl
  | case2 d => rfl
  | case3 d e s h ih =>
    simp only [Bool.and_eq_true, decide_eq_true_eq] at h
    rw [singleBars, if_pos (by simp [h])]
    simp [h, ih, bar.symm, space.symm]
  | case4 d e s h ih =>
    rw [singleBars, if_neg h, List.map_cons, ih]
    rfl

theorem singleBars_eq_self {s : List Char} (h : ¬ ['|', '|'] <:+: s) : singleBars s = s := by
  induction s using singleBars.induct with
  | case1 => rfl
  | case2 c => rfl
  | case3 c d s hcd ih =>
    simp only [Bool.and_eq_true, decide_eq_true_eq] at hcd
    obtain ⟨rfl, rfl⟩ := hcd
    exact absurd ⟨[], s, rfl⟩ h
  | case4 c d s hcd ih =>
    rw [singleBars, if_neg hcd, ih fun hi => h (hi.trans (List.suffix_cons _ _).isInfix)]

/-- **The bars are in place exactly if there is no pair of them.** -/
theorem map_bar_singleBars_iff (s : List Char) :
    (singleBars s).map (· == '|') = s.map (· == '|') ↔ ¬ ['|', '|'] <:+: s := by
  refine ⟨fun same => ?_, fun h => by rw [singleBars_eq_self h]⟩
  induction s using singleBars.induct with
  | case1 => decide
  | case2 c => exact fun hi => absurd hi.length_le (by simp)
  | case3 c d s hcd ih =>
    simp only [Bool.and_eq_true, decide_eq_true_eq] at hcd
    obtain ⟨rfl, rfl⟩ := hcd
    rw [singleBars, if_pos (by decide)] at same
    simp at same
  | case4 c d s hcd ih =>
    rw [singleBars, if_neg hcd, List.map_cons, List.map_cons, List.cons.injEq] at same
    rw [List.infix_cons_iff, not_or]
    refine ⟨?_, ih same.2⟩
    rintro ⟨rest, pair⟩
    rw [List.cons_append, List.cons_append, List.cons.injEq, List.cons.injEq] at pair
    exact hcd (by simp [← pair.1, ← pair.2.1])

/-- Backticks lie between the pairs of bars. -/
theorem singleBars_spanned (t : List Char) (parts : List (List Char × List Char)) :
    singleBars (spanned t parts)
      = spanned (singleBars t) (parts.map fun part => (singleBars part.1, singleBars part.2)) := by
  induction parts generalizing t with
  | nil => simp
  | cons part parts ih =>
    rw [spanned_cons_eq, singleBars_append_cons (by decide), singleBars_append_cons (by decide), ih,
      List.map_cons, spanned_cons_eq]

/-! ### Headings -/

/-- A heading is written with as many characters as it was read from. -/
theorem length_cellHeadingRule_apply (s : List Char) :
    (cellHeadingRule.apply s).length = s.length := by
  induction s using Rule.apply.induct cellHeadingRule with
  | case1 => rw [Rule.apply_nil]
  | case2 c s out rest hm ih =>
    obtain ⟨d, text, hs, ho, -⟩ := exists_of_cellHeadingRule_match? hm
    rw [Rule.apply_of_match hm, List.length_append, ih, hs, ho]
    simp
    omega
  | case3 c s hm ih => rw [Rule.apply_of_no_match hm, List.length_cons, ih, List.length_cons]

/-- Nothing but the characters of the marks is taken away or added. -/
theorem map_eq_cellHeadingRule_apply {c : Char} (hc : c ∉ ['=', ' ', '*']) (s : List Char) :
    (cellHeadingRule.apply s).map (· == c) = s.map (· == c) := by
  simp only [List.mem_cons, List.not_mem_nil, or_false, not_or] at hc
  obtain ⟨equals, space, star⟩ := hc
  induction s using Rule.apply.induct cellHeadingRule with
  | case1 => rw [Rule.apply_nil]
  | case2 d s out rest hm ih =>
    obtain ⟨e, text, hs, ho, -⟩ := exists_of_cellHeadingRule_match? hm
    rw [Rule.apply_of_match hm, List.map_append, ih, hs, ho]
    simp [Ne.symm equals, Ne.symm space, Ne.symm star]
  | case3 d s hm ih => rw [Rule.apply_of_no_match hm, List.map_cons, ih, List.map_cons]

/-- The places of a piece: the two characters at either end of a heading are its marks. -/
def Piece.marks : Piece → List Bool
  | .kept _ => [false]
  | .written out => [true, true] ++ List.replicate (out.length - 4) false ++ [true, true]

/-- The places of the marks around the headings that are read in a row. -/
def headingMarks (s : List Char) : List Bool :=
  (cellHeadingRule.pieces s).flatMap Piece.marks

/-- A text does not differ from itself. -/
theorem zipWith_ne_self (s : List Char) :
    List.zipWith (· != ·) s s = List.replicate s.length false := by
  induction s with
  | nil => rfl
  | cons c s ih => rw [List.zipWith_cons_cons, ih, bne_self_eq_false, List.length_cons,
      List.replicate_succ]

/-- **Writing the headings changes their marks and nothing else.** -/
theorem zipWith_ne_cellHeadingRule_apply (s : List Char) :
    List.zipWith (· != ·) s (cellHeadingRule.apply s) = headingMarks s := by
  induction s using Rule.apply.induct cellHeadingRule with
  | case1 => rw [headingMarks, Rule.pieces_nil]; rfl
  | case2 c s out rest hm ih =>
    obtain ⟨d, text, hs, rfl, -⟩ := exists_of_cellHeadingRule_match? hm
    have heading : List.zipWith (· != ·) (['=', ' '] ++ d :: text ++ [' ', '='])
        (['*', '*'] ++ d :: text ++ ['*', '*'])
          = (Piece.written (['*', '*'] ++ d :: text ++ ['*', '*'])).marks := by
      rw [List.zipWith_append (by simp),
        List.zipWith_append (show ['=', ' '].length = ['*', '*'].length from rfl),
        zipWith_ne_self, Piece.marks]
      simp
    rw [Rule.apply_of_match hm, hs, List.zipWith_append (by simp), ih, heading, headingMarks,
      headingMarks, ← hs, Rule.pieces_of_match hm, List.flatMap_cons]
  | case3 c s hm ih =>
    rw [Rule.apply_of_no_match hm, List.zipWith_cons_cons, ih, headingMarks, headingMarks,
      Rule.pieces_of_no_match hm, List.flatMap_cons, bne_self_eq_false]
    rfl

/-! ### Rows -/

/-- Neither a pair of bars nor a mark of a heading lies in a code span of the row. -/
structure SparesSpans (t : List Char) (parts : List (List Char × List Char)) : Prop where
  /-- No code has a pair of bars. -/
  noBars : ∀ part ∈ parts, ¬ ['|', '|'] <:+: part.1
  /-- No heading of the row begins or ends in a code. -/
  noMarks : Apart (headingMarks (singleBars (spanned t parts))) (spanMask t parts)

instance (t : List Char) (parts : List (List Char × List Char)) : Decidable (SparesSpans t parts) :=
  have (code : List Char) := decidableIsInfix ['|', '|'] code
  decidable_of_iff ((∀ part ∈ parts, ¬ ['|', '|'] <:+: part.1) ∧
      Apart (headingMarks (singleBars (spanned t parts))) (spanMask t parts))
    ⟨fun h => ⟨h.1, h.2⟩, fun h => ⟨h.noBars, h.noMarks⟩⟩

/-- What is in place depends on the codes and on the lengths around them. -/
theorem inPlace_congr {t' : List Char} {parts' : List (List Char × List Char)}
    (front : t'.length = t.length)
    (same : parts'.map (fun part => (part.1, part.2.length))
      = parts.map fun part => (part.1, part.2.length)) (s : List Char) :
    InPlace t' parts' s ↔ InPlace t parts s := by
  simp only [InPlace, front, same]

theorem spanMask_congr {t' : List Char} {parts' : List (List Char × List Char)}
    (front : t'.length = t.length)
    (same : parts'.map (fun part => (part.1, part.2.length))
      = parts.map fun part => (part.1, part.2.length)) :
    spanMask t' parts' = spanMask t parts := by
  have mask (ps : List (List Char × List Char)) :
      (ps.flatMap fun part => List.replicate (codeSpan part.1).length true
          ++ List.replicate part.2.length false)
        = (ps.map fun part => (part.1, part.2.length)).flatMap fun place =>
            List.replicate (codeSpan place.1).length true ++ List.replicate place.2 false := by
    rw [List.flatMap_map]
  rw [spanMask, spanMask, front, mask, mask, same]

/-- Where the codes are the same at the same places, so are their bars. -/
theorem not_pair_of_inPlace {s : List Char} (h : InPlace t parts s)
    (bars : s.map (· == '|') = (singleBars (spanned t parts)).map (· == '|')) :
    ∀ part ∈ parts, ¬ ['|', '|'] <:+: part.1 := by
  induction parts generalizing t s with
  | nil => simp
  | cons part parts ih =>
    obtain ⟨t', us, rfl, front, same⟩ := h
    cases us with
    | nil => simp at same
    | cons first us =>
      rw [List.map_cons, List.map_cons, List.cons.injEq, Prod.mk.injEq] at same
      obtain ⟨⟨code, behind⟩, same⟩ := same
      rw [spanned_cons_eq, spanned_cons_eq, singleBars_append_cons (by decide),
        singleBars_append_cons (by decide), code] at bars
      simp only [List.map_append, List.map_cons] at bars
      obtain ⟨-, bars⟩ := List.append_inj bars (by simp [front, length_singleBars])
      obtain ⟨inCode, bars⟩ := List.append_inj (List.cons.inj bars).2 (by simp [length_singleBars])
      refine List.forall_mem_cons.2 ⟨(map_bar_singleBars_iff part.1).1 inCode.symm, ?_⟩
      exact ih ⟨first.2, us, rfl, behind, same⟩ (List.cons.inj bars).2

/-- **The spans of a row are in place exactly if they are spared.** -/
theorem inPlace_row_iff :
    InPlace t parts (cellHeadingRule.apply (singleBars (spanned t parts)))
      ↔ SparesSpans t parts := by
  have bars := map_eq_cellHeadingRule_apply (c := '|') (by decide) (singleBars (spanned t parts))
  -- if no code has a pair of bars, the spans stay in place while the bars are written
  have onlyMarks (noBars : ∀ part ∈ parts, ¬ ['|', '|'] <:+: part.1) :
      InPlace t parts (cellHeadingRule.apply (singleBars (spanned t parts)))
        ↔ Apart (headingMarks (singleBars (spanned t parts))) (spanMask t parts) := by
    have same : (parts.map fun part => (singleBars part.1, singleBars part.2)).map
        (fun part => (part.1, part.2.length)) = parts.map fun part => (part.1, part.2.length) := by
      rw [List.map_map]
      refine List.map_congr_left fun part hp => ?_
      simp only [Function.comp_apply, singleBars_eq_self (noBars part hp), length_singleBars]
    rw [← inPlace_congr (length_singleBars t) same, ← spanMask_congr (length_singleBars t) same,
      singleBars_spanned, inPlace_iff_apart (length_cellHeadingRule_apply _),
      zipWith_ne_cellHeadingRule_apply]
  constructor
  · intro h
    have noBars := not_pair_of_inPlace h bars
    exact ⟨noBars, (onlyMarks noBars).1 h⟩
  · rintro ⟨noBars, noMarks⟩
    exact (onlyMarks noBars).2 noMarks

end TicketMigration.Markup
