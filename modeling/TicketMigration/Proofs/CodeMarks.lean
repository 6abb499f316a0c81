import TicketMigration.Proofs.FenceAgreement
import TicketMigration.Proofs.LineEnds

/-!
# Which lines belong to code blocks

The conversion of code writes every block between fences, and the pass over the lines has to find
it again by these fences alone.  Here the characters that were written for blocks are marked, so
that it can be said which lines belong to a block and when the pass takes just these for code.

## Main definitions

* `Rule.pieces` — the parts of a text that a rule keeps and writes.
* `markedLines`, `codeLines` — the lines of the converted text with their marks.
* `PassFollowsBlocks` — the pass takes the lines of blocks, and no others, for fences or code.
* `Follows`, `Paired` — the same for a list of marked lines, as a scan and as a shape.

## Main statements

* `follows_iff_paired` — the scan accepts the lines whose fences come in pairs, each pair with
  nothing but lines of blocks from one to the other, and no fence elsewhere.
* `passFollowsBlocks_iff_follows` — the pass over the lines is such a scan.
-/

namespace TicketMigration.Markup

open Text

/-! ### What a rule keeps and writes -/

/-- A part of a converted text. -/
inductive Piece
  /-- A character that is kept. -/
  | kept (c : Char)
  /-- What was written in the place of a match. -/
  | written (out : List Char)

/-- The text of a piece. -/
def Piece.text : Piece → List Char
  | .kept c => [c]
  | .written out => out

/-- The parts of a text after the conversion by a rule. -/
def Rule.pieces (rule : Rule) : List Char → List Piece
  | [] => []
  | c :: s =>
    match _h : rule.match? (c :: s) with
    | some (out, rest) => .written out :: rule.pieces rest
    | none => .kept c :: rule.pieces s
termination_by s => s.length
decreasing_by
  · exact rule.shorter _h
  · simp

namespace Rule

variable {rule : Rule}

@[simp] theorem pieces_nil : rule.pieces [] = [] := by
  rw [pieces]

theorem pieces_of_match {c : Char} {s out rest : List Char}
    (h : rule.match? (c :: s) = some (out, rest)) :
    rule.pieces (c :: s) = .written out :: rule.pieces rest := by
  rw [pieces]
  split
  · next h' =>
    rw [h] at h'
    cases h'
    rfl
  · next h' => rw [h] at h'; cases h'

theorem pieces_of_no_match {c : Char} {s : List Char} (h : rule.match? (c :: s) = none) :
    rule.pieces (c :: s) = .kept c :: rule.pieces s := by
  rw [pieces]
  split
  · next h' => rw [h] at h'; cases h'
  · rfl

/-- The pieces make up the converted text. -/
theorem flatMap_text_pieces (s : List Char) :
    (rule.pieces s).flatMap Piece.text = rule.apply s := by
  induction s using pieces.induct rule with
  | case1 => simp
  | case2 c s out rest h ih =>
    rw [pieces_of_match h, apply_of_match h, List.flatMap_cons, ih]
    rfl
  | case3 c s h ih =>
    rw [pieces_of_no_match h, apply_of_no_match h, List.flatMap_cons, ih]
    rfl

end Rule

/-! ### Marked lines -/

/-- The characters of a piece, each with whether it was written in the place of a match. -/
def Piece.marked : Piece → List (Char × Bool)
  | .kept c => [(c, false)]
  | .written out => out.map fun c => (c, true)

theorem map_fst_flatMap_marked (ps : List Piece) :
    (ps.flatMap Piece.marked).map Prod.fst = ps.flatMap Piece.text := by
  induction ps with
  | nil => rfl
  | cons p ps ih =>
    rw [List.flatMap_cons, List.map_append, ih, List.flatMap_cons]
    cases p <;> simp [Piece.marked, Piece.text, Function.comp_def]

/-- Puts text with a mark in front of the first line. -/
def prependMarked (front : List Char) (mark : Bool) :
    List (List Char × Bool) → List (List Char × Bool)
  | [] => [(front, mark)]
  | (l, m) :: ls => (front ++ l, mark || m) :: ls

/-- Cuts marked characters into lines.  A line is marked if one of its characters is or the
newline at its end. -/
def markedLines : List (Char × Bool) → List (List Char × Bool)
  | [] => [([], false)]
  | (c, m) :: s =>
    if c = '\n' then ([], m) :: markedLines s else prependMarked [c] m (markedLines s)

@[simp] theorem markedLines_nil : markedLines [] = [([], false)] := rfl

@[simp] theorem markedLines_newline (m : Bool) (s : List (Char × Bool)) :
    markedLines (('\n', m) :: s) = ([], m) :: markedLines s := rfl

theorem markedLines_cons {c : Char} (h : c ≠ '\n') (m : Bool) (s : List (Char × Bool)) :
    markedLines ((c, m) :: s) = prependMarked [c] m (markedLines s) := if_neg h

theorem markedLines_ne_nil (s : List (Char × Bool)) : markedLines s ≠ [] := by
  cases s with
  | nil => simp
  | cons p s =>
    rw [markedLines]
    split
    · simp
    · cases markedLines s <;> simp [prependMarked]

theorem prependMarked_prependMarked (front front' : List Char) (m m' : Bool)
    (ls : List (List Char × Bool)) :
    prependMarked front m (prependMarked front' m' ls)
      = prependMarked (front ++ front') (m || m') ls := by
  cases ls with
  | nil => rfl
  | cons p ls => simp [prependMarked, Bool.or_assoc]

/-- The marked lines are the lines of the text. -/
theorem map_fst_markedLines (s : List (Char × Bool)) :
    (markedLines s).map Prod.fst = lines (s.map Prod.fst) := by
  induction s with
  | nil => rfl
  | cons p s ih =>
    obtain ⟨c, m⟩ := p
    by_cases h : c = '\n'
    · subst h
      rw [markedLines_newline, List.map_cons, ih, List.map_cons, lines_newline]
    · obtain ⟨l, ls, hs, hcs⟩ := lines_cons h (s.map Prod.fst)
      rw [markedLines_cons h, List.map_cons, hcs]
      rw [hs] at ih
      rcases hm : markedLines s with _ | ⟨q, qs⟩
      · exact absurd hm (markedLines_ne_nil s)
      · rw [hm, List.map_cons] at ih
        obtain ⟨rfl, rfl⟩ := List.cons.inj ih
        rfl

/-- A line whose characters and newline all have one mark. -/
theorem markedLines_line {l : List Char} (hl : '\n' ∉ l) (m : Bool) (s : List (Char × Bool)) :
    markedLines (l.map (fun c => (c, m)) ++ ('\n', m) :: s) = (l, m) :: markedLines s := by
  induction l with
  | nil => rfl
  | cons c l ih =>
    rw [List.mem_cons, not_or] at hl
    rw [List.map_cons, List.cons_append, markedLines_cons (Ne.symm hl.1), ih hl.2]
    simp [prependMarked]

/-- Text without a newline is put in front of the first line. -/
theorem markedLines_front {l : List Char} (hl : '\n' ∉ l) (hne : l ≠ []) (m : Bool)
    (s : List (Char × Bool)) :
    markedLines (l.map (fun c => (c, m)) ++ s) = prependMarked l m (markedLines s) := by
  induction l with
  | nil => exact absurd rfl hne
  | cons c l ih =>
    rw [List.mem_cons, not_or] at hl
    rw [List.map_cons, List.cons_append, markedLines_cons (Ne.symm hl.1)]
    rcases l with _ | ⟨d, l⟩
    · rfl
    · rw [ih hl.2 (by simp), prependMarked_prependMarked, Bool.or_self]
      rfl

/-- Marked lines in front of other text, the last one of them without its newline. -/
theorem markedLines_written {ls : List (List Char)} {last : List Char}
    (hn : ∀ l ∈ ls, '\n' ∉ l) (hlast : '\n' ∉ last) (hne : last ≠ []) (m : Bool)
    (s : List (Char × Bool)) :
    markedLines ((unlines (ls ++ [last])).map (fun c => (c, m)) ++ s)
      = ls.map (fun l => (l, m)) ++ prependMarked last m (markedLines s) := by
  induction ls with
  | nil => exact markedLines_front hlast hne m s
  | cons l ls ih =>
    rw [List.cons_append, unlines_cons l (by simp), List.map_append, List.map_cons,
      List.append_assoc, List.cons_append, markedLines_line (hn l List.mem_cons_self),
      ih fun l' hl' => hn l' (List.mem_cons_of_mem _ hl')]
    rfl

/-! ### Scanning marked lines -/

/-- From a state on, the lines that a scan keeps are the marked ones, and no fence is open behind
the last one. -/
def Follows : FenceState → List (List Char × Bool) → Prop
  | state, [] => state = .text
  | state, (l, m) :: ls => state.keeps l = m ∧ Follows (state.next l) ls

/-- The marked lines are made up of groups from one fence through the next one, and no other line
is a fence. -/
inductive Paired : List (List Char × Bool) → Prop
  /-- No lines. -/
  | nil : Paired []
  /-- A line without a mark, which is no fence. -/
  | plain {l : List Char} {ls : List (List Char × Bool)} (hl : isFence l = false)
      (rest : Paired ls) : Paired ((l, false) :: ls)
  /-- A fence, lines that are none, and a fence, all of them marked. -/
  | group {opening closing : List Char} {body : List (List Char)} {ls : List (List Char × Bool)}
      (ho : isFence opening = true) (hb : ∀ l ∈ body, isFence l = false)
      (hc : isFence closing = true) (rest : Paired ls) :
      Paired ((opening, true) :: (body.map (fun l => (l, true)) ++ (closing, true) :: ls))

theorem follows_text_cons {l : List Char} {m : Bool} {ls : List (List Char × Bool)}
    (h : isFence l = false) : Follows .text ((l, m) :: ls) ↔ m = false ∧ Follows .text ls := by
  rw [Follows, FenceState.next_of_not_isFence h, FenceState.keeps, h]
  exact and_congr_left fun _ => ⟨Eq.symm, Eq.symm⟩

theorem follows_cons_of_isFence {state : FenceState} {l : List Char} {m : Bool}
    {ls : List (List Char × Bool)} (h : isFence l = true) :
    Follows state ((l, m) :: ls) ↔ m = true ∧ Follows state.toggle ls := by
  rw [Follows, FenceState.next_of_isFence h, FenceState.keeps, h]
  exact and_congr_left fun _ => ⟨Eq.symm, Eq.symm⟩

theorem follows_code_cons {l : List Char} {m : Bool} {ls : List (List Char × Bool)}
    (h : isFence l = false) : Follows .code ((l, m) :: ls) ↔ m = true ∧ Follows .code ls := by
  rw [Follows, FenceState.next_of_not_isFence h, FenceState.keeps, h]
  exact and_congr_left fun _ => ⟨Eq.symm, Eq.symm⟩

/-- Inside a group the lines that are no fences are passed over if they are marked. -/
theorem follows_code_append {body : List (List Char)} (h : ∀ l ∈ body, isFence l = false)
    (ls : List (List Char × Bool)) :
    Follows .code (body.map (fun l => (l, true)) ++ ls) ↔ Follows .code ls := by
  induction body with
  | nil => rfl
  | cons l body ih =>
    rw [List.map_cons, List.cons_append, follows_code_cons (h l List.mem_cons_self),
      ih fun l' hl' => h l' (List.mem_cons_of_mem _ hl')]
    simp

/-- Behind an opening fence the scan comes to the closing one. -/
theorem exists_closing_of_follows {ls : List (List Char × Bool)} (h : Follows .code ls) :
    ∃ (body : List (List Char)) (closing : List Char) (rest : List (List Char × Bool)),
      ls = body.map (fun l => (l, true)) ++ (closing, true) :: rest ∧
      (∀ l ∈ body, isFence l = false) ∧ isFence closing = true ∧ Follows .text rest := by
  induction ls with
  | nil => cases h
  | cons p ls ih =>
    obtain ⟨l, m⟩ := p
    by_cases hl : isFence l = true
    · obtain ⟨rfl, hls⟩ := (follows_cons_of_isFence hl).1 h
      exact ⟨[], l, ls, rfl, by simp, hl, hls⟩
    · have hno : isFence l = false := by simpa using hl
      obtain ⟨rfl, hls⟩ := (follows_code_cons hno).1 h
      obtain ⟨body, closing, rest, rfl, hb, hc, hr⟩ := ih hls
      exact ⟨l :: body, closing, rest, rfl, List.forall_mem_cons.2 ⟨hno, hb⟩, hc, hr⟩

/-- The scan accepts exactly the lines whose fences come in pairs. -/
theorem follows_iff_paired (ls : List (List Char × Bool)) : Follows .text ls ↔ Paired ls := by
  constructor
  · intro h
    -- strong induction on the number of lines, since a group takes several of them at once
    induction hlen : ls.length using Nat.strongRecOn generalizing ls with
    | ind n ih =>
      rcases ls with _ | ⟨⟨l, m⟩, ls⟩
      · exact .nil
      · rw [List.length_cons] at hlen
        by_cases hl : isFence l = true
        · obtain ⟨rfl, hls⟩ := (follows_cons_of_isFence hl).1 h
          obtain ⟨body, closing, rest, rfl, hb, hc, hr⟩ := exists_closing_of_follows hls
          rw [List.length_append, List.length_cons] at hlen
          exact .group hl hb hc (ih rest.length (by omega) rest hr rfl)
        · have hno : isFence l = false := by simpa using hl
          obtain ⟨rfl, hls⟩ := (follows_text_cons hno).1 h
          exact .plain hno (ih ls.length (by omega) ls hls rfl)
  · intro h
    induction h with
    | nil => rfl
    | plain hl _ ih => exact (follows_text_cons hl).2 ⟨rfl, ih⟩
    | group ho hb hc _ ih =>
      rw [follows_cons_of_isFence ho]
      exact ⟨rfl, (follows_code_append hb _).2 ((follows_cons_of_isFence hc).2 ⟨rfl, ih⟩)⟩

/-! ### The pass over the lines -/

/-- The characters that the code conversion gives, each with whether it was written for a block. -/
def markedCode (s : List Char) : List (Char × Bool) :=
  (codeBlockRule.pieces (codeSpanRule.apply (unixNewlines s))).flatMap Piece.marked

/-- The lines that the code conversion gives, each with whether it belongs to a block. -/
def codeLines (s : List Char) : List (List Char × Bool) :=
  markedLines (markedCode s)

theorem map_fst_codeLines (s : List Char) :
    (codeLines s).map Prod.fst = lines (codeMarkdown (unixNewlines s)) := by
  rw [codeLines, map_fst_markedLines, markedCode, map_fst_flatMap_marked,
    Rule.flatMap_text_pieces, codeMarkdown]

/-- What the block rules write for each line of a text, cut into lines. -/
def writtenGroups (s : List Char) : List (List (List Char)) :=
  (walk (unlessKept blockMarkdown) .text (lines s)).map lines

/-- The groups are the lines that the pass reads. -/
theorem flatten_writtenGroups (s : List Char) :
    (writtenGroups s).flatten = lines (mapUnfenced blockMarkdown s) := by
  rw [lines_mapUnfenced_blockMarkdown, writtenGroups, List.flatMap_def]

/-- The pass over the lines follows the blocks of the source. -/
structure PassFollowsBlocks (base s : List Char) : Prop where
  /-- All that is written for a line is taken for fences or code if the line belongs to a block,
  and for ordinary text otherwise. -/
  kept : (lineSteps base {}
        (lines (mapUnfenced blockMarkdown (codeMarkdown (unixNewlines s))))).map
      (fun step => (step.line, step.kept))
    = (List.zipWith (fun line group => group.map fun l => (l, line.2)) (codeLines s)
        (writtenGroups (codeMarkdown (unixNewlines s)))).flatten
  /-- No fence is open behind the last line. -/
  closed : (({} : LineState).after base
    (lines (mapUnfenced blockMarkdown (codeMarkdown (unixNewlines s))))).code = .text

/-- A line and the lines written for it are kept or not kept together. -/
theorem map_lineView {line : List Char} (hn : '\n' ∉ line) (state : FenceState) :
    (lineView state line).map (fun view => (view.1, view.2.2))
      = (lines (unlessKept blockMarkdown state line)).map fun l => (l, state.keeps line) := by
  rw [lineView, unlessKept]
  split
  · next h => rw [lines_of_not_mem hn, h]; rfl
  · next h =>
    rw [Bool.not_eq_true] at h
    rw [h, List.map_map]
    rfl

/-- The marks that the pass gives agree with those of the lines just if the scan accepts them. -/
theorem views_eq_iff_follows {state : FenceState} {ls : List (List Char × Bool)}
    (hn : ∀ p ∈ ls, '\n' ∉ p.1) :
    ((walk lineView state (ls.map Prod.fst)).flatten.map (fun view => (view.1, view.2.2))
        = (List.zipWith (fun line group => group.map fun l => (l, line.2)) ls
            ((walk (unlessKept blockMarkdown) state (ls.map Prod.fst)).map lines)).flatten
      ∧ state.after (ls.map Prod.fst) = .text) ↔ Follows state ls := by
  induction ls generalizing state with
  | nil => simp [Follows]
  | cons p ls ih =>
    obtain ⟨l, m⟩ := p
    have hl : '\n' ∉ l := hn (l, m) List.mem_cons_self
    rw [Follows, ← ih fun q hq => hn q (List.mem_cons_of_mem _ hq), List.map_cons, walk_cons,
      List.flatten_cons, List.map_append, map_lineView hl, walk_cons, List.map_cons,
      List.zipWith_cons_cons, List.flatten_cons, FenceState.after_cons, ← and_assoc]
    refine and_congr_left fun _ => ?_
    constructor
    · -- both sides cut what is written for this line off, and its first line tells the mark
      intro h
      obtain ⟨here, rest⟩ := List.append_inj h (by simp)
      refine ⟨?_, rest⟩
      obtain ⟨g, gs, hg⟩ := exists_lines (unlessKept blockMarkdown state l)
      rw [hg, List.map_cons, List.map_cons] at here
      exact congrArg Prod.snd (List.cons.inj here).1
    · rintro ⟨here, rest⟩
      rw [here, rest]

/-- The pass follows the blocks just if a scan of the marked lines accepts them. -/
theorem passFollowsBlocks_iff_follows (base s : List Char) :
    PassFollowsBlocks base s ↔ Follows .text (codeLines s) := by
  have hn : ∀ p ∈ codeLines s, '\n' ∉ p.1 := by
    intro p hp
    have : p.1 ∈ (codeLines s).map Prod.fst := List.mem_map_of_mem hp
    rw [map_fst_codeLines] at this
    exact not_mem_of_mem_lines this
  have views := congrArg (List.map fun view => (view.1, view.2.2))
    (codeView_eq base (codeMarkdown (unixNewlines s)))
  rw [codeView, List.map_map] at views
  have state := LineState.code_after base {}
    (lines (mapUnfenced blockMarkdown (codeMarkdown (unixNewlines s))))
  rw [after_lines_mapUnfenced] at state
  rw [← views_eq_iff_follows hn, map_fst_codeLines, ← views]
  constructor
  · rintro ⟨kept, closed⟩
    exact ⟨kept, state.symm.trans closed⟩
  · rintro ⟨kept, closed⟩
    exact ⟨kept, state.trans closed⟩

end TicketMigration.Markup
