import Mathlib.Data.List.Induction
import TicketMigration.Proofs.Cuts
import TicketMigration.Query

/-!
# Terms and values of a query

A text is cut at its separators wherever no backslash stands before them that quotes them.  What a
backslash quotes is told from the left: a backslash that is quoted itself quotes nothing.  So a
character is quoted exactly if an odd number of backslashes stands before it.

## Main definitions

* `endsQuoting s` — a character behind the text would be quoted.
* `Stands quoted t s` — the one text stands in the other, and its first character is quoted or not.
* `OnePiece separator s` — the text has no separator that is not quoted, and quotes nothing behind
  it.

## Main statements

* `endsQuoting_quoted`, `endsQuoting_cons` — quoting told from the left.
* `OnePiece.splitUnquoted_append` — **what is one piece stays in one piece**, whatever follows.
* `exists_prefix_mem_splitUnquoted_iff` — **a piece begins where the text begins, or behind a
  separator that is not quoted.**
* `onePiece_quoteChars`, `unquoteChars_quoteChars` — quoting makes one piece, and is taken back.
-/

namespace TicketMigration

variable {separator c : Char} {s t marker : List Char}

/-! ### What is quoted -/

/-- A text is read from the left: a backslash is read with the character that it quotes, and any
other character on its own. -/
@[elab_as_elim]
theorem quotingInduction {motive : List Char → Prop} (nil : motive [])
    (lone : motive ['\\']) (quoted : ∀ c s, motive s → motive ('\\' :: c :: s))
    (plain : ∀ c s, c ≠ '\\' → motive s → motive (c :: s)) : ∀ s, motive s
  | [] => nil
  | [c] => if h : c = '\\' then h ▸ lone else plain c [] h nil
  | c :: d :: s =>
    if h : c = '\\' then h ▸ quoted d s (quotingInduction nil lone quoted plain s)
    else plain c (d :: s) h (quotingInduction nil lone quoted plain (d :: s))

/-- Whether a text ends in an odd number of backslashes, so that a character behind it would be
quoted. -/
def endsQuoting (s : List Char) : Bool :=
  (s.reverse.takeWhile (· == '\\')).length % 2 == 1

@[simp] theorem endsQuoting_nil : endsQuoting [] = false := rfl

/-- A backslash at the end quotes, unless it is quoted. -/
theorem endsQuoting_concat (s : List Char) (c : Char) :
    endsQuoting (s ++ [c]) = (!endsQuoting s && c == '\\') := by
  rw [endsQuoting, List.reverse_concat, List.takeWhile_cons, endsQuoting]
  by_cases hc : c = '\\'
  · subst hc
    rw [if_pos (by decide), List.length_cons, Bool.eq_iff_iff]
    simp only [beq_iff_eq, beq_self_eq_true, Bool.and_true, Bool.not_eq_true', beq_eq_false_iff_ne]
    omega
  · rw [if_neg (by simpa using hc)]
    simp [hc]

/-- Whether a character behind a text is quoted can be told from the left. -/
theorem endsQuoting_eq_foldl (s : List Char) :
    endsQuoting s = s.foldl (fun quoted c => !quoted && c == '\\') false := by
  induction s using List.reverseRecOn with
  | nil => rfl
  | append_singleton s c ih => rw [endsQuoting_concat, ih, List.foldl_append]; rfl

/-- A backslash and the character that it quotes count for nothing. -/
@[simp] theorem endsQuoting_quoted (c : Char) (s : List Char) :
    endsQuoting ('\\' :: c :: s) = endsQuoting s := by
  rw [endsQuoting_eq_foldl, endsQuoting_eq_foldl]
  rfl

/-- Neither does any other character. -/
theorem endsQuoting_cons (h : c ≠ '\\') (s : List Char) : endsQuoting (c :: s) = endsQuoting s := by
  rw [endsQuoting_eq_foldl, endsQuoting_eq_foldl, List.foldl_cons, beq_false_of_ne h]
  rfl

/-- One text stands in another, and its first character is quoted, or is not. -/
def Stands (quoted : Bool) (t s : List Char) : Prop :=
  ∃ before behind, s = before ++ t ++ behind ∧ endsQuoting before = quoted

theorem isInfix_iff_stands : t <:+: s ↔ Stands false t s ∨ Stands true t s := by
  constructor
  · rintro ⟨before, behind, rfl⟩
    cases quoting : endsQuoting before with
    | false => exact .inl ⟨before, behind, rfl, quoting⟩
    | true => exact .inr ⟨before, behind, rfl, quoting⟩
  · rintro (⟨before, behind, rfl, -⟩ | ⟨before, behind, rfl, -⟩) <;> exact ⟨before, behind, rfl⟩

/-- Only a backslash stands in a backslash. -/
theorem stands_lone (h : c ≠ '\\') (quoted : Bool) : ¬Stands quoted (c :: t) ['\\'] := by
  rintro ⟨before, behind, same, -⟩
  have found : c ∈ ['\\'] := by rw [same]; simp
  exact h (List.mem_singleton.1 found)

/-- What is not quoted stands behind a backslash and the character that this quotes. -/
theorem stands_quoted (h : c ≠ '\\') (d : Char) (s : List Char) :
    Stands false (c :: t) ('\\' :: d :: s) ↔ Stands false (c :: t) s := by
  constructor
  · rintro ⟨before, behind, same, quoting⟩
    -- it begins neither with the backslash nor with the quoted character
    match before, same, quoting with
    | [], same, _ => exact absurd (List.cons.inj same).1.symm h
    | [_], same, quoting =>
      rw [← (List.cons.inj same).1] at quoting
      cases quoting
    | b :: e :: before, same, quoting =>
      obtain ⟨hb, same⟩ := List.cons.inj same
      rw [← hb, endsQuoting_quoted] at quoting
      exact ⟨before, behind, (List.cons.inj same).2, quoting⟩
  · rintro ⟨before, behind, rfl, quoting⟩
    exact ⟨'\\' :: d :: before, behind, rfl, by rwa [endsQuoting_quoted]⟩

/-- Any other character has nothing to do with what is quoted behind it. -/
theorem stands_cons (h : c ≠ '\\') (s : List Char) :
    Stands false t (c :: s) ↔ t <+: c :: s ∨ Stands false t s := by
  constructor
  · rintro ⟨before, behind, same, quoting⟩
    cases before with
    | nil => exact .inl ⟨behind, same.symm⟩
    | cons b before =>
      obtain ⟨rfl, rfl⟩ := List.cons.inj same
      exact .inr ⟨before, behind, rfl, by rwa [endsQuoting_cons h] at quoting⟩
  · rintro (⟨behind, same⟩ | ⟨before, behind, rfl, quoting⟩)
    · exact ⟨[], behind, same.symm, rfl⟩
    · exact ⟨c :: before, behind, rfl, by rwa [endsQuoting_cons h]⟩

/-- A text without a character begins a text and more behind that character only if it begins the
text. -/
theorem prefix_append_cons_iff (h : c ∉ t) (s behind : List Char) :
    t <+: s ++ c :: behind ↔ t <+: s :=
  ⟨Text.isPrefix_of_append_cons h, fun hp => hp.trans (List.prefix_append _ _)⟩

/-- Behind a text that quotes what follows, nothing more stands. -/
theorem stands_append_of_endsQuoting (hc : c ≠ '\\') (ht : c ∉ t) {behind : List Char}
    (hb : c ∉ behind) (quoting : endsQuoting s = true) :
    Stands false (c :: t) (s ++ c :: behind) ↔ Stands false (c :: t) s := by
  induction s using quotingInduction with
  | nil => cases quoting
  | lone =>
    rw [List.singleton_append, stands_quoted hc, iff_false_right (stands_lone hc false)]
    rintro ⟨before, rest, rfl, -⟩
    exact hb (by simp)
  | quoted d s ih =>
    rw [endsQuoting_quoted] at quoting
    rw [List.cons_append, List.cons_append, stands_quoted hc, stands_quoted hc, ih quoting]
  | plain d s hd ih =>
    rw [endsQuoting_cons hd] at quoting
    rw [List.cons_append, stands_cons hd, stands_cons hd, ih quoting, List.cons_prefix_cons,
      List.cons_prefix_cons, prefix_append_cons_iff ht]

/-! ### Pieces -/

/-- Puts a text in front of the first of some pieces. -/
def prepend (front : List Char) : List (List Char) → List (List Char)
  | [] => [front]
  | part :: parts => (front ++ part) :: parts

@[simp] theorem prepend_cons (front part : List Char) (parts : List (List Char)) :
    prepend front (part :: parts) = (front ++ part) :: parts := rfl

theorem prepend_append (front front' : List Char) (parts : List (List Char)) :
    prepend (front ++ front') parts = prepend front (prepend front' parts) := by
  cases parts with
  | nil => rfl
  | cons part parts => rw [prepend_cons, prepend_cons, prepend_cons, List.append_assoc]

@[simp] theorem splitUnquoted_nil (separator : Char) : splitUnquoted separator [] = [[]] := rfl

theorem splitUnquoted_quoted (separator c : Char) (s : List Char) :
    splitUnquoted separator ('\\' :: c :: s) = prepend ['\\', c] (splitUnquoted separator s) := by
  rw [splitUnquoted, if_pos rfl]
  cases splitUnquoted separator s <;> rfl

theorem splitUnquoted_separator (h : separator ≠ '\\') (s : List Char) :
    splitUnquoted separator (separator :: s) = [] :: splitUnquoted separator s := by
  cases s with
  | nil => simp [splitUnquoted]
  | cons d s => rw [splitUnquoted, if_neg h, if_pos rfl]

theorem splitUnquoted_plain (hb : c ≠ '\\') (hs : c ≠ separator) (s : List Char) :
    splitUnquoted separator (c :: s) = prepend [c] (splitUnquoted separator s) := by
  cases s with
  | nil => simp [splitUnquoted, hs]
  | cons d s =>
    rw [splitUnquoted, if_neg hb, if_neg hs]
    cases splitUnquoted separator (d :: s) <;> rfl

theorem splitUnquoted_lone (h : separator ≠ '\\') : splitUnquoted separator ['\\'] = [['\\']] := by
  simp [splitUnquoted, h.symm]

/-- Every text has a first piece. -/
theorem exists_splitUnquoted (separator : Char) (s : List Char) :
    ∃ part parts, splitUnquoted separator s = part :: parts := by
  refine List.exists_cons_of_ne_nil ?_
  cases s with
  | nil => exact List.cons_ne_nil _ _
  | cons c s =>
    cases s with
    | nil =>
      rw [splitUnquoted]
      split <;> exact List.cons_ne_nil _ _
    | cons d s =>
      rw [splitUnquoted]
      split
      · split <;> exact List.cons_ne_nil _ _
      · split
        · exact List.cons_ne_nil _ _
        · split <;> exact List.cons_ne_nil _ _

@[simp] theorem prepend_nil_splitUnquoted (separator : Char) (s : List Char) :
    prepend [] (splitUnquoted separator s) = splitUnquoted separator s := by
  obtain ⟨part, parts, hs⟩ := exists_splitUnquoted separator s
  rw [hs, prepend_cons, List.nil_append]

/-! ### Texts in one piece -/

/-- The text has no separator that is not quoted, and quotes nothing behind it. -/
inductive OnePiece (separator : Char) : List Char → Prop
  /-- No text at all. -/
  | nil : OnePiece separator []
  /-- A backslash and the character that it quotes stand in front. -/
  | quoted (c : Char) {s : List Char} (rest : OnePiece separator s) :
    OnePiece separator ('\\' :: c :: s)
  /-- Another character stands in front, which is not the separator. -/
  | plain {c : Char} {s : List Char} (unquoting : c ≠ '\\') (inside : c ≠ separator)
    (rest : OnePiece separator s) : OnePiece separator (c :: s)

namespace OnePiece

theorem append (hs : OnePiece separator s) (ht : OnePiece separator t) :
    OnePiece separator (s ++ t) := by
  induction hs with
  | nil => exact ht
  | quoted c _ ih => exact .quoted c ih
  | plain unquoting inside _ ih => exact .plain unquoting inside ih

/-- A text without backslashes and separators is in one piece. -/
theorem of_forall (h : ∀ c ∈ s, c ≠ '\\' ∧ c ≠ separator) : OnePiece separator s := by
  induction s with
  | nil => exact .nil
  | cons c s ih =>
    obtain ⟨⟨unquoting, inside⟩, rest⟩ := List.forall_mem_cons.1 h
    exact .plain unquoting inside (ih rest)

/-- **What is one piece stays in one piece**, whatever follows. -/
theorem splitUnquoted_append (hs : OnePiece separator s) (t : List Char) :
    splitUnquoted separator (s ++ t) = prepend s (splitUnquoted separator t) := by
  induction hs with
  | nil => rw [List.nil_append, prepend_nil_splitUnquoted]
  | quoted c _ ih =>
    rw [List.cons_append, List.cons_append, splitUnquoted_quoted, ih, ← prepend_append]
    rfl
  | plain unquoting inside _ ih =>
    rw [List.cons_append, splitUnquoted_plain unquoting inside, ih, ← prepend_append]
    rfl

/-- One piece is the only piece of a text. -/
theorem splitUnquoted_eq (hs : OnePiece separator s) : splitUnquoted separator s = [s] := by
  have whole := hs.splitUnquoted_append []
  rwa [List.append_nil, splitUnquoted_nil, prepend_cons, List.append_nil] at whole

/-- A separator behind one piece is not quoted. -/
theorem splitUnquoted_append_separator (h : separator ≠ '\\') (hs : OnePiece separator s)
    (t : List Char) :
    splitUnquoted separator (s ++ separator :: t) = s :: splitUnquoted separator t := by
  rw [hs.splitUnquoted_append, splitUnquoted_separator h, prepend_cons, List.append_nil]

end OnePiece

/-! ### Quoting -/

@[simp] theorem quoteChars_nil : quoteChars [] = [] := rfl

theorem quoteChars_special (h : isQuerySpecial c = true) (s : List Char) :
    quoteChars (c :: s) = '\\' :: c :: quoteChars s := by
  rw [quoteChars, List.flatMap_cons, if_pos h]
  rfl

theorem quoteChars_plain (h : ¬isQuerySpecial c = true) (s : List Char) :
    quoteChars (c :: s) = c :: quoteChars s := by
  rw [quoteChars, List.flatMap_cons, if_neg h]
  rfl

theorem quoteChars_append (s t : List Char) :
    quoteChars (s ++ t) = quoteChars s ++ quoteChars t :=
  List.flatMap_append

/-- A quoted text is one piece at each separator of a query. -/
theorem onePiece_quoteChars (h : isQuerySpecial separator = true) (s : List Char) :
    OnePiece separator (quoteChars s) := by
  induction s with
  | nil => exact .nil
  | cons c s ih =>
    by_cases hc : isQuerySpecial c = true
    · rw [quoteChars_special hc]
      exact .quoted c ih
    · rw [quoteChars_plain hc]
      exact .plain (fun he => hc (he ▸ rfl)) (fun he => hc (he ▸ h)) ih

theorem unquoteChars_plain (h : c ≠ '\\') (s : List Char) :
    unquoteChars (c :: s) = c :: unquoteChars s := by
  cases s with
  | nil => rfl
  | cons d s => rw [unquoteChars, if_neg h]

/-- **Quoting is taken back.** -/
theorem unquoteChars_quoteChars (s : List Char) : unquoteChars (quoteChars s) = s := by
  induction s with
  | nil => rfl
  | cons c s ih =>
    by_cases hc : isQuerySpecial c = true
    · rw [quoteChars_special hc, unquoteChars, if_pos rfl, ih]
    · rw [quoteChars_plain hc, unquoteChars_plain (by rintro rfl; exact hc rfl), ih]

theorem quoteValue_injective : Function.Injective quoteValue := by
  intro s t same
  have chars : quoteChars s.toList = quoteChars t.toList := String.ofList_inj.1 same
  rw [← String.toList_inj, ← unquoteChars_quoteChars s.toList, chars, unquoteChars_quoteChars]

theorem quoteValue_append (s t : String) : quoteValue (s ++ t) = quoteValue s ++ quoteValue t := by
  rw [quoteValue, String.toList_append, quoteChars_append, String.ofList_append]
  rfl

/-! ### Where pieces begin -/

section

variable (unquoting : separator ≠ '\\') (plain : ∀ c ∈ marker, c ≠ '\\' ∧ c ≠ separator)

include unquoting plain

/-- The first piece of a text begins as the text does. -/
theorem prefix_first_iff {part : List Char} {parts : List (List Char)}
    (hs : splitUnquoted separator s = part :: parts) : marker <+: part ↔ marker <+: s := by
  -- on the marker, which is compared with the text character by character
  induction marker generalizing s part parts with
  | nil => exact iff_of_true List.nil_prefix List.nil_prefix
  | cons m marker ih =>
    obtain ⟨⟨hm, hsep⟩, rest⟩ := List.forall_mem_cons.1 plain
    rcases s with _ | ⟨c, s⟩
    · obtain ⟨rfl, -⟩ := List.cons.inj hs
      rfl
    · by_cases hb : c = '\\'
      · -- a backslash is in front of the text and of the piece, and not of the marker
        have first : ∃ more, part = '\\' :: more := by
          subst hb
          rcases s with _ | ⟨d, s⟩
          · rw [splitUnquoted_lone unquoting] at hs
            exact ⟨[], (List.cons.inj hs).1.symm⟩
          · obtain ⟨p, ps, hp⟩ := exists_splitUnquoted separator s
            rw [splitUnquoted_quoted, hp] at hs
            exact ⟨_, (List.cons.inj hs).1.symm⟩
        obtain ⟨more, rfl⟩ := first
        simp [List.cons_prefix_cons, hb, hm]
      · by_cases hc : c = separator
        · subst hc
          rw [splitUnquoted_separator unquoting] at hs
          obtain ⟨rfl, -⟩ := List.cons.inj hs
          simp [List.cons_prefix_cons, hsep]
        · obtain ⟨p, ps, hp⟩ := exists_splitUnquoted separator s
          rw [splitUnquoted_plain hb hc, hp] at hs
          obtain ⟨rfl, -⟩ := List.cons.inj hs
          rw [List.singleton_append, List.cons_prefix_cons, List.cons_prefix_cons, ih rest hp]

/-- A piece behind the first one begins with a marker exactly if a separator that is not quoted
stands before the marker. -/
theorem exists_prefix_mem_tail_iff (s : List Char) :
    (∃ part ∈ (splitUnquoted separator s).tail, marker <+: part) ↔
      Stands false (separator :: marker) s := by
  induction s using quotingInduction with
  | nil => simp [Stands]
  | lone =>
    rw [splitUnquoted_lone unquoting]
    simp [stands_lone unquoting]
  | quoted c s ih =>
    obtain ⟨part, parts, hs⟩ := exists_splitUnquoted separator s
    rw [hs] at ih
    rw [splitUnquoted_quoted, hs, stands_quoted unquoting, ← ih]
    rfl
  | plain c s hb ih =>
    obtain ⟨part, parts, hs⟩ := exists_splitUnquoted separator s
    rw [hs] at ih
    rw [stands_cons hb, ← ih, List.cons_prefix_cons]
    by_cases hc : c = separator
    · subst hc
      rw [splitUnquoted_separator unquoting, hs, ← prefix_first_iff unquoting plain hs]
      simp
    · rw [splitUnquoted_plain hb hc, hs]
      simp [Ne.symm hc]

/-- **A piece begins where the text begins, or behind a separator that is not quoted.** -/
theorem exists_prefix_mem_splitUnquoted_iff (s : List Char) :
    (∃ part ∈ splitUnquoted separator s, marker <+: part) ↔
      marker <+: s ∨ Stands false (separator :: marker) s := by
  obtain ⟨part, parts, hs⟩ := exists_splitUnquoted separator s
  rw [← exists_prefix_mem_tail_iff unquoting plain, ← prefix_first_iff unquoting plain hs, hs]
  simp

end

end TicketMigration
