import TicketMigration.Proofs.Lines
import TicketMigration.Ticket

/-!
# The labels of an issue

The labels of an issue are one text with commas.  It is put together part by part, with a comma only
between parts, so what has been put together is always the parts so far that are not empty, joined
with commas.  A part may have commas itself: it stands for several labels then, and these come
through one by one, whichever parts are chosen and whichever of them are missing.

## Main definitions

* `properTexts` — the texts that are given and not empty.
* `LabelOptions.chosen` — the parts that make up the labels, in order.
* `namesIn` — the labels that a text stands for.
* `LabelOptions.Composes` — **what the labels of a ticket are made of.**

## Main statements

* `addLabel_intercalate` — one more part is joined to those so far.
* `foldl_addLabel` — parts are joined one after the other.
* `splitOn_intercalate` — joined texts have the labels of each of them.
* `LabelOptions.composes` — **labels are neither merged nor invented.**
-/

namespace TicketMigration

open Text

/-! ### Parts that are not empty -/

/-- The texts that are given and not empty. -/
def properTexts (texts : List (Option String)) : List String :=
  texts.filterMap fun text => text.filter (· ≠ "")

theorem properTexts_append (texts more : List (Option String)) :
    properTexts (texts ++ more) = properTexts texts ++ properTexts more :=
  List.filterMap_append

theorem ne_empty_of_mem_properTexts {texts : List (Option String)} {text : String}
    (h : text ∈ properTexts texts) : text ≠ "" := by
  obtain ⟨_, -, found⟩ := List.mem_filterMap.1 h
  simpa using (Option.filter_eq_some_iff.1 found).2

theorem properTexts_eq_nil_iff {texts : List (Option String)} :
    properTexts texts = [] ↔ ∀ text ∈ texts, text.getD "" = "" := by
  rw [properTexts, List.filterMap_eq_nil_iff]
  refine forall₂_congr fun text _ => ?_
  cases text <;> simp [Option.filter_eq_none_iff]

/-! ### Joining -/

variable {texts : List String}

/-- Joined texts are empty only if there are none, where none of them is empty. -/
theorem intercalate_eq_empty_iff (proper : ∀ text ∈ texts, text ≠ "") :
    ",".intercalate texts = "" ↔ texts = [] := by
  cases texts with
  | nil => simp
  | cons text rest =>
    have first : text ≠ "" := proper text List.mem_cons_self
    cases rest <;> simp [first]

/-- **One more part is joined to those so far**, unless it is missing or empty. -/
theorem addLabel_intercalate (proper : ∀ text ∈ texts, text ≠ "") (label : Option String) :
    addLabel (",".intercalate texts) label = ",".intercalate (texts ++ properTexts [label]) := by
  unfold addLabel
  split
  · simp [properTexts]
  · next label =>
    split
    · next empty => simp [properTexts, String.isEmpty_iff.1 empty]
    · next visible =>
      have single : properTexts [some label] = [label] :=
        List.filterMap_cons_some (Option.filter_some_pos (by simpa using visible))
      rw [single]
      by_cases first : texts = []
      · simp [first]
      · rw [if_neg fun empty => first ((intercalate_eq_empty_iff proper).1
          (String.isEmpty_iff.1 empty)), String.intercalate_append_of_ne_nil first (by simp),
          String.intercalate_singleton]

/-- **Parts are joined one after the other.** -/
theorem foldl_addLabel (parts : List (Option String)) (proper : ∀ text ∈ texts, text ≠ "") :
    parts.foldl addLabel (",".intercalate texts)
      = ",".intercalate (texts ++ properTexts parts) := by
  induction parts generalizing texts with
  | nil => simp [properTexts]
  | cons part rest ih =>
    have proper' : ∀ text ∈ texts ++ properTexts [part], text ≠ "" := fun text mem =>
      (List.mem_append.1 mem).elim (proper text) ne_empty_of_mem_properTexts
    rw [List.foldl_cons, addLabel_intercalate proper, ih proper', List.append_assoc,
      ← properTexts_append, List.singleton_append]

/-- Joined texts have the parts of each of them. -/
theorem splitOn_intercalate (nonempty : texts ≠ []) :
    splitOn ',' (",".intercalate texts).toList
      = texts.flatMap fun text => splitOn ',' text.toList := by
  induction texts with
  | nil => exact absurd rfl nonempty
  | cons text rest ih =>
    by_cases last : rest = []
    · simp [last]
    · rw [String.intercalate_cons_of_ne_nil last, String.toList_append, String.toList_append,
        List.append_assoc, List.flatMap_cons, ← ih last]
      exact splitOn_append_separator ',' _ _

/-! ### Labels -/

/-- The labels that a text stands for.  The empty text stands for none. -/
def namesIn (s : String) : List (List Char) :=
  if s = "" then [] else splitOn ',' s.toList

/-- The parts that make up the labels of a ticket: its keywords, its component and its milestone
where these are selected, and the label that every issue gets. -/
def LabelOptions.chosen (options : LabelOptions) (ticket : Ticket) : List String :=
  properTexts [ticket.keywords, if options.component then ticket.component else none,
    if options.milestone then ticket.milestone else none, options.extra]

/-- **What the labels of a ticket are made of.** -/
structure LabelOptions.Composes (options : LabelOptions) (ticket : Ticket) : Prop where
  /-- They are the chosen parts, joined with commas. -/
  joined : labels options ticket = ",".intercalate (options.chosen ticket)
  /-- If there is any part, cutting them at commas is cutting each part. -/
  split : options.chosen ticket ≠ [] → splitOn ',' (labels options ticket).toList
    = (options.chosen ticket).flatMap fun text => splitOn ',' text.toList
  /-- They stand for the labels of each part, one part after the other. -/
  names : namesIn (labels options ticket) = (options.chosen ticket).flatMap namesIn
  /-- They are empty exactly if each selected part is empty or missing. -/
  empty : labels options ticket = "" ↔
    ticket.keywords.getD "" = "" ∧ (options.component = true → ticket.component.getD "" = "") ∧
      (options.milestone = true → ticket.milestone.getD "" = "") ∧ options.extra.getD "" = ""

namespace LabelOptions

variable (options : LabelOptions) (ticket : Ticket)

theorem properTexts_parts : properTexts (options.parts ticket) = options.chosen ticket := by
  unfold parts chosen
  cases options.component <;> cases options.milestone <;> rfl

theorem chosen_eq_nil_iff : options.chosen ticket = [] ↔
    ticket.keywords.getD "" = "" ∧ (options.component = true → ticket.component.getD "" = "") ∧
      (options.milestone = true → ticket.milestone.getD "" = "") ∧ options.extra.getD "" = "" := by
  rw [chosen, properTexts_eq_nil_iff]
  cases options.component <;> cases options.milestone <;> simp

/-- **Labels are neither merged nor invented.** -/
theorem composes : options.Composes ticket := by
  have proper : ∀ text ∈ options.chosen ticket, text ≠ "" :=
    fun _ => ne_empty_of_mem_properTexts
  have joined : labels options ticket = ",".intercalate (options.chosen ticket) := by
    rw [← properTexts_parts]
    exact foldl_addLabel (options.parts ticket) (List.forall_mem_nil _)
  constructor
  case joined => exact joined
  case split =>
    intro some
    rw [joined, splitOn_intercalate some]
  case names =>
    rw [joined, namesIn]
    split
    · next empty =>
      rw [(intercalate_eq_empty_iff proper).1 empty]
      rfl
    · next visible =>
      rw [splitOn_intercalate (mt (intercalate_eq_empty_iff proper).2 visible)]
      rw [List.flatMap_def, List.flatMap_def]
      exact congrArg _ (List.map_congr_left fun text mem => (if_neg (proper text mem)).symm)
  case empty => rw [joined, intercalate_eq_empty_iff proper, chosen_eq_nil_iff]

end LabelOptions

end TicketMigration
