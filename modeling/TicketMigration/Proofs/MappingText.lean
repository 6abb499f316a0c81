import Mathlib.Data.List.Forall2
import TicketMigration.Proofs.Blankness
import TicketMigration.Proofs.Lines
import TicketMigration.Proofs.MappingUpdates
import TicketMigration.Proofs.UsableMappings
import TicketMigration.Proofs.WrittenFile

/-!
# Written user mappings

A written user mapping has items between commas.  An item that is not blank has to say an entry: two
sides that are not blank, around the only equals sign.  The reader takes exactly these texts.  It
looks at an item only after dropping the blanks at its ends, and at a side after dropping those at
its own, so blanks never count: neither around names nor as items.

## Main definitions

* `Says` — an item says an entry.
* `writtenItems` — the items of a text that are not blank.
* `IsWritableName`, `UserMapping.IsWritable` — what survives writing and reading.
* `Prints` — items that write a mapping, with blanks and blank items anywhere.
* `MappingRead` — **how a text is read as a mapping.**

## Main statements

* `entry_trim_eq_some_iff` — the reader finds the entry that an item says.
* `readItems_eq_ok_iff`, `exists_of_readItems_eq_error` — items are read up to the first fault.
* `readMapping_eq_ok_iff` — what is read is collected from the entries.
* `Prints.readMapping_join` — what is written for a mapping is read back.
* `mappingRead` — **mappings are read by the grammar, and reading undoes writing.**
-/

namespace TicketMigration

open Text Markup

/-! ### Blanks at the ends -/

namespace Text

variable {before after : List Char}

theorem dropWhile_append_cons {test : Char → Bool} {c : Char} (fails : test c = false)
    (a b : List Char) : (a ++ c :: b).dropWhile test = a.dropWhile test ++ c :: b := by
  induction a with
  | nil => simp [fails]
  | cons d a ih =>
    rw [List.cons_append, List.dropWhile_cons, List.dropWhile_cons, ih]
    split <;> rfl

/-- A character that is no blank keeps what is behind it from being dropped at the front, and what
is before it at the end. -/
theorem trim_append_cons {c : Char} (visible : isBlank c = false) (a b : List Char) :
    trim (a ++ c :: b) = trimStart a ++ c :: trimEnd b := by
  have front : trimStart (a ++ c :: b) = trimStart a ++ c :: b := dropWhile_append_cons visible a b
  have flip : (trimStart a ++ c :: b).reverse = b.reverse ++ c :: (trimStart a).reverse := by simp
  rw [trim, front, trimEnd, dropEndWhile, flip, dropWhile_append_cons visible]
  simp [trimEnd, dropEndWhile]

theorem trimStart_append (blank : isBlankText before = true) (s : List Char) :
    trimStart (before ++ s) = trimStart s :=
  List.dropWhile_append_of_pos (List.all_eq_true.1 blank)

theorem trimEnd_append (blank : isBlankText after = true) (s : List Char) :
    trimEnd (s ++ after) = trimEnd s := by
  have blank' : ∀ c ∈ after.reverse, isBlank c = true := by
    simpa [isBlankText] using blank
  rw [trimEnd, trimEnd, dropEndWhile, List.reverse_append, List.dropWhile_append_of_pos blank',
    dropEndWhile]

/-- A text is what is left of it at the front, with blanks before it. -/
theorem exists_append_trimStart (s : List Char) :
    ∃ before, isBlankText before = true ∧ s = before ++ trimStart s := by
  refine ⟨s.takeWhile isBlank, ?_, List.takeWhile_append_dropWhile.symm⟩
  exact List.all_eq_true.2 fun c mem => List.all_eq_true.1 List.all_takeWhile c mem

/-- A text is what is left of it at the end, with blanks behind it. -/
theorem exists_trimEnd_append (s : List Char) :
    ∃ after, isBlankText after = true ∧ s = trimEnd s ++ after := by
  obtain ⟨before, blank, whole⟩ := exists_append_trimStart s.reverse
  refine ⟨before.reverse, by simpa [isBlankText] using blank, ?_⟩
  rw [← List.reverse_inj, whole]
  simp [trimEnd, dropEndWhile, trimStart]

/-- A text is what is left of it, with blanks around. -/
theorem exists_padding (s : List Char) :
    ∃ before after, isBlankText before = true ∧ isBlankText after = true ∧
      s = before ++ trim s ++ after := by
  obtain ⟨before, hb, front⟩ := exists_append_trimStart s
  obtain ⟨after, ha, back⟩ := exists_trimEnd_append (trimStart s)
  refine ⟨before, after, hb, ha, ?_⟩
  rw [List.append_assoc, trim, ← back, ← front]

/-- Blanks around a text do not count. -/
theorem trim_padded (hb : isBlankText before = true) (ha : isBlankText after = true)
    (s : List Char) : trim (before ++ s ++ after) = trim s := by
  rw [trim, List.append_assoc, trimStart_append hb, trimStart, List.dropWhile_append]
  split
  · next dropped =>
    have blank : trimStart s = [] := List.isEmpty_iff.1 dropped
    have blank' : after.dropWhile isBlank = [] := (trimStart_eq_nil_iff after).2 ha
    rw [trim, blank, blank']
  · exact trimEnd_append ha _

theorem trim_trimStart (s : List Char) : trim (trimStart s) = trim s := by
  obtain ⟨before, blank, whole⟩ := exists_append_trimStart s
  conv_rhs => rw [whole, ← List.append_nil (before ++ trimStart s), trim_padded blank rfl]

theorem trim_trimEnd (s : List Char) : trim (trimEnd s) = trim s := by
  obtain ⟨after, blank, whole⟩ := exists_trimEnd_append s
  conv_rhs => rw [whole, ← List.nil_append (trimEnd s), trim_padded rfl blank]

theorem mem_of_mem_trimEnd {c : Char} {s : List Char} (h : c ∈ trimEnd s) : c ∈ s := by
  obtain ⟨after, -, whole⟩ := exists_trimEnd_append s
  rw [whole]
  exact List.mem_append_left after h

theorem not_mem_of_isBlankText {c : Char} {s : List Char} (visible : isBlank c = false)
    (blank : isBlankText s = true) : c ∉ s := by
  intro mem
  rw [List.all_eq_true.1 blank c mem] at visible
  cases visible

/-- What is left of a text tells whether the text is blank. -/
theorem isBlankText_of_trim_eq {s t : List Char} (h : trim s = trim t) :
    isBlankText s = isBlankText t := by
  rw [Bool.eq_iff_iff, ← trim_eq_nil_iff, ← trim_eq_nil_iff, h]

end Text

/-! ### Items -/

/-- An item says an entry: it has one equals sign, with a side that is not blank before it and one
behind it, and the names are these sides without the blanks around them. -/
def Says (item : List Char) (entry : List Char × List Char) : Prop :=
  ∃ name target, item = name ++ '=' :: target ∧ ('=' ∉ name ∧ '=' ∉ target) ∧
    (Visible name ∧ Visible target) ∧ entry = (trim name, trim target)

theorem entry_eq_some_iff {item : List Char} {entry : List Char × List Char} :
    mappingEntry? item = some entry ↔ Says item entry := by
  constructor
  · intro found
    unfold mappingEntry? at found
    split at found
    · next name target sides =>
      split at found
      · cases found
      · next visible =>
        have part {side : List Char} (mem : side ∈ [name, target]) : '=' ∉ side :=
          not_mem_of_mem_splitOn (sides ▸ mem)
        have whole : item = name ++ '=' :: target := by
          rw [← join_splitOn '=' item, sides]
          simp [join]
        rw [Bool.or_eq_true, not_or, Bool.not_eq_true, Bool.not_eq_true] at visible
        exact ⟨name, target, whole, ⟨part (by simp), part (by simp)⟩, visible,
          (Option.some.inj found).symm⟩
    · cases found
  · rintro ⟨name, target, rfl, ⟨before, behind⟩, ⟨visible, visible'⟩, rfl⟩
    have sides : splitOn '=' (name ++ '=' :: target) = [name, target] := by
      rw [splitOn_append_cons before, splitOn_of_not_mem behind]
    unfold mappingEntry?
    rw [sides]
    dsimp only
    rw [if_neg (by rw [visible, visible']; decide)]

/-- Blanks around an item do not count. -/
theorem says_trim_iff {item : List Char} {entry : List Char × List Char} :
    Says (trim item) entry ↔ Says item entry := by
  constructor
  · rintro ⟨name, target, left, ⟨single, single'⟩, ⟨visible, visible'⟩, rfl⟩
    obtain ⟨before, after, hb, ha, whole⟩ := exists_padding item
    have names : trim (before ++ name) = trim name := by
      rw [← List.append_nil (before ++ name), trim_padded hb rfl]
    have targets : trim (target ++ after) = trim target := by
      rw [← List.nil_append target, trim_padded rfl ha, List.nil_append]
    refine ⟨before ++ name, target ++ after, ?_, ⟨?_, ?_⟩, ⟨?_, ?_⟩, by rw [names, targets]⟩
    · rw [whole, left]
      simp
    · exact List.not_mem_append (not_mem_of_isBlankText (by decide) hb) single
    · exact List.not_mem_append single' (not_mem_of_isBlankText (by decide) ha)
    · rwa [Visible, isBlankText_of_trim_eq names]
    · rwa [Visible, isBlankText_of_trim_eq targets]
  · rintro ⟨name, target, rfl, ⟨single, single'⟩, ⟨visible, visible'⟩, rfl⟩
    refine ⟨trimStart name, trimEnd target, trim_append_cons (by decide) name target, ⟨?_, ?_⟩,
      ⟨?_, ?_⟩, by rw [trim_trimStart, trim_trimEnd]⟩
    · exact mt (List.dropWhile_subset _ ·) single
    · exact mt mem_of_mem_trimEnd single'
    · rwa [Visible, isBlankText_of_trim_eq (trim_trimStart name)]
    · rwa [Visible, isBlankText_of_trim_eq (trim_trimEnd target)]

/-- The reader finds the entry that an item says. -/
theorem entry_trim_eq_some_iff {item : List Char} {entry : List Char × List Char} :
    mappingEntry? (trim item) = some entry ↔ Says item entry :=
  entry_eq_some_iff.trans says_trim_iff

/-! ### Reading -/

/-- The items of a text that are not blank. -/
def writtenItems (s : List Char) : List (List Char) :=
  (splitOn ',' s).filter fun item => !isBlankText item

theorem mem_writtenItems {s item : List Char} :
    item ∈ writtenItems s ↔ item ∈ splitOn ',' s ∧ Visible item := by
  rw [writtenItems, List.mem_filter, Bool.not_eq_true']

theorem writtenItems_append (s t : List Char) :
    writtenItems (s ++ ',' :: t) = writtenItems s ++ writtenItems t := by
  rw [writtenItems, splitOn_append_separator, List.filter_append]
  rfl

theorem mappingItems_eq (s : List Char) : mappingItems s = (writtenItems s).map trim := by
  have visible (item : List Char) : (!(trim item).isEmpty) = !isBlankText item := by
    rw [Bool.eq_iff_iff, Bool.not_eq_true', Bool.not_eq_true', ← Bool.not_eq_true,
      ← Bool.not_eq_true, List.isEmpty_iff, trim_eq_nil_iff]
  rw [mappingItems, writtenItems, List.filter_map]
  exact congrArg _ (List.filter_congr fun item _ => visible item)

variable {start result : UserMapping} {items : List (List Char)} {part s : List Char}

/-- Where items say entries, each of them says one. -/
theorem exists_says_of_mem {entries : UserMapping} (said : List.Forall₂ Says items entries)
    {item : List Char} (mem : item ∈ items) : ∃ entry, Says item entry := by
  induction said with
  | nil => cases mem
  | cons first _ ih =>
    rcases List.mem_cons.1 mem with rfl | mem
    · exact ⟨_, first⟩
    · exact ih mem

/-- Items are read if each of them says an entry, and the entries are put into the mapping. -/
theorem readItems_eq_ok_iff :
    readItems start (items.map trim) = .ok result ↔
      ∃ entries, List.Forall₂ Says items entries ∧ result = start.update entries := by
  -- the mapping that is updated grows along the items
  induction items generalizing start with
  | nil =>
    constructor
    · rintro ⟨⟩
      exact ⟨[], .nil, rfl⟩
    · rintro ⟨_, said, rfl⟩
      cases said
      rfl
  | cons item rest ih =>
    rw [List.map_cons, readItems]
    cases found : mappingEntry? (trim item) with
    | none =>
      constructor
      · rintro ⟨⟩
      · rintro ⟨_, _ | ⟨first, others⟩, -⟩
        rw [entry_trim_eq_some_iff.2 first] at found
        cases found
    | some entry =>
      refine ih.trans ⟨?_, ?_⟩
      · rintro ⟨entries, said, rfl⟩
        exact ⟨entry :: entries, .cons (entry_trim_eq_some_iff.1 found) said, rfl⟩
      · rintro ⟨_, _ | ⟨first, others⟩, rfl⟩
        rw [entry_trim_eq_some_iff.2 first] at found
        obtain rfl := Option.some.inj found
        exact ⟨_, others, rfl⟩

/-- The first item that says no entry is the fault. -/
theorem exists_of_readItems_eq_error (h : readItems start (items.map trim) = .error part) :
    ∃ front item back, items = front ++ item :: back ∧
      (∀ other ∈ front, ∃ entry, Says other entry) ∧ (¬∃ entry, Says item entry) ∧
        part = trim item := by
  induction items generalizing start with
  | nil => cases h
  | cons item rest ih =>
    rw [List.map_cons, readItems] at h
    split at h
    · next entry found =>
      obtain ⟨front, faulty, back, rfl, sound, fault, text⟩ := ih h
      refine ⟨item :: front, faulty, back, rfl, ?_, fault, text⟩
      exact List.forall_mem_cons.2 ⟨⟨entry, entry_trim_eq_some_iff.1 found⟩, sound⟩
    · next unread =>
      cases h
      refine ⟨[], item, rest, rfl, by simp, ?_, rfl⟩
      rintro ⟨entry, said⟩
      rw [entry_trim_eq_some_iff.2 said] at unread
      cases unread

/-- A text is read if it has items that are not blank and each of them says an entry, and the
mapping has each name once, with its last target. -/
theorem readMapping_eq_ok_iff :
    readMapping s = .ok result ↔
      ∃ entries, entries ≠ [] ∧ List.Forall₂ Says (writtenItems s) entries ∧
        Collects entries result := by
  -- putting the entries into the empty mapping is one way to collect them, and there is no other
  have collects (entries : UserMapping) :
      result = UserMapping.update [] entries ↔ Collects entries result := by
    have made : Collects entries (UserMapping.update [] entries) := collects_nil.update entries
    exact ⟨fun same => same ▸ made, fun other => other.unique made⟩
  rw [readMapping, mappingItems_eq]
  cases hs : writtenItems s with
  | nil =>
    constructor
    · rintro ⟨⟩
    · rintro ⟨_, nonempty, said, -⟩
      cases said
      exact absurd rfl nonempty
  | cons item rest =>
    have listed : readItems [] ((item :: rest).map trim) = .ok result ↔ _ := readItems_eq_ok_iff
    refine listed.trans (exists_congr fun entries => ?_)
    rw [collects]
    constructor
    · rintro ⟨said, mapped⟩
      refine ⟨?_, said, mapped⟩
      rintro rfl
      cases said
    · rintro ⟨-, said, mapped⟩
      exact ⟨said, mapped⟩

/-! ### Writing -/

/-- A name that survives writing and reading. -/
structure IsWritableName (name : List Char) : Prop where
  /-- It has a character. -/
  nonempty : name ≠ []
  /-- The first character is no blank. -/
  first : name.head?.any isBlank = false
  /-- The last character is no blank. -/
  last : name.getLast?.any isBlank = false
  /-- It does not have the marks of a written mapping. -/
  marks : ',' ∉ name ∧ '=' ∉ name

namespace IsWritableName

variable {name : List Char}

theorem trim_eq (h : IsWritableName name) : trim name = name := by
  rw [trim, trimStart, dropWhile_eq_self h.first, trimEnd, dropEndWhile_eq_self h.last]

theorem visible (h : IsWritableName name) : Visible name := by
  cases name with
  | nil => exact absurd rfl h.nonempty
  | cons c name => exact visible_cons h.first name

end IsWritableName

/-- A mapping that survives writing and reading. -/
structure UserMapping.IsWritable (mapping : UserMapping) : Prop where
  /-- It has an entry. -/
  nonempty : mapping ≠ []
  /-- Its names can be written, and so can its targets. -/
  names : ∀ entry ∈ mapping, IsWritableName entry.1 ∧ IsWritableName entry.2
  /-- No name is mapped twice. -/
  distinct : (mapping.map Prod.fst).Nodup

/-- Items that write the entries of a mapping in their order, with blanks around the names and blank
items anywhere. -/
inductive Prints : UserMapping → List (List Char) → Prop
  /-- There is nothing to write. -/
  | nil : Prints [] []
  /-- A blank item. -/
  | blank {mapping : UserMapping} {items : List (List Char)} {item : List Char}
      (blank : isBlankText item = true) (rest : Prints mapping items) :
      Prints mapping (item :: items)
  /-- An entry. -/
  | entry {mapping : UserMapping} {items : List (List Char)} (a b c d name target : List Char)
      (blanks : ∀ s ∈ [a, b, c, d], isBlankText s = true) (rest : Prints mapping items) :
      Prints ((name, target) :: mapping) (((a ++ name ++ b) ++ '=' :: (c ++ target ++ d)) :: items)

/-- A mapping is written without blanks. -/
theorem prints_writeMapping (mapping : UserMapping) :
    Prints mapping (mapping.map fun entry => entry.1 ++ '=' :: entry.2) := by
  induction mapping with
  | nil => exact .nil
  | cons entry rest ih =>
    simpa using Prints.entry [] [] [] [] entry.1 entry.2 (by simp) ih

/-- Only blanks are added to a name. -/
theorem not_mem_padded {before after name : List Char} {mark : Char}
    (hb : isBlankText before = true) (ha : isBlankText after = true) (hm : isBlank mark = false)
    (h : mark ∉ name) : mark ∉ before ++ name ++ after :=
  List.not_mem_append (List.not_mem_append (not_mem_of_isBlankText hm hb) h)
    (not_mem_of_isBlankText hm ha)

theorem visible_padded (before : List Char) {name : List Char} (h : Visible name)
    (after : List Char) : Visible (before ++ name ++ after) :=
  visible_append_left (visible_append_right before h) after

/-- What is written for a mapping says its entries, in items of their own. -/
theorem Prints.forall₂ {mapping : UserMapping} {items : List (List Char)}
    (printed : Prints mapping items)
    (writable : ∀ entry ∈ mapping, IsWritableName entry.1 ∧ IsWritableName entry.2) :
    List.Forall₂ Says (items.filter fun item => !isBlankText item) mapping ∧
      ∀ item ∈ items, ',' ∉ item := by
  induction printed with
  | nil => exact ⟨.nil, by simp⟩
  | blank blank _ ih =>
    obtain ⟨said, single⟩ := ih writable
    rw [List.filter_cons_of_neg (by simp [blank])]
    exact ⟨said, List.forall_mem_cons.2 ⟨not_mem_of_isBlankText (by decide) blank, single⟩⟩
  | entry a b c d name target blanks _ ih =>
    obtain ⟨⟨first, second⟩, others⟩ := List.forall_mem_cons.1 writable
    obtain ⟨said, single⟩ := ih others
    simp only [List.forall_mem_cons] at blanks
    obtain ⟨ha, hb, hc, hd, -⟩ := blanks
    have visible : Visible (a ++ name ++ b) := visible_padded a first.visible b
    have visible' : Visible (c ++ target ++ d) := visible_padded c second.visible d
    constructor
    · rw [List.filter_cons_of_pos (by rw [visible_append_left visible]; rfl)]
      refine .cons ⟨_, _, rfl, ⟨?_, ?_⟩, ⟨visible, visible'⟩, ?_⟩ said
      · exact not_mem_padded ha hb (by decide) first.marks.2
      · exact not_mem_padded hc hd (by decide) second.marks.2
      · rw [trim_padded ha hb, trim_padded hc hd, first.trim_eq, second.trim_eq]
    · refine List.forall_mem_cons.2 ⟨List.not_mem_append ?_ ?_, single⟩
      · exact not_mem_padded ha hb (by decide) first.marks.1
      · exact List.not_mem_cons_of_ne_of_not_mem (by decide)
          (not_mem_padded hc hd (by decide) second.marks.1)

/-- What is written for a mapping is read back. -/
theorem Prints.readMapping_join {mapping : UserMapping} {items : List (List Char)}
    (printed : Prints mapping items) (writable : mapping.IsWritable) :
    readMapping (join [','] items) = .ok mapping := by
  obtain ⟨said, single⟩ := printed.forall₂ writable.names
  have shown : items ≠ [] := by
    rintro rfl
    cases said
    exact writable.nonempty rfl
  refine readMapping_eq_ok_iff.2 ⟨mapping, writable.nonempty, ?_, collects_self writable.distinct⟩
  rwa [writtenItems, splitOn_join shown single]

/-! ### The grammar -/

/-- An item that is not blank says no entry, or all items are blank. -/
def IsMalformed (s : List Char) : Prop :=
  (∃ item ∈ splitOn ',' s, Visible item ∧ ¬∃ entry, Says item entry) ∨
    ∀ item ∈ splitOn ',' s, isBlankText item = true

/-- The first item that says no entry, without the blanks around it, or the whole text if all items
are blank. -/
def IsFault (s part : List Char) : Prop :=
  (∃ front item back, writtenItems s = front ++ item :: back ∧
    (∀ other ∈ front, ∃ entry, Says other entry) ∧ (¬∃ entry, Says item entry) ∧
      part = trim item) ∨
    (∀ item ∈ splitOn ',' s, isBlankText item = true) ∧ part = s

/-- **How a text is read as a mapping.** -/
structure MappingRead (s : List Char) : Prop where
  /-- It is refused exactly if it is malformed. -/
  refused : (∃ part, readMapping s = .error part) ↔ IsMalformed s
  /-- The fault is the first item that says no entry, or the whole text if there are none. -/
  fault : ∀ part, readMapping s = .error part → IsFault s part
  /-- Otherwise each item says an entry, and the mapping has each name once, in the order of the
  first entries, with the target of the last one.  No name is empty, and no target. -/
  read : ¬IsMalformed s → ∃ mapping entries, readMapping s = .ok mapping ∧
    List.Forall₂ Says (writtenItems s) entries ∧ Collects entries mapping ∧
      ∀ entry ∈ mapping, entry.1 ≠ [] ∧ entry.2 ≠ []
  /-- If it is what is written for a mapping, with any blanks and blank items, the mapping is read
  back. -/
  printed : ∀ (mapping : UserMapping) items, mapping.IsWritable → Prints mapping items →
    s = join [','] items → readMapping s = .ok mapping
  /-- In particular, reading undoes writing. -/
  undone : ∀ mapping : UserMapping, mapping.IsWritable → s = writeMapping mapping →
    readMapping s = .ok mapping
  /-- With another text behind it, the mapping is updated with that of the other text. -/
  appended : ∀ t mapping other, readMapping s = .ok mapping → readMapping t = .ok other →
    readMapping (s ++ ',' :: t) = .ok (mapping.update other)

theorem writtenItems_eq_nil_iff :
    writtenItems s = [] ↔ ∀ item ∈ splitOn ',' s, isBlankText item = true := by
  simp [writtenItems]

theorem isFault_of_readMapping (h : readMapping s = .error part) : IsFault s part := by
  rw [readMapping, mappingItems_eq] at h
  cases hs : writtenItems s with
  | nil =>
    rw [hs] at h
    cases h
    exact .inr ⟨writtenItems_eq_nil_iff.1 hs, rfl⟩
  | cons item rest =>
    rw [hs] at h
    rw [IsFault, hs]
    exact .inl (exists_of_readItems_eq_error h)

theorem IsFault.isMalformed (fault : IsFault s part) : IsMalformed s := by
  rcases fault with ⟨front, item, back, found, -, nothing, -⟩ | ⟨blank, -⟩
  · have mem : item ∈ writtenItems s := by simp [found]
    obtain ⟨mem, visible⟩ := mem_writtenItems.1 mem
    exact .inl ⟨item, mem, visible, nothing⟩
  · exact .inr blank

/-- A malformed text is refused. -/
theorem exists_fault_of_isMalformed (malformed : IsMalformed s) :
    ∃ part, readMapping s = .error part := by
  cases read : readMapping s with
  | error part => exact ⟨part, rfl⟩
  | ok mapping =>
    obtain ⟨entries, nonempty, said, -⟩ := readMapping_eq_ok_iff.1 read
    rcases malformed with ⟨item, mem, visible, nothing⟩ | blank
    · exact absurd (exists_says_of_mem said (mem_writtenItems.2 ⟨mem, visible⟩)) nothing
    · rw [writtenItems_eq_nil_iff.2 blank] at said
      cases said
      exact absurd rfl nonempty

/-- **Mappings are read by the grammar, and reading undoes writing.** -/
theorem mappingRead (s : List Char) : MappingRead s := by
  constructor
  case refused =>
    refine ⟨?_, exists_fault_of_isMalformed⟩
    rintro ⟨part, fails⟩
    exact (isFault_of_readMapping fails).isMalformed
  case fault => exact fun _ => isFault_of_readMapping
  case read =>
    intro sound
    cases read : readMapping s with
    | error part => exact absurd (isFault_of_readMapping read).isMalformed sound
    | ok mapping =>
      obtain ⟨entries, -, said, collected⟩ := readMapping_eq_ok_iff.1 read
      exact ⟨mapping, entries, rfl, said, collected, ne_nil_of_readMapping read⟩
  case printed =>
    rintro mapping items writable printed rfl
    exact printed.readMapping_join writable
  case undone =>
    rintro mapping writable rfl
    exact (prints_writeMapping mapping).readMapping_join writable
  case appended =>
    intro t mapping other read read'
    obtain ⟨entries, nonempty, said, collected⟩ := readMapping_eq_ok_iff.1 read
    obtain ⟨entries', -, said', collected'⟩ := readMapping_eq_ok_iff.1 read'
    refine readMapping_eq_ok_iff.2 ⟨entries ++ entries', by simp [nonempty], ?_,
      collected.append collected'⟩
    rw [writtenItems_append]
    exact List.rel_append said said'

/-- A name that comes again keeps its place. -/
example : readMapping " a = x ,, b=y,a=z\t".toList
    = .ok [("a".toList, "z".toList), ("b".toList, "y".toList)] := by
  rfl

end TicketMigration
