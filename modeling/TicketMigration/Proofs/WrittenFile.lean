import TicketMigration.Proofs.FileLayout

/-!
# Reading back a written settings file

A settings file that is written section by section, with one line for each option, says what was
written.  The value of an option may have any characters but line ends, also those that a file
otherwise gives a meaning to: since the line begins with the name of the option and the first
delimiter ends that name, no bracket, comment character or delimiter in a value counts.  Only the
blanks at the ends of a value would be lost.

## Main definitions

* `TrimmedLine` — a text is one line without blanks at its ends.
* `IsSectionName`, `IsOptionName` — a text can stand in a header, or before a delimiter.
* `Writable` — sections can be written.
* `SettingsFile.saying` — the file that says what the sections do.

## Main statements

* `Reading.steps_fileLines` — reading the lines of sections adds the sections.
* `SettingsFile.parse_writeSections` — **a written file is read back.**
* `SettingsFile.get?_saying` — an option is found in it, or its default.
-/

namespace TicketMigration

open Text

/-! ### Blanks -/

namespace Text

theorem dropEndWhile_concat (test : Char → Bool) (s : List Char) (c : Char) :
    dropEndWhile test (s ++ [c]) = if test c then dropEndWhile test s else s ++ [c] := by
  rw [dropEndWhile, List.reverse_concat, List.dropWhile_cons]
  cases test c with
  | true => rfl
  | false => simp

/-- A text whose last character fails the test is kept. -/
theorem dropEndWhile_eq_self {test : Char → Bool} {s : List Char}
    (last : s.getLast?.any test = false) : dropEndWhile test s = s := by
  rcases List.eq_nil_or_concat s with rfl | ⟨front, c, rfl⟩
  · rfl
  · rw [List.concat_eq_append, List.getLast?_concat] at last
    have fails : test c = false := last
    rw [List.concat_eq_append, dropEndWhile_concat, fails]
    rfl

theorem dropWhile_eq_self {test : Char → Bool} {s : List Char}
    (first : s.head?.any test = false) : s.dropWhile test = s := by
  cases s with
  | nil => rfl
  | cons c s =>
    have fails : test c = false := first
    rw [List.dropWhile_cons_of_neg (by rw [fails]; decide)]

end Text

/-- A text is one line and has no blanks at its ends. -/
structure TrimmedLine (s : List Char) : Prop where
  /-- It has a character. -/
  nonempty : s ≠ []
  /-- It is one line. -/
  line : '\n' ∉ s ∧ '\r' ∉ s
  /-- The first character is no blank. -/
  first : s.head?.any isBlank = false
  /-- The last character is no blank. -/
  last : s.getLast?.any isBlank = false

instance (s : List Char) : Decidable (TrimmedLine s) :=
  decidable_of_iff
    (s ≠ [] ∧ ('\n' ∉ s ∧ '\r' ∉ s) ∧ s.head?.any isBlank = false ∧
      s.getLast?.any isBlank = false)
    ⟨fun ⟨nonempty, line, first, last⟩ => ⟨nonempty, line, first, last⟩,
      fun h => ⟨h.nonempty, h.line, h.first, h.last⟩⟩

namespace TrimmedLine

variable {s : List Char}

theorem trimStart_eq (h : TrimmedLine s) : trimStart s = s :=
  dropWhile_eq_self h.first

theorem trimEnd_eq (h : TrimmedLine s) : trimEnd s = s :=
  dropEndWhile_eq_self h.last

end TrimmedLine

/-- A text can stand in the header of a section of its own. -/
def IsSectionName (name : List Char) : Prop :=
  name ≠ [] ∧ name ≠ defaultsName ∧ '\n' ∉ name ∧ '\r' ∉ name

instance (name : List Char) : Decidable (IsSectionName name) := inferInstanceAs (Decidable (_ ∧ _))

/-- A text can stand before a delimiter as the name of an option. -/
def IsOptionName (key : List Char) : Prop :=
  key ≠ [] ∧ lower key = key ∧
    ∀ c ∈ key, isBlank c = false ∧ isDelimiter c = false ∧ c ∉ ['[', '#', ';']

/-- The letters of most names. -/
def nameLetters : List Char :=
  "abcdefghijklmnopqrstuvwxyz_".toList

/-- A name of small letters can stand before a delimiter. -/
theorem isOptionName_of_nameLetters {key : List Char} (nonempty : key ≠ [])
    (letters : ∀ c ∈ key, c ∈ nameLetters) : IsOptionName key := by
  have all : nameLetters.all (fun c => decide ((c ≠ 'İ' ∧ c ≠ 'Σ' ∧ lowerChar c = c) ∧
      isBlank c = false ∧ isDelimiter c = false ∧ c ∉ ['[', '#', ';'])) = true := by decide +kernel
  have each (c : Char) (hc : c ∈ nameLetters) := of_decide_eq_true (List.all_eq_true.1 all c hc)
  have small (before : List Char) : lowerFrom before key = key := by
    clear nonempty
    induction key generalizing before with
    | nil => rfl
    | cons c key ih =>
      obtain ⟨first, others⟩ := List.forall_mem_cons.1 letters
      obtain ⟨⟨noDot, noSigma, same⟩, -⟩ := each c first
      have noFinal : (c = 'Σ' && meetsCased before && !meetsCased key) = false := by
        simp [noSigma]
      rw [lowerFrom, if_neg noDot, noFinal, if_neg (by decide), same, ih others]
  exact ⟨nonempty, small [], fun c hc => (each c (letters c hc)).2⟩

/-! ### Lines -/

/-- The header of a section. -/
def headerLine (name : List Char) : List Char :=
  '[' :: name ++ [']']

/-- The line of an option. -/
def optionLine (option : List Char × List Char) : List Char :=
  option.1 ++ [' ', '=', ' '] ++ option.2

/-- A section as it is written: its name and its options. -/
abbrev SectionText := List Char × List (List Char × List Char)

/-- The lines of a section. -/
def sectionLines (part : SectionText) : List (List Char) :=
  headerLine part.1 :: part.2.map optionLine

theorem writeSections_eq_flatMap (sections : List SectionText) :
    writeSections sections = (sections.flatMap sectionLines).flatMap (· ++ ['\n']) := by
  induction sections with
  | nil => rfl
  | cons part rest ih =>
    have written : writeSection part.1 part.2 = (sectionLines part).flatMap (· ++ ['\n']) := by
      rw [writeSection, sectionLines, List.flatMap_cons, List.flatMap_map]
      simp [headerLine, optionLine]
    rw [writeSections, List.flatMap_cons, ← writeSections, ih, written, List.flatMap_cons,
      List.flatMap_append]

theorem unifyLineEnds_eq_self {s : List Char} (h : '\r' ∉ s) : unifyLineEnds s = s := by
  induction s with
  | nil => rfl
  | cons c s ih =>
    rw [List.mem_cons, not_or] at h
    rw [unifyLineEnds, if_neg (Ne.symm h.1), ih h.2]
    intro rest hc
    exact absurd hc.symm h.1

/-- The lines of a text in which every line is ended. -/
theorem keptLines_flatMap {ls : List (List Char)} (h : ∀ l ∈ ls, '\n' ∉ l) :
    keptLines (ls.flatMap (· ++ ['\n'])) = ls.map (· ++ ['\n']) := by
  have cut : lines (ls.flatMap (· ++ ['\n'])) = ls ++ [[]] := by
    induction ls with
    | nil => rfl
    | cons l ls ih =>
      obtain ⟨first, others⟩ := List.forall_mem_cons.1 h
      rw [List.flatMap_cons, List.append_assoc, List.singleton_append, lines_append_cons first,
        ih others, List.cons_append]
  rw [keptLines, endedLines, cut, List.dropLast_concat, List.getLast?_concat]
  simp

/-- What a line says that begins with a word and is no comment. -/
theorem FileLine.of_ended {line : List Char} (plain : TrimmedLine line)
    (word : ∀ c ∈ line.head?, c ∉ ['#', ';']) :
    FileLine.of (line ++ ['\n']) = .words 0 line := by
  obtain ⟨c, rest, rfl⟩ := List.exists_cons_of_ne_nil plain.nonempty
  have first : isBlank c = false := plain.first
  have noComment : (c = '#' || c = ';') = false := by simpa using word c rfl
  have start : trimStart (c :: rest ++ ['\n']) = c :: rest ++ ['\n'] :=
    dropWhile_eq_self first
  -- the newline is the only blank at an end
  have newline : isBlank '\n' = true := by decide
  have trimmed : trim (c :: rest ++ ['\n']) = c :: rest := by
    rw [trim, start, trimEnd, dropEndWhile_concat, if_pos newline]
    exact plain.trimEnd_eq
  have indent : (c :: rest ++ ['\n']).takeWhile isBlank = [] := by
    rw [List.cons_append, List.takeWhile_cons_of_neg (by rw [first]; decide)]
  rw [FileLine.of, trimmed, indent]
  simp only [noComment, Bool.false_eq_true, if_false]
  rfl

theorem header?_headerLine {name : List Char} (h : name ≠ []) :
    header? (headerLine name) = some name := by
  have kept : dropEndWhile (· != ']') (name ++ [']']) = name ++ [']'] := by
    rw [dropEndWhile_concat]
    rfl
  rw [headerLine, List.cons_append, header?, kept, List.dropLast_concat]
  cases name with
  | nil => exact absurd rfl h
  | cons c name => rfl

theorem trimmedLine_headerLine {name : List Char} (line : '\n' ∉ name ∧ '\r' ∉ name) :
    TrimmedLine (headerLine name) where
  nonempty := by simp [headerLine]
  line := by simpa [headerLine] using line
  first := by
    have bracket : isBlank '[' = false := by decide
    exact bracket
  last := by
    have bracket : isBlank ']' = false := by decide
    rw [headerLine, List.getLast?_concat]
    exact bracket

namespace IsOptionName

variable {key value : List Char}

/-- An option begins with a character of its name. -/
theorem exists_optionLine_eq_cons (name : IsOptionName key) :
    ∃ c rest, optionLine (key, value) = c :: rest ∧ isBlank c = false ∧ c ∉ ['[', '#', ';'] := by
  obtain ⟨nonempty, -, letters⟩ := name
  obtain ⟨c, more, rfl⟩ := List.exists_cons_of_ne_nil nonempty
  obtain ⟨blank, -, mark⟩ := letters c List.mem_cons_self
  exact ⟨c, _, rfl, blank, mark⟩

theorem not_mem_of_isBlank (name : IsOptionName key) {c : Char} (h : isBlank c = true) :
    c ∉ key := by
  intro mem
  rw [(name.2.2 c mem).1] at h
  cases h

theorem trimmedLine_optionLine (name : IsOptionName key) (plain : TrimmedLine value) :
    TrimmedLine (optionLine (key, value)) where
  nonempty := by simp [optionLine]
  line := by
    have newline := name.not_mem_of_isBlank (c := '\n') (by decide)
    have carriage := name.not_mem_of_isBlank (c := '\r') (by decide)
    simp [optionLine, newline, carriage, plain.line]
  first := by
    obtain ⟨c, rest, same, blank, -⟩ := name.exists_optionLine_eq_cons
    rw [same]
    exact blank
  last := by
    have ends := List.getLast?_eq_some_getLast plain.nonempty
    rw [optionLine, List.getLast?_append, ends, Option.some_or, ← ends]
    exact plain.last

theorem header?_optionLine (name : IsOptionName key) :
    header? (optionLine (key, value)) = none := by
  obtain ⟨c, rest, same, -, mark⟩ := name.exists_optionLine_eq_cons
  rw [same, header?]
  intro more hc
  simp [(List.cons.inj hc).1] at mark

/-- **An option is read back**: the first delimiter ends its name, and the blanks around it do not
count. -/
theorem option?_optionLine (name : IsOptionName key) (plain : TrimmedLine value) :
    option? (optionLine (key, value)) = some (key, value) := by
  obtain ⟨nonempty, small, letters⟩ := name
  -- the first delimiter is the one behind the name, whatever the value holds
  have before : ∀ c ∈ key ++ [' '], (!isDelimiter c) = true := by
    refine List.forall_mem_append.2 ⟨fun c hc => ?_, List.forall_mem_singleton.2 (by decide)⟩
    rw [(letters c hc).2.1]
    rfl
  have layout : optionLine (key, value) = (key ++ [' ']) ++ '=' :: ' ' :: value := by
    simp [optionLine]
  have delimiter : isDelimiter '=' = true := by decide
  have behind : (optionLine (key, value)).dropWhile (!isDelimiter ·) = '=' :: ' ' :: value := by
    rw [layout, List.dropWhile_append_of_pos before,
      List.dropWhile_cons_of_neg (by simp [delimiter])]
  have front : (optionLine (key, value)).takeWhile (!isDelimiter ·) = key ++ [' '] := by
    rw [layout, List.takeWhile_append_of_pos before,
      List.takeWhile_cons_of_neg (by simp [delimiter]), List.append_nil]
  have blank : isBlank ' ' = true := by decide
  have bare : trimEnd (key ++ [' ']) = key := by
    rw [trimEnd, dropEndWhile_concat, if_pos blank]
    refine dropEndWhile_eq_self ?_
    cases ends : key.getLast? with
    | none => rfl
    | some c => exact (letters c (List.mem_of_getLast? ends)).1
  have content : trim (' ' :: value) = value := by
    have start : trimStart (' ' :: value) = trimStart value := List.dropWhile_cons_of_pos blank
    rw [trim, start, plain.trimStart_eq, plain.trimEnd_eq]
  rw [option?, behind, front, bare, small]
  simp only [content]

end IsOptionName

/-! ### Sections -/

/-- Sections can be written: no section and no option of a section is there twice, and all names and
values keep to their lines. -/
structure Writable (sections : List SectionText) : Prop where
  /-- No section is there twice. -/
  distinct : (sections.map Prod.fst).Nodup
  /-- Every section has a name of its own. -/
  names : ∀ part ∈ sections, IsSectionName part.1
  /-- No option of a section is there twice. -/
  keys : ∀ part ∈ sections, (part.2.map Prod.fst).Nodup
  /-- Options have a name and a value. -/
  options : ∀ part ∈ sections, ∀ option ∈ part.2, IsOptionName option.1 ∧ TrimmedLine option.2

/-- The entry of an option in a section. -/
def entryOf (name : List Char) (option : List Char × List Char) : FileEntry :=
  ⟨name, option.1, [option.2]⟩

/-- The entries of the options of sections, in their order. -/
def entriesOf (sections : List SectionText) : List FileEntry :=
  sections.flatMap fun part => part.2.map (entryOf part.1)

/-- The file that says what sections do. -/
def SettingsFile.saying (sections : List SectionText) : SettingsFile where
  sections := (sections.map Prod.fst).reverse
  entries := (entriesOf sections).reverse

namespace Reading

/-- The reader of a file behind a line that is not indented, when no line was stray. -/
def behind (file : SettingsFile) (current : Option (List Char)) (continues : Bool) : Reading :=
  { file, current, continues }

variable {file : SettingsFile} {name : List Char} {current : Option (List Char)} {continues : Bool}

/-- A line that is not indented continues nothing. -/
theorem step_ended {line : List Char} (plain : TrimmedLine line)
    (word : ∀ c ∈ line.head?, c ∉ ['#', ';']) (number : Nat) :
    (behind file current continues).step number (line ++ ['\n'])
      = (behind file current continues).beginLine number (line ++ ['\n']) line := by
  have still : (behind file current continues).indent = 0 := rfl
  rw [step, FileLine.of_ended plain word]
  simp only [still, Nat.lt_irrefl, decide_false, Bool.and_false, Bool.false_eq_true, if_false]
  rfl

/-- **A header begins a section** that is new. -/
theorem step_headerLine (named : IsSectionName name) (new : name ∉ file.sections) (number : Nat) :
    (behind file current continues).step number (headerLine name ++ ['\n'])
      = .ok (behind { file with sections := name :: file.sections } (some name) false) := by
  obtain ⟨nonempty, proper, line⟩ := named
  have absent : (behind file current continues).file.sections.contains name = false := by
    rw [List.contains_eq_mem, decide_eq_false_iff_not]
    exact new
  rw [step_ended (trimmedLine_headerLine line) (by simp [headerLine]), beginLine,
    header?_headerLine nonempty]
  simp only [beginSection, if_neg proper, absent, Bool.false_eq_true, if_false]
  rfl

/-- **An option is added to the section** if the section does not have it yet. -/
theorem step_optionLine {option : List Char × List Char} (isName : IsOptionName option.1)
    (plain : TrimmedLine option.2) (new : file.entry? name option.1 = none) (number : Nat) :
    (behind file (some name) continues).step number (optionLine option ++ ['\n'])
      = .ok (behind { file with entries := entryOf name option :: file.entries } (some name)
          true) := by
  obtain ⟨key, value⟩ := option
  obtain ⟨c, rest, same, -, mark⟩ := @IsOptionName.exists_optionLine_eq_cons key value isName
  have word : ∀ c ∈ (optionLine (key, value)).head?, c ∉ ['#', ';'] := by
    intro d hd comment
    rw [same] at hd
    cases hd
    exact mark (List.mem_cons_of_mem _ comment)
  have nonempty : key.isEmpty = false := by simpa using isName.1
  rw [step_ended (isName.trimmedLine_optionLine plain) word, beginLine, isName.header?_optionLine,
    isName.option?_optionLine plain]
  have missing :
      SettingsFile.entry? (behind file (some name) continues).file name key = none := new
  simp only [behind, addOption] at missing ⊢
  simp only [missing, nonempty, Option.isSome_none, Bool.false_eq_true, if_false, Bool.not_false]
  rfl

end Reading

/-! ### Entries -/

namespace SettingsFile

variable {file : SettingsFile} {name key : List Char}

/-- An entry at another place is looked past. -/
theorem entry?_cons_of_ne {entry : FileEntry}
    (other : ¬(entry.sectionName = name ∧ entry.name = key)) :
    SettingsFile.entry? { file with entries := entry :: file.entries } name key
      = file.entry? name key := by
  have fails : (entry.sectionName == name && entry.name == key) = false := by
    simpa using other
  rw [SettingsFile.entry?, SettingsFile.entry?, List.find?_cons_of_neg (by rw [fails]; decide)]

/-- The only entry at a place is found there. -/
theorem entry?_eq_some {entry : FileEntry} (mem : entry ∈ file.entries)
    (unique : ∀ other ∈ file.entries,
      other.sectionName = entry.sectionName → other.name = entry.name → other = entry) :
    file.entry? entry.sectionName entry.name = some entry := by
  have found : (file.entry? entry.sectionName entry.name).isSome = true :=
    List.find?_isSome.2 ⟨entry, mem, by simp⟩
  obtain ⟨other, h⟩ := Option.isSome_iff_exists.1 found
  have place := List.find?_some h
  rw [Bool.and_eq_true, beq_iff_eq, beq_iff_eq] at place
  rw [h, unique other (List.mem_of_find?_eq_some h) place.1 place.2]

/-- Nothing is found where there is no entry. -/
theorem entry?_eq_none
    (h : ∀ entry ∈ file.entries, ¬(entry.sectionName = name ∧ entry.name = key)) :
    file.entry? name key = none := by
  refine List.find?_eq_none.2 fun entry mem => ?_
  simpa using h entry mem

end SettingsFile

namespace Reading

/-- **The lines of options add the options**, in their order. -/
theorem steps_options {options : List (List Char × List Char)}
    (proper : ∀ option ∈ options, IsOptionName option.1 ∧ TrimmedLine option.2)
    (distinct : (options.map Prod.fst).Nodup) {file : SettingsFile} {name : List Char}
    (new : ∀ option ∈ options, file.entry? name option.1 = none) (continues : Bool) (number : Nat)
    (rest : List (List Char)) :
    ∃ continues', (behind file (some name) continues).steps number
        (options.map (optionLine · ++ ['\n']) ++ rest)
      = (behind { file with entries := (options.map (entryOf name)).reverse ++ file.entries }
          (some name) continues').steps (number + options.length) rest := by
  induction options generalizing file continues number with
  | nil => exact ⟨continues, rfl⟩
  | cons option options ih =>
    obtain ⟨⟨isName, plain⟩, others⟩ := List.forall_mem_cons.1 proper
    obtain ⟨newHere, newOthers⟩ := List.forall_mem_cons.1 new
    rw [List.map_cons, List.nodup_cons] at distinct
    -- the option that has been read does not stand at the place of a later one
    have stillNew : ∀ later ∈ options,
        SettingsFile.entry? { file with entries := entryOf name option :: file.entries } name
          later.1 = none := by
      intro later mem
      rw [SettingsFile.entry?_cons_of_ne, newOthers later mem]
      rintro ⟨-, same⟩
      have same : option.1 = later.1 := same
      exact distinct.1 (List.mem_map.2 ⟨later, mem, same.symm⟩)
    obtain ⟨continues', behindOthers⟩ := ih others distinct.2 stillNew true (number + 1)
    refine ⟨continues', ?_⟩
    rw [List.map_cons, List.cons_append, steps, step_optionLine isName plain newHere]
    simp only [behindOthers, List.map_cons, List.reverse_cons, List.append_assoc,
      List.singleton_append, List.length_cons]
    rw [Nat.add_assoc, Nat.add_comm 1]

/-- **The lines of sections add the sections**, in their order. -/
theorem steps_fileLines {sections : List SectionText} (h : Writable sections) {file : SettingsFile}
    (newNames : ∀ part ∈ sections, part.1 ∉ file.sections)
    (newPlaces : ∀ part ∈ sections, ∀ entry ∈ file.entries, entry.sectionName ≠ part.1)
    (current : Option (List Char)) (continues : Bool) (number : Nat) :
    ∃ current' continues', (behind file current continues).steps number
        ((sections.flatMap sectionLines).map (· ++ ['\n']))
      = .ok (behind
          { sections := (sections.map Prod.fst).reverse ++ file.sections
            entries := (entriesOf sections).reverse ++ file.entries } current' continues') := by
  induction sections generalizing file current continues number with
  | nil => exact ⟨current, continues, rfl⟩
  | cons part rest ih =>
    obtain ⟨name, options⟩ := part
    obtain ⟨named, othersNamed⟩ := List.forall_mem_cons.1 h.names
    obtain ⟨keys, othersKeys⟩ := List.forall_mem_cons.1 h.keys
    obtain ⟨proper, othersProper⟩ := List.forall_mem_cons.1 h.options
    obtain ⟨newName, newOthers⟩ := List.forall_mem_cons.1 newNames
    obtain ⟨newPlace, newOtherPlaces⟩ := List.forall_mem_cons.1 newPlaces
    have distinct := h.distinct
    rw [List.map_cons, List.nodup_cons] at distinct
    have others : Writable rest := ⟨distinct.2, othersNamed, othersKeys, othersProper⟩
    have noOption : ∀ option ∈ options,
        SettingsFile.entry? { file with sections := name :: file.sections } name option.1 = none :=
      fun option _ => SettingsFile.entry?_eq_none fun entry mem place =>
        newPlace entry mem place.1
    obtain ⟨goesOn, afterOptions⟩ := steps_options proper keys noOption false (number + 1)
      ((rest.flatMap sectionLines).map (· ++ ['\n']))
    -- the sections that follow have other names than this one
    have stillNew : ∀ part ∈ rest, part.1 ∉ name :: file.sections := by
      intro part mem
      rw [List.mem_cons, not_or]
      exact ⟨fun same => distinct.1 (List.mem_map.2 ⟨part, mem, same⟩), newOthers part mem⟩
    have stillNewPlaces : ∀ part ∈ rest,
        ∀ entry ∈ (options.map (entryOf name)).reverse ++ file.entries,
          entry.sectionName ≠ part.1 := by
      intro part mem
      refine List.forall_mem_append.2 ⟨fun entry he => ?_, newOtherPlaces part mem⟩
      obtain ⟨option, -, rfl⟩ := List.mem_map.1 (List.mem_reverse.1 he)
      exact fun same => (stillNew part mem) (same ▸ List.mem_cons_self)
    obtain ⟨current', continues', afterOthers⟩ := @ih others
      ⟨name :: file.sections, (options.map (entryOf name)).reverse ++ file.entries⟩
      stillNew stillNewPlaces (some name) goesOn (number + 1 + options.length)
    refine ⟨current', continues', ?_⟩
    have layout : (((name, options) :: rest).flatMap sectionLines).map (· ++ ['\n'])
        = (headerLine name ++ ['\n']) :: (options.map (optionLine · ++ ['\n']) ++
            (rest.flatMap sectionLines).map (· ++ ['\n'])) := by
      simp [sectionLines]
    have names : (((name, options) :: rest).map Prod.fst).reverse ++ file.sections
        = (rest.map Prod.fst).reverse ++ name :: file.sections := by simp
    have entries : (entriesOf ((name, options) :: rest)).reverse ++ file.entries
        = (entriesOf rest).reverse ++ ((options.map (entryOf name)).reverse ++ file.entries) := by
      simp [entriesOf]
    rw [layout, names, entries, steps, step_headerLine named newName]
    simp only
    rw [afterOptions, afterOthers]

end Reading

/-! ### Files -/

/-- A written file has no carriage return, and its lines are those of its sections. -/
theorem not_mem_sectionLines {sections : List SectionText} (h : Writable sections) :
    ∀ line ∈ sections.flatMap sectionLines, '\n' ∉ line ∧ '\r' ∉ line := by
  intro line mem
  obtain ⟨part, hpart, mem⟩ := List.mem_flatMap.1 mem
  rcases List.mem_cons.1 mem with rfl | mem
  · exact (trimmedLine_headerLine (h.names part hpart).2.2).line
  · obtain ⟨option, hoption, rfl⟩ := List.mem_map.1 mem
    obtain ⟨isName, plain⟩ := h.options part hpart option hoption
    exact (isName.trimmedLine_optionLine plain).line

namespace SettingsFile

variable {sections : List SectionText} (h : Writable sections)

include h

/-- **A written file is read back.** -/
theorem parse_writeSections : parse (writeSections sections) = .ok (.saying sections) := by
  have inLines := not_mem_sectionLines h
  have noReturn : '\r' ∉ writeSections sections := by
    rw [writeSections_eq_flatMap]
    intro mem
    obtain ⟨line, hline, mem⟩ := List.mem_flatMap.1 mem
    rcases List.mem_append.1 mem with mem | mem
    · exact (inLines line hline).2 mem
    · exact absurd mem (by decide)
  have kept : keptLines (unifyLineEnds (writeSections sections))
      = (sections.flatMap sectionLines).map (· ++ ['\n']) := by
    rw [unifyLineEnds_eq_self noReturn, writeSections_eq_flatMap,
      keptLines_flatMap fun line hline => (inLines line hline).1]
  obtain ⟨current, continues, read⟩ := @Reading.steps_fileLines sections h {}
    (fun _ _ mem => by cases mem) (fun _ _ _ mem => by cases mem) none false 1
  have start : ({} : Reading) = .behind {} none false := rfl
  rw [parse, kept, start, read]
  simp [Reading.behind, saying]

theorem ofBytes_encode_writeSections :
    ofBytes (encode (writeSections sections)) = .ok (.saying sections) := by
  rw [ofBytes, (decode_eq_text_iff _ _).2 rfl]
  exact parse_writeSections h

end SettingsFile

/-! ### Options -/

/-- In a list in which no key is there twice, a key has the value that it stands with. -/
theorem lookup_eq_some_iff_mem {α β : Type} [BEq α] [LawfulBEq α] {entries : List (α × β)}
    (distinct : (entries.map Prod.fst).Nodup) (key : α) (value : β) :
    entries.lookup key = some value ↔ (key, value) ∈ entries := by
  rw [List.lookup_eq_some_iff]
  constructor
  · rintro ⟨before, after, rfl, -⟩
    simp
  · intro mem
    obtain ⟨before, after, rfl⟩ := List.append_of_mem mem
    refine ⟨before, after, rfl, fun entry he => ?_⟩
    rw [List.map_append, List.map_cons, List.nodup_append] at distinct
    have differs := distinct.2.2 _ (List.mem_map_of_mem he) _ List.mem_cons_self
    exact bne_iff_ne.2 (Ne.symm differs)

/-- The order of the entries does not matter then. -/
theorem lookup_eq_of_perm {α β : Type} [BEq α] [LawfulBEq α] {entries others : List (α × β)}
    (same : entries.Perm others) (distinct : (entries.map Prod.fst).Nodup) (key : α) :
    entries.lookup key = others.lookup key := by
  have distinct' : (others.map Prod.fst).Nodup := (same.map Prod.fst).nodup_iff.1 distinct
  ext value
  rw [lookup_eq_some_iff_mem distinct, lookup_eq_some_iff_mem distinct', same.mem_iff]

namespace SettingsFile

variable {sections : List SectionText} (h : Writable sections) {part : SectionText}
  (mem : part ∈ sections)

include h mem

/-- The entries of a section are the options that were written for it. -/
theorem exists_option_of_mem_entries {entry : FileEntry} (he : entry ∈ (saying sections).entries)
    (place : entry.sectionName = part.1) : ∃ option ∈ part.2, entry = entryOf part.1 option := by
  obtain ⟨⟨name, options⟩, hother, he⟩ := List.mem_flatMap.1 (List.mem_reverse.1 he)
  obtain ⟨option, hoption, rfl⟩ := List.mem_map.1 he
  have same : name = part.1 := place
  subst same
  -- the sections have distinct names, so this one is meant
  have read := (lookup_eq_some_iff_mem h.distinct part.1 options).2 hother
  rw [(lookup_eq_some_iff_mem h.distinct part.1 part.2).2 mem] at read
  exact ⟨option, Option.some.inj read ▸ hoption, rfl⟩

/-- **A section has the options that were written for it, and no others.** -/
theorem own?_saying (key : List Char) : (saying sections).own? part.1 key = part.2.lookup key := by
  have distinct := h.keys part mem
  cases found : part.2.lookup key with
  | some value =>
    have option := (lookup_eq_some_iff_mem distinct key value).1 found
    have plain := (h.options part mem _ option).2
    have written : entryOf part.1 (key, value) ∈ (saying sections).entries :=
      List.mem_reverse.2 (List.mem_flatMap.2 ⟨part, mem, List.mem_map_of_mem option⟩)
    have place : SettingsFile.entry? (saying sections) part.1 key
        = some (entryOf part.1 (key, value)) := by
      refine entry?_eq_some written fun other hother inSection named => ?_
      obtain ⟨⟨key', value'⟩, option', rfl⟩ :=
        exists_option_of_mem_entries h mem hother inSection
      have same : key' = key := named
      subst same
      have again := (lookup_eq_some_iff_mem distinct key' value').2 option'
      rw [found] at again
      rw [Option.some.inj again]
    rw [own?, place]
    exact congrArg some plain.trimEnd_eq
  | none =>
    have place : SettingsFile.entry? (saying sections) part.1 key = none := by
      refine entry?_eq_none fun entry he isPlace => ?_
      obtain ⟨⟨key', value⟩, option, rfl⟩ := exists_option_of_mem_entries h mem he isPlace.1
      have same : key' = key := isPlace.2
      subst same
      rw [(lookup_eq_some_iff_mem distinct key' value).2 option] at found
      cases found
    rw [own?, place]
    rfl

omit mem

/-- No section is that of the defaults. -/
theorem own?_defaults_saying (key : List Char) :
    (saying sections).own? defaultsName key = none := by
  have place : SettingsFile.entry? (saying sections) defaultsName key = none := by
    refine entry?_eq_none fun entry he isPlace => ?_
    obtain ⟨part, mem, he⟩ := List.mem_flatMap.1 (List.mem_reverse.1 he)
    obtain ⟨option, -, rfl⟩ := List.mem_map.1 he
    exact (h.names part mem).2.1 isPlace.1
  rw [own?, place]
  rfl

/-- **An option of a section has the value that was written, or else its default.** -/
theorem get?_saying {sectionName : String} {options : List (List Char × List Char)}
    (mem : (sectionName.toList, options) ∈ sections) (name : String) :
    (saying sections).get? sectionName name
      = (options.lookup name.toList <|> builtinDefaults.lookup name.toList) := by
  have present : (saying sections).has sectionName = true := by
    refine List.contains_iff_mem.2 (List.mem_reverse.2 ?_)
    exact List.mem_map.2 ⟨_, mem, rfl⟩
  rw [get?, if_pos present, own?_defaults_saying h]
  have own := own?_saying h mem name.toList
  simp only at own
  rw [own]
  cases options.lookup name.toList <;> rfl

end SettingsFile

end TicketMigration
