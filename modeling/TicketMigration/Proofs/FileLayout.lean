import TicketMigration.Settings.File

/-!
# The layout of a settings file

Whether a settings file can be read depends on its layout alone: on which lines are headers and
which are options, and not on what the options say.  A line that is blank, a comment or the
continuation of a value begins nothing.  Of the others, the first one is a header, every option has
a name, no section but the defaults is begun twice, and no option stands twice in one section.

## Main definitions

* `encode` — the bytes of a text.
* `Mark` — what a line begins; `marks` — what the lines of a file begin.
* `sectionsOf`, `optionsOf` — the sections and the options among them.
* `Laid` — what lines begin can follow what has been read.
* `Legible` — bytes are those of a text with a proper layout.

## Main statements

* `decode_eq_text_iff` — bytes stand for a text exactly if they are its bytes.
* `Reading.takes_iff_fits` — lines can be read exactly if they are laid out properly.
* `SettingsFile.exists_ofBytes_eq_ok_iff` — **a file can be read exactly if it is legible.**
-/

namespace TicketMigration

open Text

/-! ### Bytes -/

/-- The bytes of a text. -/
def encode (s : List Char) : List UInt8 :=
  s.flatMap String.utf8EncodeChar

theorem decode?_encode (s : List Char) : decode? (encode s) = some s := by
  have bytes : (encode s).toByteArray = s.utf8Encode := rfl
  have valid : s.utf8Encode.IsValidUTF8 := ⟨s, rfl⟩
  rw [decode?, bytes, String.fromUTF8?, dif_pos valid]
  have same : String.fromUTF8 s.utf8Encode valid = String.ofList s := rfl
  rw [same, Option.map_some, String.toList_ofList]

/-- **Bytes stand for a text exactly if they are its bytes.** -/
theorem decode_eq_text_iff (bytes : List UInt8) (s : List Char) :
    decode bytes = .text s ↔ bytes = encode s := by
  constructor
  · intro h
    have read : decode? bytes = some s := by
      unfold decode at h
      split at h
      · cases h
        assumption
      · split at h <;> cases h
    unfold decode? String.fromUTF8? at read
    split at read
    · next valid =>
      -- what is valid is the encoded form of some text, and this is the one
      obtain ⟨t, encoded⟩ := valid
      have same : bytes = encode t := List.toByteArray_inj.1 encoded
      have reread := decode?_encode t
      rw [← same] at reread
      unfold decode? String.fromUTF8? at reread
      rw [dif_pos ⟨t, encoded⟩] at reread
      rw [same, ← Option.some.inj (read.symm.trans reread)]
    · cases read
  · rintro rfl
    rw [decode, decode?_encode]

/-! ### What lines begin -/

/-- What a line of a settings file begins. -/
inductive Mark
  /-- A section. -/
  | header (name : List Char)
  /-- An option. -/
  | option (name : List Char)
  /-- Neither of them. -/
  | stray
  deriving DecidableEq, Repr

namespace Mark

/-- What a line that does not continue a value begins. -/
def of (s : List Char) : Mark :=
  match header? s with
  | some name => header name
  | none =>
    match option? s with
    | some (name, _) => option name
    | none => stray

/-- Whether a value may go on behind the line.  A stray line does not change that. -/
def goesOn (before : Bool) : Mark → Bool
  | header _ => false
  | option name => !name.isEmpty
  | stray => before

/-- The line is a header, or an option that has a name. -/
def Named (mark : Mark) : Prop :=
  mark ≠ stray ∧ mark ≠ option []

instance (mark : Mark) : Decidable mark.Named := inferInstanceAs (Decidable (_ ∧ _))

end Mark

/-- What the lines of a file begin.  `goesOn` says whether a value may go on before them, and
`indent` how much a line must exceed to continue it. -/
def marks (goesOn : Bool) (indent : Nat) : List (List Char) → List Mark
  | [] => []
  | line :: rest =>
    match FileLine.of line with
    | .blank | .comment => marks goesOn indent rest
    | .words here s =>
      if goesOn && indent < here then marks goesOn indent rest
      else Mark.of s :: marks ((Mark.of s).goesOn goesOn) here rest

/-- The sections that are begun, without the defaults. -/
def sectionsOf : List Mark → List (List Char)
  | [] => []
  | .header name :: rest => if name = defaultsName then sectionsOf rest else name :: sectionsOf rest
  | .option _ :: rest | .stray :: rest => sectionsOf rest

/-- The options that are begun, each with its section, where the first ones stand in a section that
has been begun before. -/
def optionsOf : Option (List Char) → List Mark → List (List Char × List Char)
  | _, [] => []
  | _, .header name :: rest => optionsOf (some name) rest
  | current, .option name :: rest => current.toList.map (·, name) ++ optionsOf current rest
  | current, .stray :: rest => optionsOf current rest

/-- What the next lines begin can follow what has been read: the section that was begun last, all
sections, and all options with their sections. -/
structure Laid (current : Option (List Char)) (sections : List (List Char))
    (keys : List (List Char × List Char)) (marks : List Mark) : Prop where
  /-- Only a header can be the first line of all. -/
  begins : current = none → ∀ mark ∈ marks.head?, ∃ name, mark = .header name
  /-- Every option has a name. -/
  named : ∀ mark ∈ marks, mark.Named
  /-- No section is begun twice. -/
  sections : (sectionsOf marks).Nodup ∧ ∀ name ∈ sectionsOf marks, name ∉ sections
  /-- No section has an option twice. -/
  options : (optionsOf current marks).Nodup ∧ ∀ key ∈ optionsOf current marks, key ∉ keys

namespace Laid

variable {current : Option (List Char)} {sections : List (List Char)}
  {keys : List (List Char × List Char)} {rest : List Mark}

theorem nil : Laid current sections keys [] where
  begins _ mark hm := by cases hm
  named mark hm := by cases hm
  sections := ⟨List.nodup_nil, fun _ h => by cases h⟩
  options := ⟨List.nodup_nil, fun _ h => by cases h⟩

/-- A section can be begun if it has not been begun before. -/
theorem header_iff (name : List Char) :
    Laid current sections keys (.header name :: rest) ↔
      (name ≠ defaultsName → name ∉ sections) ∧
        Laid (some name) (if name = defaultsName then sections else name :: sections) keys rest := by
  by_cases default : name = defaultsName
  · have same : sectionsOf (.header name :: rest) = sectionsOf rest := if_pos default
    simp only [default, ne_eq, not_true_eq_false, false_implies, true_and, if_true]
    constructor
    · intro h
      exact ⟨by simp, fun mark hm => h.named mark (List.mem_cons_of_mem _ hm),
        by rw [← same, default]; exact h.sections, h.options⟩
    · intro h
      refine ⟨fun _ mark hm => ⟨_, (Option.some.inj hm).symm⟩, ?_, ?_, h.options⟩
      · exact List.forall_mem_cons.2 ⟨⟨by simp, by simp⟩, h.named⟩
      · rw [← default, same]
        exact h.sections
  · have more : sectionsOf (.header name :: rest) = name :: sectionsOf rest := if_neg default
    simp only [default, ne_eq, not_false_eq_true, true_implies, if_false]
    constructor
    · intro h
      obtain ⟨distinct, new⟩ := h.sections
      rw [more, List.nodup_cons] at distinct
      rw [more] at new
      refine ⟨new name List.mem_cons_self, by simp,
        fun mark hm => h.named mark (List.mem_cons_of_mem _ hm), ⟨distinct.2, ?_⟩, h.options⟩
      intro other hm
      rw [List.mem_cons, not_or]
      exact ⟨fun same => distinct.1 (same ▸ hm), new other (List.mem_cons_of_mem _ hm)⟩
    · rintro ⟨new, h⟩
      obtain ⟨distinct, others⟩ := h.sections
      refine ⟨fun _ mark hm => ⟨_, (Option.some.inj hm).symm⟩, ?_, ?_, h.options⟩
      · exact List.forall_mem_cons.2 ⟨⟨by simp, by simp⟩, h.named⟩
      · rw [more]
        refine ⟨List.nodup_cons.2 ⟨fun hm => others name hm List.mem_cons_self, distinct⟩, ?_⟩
        rintro other (_ | ⟨_, hm⟩)
        · exact new
        · exact fun known => others other hm (List.mem_cons_of_mem _ known)

/-- An option can be begun if it has a name and its section does not have it yet. -/
theorem option_iff (sectionName name : List Char) :
    Laid (some sectionName) sections keys (.option name :: rest) ↔
      name ≠ [] ∧ (sectionName, name) ∉ keys ∧
        Laid (some sectionName) sections ((sectionName, name) :: keys) rest := by
  have more : optionsOf (some sectionName) (.option name :: rest)
      = (sectionName, name) :: optionsOf (some sectionName) rest := rfl
  constructor
  · intro h
    obtain ⟨distinct, new⟩ := h.options
    rw [more, List.nodup_cons] at distinct
    rw [more] at new
    refine ⟨fun empty => (h.named _ List.mem_cons_self).2 (by rw [empty]), new _ List.mem_cons_self,
      by simp, fun mark hm => h.named mark (List.mem_cons_of_mem _ hm), h.sections, distinct.2, ?_⟩
    intro key hm
    rw [List.mem_cons, not_or]
    exact ⟨fun same => distinct.1 (same ▸ hm), new key (List.mem_cons_of_mem _ hm)⟩
  · rintro ⟨nonempty, new, h⟩
    obtain ⟨distinct, others⟩ := h.options
    refine ⟨by simp, List.forall_mem_cons.2 ⟨⟨by simp, by simpa using nonempty⟩, h.named⟩,
      h.sections, ?_⟩
    rw [more]
    refine ⟨List.nodup_cons.2 ⟨fun hm => others _ hm List.mem_cons_self, distinct⟩, ?_⟩
    rintro key (_ | ⟨_, hm⟩)
    · exact new
    · exact fun known => others key hm (List.mem_cons_of_mem _ known)

/-- Nothing can follow a stray line. -/
theorem not_stray : ¬Laid current sections keys (.stray :: rest) :=
  fun h => (h.named _ List.mem_cons_self).1 rfl

end Laid

/-! ### Reading -/

namespace Reading

/-- The options that have been read, with their sections. -/
def keys (state : Reading) : List (List Char × List Char) :=
  state.file.entries.map fun entry => (entry.sectionName, entry.name)

theorem isSome_entry?_iff (state : Reading) (sectionName name : List Char) :
    (state.file.entry? sectionName name).isSome = true ↔ (sectionName, name) ∈ state.keys := by
  rw [SettingsFile.entry?, List.find?_isSome, keys, List.mem_map]
  refine exists_congr fun entry => and_congr_right fun _ => ?_
  rw [Bool.and_eq_true, beq_iff_eq, beq_iff_eq, Prod.mk.injEq]

/-- A line that continues a value changes nothing else. -/
theorem extend_frame (state : Reading) (s : List Char) :
    (state.extend s).current = state.current ∧ (state.extend s).continues = state.continues ∧
      (state.extend s).indent = state.indent ∧ (state.extend s).stray = state.stray ∧
      (state.extend s).file.sections = state.file.sections ∧ (state.extend s).keys = state.keys := by
  unfold extend
  split
  · next entry rest _ entries =>
    refine ⟨rfl, rfl, rfl, rfl, rfl, ?_⟩
    rw [keys, keys, entries]
    rfl
  · exact ⟨rfl, rfl, rfl, rfl, rfl, rfl⟩

/-- The lines can be read, and there is no stray one. -/
def Takes (state : Reading) (number : Nat) (lines : List (List Char)) : Prop :=
  ∃ final, state.steps number lines = .ok final ∧ final.stray = []

/-- The lines can follow what has been read. -/
def Fits (state : Reading) (lines : List (List Char)) : Prop :=
  state.stray = [] ∧ Laid state.current state.file.sections state.keys
    (marks state.continues state.indent lines)

theorem takes_cons {state : Reading} {number : Nat} {line : List Char}
    {rest : List (List Char)} :
    state.Takes number (line :: rest) ↔
      ∃ next, state.step number line = .ok next ∧ next.Takes (number + 1) rest := by
  unfold Takes
  rw [steps]
  cases state.step number line with
  | ok next =>
    constructor
    · rintro ⟨final, h⟩
      exact ⟨next, rfl, final, h⟩
    · rintro ⟨_, ⟨⟩, final, h⟩
      exact ⟨final, h⟩
  | error fault =>
    constructor
    · rintro ⟨final, ⟨⟩, -⟩
    · rintro ⟨next, ⟨⟩, -⟩

theorem fits_extend {state : Reading} (s : List Char) (rest : List (List Char)) :
    (state.extend s).Fits rest ↔ state.Fits rest := by
  obtain ⟨current, continues, indent, stray, sections, keys⟩ := state.extend_frame s
  rw [Fits, Fits, current, continues, indent, stray, sections, keys]

/-- **Reading a line that begins something** goes on exactly if what it begins can follow. -/
theorem beginLine_fits {state : Reading} {number : Nat} {line s : List Char}
    {rest : List (List Char)} :
    (∃ next, state.beginLine number line s = .ok next ∧ next.Fits rest) ↔
      state.stray = [] ∧ Laid state.current state.file.sections state.keys
        (Mark.of s :: marks ((Mark.of s).goesOn state.continues) state.indent rest) := by
  unfold beginLine Mark.of
  cases hheader : header? s with
  | some name =>
    simp only [beginSection, Mark.goesOn, Laid.header_iff]
    by_cases default : name = defaultsName
    · simp only [default, if_true, Except.ok.injEq, exists_eq_left', ne_eq, not_true_eq_false,
        false_implies, true_and]
      exact Iff.rfl
    · by_cases known : state.file.sections.contains name = true
      · have mem : name ∈ state.file.sections := List.contains_iff_mem.1 known
        simp [default, mem]
      · have new : name ∉ state.file.sections := fun mem => known (List.contains_iff_mem.2 mem)
        simp only [default, known, Bool.false_eq_true, if_false, Except.ok.injEq, exists_eq_left',
          ne_eq, not_false_eq_true, true_implies, new, true_and]
        exact Iff.rfl
  | none =>
    cases hoption : option? s with
    | none =>
      simp only [Laid.not_stray, and_false, iff_false]
      rintro ⟨next, h, fits⟩
      cases hcurrent : state.current with
      | none =>
        rw [hcurrent] at h
        cases h
      | some sectionName =>
        -- a stray line is noted, and that is never undone
        rw [hcurrent] at h
        cases h
        exact List.cons_ne_nil _ _ fits.1
    | some both =>
      obtain ⟨name, value⟩ := both
      simp only
      cases hcurrent : state.current with
      | none =>
        constructor
        · rintro ⟨next, ⟨⟩, -⟩
        · rintro ⟨-, laid⟩
          obtain ⟨_, ⟨⟩⟩ := laid.begins rfl _ rfl
      | some sectionName =>
        rw [Laid.option_iff]
        simp only [addOption]
        by_cases known : (sectionName, name) ∈ state.keys
        · have found := (state.isSome_entry?_iff sectionName name).2 known
          simp [found, known]
        · have missing : ¬(state.file.entry? sectionName name).isSome = true := fun found =>
            known ((state.isSome_entry?_iff sectionName name).1 found)
          rw [if_neg missing]
          simp only [Except.ok.injEq, exists_eq_left', known, not_false_eq_true, true_and, Fits,
            Mark.goesOn]
          by_cases empty : name = []
          · simp [empty]
          · have nonempty : name.isEmpty = false := by simpa using empty
            simp only [nonempty, Bool.false_eq_true, if_false, ne_eq, empty, not_false_eq_true,
              true_and, hcurrent]
            exact Iff.rfl

/-- **Lines can be read exactly if they are laid out properly.** -/
theorem takes_iff_fits (state : Reading) (number : Nat) (lines : List (List Char)) :
    state.Takes number lines ↔ state.Fits lines := by
  induction lines generalizing state number with
  | nil =>
    constructor
    · rintro ⟨_, ⟨⟩, stray⟩
      exact ⟨stray, .nil⟩
    · rintro ⟨stray, -⟩
      exact ⟨state, rfl, stray⟩
  | cons line rest ih =>
    rw [takes_cons]
    simp only [ih]
    unfold step
    cases hline : FileLine.of line with
    | blank =>
      simp only [Except.ok.injEq, exists_eq_left', fits_extend]
      rw [Fits, Fits, marks, hline]
    | comment =>
      simp only [Except.ok.injEq, exists_eq_left']
      rw [Fits, Fits, marks, hline]
    | words indent s =>
      simp only
      by_cases more : (state.continues && decide (state.indent < indent)) = true
      · simp only [more, if_true, Except.ok.injEq, exists_eq_left', fits_extend]
        rw [Fits, Fits, marks, hline]
        simp only [more, if_true]
      · simp only [more, Bool.false_eq_true, if_false, beginLine_fits]
        rw [Fits, marks, hline]
        simp only [more, Bool.false_eq_true, if_false]
        exact Iff.rfl

end Reading

/-! ### Files -/

/-- The lines of a text with any line ends. -/
def fileLines (s : List Char) : List (List Char) :=
  keptLines (unifyLineEnds s)

/-- What the lines of a file begin is laid out properly. -/
def WellLaid (s : List Char) : Prop :=
  Laid none [] [] (marks false 0 (fileLines s))

/-- Bytes are those of a text that is laid out properly. -/
def Legible (bytes : List UInt8) : Prop :=
  ∃ s, bytes = encode s ∧ WellLaid s

namespace SettingsFile

theorem exists_parse_eq_ok_iff (s : List Char) : (∃ file, parse s = .ok file) ↔ WellLaid s := by
  have takes := Reading.takes_iff_fits {} 1 (fileLines s)
  have fits : ({} : Reading).Fits (fileLines s) ↔ WellLaid s := and_iff_right rfl
  rw [← fits, ← takes]
  unfold parse Reading.Takes fileLines
  cases ({} : Reading).steps 1 (keptLines (unifyLineEnds s)) with
  | error fault => simp
  | ok final =>
    by_cases clean : final.stray = []
    · simp [clean]
    · simp [clean]

/-- **A file can be read exactly if it is legible.** -/
theorem exists_ofBytes_eq_ok_iff (bytes : List UInt8) :
    (∃ file, ofBytes bytes = .ok file) ↔ Legible bytes := by
  unfold Legible
  simp only [← exists_parse_eq_ok_iff, ← decode_eq_text_iff]
  unfold ofBytes
  cases decode bytes with
  | text s => simp
  | brokenOff s => simp
  | malformed => simp

end SettingsFile

end TicketMigration
