import TicketMigration.Proofs.WrittenDictionary
import TicketMigration.Proofs.WrittenFile
import TicketMigration.Proofs.WrittenNumber
import TicketMigration.Settings.Load

/-!
# Reading back written settings

Settings that are written to a file, each as one option of its section, are the settings that the
file is loaded as.  A setting that is not written has its default, or no value.  Sections may stand
in any order, and so may the options of each.

Every value knows that it can be written: a text is plain, the word of a truth value is one that is
read as it, a number does not have too many digits.

## Main definitions

* `ValueText`, `FlagWord`, `ShortNumber` — values that can be written.
* `WrittenSettings` — the settings that are written.
* `WrittenSettings.fields` — the sections and options that they are written as.
* `WrittenSettings.Arranges` — a file has these sections and options, in any order.
* `WrittenSettings.settings` — the settings that the file should be loaded as.

## Main statements

* `WrittenSettings.get?_saying` — what is found in the file at each place.
* `WrittenSettings.load_written` — **a file with written settings is loaded as these settings.**
-/

namespace TicketMigration

open Text Literal

/-! ### Values -/

/-- A text that can be the value of an option. -/
abbrev ValueText := { s : List Char // TrimmedLine s }

/-- A word for a truth value. -/
structure FlagWord where
  /-- The word. -/
  word : ValueText
  /-- What it stands for. -/
  value : Bool
  /-- The word is one of those that stand for it. -/
  stands : truth? word.1 = some value

/-- A number that does not have too many digits. -/
structure ShortNumber where
  /-- The number. -/
  value : Int
  /-- It does not have too many digits. -/
  short : (Nat.toDigits 10 value.natAbs).length ≤ maxDigits

/-- A text without blanks is plain. -/
theorem trimmedLine_of_forall {s : List Char} (nonempty : s ≠ []) (h : ∀ c ∈ s, isBlank c = false) :
    TrimmedLine s where
  nonempty := nonempty
  line := by
    have newline : isBlank '\n' = true := by decide
    have carriage : isBlank '\r' = true := by decide
    constructor
    · intro mem
      rw [h _ mem] at newline
      cases newline
    · intro mem
      rw [h _ mem] at carriage
      cases carriage
  first := by
    cases begins : s.head? with
    | none => rfl
    | some c => exact h c (List.mem_of_head? begins)
  last := by
    cases ends : s.getLast? with
    | none => rfl
    | some c => exact h c (List.mem_of_getLast? ends)

/-- The number as it is written. -/
def ShortNumber.text (n : ShortNumber) : ValueText :=
  ⟨(toString n.value).toList, trimmedLine_of_forall (by
    rw [toList_toString_int]
    exact List.append_ne_nil_of_right_ne_nil _ Nat.toDigits_ne_nil) (isBlank_toString_int n.value)⟩

/-- A written dictionary is plain. -/
theorem trimmedLine_written (d : TextDictionary) : TrimmedLine d.written := by
  have visible : ∀ c ∈ d.written, isPrintable c.toNat = true := by
    rw [d.written_eq]
    exact isPrintable_textOf d.coded
  have hidden {c : Char} (hc : isPrintable c.toNat = false) : c ∉ d.written := by
    intro mem
    rw [visible c mem] at hc
    cases hc
  obtain ⟨inside, braces⟩ : ∃ inside, d.written = '\x7b' :: inside ++ ['\x7d'] := ⟨_, rfl⟩
  refine ⟨by simp [braces], ⟨hidden (by decide +kernel), hidden (by decide +kernel)⟩, ?_, ?_⟩
  · have opening : isBlank '\x7b' = false := by decide
    rw [braces]
    exact opening
  · have closing : isBlank '\x7d' = false := by decide
    rw [braces, List.getLast?_concat]
    exact closing

/-- The dictionary as it is written. -/
def dictionaryText (d : TextDictionary) : ValueText :=
  ⟨d.written, trimmedLine_written d⟩

/-! ### Settings -/

/-- The settings that are written to a file.  Those that are not given are not written. -/
structure WrittenSettings where
  /-- The address of the tracker. -/
  tracker : Option ValueText := none
  /-- The name to log in to the tracker with. -/
  user : Option ValueText := none
  /-- The password to log in to the tracker with. -/
  password : Option ValueText := none
  /-- The address of the issue server. -/
  forge : Option ValueText := none
  /-- The token for the issue server. -/
  token : Option ValueText := none
  /-- The project on the issue server. -/
  project : Option ValueText := none
  /-- A user mapping as a dictionary. -/
  usernames : Option TextDictionary := none
  /-- The certificate of the issue server is verified. -/
  verify : Option FlagWord := none
  /-- The component whose tickets are migrated. -/
  component : Option ValueText := none
  /-- The query whose tickets are migrated. -/
  query : Option ValueText := none
  /-- The token is one of an administrator. -/
  admin : Option FlagWord := none
  /-- Each issue has a link to its ticket. -/
  link : Option FlagWord := none
  /-- The component is a label. -/
  labelComponent : Option FlagWord := none
  /-- The milestone is a label. -/
  labelMilestone : Option FlagWord := none
  /-- A label that every issue gets. -/
  extraLabel : Option ValueText := none
  /-- How many tickets are migrated at most. -/
  maxTickets : Option ShortNumber := none
  /-- Nothing is created. -/
  dryRun : Option FlagWord := none
  /-- The directory in which answers of the tracker are kept. -/
  cacheDirectory : Option ValueText := none

/-- The options of a section with their values, if they are given. -/
abbrev Fields := List (String × Option ValueText)

/-- The options that are given, as they are written. -/
def Fields.given (fields : Fields) : List (List Char × List Char) :=
  fields.filterMap fun field => field.2.map fun value => (field.1.toList, value.1)

namespace WrittenSettings

/-- The sections and options that settings are written as. -/
def fields (w : WrittenSettings) : List (String × Fields) :=
  [("source", [("url", w.tracker), ("username", w.user), ("password", w.password)]),
    ("target", [("url", w.forge), ("token", w.token), ("project_name", w.project),
      ("usernames", w.usernames.map dictionaryText), ("ssl_verify", w.verify.map (·.word))]),
    ("issues", [("component", w.component), ("query", w.query), ("admin", w.admin.map (·.word)),
      ("link", w.link.map (·.word)), ("label_component", w.labelComponent.map (·.word)),
      ("label_milestone", w.labelMilestone.map (·.word)), ("add_label", w.extraLabel),
      ("max_tickets", w.maxTickets.map (·.text)), ("dry_run", w.dryRun.map (·.word))]),
    ("cache", [("dir", w.cacheDirectory)])]

/-- The file has the sections and the options that are written, in any order. -/
structure Arranges (w : WrittenSettings) (sections : List SectionText) : Prop where
  /-- The sections are there, each one once. -/
  names : (sections.map Prod.fst).Perm (w.fields.map (·.1.toList))
  /-- Each section has its options. -/
  options : ∀ part ∈ sections, ∃ place ∈ w.fields,
    part.1 = place.1.toList ∧ part.2.Perm place.2.given

/-- The sections as they are written in the order given here. -/
def sections (w : WrittenSettings) : List SectionText :=
  w.fields.map fun place => (place.1.toList, place.2.given)

/-- The settings that the file should be loaded as. -/
def settings (w : WrittenSettings) : Settings where
  tracker := w.tracker.map fun s => String.ofList s.1
  user := w.user.map fun s => String.ofList s.1
  password := w.password.map fun s => String.ofList s.1
  forge := w.forge.map fun s => String.ofList s.1
  token := w.token.map fun s => String.ofList s.1
  project := w.project.map fun s => String.ofList s.1
  component := w.component.map fun s => String.ofList s.1
  query := w.query.map fun s => String.ofList s.1
  usernames := w.usernames.map (·.data)
  admin := some (w.admin.elim false (·.value))
  link := some (w.link.elim false (·.value))
  labelComponent := some (w.labelComponent.elim false (·.value))
  labelMilestone := some (w.labelMilestone.elim false (·.value))
  extraLabel := w.extraLabel.map fun s => String.ofList s.1
  maxTickets := w.maxTickets.map (·.value)
  dryRun := some (w.dryRun.elim false (·.value))
  verify := some (some (w.verify.elim true (·.value)))
  cacheDirectory := w.cacheDirectory.map fun s => String.ofList s.1

end WrittenSettings

/-! ### Options -/

/-- The names of the sections and of their options. -/
def optionNames : List (String × List String) :=
  [("source", ["url", "username", "password"]),
    ("target", ["url", "token", "project_name", "usernames", "ssl_verify"]),
    ("issues", ["component", "query", "admin", "link", "label_component", "label_milestone",
      "add_label", "max_tickets", "dry_run"]),
    ("cache", ["dir"])]

namespace Fields

/-- An option that is written is one of the fields that are given. -/
theorem mem_given_iff {fields : Fields} {option : List Char × List Char} :
    option ∈ fields.given ↔
      ∃ name value, (name, some value) ∈ fields ∧ option = (name.toList, value.1) := by
  rw [given, List.mem_filterMap]
  constructor
  · rintro ⟨⟨name, value⟩, mem, h⟩
    obtain ⟨text, rfl, rfl⟩ := Option.map_eq_some_iff.1 h
    exact ⟨name, text, mem, rfl⟩
  · rintro ⟨name, value, mem, rfl⟩
    exact ⟨_, mem, rfl⟩

/-- Only names of fields are written. -/
theorem sublist_given (fields : Fields) :
    (fields.given.map Prod.fst).Sublist (fields.map (·.1.toList)) := by
  induction fields with
  | nil => exact List.Sublist.slnil
  | cons field rest ih =>
    obtain ⟨name, value⟩ := field
    cases value with
    | none => exact ih.cons _
    | some value => exact ih.cons_cons _

/-- No option is written twice if no field is there twice. -/
theorem nodup_given {fields : Fields} (distinct : (fields.map Prod.fst).Nodup) :
    (fields.given.map Prod.fst).Nodup := by
  have names : (fields.map (·.1.toList)).Nodup := by
    have spelled : ((fields.map Prod.fst).map String.toList).Nodup :=
      List.Pairwise.map _ (fun _ _ differs same => differs (String.toList_inj.1 same)) distinct
    rwa [List.map_map] at spelled
  exact names.sublist (sublist_given fields)

/-- A field that is given is found with its value, and one that is not is not found. -/
theorem lookup_given {fields : Fields} (distinct : (fields.map Prod.fst).Nodup)
    {name : String} {value : Option ValueText} (field : fields.lookup name = some value) :
    fields.given.lookup name.toList = value.map (·.1) := by
  have mem := (lookup_eq_some_iff_mem distinct name value).1 field
  have written := nodup_given distinct
  cases value with
  | some value =>
    exact (lookup_eq_some_iff_mem written _ _).2 (mem_given_iff.2 ⟨name, value, mem, rfl⟩)
  | none =>
    cases found : fields.given.lookup name.toList with
    | none => rfl
    | some s =>
      obtain ⟨other, value, mem', same⟩ :=
        mem_given_iff.1 ((lookup_eq_some_iff_mem written _ _).1 found)
      have named : name = other := String.toList_inj.1 (Prod.mk.inj same).1
      subst named
      rw [(lookup_eq_some_iff_mem distinct name (some value)).2 mem'] at field
      cases field

end Fields

namespace WrittenSettings

variable {w : WrittenSettings} {sections : List SectionText}

theorem map_fields (w : WrittenSettings) :
    w.fields.map (fun place => (place.1, place.2.map Prod.fst)) = optionNames := rfl

/-- All names that are written can be read. -/
theorem proper_of_mem_fields {place : String × Fields} (mem : place ∈ w.fields) :
    IsSectionName place.1.toList ∧ (place.2.map Prod.fst).Nodup ∧
      ∀ name ∈ place.2.map Prod.fst, IsOptionName name.toList := by
  have all : ∀ names ∈ optionNames, IsSectionName names.1.toList ∧ names.2.Nodup ∧
      ∀ name ∈ names.2, name.toList ≠ [] ∧ name.toList.all nameLetters.contains = true := by
    decide +kernel
  have listed : (place.1, place.2.map Prod.fst) ∈ optionNames := by
    rw [← w.map_fields]
    exact List.mem_map_of_mem mem
  obtain ⟨named, distinct, names⟩ := all _ listed
  refine ⟨named, distinct, fun name hn => ?_⟩
  obtain ⟨nonempty, letters⟩ := names name hn
  exact isOptionName_of_nameLetters nonempty fun c hc =>
    List.contains_iff_mem.1 (List.all_eq_true.1 letters c hc)

theorem nodup_fields (w : WrittenSettings) : (w.fields.map Prod.fst).Nodup := by
  have names : w.fields.map Prod.fst = optionNames.map Prod.fst := rfl
  rw [names]
  decide +kernel

/-- The sections and options of settings can be written in any order. -/
theorem Arranges.writable (h : w.Arranges sections) : Writable sections where
  distinct := by
    have names : w.fields.map (·.1.toList) = optionNames.map (·.1.toList) := rfl
    rw [h.names.nodup_iff, names]
    decide +kernel
  names := by
    intro part mem
    obtain ⟨place, listed, same, -⟩ := h.options part mem
    rw [same]
    exact (proper_of_mem_fields listed).1
  keys := by
    intro part mem
    obtain ⟨place, listed, -, perm⟩ := h.options part mem
    rw [(perm.map Prod.fst).nodup_iff]
    exact Fields.nodup_given (proper_of_mem_fields listed).2.1
  options := by
    intro part mem option hoption
    obtain ⟨place, listed, -, perm⟩ := h.options part mem
    obtain ⟨name, value, field, rfl⟩ := Fields.mem_given_iff.1 (perm.mem_iff.1 hoption)
    exact ⟨(proper_of_mem_fields listed).2.2 name (List.mem_map_of_mem field), value.2⟩

/-- Settings can be written. -/
theorem arranges_sections (w : WrittenSettings) : w.Arranges w.sections where
  names := by
    rw [WrittenSettings.sections, List.map_map]
    exact List.Perm.refl _
  options := by
    intro part mem
    obtain ⟨place, listed, rfl⟩ := List.mem_map.1 mem
    exact ⟨place, listed, rfl, List.Perm.refl _⟩

/-- The value at a place, if there is such a place. -/
def value? (w : WrittenSettings) (sectionName name : String) : Option (Option ValueText) :=
  (w.fields.lookup sectionName).bind fun fields => fields.lookup name

/-- **What is found in the file at a place** is what was written there, or else the default. -/
theorem get?_saying (h : w.Arranges sections) {sectionName name : String}
    {value : Option ValueText} (place : w.value? sectionName name = some value) :
    (SettingsFile.saying sections).get? sectionName name
      = (value.map (·.1) <|> builtinDefaults.lookup name.toList) := by
  obtain ⟨fields, inFields, field⟩ := Option.bind_eq_some_iff.1 place
  have listed := (lookup_eq_some_iff_mem w.nodup_fields sectionName fields).1 inFields
  -- the section stands somewhere in the file
  have there : sectionName.toList ∈ sections.map Prod.fst :=
    h.names.mem_iff.2 (List.mem_map.2 ⟨_, listed, rfl⟩)
  obtain ⟨⟨_, options⟩, mem, rfl⟩ := List.mem_map.1 there
  obtain ⟨⟨other, fields'⟩, listed', same, perm⟩ := h.options _ mem
  have named : sectionName = other := String.toList_inj.1 same
  subst named
  rw [(lookup_eq_some_iff_mem w.nodup_fields sectionName fields').2 listed'] at inFields
  cases inFields
  have distinct := (proper_of_mem_fields listed).2.1
  have keys := h.writable.keys _ mem
  rw [SettingsFile.get?_saying h.writable mem, lookup_eq_of_perm perm keys,
    Fields.lookup_given distinct field]

theorem has_saying (h : w.Arranges sections) {sectionName : String} {fields : Fields}
    (listed : (sectionName, fields) ∈ w.fields) :
    (SettingsFile.saying sections).has sectionName = true := by
  refine List.contains_iff_mem.2 (List.mem_reverse.2 (h.names.mem_iff.2 ?_))
  exact List.mem_map.2 ⟨_, listed, rfl⟩

section Places

variable (h : w.Arranges sections) (sectionName name : String)

include h

/-- A text is the one that was written, if it has no default. -/
theorem text?_saying (value : Option ValueText)
    (place : w.value? sectionName name = some value)
    (required : builtinDefaults.lookup name.toList = none) :
    (SettingsFile.saying sections).text? sectionName name
      = value.map fun s => String.ofList s.1 := by
  rw [SettingsFile.text?, get?_saying h place, required]
  cases value <;> rfl

theorem words?_saying (value : Option ValueText)
    (place : w.value? sectionName name = some value)
    (required : builtinDefaults.lookup name.toList = none) :
    (SettingsFile.saying sections).words? sectionName name = value.map (·.1) := by
  rw [SettingsFile.words?, get?_saying h place, required]
  cases value with
  | none => rfl
  | some value =>
    have nonempty : value.1.isEmpty = false := by simpa using value.2.nonempty
    simp [nonempty]

/-- A truth value is what its word stands for, or else what the word of its default stands for. -/
theorem flag_saying (flag : Option FlagWord) (word : List Char) (value : Bool)
    (place : w.value? sectionName name = some (flag.map (·.word)))
    (default : builtinDefaults.lookup name.toList = some word)
    (stands : truth? word = some value) :
    (SettingsFile.saying sections).flag sectionName name = .ok (flag.elim value (·.value)) := by
  rw [SettingsFile.flag, get?_saying h place, default]
  cases flag with
  | none => simp [stands]
  | some flag => simp [flag.stands]

end Places

/-- A dictionary that is written is read. -/
theorem mapM_usernamesOf (given : Option TextDictionary) :
    ((given.map dictionaryText).map (·.1)).mapM usernamesOf = .ok (given.map (·.data)) := by
  cases given with
  | none => rfl
  | some d =>
    have read : usernamesOf d.written = .ok d.data := by
      rw [usernamesOf, d.readLiteral_written]
    have one : ((some d).map dictionaryText).map (·.1) = some d.written := rfl
    rw [one, Option.mapM_some, read]
    rfl

/-- A number that is written is read. -/
theorem mapM_maxTicketsOf (given : Option ShortNumber) :
    ((given.map (·.text)).map (·.1)).mapM maxTicketsOf = .ok (given.map (·.value)) := by
  cases given with
  | none => rfl
  | some n =>
    have read : maxTicketsOf (toString n.value).toList = .ok n.value := by
      rw [maxTicketsOf, integer?_toString n.short]
    have one : ((some n).map (·.text)).map (·.1) = some (toString n.value).toList := rfl
    rw [one, Option.mapM_some, read]
    rfl

/-- **The settings that are found in the file are those that were written.** -/
theorem ofFile_saying (h : w.Arranges sections) :
    Settings.ofFile (.saying sections) = .ok w.settings := by
  have no : truth? "false".toList = some false := by decide +kernel
  have yes : truth? "yes".toList = some true := by decide +kernel
  -- every option is looked up once: truth values and the dictionary may fail, texts do not
  unfold Settings.ofFile
  rw [flag_saying h "issues" "admin" w.admin _ _ rfl rfl no,
    flag_saying h "issues" "link" w.link _ _ rfl rfl no,
    flag_saying h "issues" "label_component" w.labelComponent _ _ rfl rfl no,
    flag_saying h "issues" "label_milestone" w.labelMilestone _ _ rfl rfl no,
    flag_saying h "issues" "dry_run" w.dryRun _ _ rfl rfl no,
    flag_saying h "target" "ssl_verify" w.verify _ _ rfl rfl yes,
    words?_saying h "target" "usernames" (w.usernames.map dictionaryText) rfl rfl,
    words?_saying h "issues" "max_tickets" (w.maxTickets.map (·.text)) rfl rfl,
    mapM_usernamesOf, mapM_maxTicketsOf,
    text?_saying h "source" "url" w.tracker rfl rfl,
    text?_saying h "source" "username" w.user rfl rfl,
    text?_saying h "source" "password" w.password rfl rfl,
    text?_saying h "target" "url" w.forge rfl rfl,
    text?_saying h "target" "token" w.token rfl rfl,
    text?_saying h "target" "project_name" w.project rfl rfl,
    text?_saying h "issues" "component" w.component rfl rfl,
    text?_saying h "issues" "query" w.query rfl rfl,
    text?_saying h "issues" "add_label" w.extraLabel rfl rfl,
    text?_saying h "cache" "dir" w.cacheDirectory rfl rfl,
    has_saying h (List.mem_cons_of_mem _ List.mem_cons_self)]
  rfl

/-! ### Loading -/

/-- **A file with written settings is loaded as these settings.**

For all texts, truth values, numbers and dictionaries that are given, and whatever order the
sections and the options have: the bytes of the file are loaded as exactly these settings, and what
is not given has its default or no value. -/
theorem load_written {w : WrittenSettings} {sections : List SectionText}
    (h : w.Arranges sections) {files : String → Option (List UInt8)} {path : String}
    (proper : '\x00' ∉ path.toList) (holds : files path = some (encode (writeSections sections))) :
    Settings.load files path = .ok w.settings := by
  have absent : path.toList.contains '\x00' = false := by simpa using proper
  rw [Settings.load, absent, if_neg (by decide), holds]
  simp only [Settings.ofBytes, SettingsFile.ofBytes_encode_writeSections h.writable]
  exact ofFile_saying h

/-- Texts with marks that a settings file and a dictionary give a meaning to. -/
def marked : WrittenSettings where
  tracker := some ⟨"https://trac.example.org/?a=b#c".toList, by decide +kernel⟩
  password := some ⟨"[100%] = ; 'secret' : \"#\"".toList, by decide +kernel⟩
  usernames := some
    { entries := [("al'ice".toList.map Char.toNat, "a\"\n\x7b\x7d".toList.map Char.toNat),
        ([], [0, 0xD800, 0x1F600, 92])]
      distinct := by decide +kernel
      coded := by unfold Coded maxCode; decide +kernel }
  verify := some ⟨⟨"No".toList, by decide +kernel⟩, false, by decide +kernel⟩
  query := some ⟨"# status=!closed".toList, by decide +kernel⟩
  admin := some ⟨⟨"ON".toList, by decide +kernel⟩, true, by decide +kernel⟩
  maxTickets := some ⟨-10, by decide +kernel⟩

/-- Settings with such texts are loaded from a file. -/
theorem load_written_marked :
    let files : String → Option (List UInt8) :=
      fun _ => some (encode (writeSections marked.sections))
    marked.Arranges marked.sections ∧ '\x00' ∉ "migrate.cfg".toList ∧
      files "migrate.cfg" = some (encode (writeSections marked.sections)) ∧
      Settings.load files "migrate.cfg" = .ok marked.settings := by
  intro files
  have arranged := marked.arranges_sections
  have proper : '\x00' ∉ "migrate.cfg".toList := by decide +kernel
  exact ⟨arranged, proper, rfl, load_written arranged proper rfl⟩

end WrittenSettings

end TicketMigration
