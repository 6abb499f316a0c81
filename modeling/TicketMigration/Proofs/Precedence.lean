import TicketMigration.Proofs.FileLayout
import TicketMigration.Proofs.GivenOptions

/-!
# Which setting counts

A setting of the command line counts for more than one of the settings file, and a setting of the
file for more than the default.  Most settings are texts, and there is one rule for all of them.  A
flag is on if either place turns it on, since the command line cannot turn it off.  For the
certificate it is the other way round, and the two user mappings are put together name by name.

## Main definitions

* `TextSetting` — the settings that are texts, with where they are found and how they end up.
* `Arguments.Names` — the settings file that the command line names, if it names one.
* `Settings.ReadFrom` — what settings say that come from a file.
* `Layered` — **what each part of a configuration is, field by field.**

## Main statements

* `Entries.get?_update` — a name is looked up in the second dictionary first.
* `Settings.readFrom_of_ofFile`, `Settings.configured_of_configure` — the two steps in between.
* `layered_of_configurationFor` — **command line over file over default.**
-/

namespace TicketMigration

open Text

/-! ### Dictionaries -/

theorem Value.eq_of_same_text {value : Value} {codes : List Nat}
    (h : value.same (.text codes) = true) : value = .text codes := by
  cases value <;> simp [Value.same, Value.number?] at h ⊢
  exact h

theorem Value.eq_of_text_same {value : Value} {codes : List Nat}
    (h : (Value.text codes).same value = true) : value = .text codes := by
  cases value <;> simp [Value.same, Value.number?] at h ⊢
  exact h.symm

namespace Entries

/-- A name that is set has its new value, and all other keys keep theirs. -/
theorem get?_put (codes : List Nat) (value key : Value) (entries : Entries) :
    get? key (put (.text codes) value entries)
      = if (Value.text codes).same key then some value else get? key entries := by
  induction entries with
  | nil => rfl
  | cons entry rest ih =>
    rw [put]
    split
    · next found =>
      simp only [get?, Value.eq_of_same_text found]
      split <;> rfl
    · next other =>
      simp only [get?, ih]
      split
      · next first =>
        -- a key in front that is the same as the one that is looked up would be the name itself
        rw [if_neg]
        intro named
        rw [Value.eq_of_text_same named] at first
        exact other first
      · rfl

/-- A name that is not mapped has no value. -/
theorem get?_entries_eq_none {mapping : UserMapping} {name : List Char}
    (h : name ∉ mapping.map Prod.fst) :
    get? (.text (name.map Char.toNat)) mapping.entries = none := by
  induction mapping with
  | nil => rfl
  | cons entry rest ih =>
    rw [List.map_cons, List.mem_cons, not_or] at h
    have other : (Value.text (entry.1.map Char.toNat)).same (.text (name.map Char.toNat))
        = false := by
      rw [Bool.eq_false_iff]
      intro same
      have codes : name.map Char.toNat = entry.1.map Char.toNat :=
        Value.text.inj (Value.eq_of_text_same same)
      exact h.1 ((List.map_inj_right fun _ _ => Char.toNat_inj.1).1 codes)
    exact (if_neg (by simp [other])).trans (ih h.2)

/-- **A key is looked up among the names of the second dictionary first.** -/
theorem get?_update {mapping : UserMapping} (distinct : (mapping.map Prod.fst).Nodup)
    (entries : Entries) (key : Value) :
    get? key (entries.update mapping.entries)
      = (get? key mapping.entries).or (get? key entries) := by
  induction mapping generalizing entries with
  | nil => rfl
  | cons entry rest ih =>
    rw [List.map_cons, List.nodup_cons] at distinct
    obtain ⟨name, target⟩ := entry
    have put := ih distinct.2
      (put (.text (name.map Char.toNat)) (.text (target.map Char.toNat)) entries)
    rw [get?_put] at put
    refine put.trans ?_
    show _ = (if (Value.text (name.map Char.toNat)).same key then some _
      else get? key (UserMapping.entries rest)).or _
    split
    · next same =>
      rw [Value.eq_of_text_same same, get?_entries_eq_none distinct.1]
      rfl
    · rfl

end Entries

/-! ### Written mappings -/

theorem UserMapping.map_fst_put (name target : List Char) (mapping : UserMapping) :
    (mapping.put name target).map Prod.fst
      = if name ∈ mapping.map Prod.fst then mapping.map Prod.fst
        else mapping.map Prod.fst ++ [name] := by
  induction mapping with
  | nil => rfl
  | cons entry rest ih =>
    rw [put]
    by_cases h : entry.1 = name
    · simp [h]
    · rw [if_neg h, List.map_cons, List.map_cons, ih]
      by_cases hr : name ∈ rest.map Prod.fst
      · rw [if_pos hr, if_pos (List.mem_cons_of_mem _ hr)]
      · rw [if_neg hr, if_neg (by simp [hr, Ne.symm h])]
        rfl

theorem nodup_of_readItems {items : List (List Char)} {mapping result : UserMapping}
    (distinct : (mapping.map Prod.fst).Nodup) (h : readItems mapping items = .ok result) :
    (result.map Prod.fst).Nodup := by
  induction items generalizing mapping with
  | nil =>
    cases h
    exact distinct
  | cons item rest ih =>
    rw [readItems] at h
    split at h
    · next entry _ =>
      refine ih ?_ h
      rw [UserMapping.map_fst_put]
      split
      · exact distinct
      · next new =>
        refine List.nodup_append.2 ⟨distinct, by simp, fun a ha b hb same => new ?_⟩
        rwa [← List.mem_singleton.1 hb, ← same]
    · cases h

/-- No name is mapped twice. -/
theorem nodup_of_readMapping {s : List Char} {mapping : UserMapping}
    (h : readMapping s = .ok mapping) : (mapping.map Prod.fst).Nodup := by
  unfold readMapping at h
  split at h
  · cases h
  · have distinct : (([] : UserMapping).map Prod.fst).Nodup := List.nodup_nil
    exact nodup_of_readItems distinct h

/-- The entries of a written mapping are those of distinct names. -/
theorem exists_of_mappingEntries {written : Option String} {entries : Entries}
    (h : mappingEntries written = .ok entries) :
    ∃ mapping : UserMapping, (mapping.map Prod.fst).Nodup ∧ entries = mapping.entries := by
  unfold mappingEntries at h
  split at h
  · cases h
    exact ⟨[], List.nodup_nil, rfl⟩
  · split at h
    · next mapping hm =>
      cases h
      exact ⟨mapping, nodup_of_readMapping hm, rfl⟩
    · cases h

/-! ### Texts -/

/-- A setting that is a text. -/
inductive TextSetting
  /-- The address of the tracker. -/
  | tracker
  /-- The address of the issue server. -/
  | forge
  /-- The token for the issue server. -/
  | token
  /-- The project on the issue server. -/
  | project
  /-- The component whose tickets are migrated. -/
  | component
  /-- The query whose tickets are migrated. -/
  | query
  /-- The name to log in to the tracker with. -/
  | user
  /-- The password to log in to the tracker with. -/
  | password
  /-- A label that every issue gets. -/
  | extraLabel
  /-- The directory in which answers of the tracker are kept. -/
  | cacheDirectory
  deriving DecidableEq, Repr

namespace TextSetting

/-- What the settings say. -/
def given (settings : Settings) : TextSetting → Option String
  | tracker => settings.tracker
  | forge => settings.forge
  | token => settings.token
  | project => settings.project
  | component => settings.component
  | query => settings.query
  | user => settings.user
  | password => settings.password
  | extraLabel => settings.extraLabel
  | cacheDirectory => settings.cacheDirectory

/-- The section of a settings file that the setting is in, and its name there. -/
def place : TextSetting → String × String
  | tracker => ("source", "url")
  | forge => ("target", "url")
  | token => ("target", "token")
  | project => ("target", "project_name")
  | component => ("issues", "component")
  | query => ("issues", "query")
  | user => ("source", "username")
  | password => ("source", "password")
  | extraLabel => ("issues", "add_label")
  | cacheDirectory => ("cache", "dir")

/-- What a settings file says. -/
def inFile (setting : TextSetting) (file : SettingsFile) : Option String :=
  file.text? setting.place.1 setting.place.2

/-- What becomes of a text: an address loses its trailing slashes, and an empty label is none. -/
def written : TextSetting → Option String → Option String
  | tracker, text | forge, text => text.map (dropTrailing '/')
  | extraLabel, text => text.filter fun s => !s.isEmpty
  | _, text => text

/-- The text that the program works with. -/
def value (configuration : Configuration) (selection : Selection) : TextSetting → Option String
  | tracker => some configuration.trackerUrl
  | forge => some configuration.forgeUrl
  | token => some configuration.token
  | project => some selection.project
  | component => selection.component
  | query => selection.query
  | user => configuration.user
  | password => configuration.password
  | extraLabel => configuration.labels.extra
  | cacheDirectory => configuration.cacheDirectory

theorem given_overriddenBy (setting : TextSetting) (settings more : Settings) :
    setting.given (settings.overriddenBy more)
      = (setting.given more).or (setting.given settings) := by
  cases setting <;> exact (Option.or_eq_orElse).symm

end TextSetting

namespace Flag

/-- Whether a flag is on in the configuration. -/
def value (configuration : Configuration) : Flag → Bool
  | admin => configuration.admin
  | link => configuration.link
  | labelComponent => configuration.labels.component
  | labelMilestone => configuration.labels.milestone
  | dryRun => configuration.dryRun

theorem given_overriddenBy (flag : Flag) (settings more : Settings) :
    flag.given (settings.overriddenBy more) = (flag.given more).or (flag.given settings) := by
  cases flag <;> exact (Option.or_eq_orElse).symm

end Flag

/-! ### The settings file -/

namespace SettingsFile

/-- The user names of a file, if it has any. -/
def usernames? (file : SettingsFile) : Option Entries :=
  (file.words? "target" "usernames").bind fun s => (usernamesOf s).toOption

/-- The largest number of tickets, if the file has one. -/
def maxTickets? (file : SettingsFile) : Option Int :=
  (file.words? "issues" "max_tickets").bind integer?

/-- Whether the file has the section of the issue server, and its certificate is not verified. -/
def TurnsOffVerification (file : SettingsFile) : Prop :=
  file.has "target" = true ∧ file.flag "target" "ssl_verify" = .ok false

end SettingsFile

/-- The settings file that a command line names, if it names one.  The file can be read. -/
inductive Arguments.Names (files : String → Option (List UInt8)) (arguments : Arguments) :
    Option SettingsFile → Prop
  /-- No file is named; an empty path is none. -/
  | nothing (absent : isGiven arguments.config = false) : Names files arguments none
  /-- The file at a path is named. -/
  | file {path : String} {bytes : List UInt8} {file : SettingsFile}
      (named : arguments.config = some path) (proper : path ≠ "") (holds : files path = some bytes)
      (read : SettingsFile.ofBytes bytes = .ok file) : Names files arguments (some file)

/-- What settings say that come from a file, or from none. -/
structure Settings.ReadFrom (settings : Settings) (file : Option SettingsFile) : Prop where
  /-- The texts are those of the file. -/
  text : ∀ setting : TextSetting, setting.given settings = file.bind setting.inFile
  /-- A flag is on if the file turns it on. -/
  flag : ∀ flag : Flag, flag.given settings = some true ↔
    ∃ f, file = some f ∧ f.flag "issues" flag.name = .ok true
  /-- The verification is off if the file turns it off. -/
  verify : settings.verify = some (some false) ↔ ∃ f, file = some f ∧ f.TurnsOffVerification
  /-- Otherwise it is on, if the file says anything about it. -/
  known : settings.verify ≠ some none
  /-- The number of tickets is that of the file. -/
  maxTickets : settings.maxTickets = file.bind (·.maxTickets?)
  /-- The user names are those of the file. -/
  usernames : settings.usernames = file.bind (·.usernames?)
  /-- A file has no written mapping. -/
  mapping : settings.mapping = none

theorem Settings.readFrom_none : ({} : Settings).ReadFrom none where
  text setting := by cases setting <;> rfl
  flag flag := by cases flag <;> simp [Flag.given]
  verify := by simp
  known := nofun
  maxTickets := rfl
  usernames := rfl
  mapping := rfl

/-- What is read from a text that may be missing. -/
theorem eq_bind_of_mapM {α : Type} {text : Option (List Char)}
    {read : List Char → Except LoadFault α}
    {result : Option α} (h : text.mapM read = .ok result) :
    result = text.bind fun s => (read s).toOption := by
  cases text with
  | none =>
    cases h
    rfl
  | some s =>
    obtain ⟨a, ha, h⟩ := Except.bind_eq_ok (show read s >>= (fun a => pure (some a)) = _ from h)
    cases h
    rw [Option.bind_some, ha]
    rfl

theorem toOption_maxTicketsOf (s : List Char) : (maxTicketsOf s).toOption = integer? s := by
  unfold maxTicketsOf
  split <;> next h => rw [h]; rfl

/-- **What the settings from a file say.** -/
theorem Settings.readFrom_of_ofFile {file : SettingsFile} {settings : Settings}
    (h : ofFile file = .ok settings) : settings.ReadFrom (some file) := by
  obtain ⟨admin, hadmin, h⟩ := Except.bind_eq_ok h
  obtain ⟨link, hlink, h⟩ := Except.bind_eq_ok h
  obtain ⟨component, hcomponent, h⟩ := Except.bind_eq_ok h
  obtain ⟨milestone, hmilestone, h⟩ := Except.bind_eq_ok h
  obtain ⟨dryRun, hdryRun, h⟩ := Except.bind_eq_ok h
  obtain ⟨verify, hverify, h⟩ := Except.bind_eq_ok h
  obtain ⟨usernames, husernames, h⟩ := Except.bind_eq_ok h
  obtain ⟨maxTickets, hmaxTickets, h⟩ := Except.bind_eq_ok h
  cases h
  constructor
  case text =>
    intro setting
    cases setting <;> rfl
  case flag =>
    intro flag
    cases flag <;> simp [Flag.given, Flag.name, hadmin, hlink, hcomponent, hmilestone, hdryRun]
  case verify => simp [SettingsFile.TurnsOffVerification, hverify]
  case known =>
    show (if file.has "target" = true then some (some verify) else none) ≠ some none
    split <;> exact nofun
  case maxTickets =>
    rw [Option.bind_some, SettingsFile.maxTickets?, ← funext toOption_maxTicketsOf]
    exact eq_bind_of_mapM hmaxTickets
  case usernames => exact eq_bind_of_mapM husernames
  case mapping => rfl

/-- The settings of a file come from its bytes. -/
theorem Settings.exists_of_load {files : String → Option (List UInt8)} {path : String}
    {settings : Settings} (h : load files path = .ok settings) :
    ∃ bytes file, files path = some bytes ∧ SettingsFile.ofBytes bytes = .ok file ∧
      settings.ReadFrom (some file) := by
  unfold load at h
  split at h
  · cases h
  · split at h
    · cases h
    · next bytes hb =>
      unfold ofBytes at h
      split at h
      · next file hf => exact ⟨bytes, file, hb, hf, readFrom_of_ofFile h⟩
      · cases h

theorem Settings.overriddenBy_default (given : Settings) :
    ({} : Settings).overriddenBy given = given := by
  cases given
  simp [overriddenBy]

/-- The settings that are configured are those of the file, overridden by the command line. -/
theorem exists_of_settingsFor {files : String → Option (List UInt8)} {arguments : Arguments}
    {settings : Settings} (h : settingsFor files arguments = .ok settings) :
    ∃ file below, arguments.Names files file ∧ Settings.ReadFrom below file ∧
      settings = below.overriddenBy arguments.settings := by
  unfold settingsFor at h
  split at h
  · next absent =>
    cases h
    refine ⟨none, {}, .nothing ?_, Settings.readFrom_none, (Settings.overriddenBy_default _).symm⟩
    cases hc : arguments.config with
    | none => rfl
    | some path => simpa [hc, isGiven, Option.filter] using absent
  · next path named =>
    obtain ⟨below, hl, rfl⟩ := Except.map_eq_ok h
    obtain ⟨bytes, file, hb, hf, read⟩ := Settings.exists_of_load hl
    obtain ⟨hc, hp⟩ := Option.filter_eq_some_iff.1 named
    exact ⟨some file, below, .file hc (by simpa using hp) hb hf, read, rfl⟩

/-! ### Configurations -/

theorem eq_some_of_required {setting : RequiredSetting} {text : Option String} {s : String}
    (h : required setting text = .ok s) : text = some s := by
  unfold required at h
  split at h
  · next hs =>
    cases h
    exact (Option.filter_eq_some_iff.1 hs).1
  · cases h

/-- What becomes of settings that are complete and fit together. -/
structure Settings.Configured (settings : Settings) (configuration : Configuration)
    (selection : Selection) : Prop where
  /-- The texts are those of the settings. -/
  text : ∀ setting : TextSetting,
    setting.value configuration selection = setting.written (setting.given settings)
  /-- A flag that is not given is off. -/
  flag : ∀ flag : Flag, flag.value configuration = (flag.given settings).getD false
  /-- The certificate is verified if nothing else is said. -/
  verify : configuration.verify = settings.verify.getD (some true)
  /-- Without a number, there is no limit. -/
  maxTickets : configuration.maxTickets = settings.maxTickets.getD 0
  /-- The written mapping is put over the dictionary. -/
  mapping : ∃ mapped, mappingEntries settings.mapping = .ok mapped ∧
    configuration.mapping = Entries.update (settings.usernames.getD []) mapped
  /-- One of the two is given. -/
  selection : isGiven selection.component ≠ isGiven selection.query

/-- **What a configuration consists of.** -/
theorem Settings.configured_of_configure {settings : Settings} {configuration : Configuration}
    {selection : Selection} (h : settings.configure = .ok (configuration, selection)) :
    settings.Configured configuration selection := by
  obtain ⟨tracker, htracker, h⟩ := Except.bind_eq_ok h
  obtain ⟨forge, hforge, h⟩ := Except.bind_eq_ok h
  obtain ⟨token, htoken, h⟩ := Except.bind_eq_ok h
  obtain ⟨project, hproject, h⟩ := Except.bind_eq_ok h
  obtain ⟨_, hselection, h⟩ := Except.bind_eq_ok h
  obtain ⟨maxTickets, hmaxTickets, h⟩ := Except.bind_eq_ok h
  obtain ⟨mapped, hmapped, h⟩ := Except.bind_eq_ok h
  cases h
  constructor
  case text =>
    intro setting
    cases setting
    case tracker =>
      exact congrArg (Option.map (dropTrailing '/')) (eq_some_of_required htracker).symm
    case forge => exact congrArg (Option.map (dropTrailing '/')) (eq_some_of_required hforge).symm
    case token => exact (eq_some_of_required htoken).symm
    case project => exact (eq_some_of_required hproject).symm
    all_goals rfl
  case flag =>
    intro flag
    cases flag <;> rfl
  case verify => rfl
  case maxTickets =>
    unfold limit at hmaxTickets
    dsimp only at hmaxTickets
    split at hmaxTickets
    · cases hmaxTickets
    · exact (Except.ok.inj hmaxTickets).symm
  case mapping => exact ⟨mapped, hmapped, rfl⟩
  case selection =>
    unfold checkSelection at hselection
    split at hselection
    · cases hselection
    · cases hselection
    · next neither both =>
      show isGiven settings.component ≠ isGiven settings.query
      cases hc : isGiven settings.component <;> cases hq : isGiven settings.query
      · exact absurd hq (neither hc)
      · exact nofun
      · exact nofun
      · exact absurd hq (both hc)

/-! ### Layers -/

/-- **What each part of a configuration is**: what the command line gives, or else what the file
says, or else the default. -/
structure Layered (given : Settings) (file : Option SettingsFile) (configuration : Configuration)
    (selection : Selection) : Prop where
  /-- A text is that of the command line if it is given there, and otherwise that of the file, if
  the file has it. -/
  text : ∀ setting : TextSetting, setting.value configuration selection
    = setting.written ((setting.given given).or (file.bind setting.inFile))
  /-- So is the number of tickets, which is zero if there is none. -/
  maxTickets : configuration.maxTickets
    = ((given.maxTickets).or (file.bind (·.maxTickets?))).getD 0
  /-- A flag is on if it is given, or the file turns it on. -/
  flag : ∀ flag : Flag, flag.value configuration = true ↔
    (flag.given given).isSome = true ∨ ∃ f, file = some f ∧ f.flag "issues" flag.name = .ok true
  /-- The certificate is not verified if the option for this is given, or the file has the section
  of the issue server and turns the verification off. -/
  verify : configuration.verify = some false ↔
    given.verify.isSome = true ∨ ∃ f, file = some f ∧ f.TurnsOffVerification
  /-- In all other cases it is. -/
  known : configuration.verify ≠ none
  /-- A name is mapped as the command line says, or else as the file says; other keys are not
  mapped. -/
  mapping : ∃ mapped, mappingEntries given.mapping = .ok mapped ∧ ∀ key,
    configuration.mapping.get? key
      = (mapped.get? key).or (((file.bind (·.usernames?)).getD []).get? key)
  /-- Either a component is selected or a query, and not both. -/
  selection : isGiven selection.component ≠ isGiven selection.query

namespace Settings

variable {given below : Settings} (switches : given.OnlySwitches)

include switches

/-- A flag is on if it is given, or on below. -/
theorem flag_overriddenBy_iff (flag : Flag) :
    (flag.given (below.overriddenBy given)).getD false = true ↔
      (flag.given given).isSome = true ∨ flag.given below = some true := by
  have on := switches.flag flag
  rw [flag.given_overriddenBy]
  cases hg : flag.given given with
  | none => cases flag.given below <;> simp
  | some b =>
    cases b with
    | true => simp
    | false => exact absurd hg on

/-- The verification is that of below, unless it is off. -/
theorem verify_overriddenBy :
    (below.overriddenBy given).verify
      = if given.verify.isSome = true then some (some false) else below.verify := by
  have verify : (below.overriddenBy given).verify = given.verify.or below.verify :=
    Option.or_eq_orElse.symm
  rw [verify]
  cases hv : given.verify with
  | none => rfl
  | some verify =>
    rw [switches.verify verify hv]
    rfl

/-- A mapping that is written is put over the dictionary from below. -/
theorem mapping_overriddenBy (mapping : below.mapping = none) :
    (below.overriddenBy given).mapping = given.mapping ∧
      (below.overriddenBy given).usernames = below.usernames := by
  simp [overriddenBy, mapping, switches.usernames]

/-- **What is configured from settings over those of a file.** -/
theorem Configured.layered {file : Option SettingsFile} {configuration : Configuration}
    {selection : Selection} (read : below.ReadFrom file)
    (built : (below.overriddenBy given).Configured configuration selection) :
    Layered given file configuration selection := by
  constructor
  case text =>
    intro setting
    rw [built.text, setting.given_overriddenBy, read.text]
  case maxTickets =>
    rw [built.maxTickets, ← read.maxTickets, Option.or_eq_orElse]
    rfl
  case flag =>
    intro flag
    rw [built.flag, flag_overriddenBy_iff switches, read.flag]
  case verify =>
    rw [built.verify, verify_overriddenBy switches, ← read.verify]
    split
    · next off => simp [off]
    · next absent => cases below.verify <;> simp [absent]
  case known =>
    rw [built.verify, verify_overriddenBy switches]
    have known := read.known
    split
    · exact nofun
    · cases hb : below.verify with
      | none => exact nofun
      | some verify => simpa [hb] using known
  case mapping =>
    obtain ⟨mapped, hm, hu⟩ := built.mapping
    obtain ⟨written, usernames⟩ := mapping_overriddenBy switches read.mapping
    rw [written] at hm
    refine ⟨mapped, hm, fun key => ?_⟩
    obtain ⟨mapping, distinct, rfl⟩ := exists_of_mappingEntries hm
    rw [hu, usernames, read.usernames, Entries.get?_update distinct]
  case selection => exact built.selection

end Settings

/-- A configuration is made from the settings. -/
theorem exists_of_configurationFor {files : String → Option (List UInt8)} {arguments : Arguments}
    {both : Configuration × Selection} (h : configurationFor files arguments = .ok both) :
    ∃ settings, settingsFor files arguments = .ok settings ∧ settings.configure = .ok both := by
  unfold configurationFor at h
  split at h
  · cases h
  · cases h
  · next settings hs =>
    split at h
    · cases h
    · next both' hc =>
      cases h
      exact ⟨settings, hs, hc⟩

/-- **Command line over file over default.**

For every command line that can be parsed and whose settings, together with those of the file that
it names, make a configuration: each part of the configuration and of the selection comes from the
first of the three places that has it. -/
theorem layered_of_configurationFor {files : String → Option (List UInt8)} {argv : List String}
    {arguments : Arguments} {configuration : Configuration} {selection : Selection}
    (parsed : parseArguments argv = .ok (.migrate arguments))
    (configured : configurationFor files arguments = .ok (configuration, selection)) :
    ∃ file, arguments.Names files file ∧
      Layered arguments.settings file configuration selection := by
  obtain ⟨settings, hs, hc⟩ := exists_of_configurationFor configured
  obtain ⟨file, below, named, read, rfl⟩ := exists_of_settingsFor hs
  have switches := onlySwitches_of_parseArguments parsed
  have built := Settings.configured_of_configure hc
  exact ⟨file, named, built.layered switches read⟩

/-- A command line that leaves some settings to a file. -/
def mixedArguments : List String :=
  ["--config", "a.cfg", "-t", "https://a.org/", "-g", "https://b.org", "-k", "secret", "-p", "a/b",
    "--showonly", "-m", "ann=alice"]

/-- What it gives. -/
def mixedGiven : Arguments where
  settings.tracker := some "https://a.org/"
  settings.forge := some "https://b.org"
  settings.token := some "secret"
  settings.project := some "a/b"
  settings.mapping := some "ann=alice"
  settings.dryRun := some true
  config := some "a.cfg"

/-- Either place has a setting that the other one lacks. -/
theorem layered_of_configurationFor_mixed :
    let files : String → Option (List UInt8) := fun _ => some (encode
      "[target]\nssl_verify=no\nusernames=\x7b'bob':'b'\x7d\n[issues]\nquery=a\n".toList)
    ∃ configuration selection,
      parseArguments mixedArguments = .ok (.migrate mixedGiven) ∧
      configurationFor files mixedGiven = .ok (configuration, selection) ∧
      ∃ file, mixedGiven.Names files file ∧
        Layered mixedGiven.settings file configuration selection := by
  intro files
  have parsed : parseArguments mixedArguments = .ok (.migrate mixedGiven) := by cbv
  have built : (configurationFor files mixedGiven).toBool = true := by decide +kernel
  cases configured : configurationFor files mixedGiven with
  | ok both =>
    exact ⟨both.1, both.2, parsed, rfl, layered_of_configurationFor parsed configured⟩
  | error ending =>
    rw [configured] at built
    cases built

end TicketMigration
