import Mathlib.Data.List.Induction
import TicketMigration.Proofs.MappingText

/-!
# Which settings make a configuration

Between what a user gives and the two servers there is one gate.  It asks for four texts, for either
a component or a query, for a number that is not negative and for a mapping that can be read; an
empty text counts as none given, and so does an empty mapping, but not a blank one.  What fails is
told as a fault that the settings have, and nothing else fails.

## Main definitions

* `Settings.Has` — settings have a fault.
* `Settings.Writes` — the mapping that is written in settings.
* `EndsWithout` — a text is another one without the repetitions of a character at its end.
* `Settings.Accepted` — what is made of settings without a fault.
* `Settings.Judged` — **which settings are refused, and what is made of the others.**

## Main statements

* `Settings.has_of_configure_eq_error` — what is told is a fault that the settings have.
* `Settings.not_has_of_configure_eq_ok` — settings that make a configuration have none.
* `Settings.judged` — **settings are refused exactly if they have a fault.**
-/

namespace TicketMigration

open Text

/-! ### Faults -/

/-- What the settings say for a setting that has to be given. -/
def RequiredSetting.given (settings : Settings) : RequiredSetting → Option String
  | tracker => settings.tracker
  | forge => settings.forge
  | token => settings.token
  | project => settings.project

/-- Settings have a fault. -/
inductive Settings.Has (settings : Settings) : SettingsFault → Prop
  /-- A text that has to be given is not, or is empty. -/
  | missing {setting : RequiredSetting} (absent : isGiven (setting.given settings) = false) :
      Has settings (.missing setting)
  /-- Neither a component nor a query is given, or those that are given are empty. -/
  | noSelection (component : isGiven settings.component = false)
      (query : isGiven settings.query = false) : Has settings .noSelection
  /-- A component is given, and a query as well. -/
  | twoSelections (component : isGiven settings.component = true)
      (query : isGiven settings.query = true) : Has settings .twoSelections
  /-- A number is given that is negative. -/
  | negativeNumber {n : Int} (given : settings.maxTickets = some n) (negative : n < 0) :
      Has settings .negativeNumber
  /-- A mapping is given that is not empty and cannot be read. -/
  | badMapping {s : String} {part : List Char} (given : settings.mapping = some s)
      (proper : s ≠ "") (fault : readMapping s.toList = .error part) :
      Has settings (.badMapping part)

theorem isGiven_eq_false_iff {text : Option String} :
    isGiven text = false ↔ text.filter (fun s => !s.isEmpty) = none := by
  cases text with
  | none => simp [isGiven]
  | some s => simp [isGiven, Option.filter_eq_none_iff]

theorem required_eq_error_iff {setting : RequiredSetting} {text : Option String}
    {fault : SettingsFault} :
    required setting text = .error fault ↔ isGiven text = false ∧ fault = .missing setting := by
  rw [isGiven_eq_false_iff, required]
  split
  · next s found => simp [found]
  · next absent => simp [absent, eq_comm]

namespace Settings

variable {settings : Settings} {fault : SettingsFault} {configuration : Configuration}
  {selection : Selection}

theorem has_of_checkSelection (h : settings.checkSelection = .error fault) :
    settings.Has fault := by
  unfold checkSelection at h
  split at h
  · next component query =>
    cases h
    exact .noSelection component query
  · next component query =>
    cases h
    exact .twoSelections component query
  · cases h

theorem has_of_limit (h : settings.limit = .error fault) : settings.Has fault := by
  unfold limit at h
  dsimp only at h
  split at h
  · next negative =>
    cases h
    cases given : settings.maxTickets with
    | none => simp [given] at negative
    | some n => exact .negativeNumber given (by simpa [given] using negative)
  · cases h

theorem has_of_mappingEntries (h : mappingEntries settings.mapping = .error fault) :
    settings.Has fault := by
  unfold mappingEntries at h
  split at h
  · cases h
  · next s found =>
    obtain ⟨given, proper⟩ := Option.filter_eq_some_iff.1 found
    split at h
    · cases h
    · next part unread =>
      cases h
      exact .badMapping given (by simpa using proper) unread

/-- What is told is a fault that the settings have. -/
theorem has_of_configure_eq_error (h : settings.configure = .error fault) : settings.Has fault := by
  -- the checks in their order: the first that fails tells its fault
  have missing (setting : RequiredSetting)
      (fails : required setting (setting.given settings) = .error fault) : settings.Has fault := by
    obtain ⟨absent, rfl⟩ := required_eq_error_iff.1 fails
    exact .missing absent
  rcases Except.bind_eq_error h with fails | ⟨tracker, -, h⟩
  · exact missing .tracker fails
  rcases Except.bind_eq_error h with fails | ⟨forge, -, h⟩
  · exact missing .forge fails
  rcases Except.bind_eq_error h with fails | ⟨token, -, h⟩
  · exact missing .token fails
  rcases Except.bind_eq_error h with fails | ⟨project, -, h⟩
  · exact missing .project fails
  rcases Except.bind_eq_error h with fails | ⟨_, -, h⟩
  · exact has_of_checkSelection fails
  rcases Except.bind_eq_error h with fails | ⟨maxTickets, -, h⟩
  · exact has_of_limit fails
  rcases Except.bind_eq_error h with fails | ⟨given, -, h⟩
  · exact has_of_mappingEntries fails
  · cases h

/-- Settings that make a configuration have no fault. -/
theorem not_has_of_configure_eq_ok (h : settings.configure = .ok (configuration, selection))
    (fault : SettingsFault) : ¬settings.Has fault := by
  obtain ⟨tracker, htracker, h⟩ := Except.bind_eq_ok h
  obtain ⟨forge, hforge, h⟩ := Except.bind_eq_ok h
  obtain ⟨token, htoken, h⟩ := Except.bind_eq_ok h
  obtain ⟨project, hproject, h⟩ := Except.bind_eq_ok h
  obtain ⟨_, hselection, h⟩ := Except.bind_eq_ok h
  obtain ⟨maxTickets, hmaxTickets, h⟩ := Except.bind_eq_ok h
  obtain ⟨mapped, hmapped, -⟩ := Except.bind_eq_ok h
  -- a fault makes the check fail that looks for it
  intro has
  cases has with
  | @missing setting absent =>
    have fails : required setting (setting.given settings) = .error (.missing setting) :=
      required_eq_error_iff.2 ⟨absent, rfl⟩
    cases setting
    case tracker => cases htracker.symm.trans fails
    case forge => cases hforge.symm.trans fails
    case token => cases htoken.symm.trans fails
    case project => cases hproject.symm.trans fails
  | noSelection component query =>
    rw [checkSelection, component, query] at hselection
    cases hselection
  | twoSelections component query =>
    rw [checkSelection, component, query] at hselection
    cases hselection
  | negativeNumber given negative =>
    rw [limit, given, Option.getD_some, if_pos negative] at hmaxTickets
    cases hmaxTickets
  | badMapping given proper unread =>
    rw [mappingEntries, given, Option.filter_some_pos (by simpa using proper)] at hmapped
    dsimp only at hmapped
    rw [unread] at hmapped
    cases hmapped

/-! ### Configurations -/

/-- The mapping that is written in the settings: that of the text that is given, or no entries. -/
inductive Writes (settings : Settings) : UserMapping → Prop
  /-- No text is given, or an empty one. -/
  | nothing (absent : isGiven settings.mapping = false) : Writes settings []
  /-- A text is given, and can be read. -/
  | mapping {s : String} {written : UserMapping} (given : settings.mapping = some s)
      (proper : s ≠ "") (read : readMapping s.toList = .ok written) : Writes settings written

theorem exists_writes_of_mappingEntries {mapped : Entries}
    (h : mappingEntries settings.mapping = .ok mapped) :
    ∃ written, settings.Writes written ∧ mapped = written.entries := by
  unfold mappingEntries at h
  split at h
  · next absent =>
    cases h
    exact ⟨[], .nothing (isGiven_eq_false_iff.2 absent), rfl⟩
  · next s found =>
    obtain ⟨given, proper⟩ := Option.filter_eq_some_iff.1 found
    split at h
    · next written read =>
      cases h
      exact ⟨written, .mapping given (by simpa using proper) read, rfl⟩
    · cases h

end Settings

/-- A text is another one without the repetitions of a character at its end. -/
def EndsWithout (c : Char) (given s : String) : Prop :=
  (∃ n, given.toList = s.toList ++ List.replicate n c) ∧ s.toList.getLast? ≠ some c

theorem endsWithout_dropTrailing (c : Char) (given : String) :
    EndsWithout c given (dropTrailing c given) := by
  rw [EndsWithout, dropTrailing, String.toList_ofList]
  induction given.toList using List.reverseRecOn with
  | nil => exact ⟨⟨0, rfl⟩, by simp [dropEndWhile]⟩
  | append_singleton front last ih =>
    rw [dropEndWhile_concat]
    split
    · next same =>
      obtain ⟨⟨n, whole⟩, without⟩ := ih
      refine ⟨⟨n + 1, ?_⟩, without⟩
      rw [List.replicate_succ', ← List.append_assoc, ← whole, eq_of_beq same]
    · next other => exact ⟨⟨0, by simp⟩, by simpa using other⟩

/-- **What is made of settings without a fault.** -/
structure Settings.Accepted (settings : Settings) (configuration : Configuration)
    (selection : Selection) : Prop where
  /-- The address of the tracker is the one that is given, without slashes at its end. -/
  trackerUrl : ∃ given, settings.tracker = some given ∧
    EndsWithout '/' given configuration.trackerUrl
  /-- So is that of the issue server. -/
  forgeUrl : ∃ given, settings.forge = some given ∧ EndsWithout '/' given configuration.forgeUrl
  /-- The number of tickets is not negative; none given is zero. -/
  maxTickets : configuration.maxTickets = settings.maxTickets.getD 0 ∧ 0 ≤ configuration.maxTickets
  /-- The mapping is the dictionary, updated with the mapping that is written.  If the dictionary
  has names only, each name has its last target. -/
  mapping : ∃ written, settings.Writes written ∧
    configuration.mapping = Entries.update (settings.usernames.getD []) written.entries ∧
      ∀ names : UserMapping, settings.usernames.getD [] = names.entries →
        (names.map Prod.fst).Nodup → configuration.mapping = (names.update written).entries ∧
          Collects (names ++ written) (names.update written)
  /-- The selection is the one that is given, and has either a component or a query. -/
  selected : selection.component = settings.component ∧ selection.query = settings.query ∧
    isGiven selection.component ≠ isGiven selection.query
  /-- The other parts are the ones that are given, or have their defaults. -/
  parts : settings.Configured configuration selection

/-- **Which settings are refused, and what is made of the others.** -/
structure Settings.Judged (settings : Settings) : Prop where
  /-- Settings are refused exactly if they have a fault. -/
  refused : (∃ fault, settings.configure = .error fault) ↔ ∃ fault, settings.Has fault
  /-- What is told is a fault that they have. -/
  told : ∀ fault, settings.configure = .error fault → settings.Has fault
  /-- Otherwise they make a configuration. -/
  accepted : (∀ fault, ¬settings.Has fault) → ∃ configuration selection,
    settings.configure = .ok (configuration, selection) ∧
      settings.Accepted configuration selection

namespace Settings

variable {settings : Settings} {configuration : Configuration} {selection : Selection}

theorem accepted_of_configure (h : settings.configure = .ok (configuration, selection)) :
    settings.Accepted configuration selection := by
  have parts := configured_of_configure h
  have sound := not_has_of_configure_eq_ok h
  have url {url : String} {given : Option String}
      (written : some url = given.map (dropTrailing '/')) :
      ∃ text, given = some text ∧ EndsWithout '/' text url := by
    obtain ⟨text, rfl, rfl⟩ := Option.map_eq_some_iff.1 written.symm
    exact ⟨text, rfl, endsWithout_dropTrailing '/' text⟩
  constructor
  case trackerUrl => exact url (parts.text .tracker)
  case forgeUrl => exact url (parts.text .forge)
  case maxTickets =>
    refine ⟨parts.maxTickets, ?_⟩
    rw [parts.maxTickets]
    cases given : settings.maxTickets with
    | none => exact Int.le_refl 0
    | some n => exact Int.not_lt.1 fun negative => sound _ (.negativeNumber given negative)
  case mapping =>
    obtain ⟨mapped, read, made⟩ := parts.mapping
    obtain ⟨written, writes, rfl⟩ := exists_writes_of_mappingEntries read
    refine ⟨written, writes, made, fun names dictionary distinct => ⟨?_, ?_⟩⟩
    · rw [made, dictionary, UserMapping.entries_update]
    · exact (collects_self distinct).update written
  case selected => exact ⟨parts.text .component, parts.text .query, parts.selection⟩
  case parts => exact parts

/-- **Settings are refused exactly if they have a fault.** -/
theorem judged (settings : Settings) : settings.Judged := by
  constructor
  case refused =>
    constructor
    · rintro ⟨fault, fails⟩
      exact ⟨fault, has_of_configure_eq_error fails⟩
    · rintro ⟨fault, has⟩
      cases made : settings.configure with
      | error fault => exact ⟨fault, rfl⟩
      | ok both => exact absurd has (not_has_of_configure_eq_ok made fault)
  case told => exact fun _ => has_of_configure_eq_error
  case accepted =>
    intro sound
    cases made : settings.configure with
    | error fault => exact absurd (has_of_configure_eq_error made) (sound fault)
    | ok both => exact ⟨both.1, both.2, rfl, accepted_of_configure made⟩

end Settings

end TicketMigration
