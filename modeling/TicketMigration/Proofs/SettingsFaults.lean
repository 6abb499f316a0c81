import TicketMigration.Proofs.Endings
import TicketMigration.Proofs.FileLayout

/-!
# What a settings file can do to the program

Most of what can be wrong with a settings file is reported as a fault of the settings, and the
program ends with the status for that before anything is asked.  But a file without a proper layout,
and usernames that are an expression without a datum for a few uncommon reasons, end the program
without a status.  Here it is told which files these are.

## Main definitions

* `settingsPath?` — the settings file that the command line names.
* `LoadFault.Reportable` — a fault is one of the settings.
* `Uncaught` — a result is a fault that is none of the settings.
* `SettingsFile.FlagsRead` — the truth values of a file can be read.
* `SettingsFile.Breaks` — the usernames of a file end the program.
* `RunsOrReports` — the program migrates, or ends with the status for faulty settings.

## Main statements

* `Settings.uncaught_ofFile_iff` — the usernames are all that can break a legible file.
* `runsOrReports_iff` — **the program migrates or reports faulty settings exactly if the file is
  legible and does not break.**
-/

namespace TicketMigration

open Text Literal

variable {σ α β : Type}

/-- The settings file that the command line names. -/
def settingsPath? (arguments : List String) : Option String :=
  match parseArguments arguments with
  | .ok (.migrate options) => options.config.filter fun path => !path.isEmpty
  | _ => none

/-! ### Faults -/

/-- The fault is one of the settings. -/
def LoadFault.Reportable (fault : LoadFault) : Prop :=
  ∃ setting, fault = .settings setting

/-- The result is a fault, but none of the settings. -/
def Uncaught (result : Except LoadFault α) : Prop :=
  ∃ fault, result = .error fault ∧ ¬fault.Reportable

theorem not_uncaught_ok (a : α) : ¬Uncaught (.ok a : Except LoadFault α) := by
  rintro ⟨_, ⟨⟩, -⟩

theorem not_uncaught_settings (fault : SettingsFault) :
    ¬Uncaught (.error (.settings fault) : Except LoadFault α) := by
  rintro ⟨_, ⟨⟩, other⟩
  exact other ⟨fault, rfl⟩

/-- A fault of the whole is one of the first part, or one of the second part. -/
theorem uncaught_bind_iff {x : Except LoadFault α} {f : α → Except LoadFault β} :
    Uncaught (x >>= f) ↔ Uncaught x ∨ ∃ a, x = .ok a ∧ Uncaught (f a) := by
  cases x with
  | ok a =>
    constructor
    · exact fun h => .inr ⟨a, rfl, h⟩
    · rintro (h | ⟨_, ⟨⟩, h⟩)
      · exact absurd h (not_uncaught_ok a)
      · exact h
  | error fault =>
    constructor
    · rintro ⟨_, ⟨⟩, other⟩
      exact .inl ⟨fault, rfl, other⟩
    · rintro (⟨_, ⟨⟩, other⟩ | ⟨_, ⟨⟩, -⟩)
      exact ⟨fault, rfl, other⟩

/-- If only faults of the settings can come of the first part, it has a value. -/
theorem uncaught_bind_of_not {x : Except LoadFault α} {f : α → Except LoadFault β}
    (h : ¬Uncaught x) : Uncaught (x >>= f) ↔ ∃ a, x = .ok a ∧ Uncaught (f a) := by
  rw [uncaught_bind_iff, or_iff_right h]

/-- A setting that is not given has no fault. -/
theorem uncaught_mapM_iff {given : Option α} {f : α → Except LoadFault β} :
    Uncaught (given.mapM f) ↔ ∃ a, given = some a ∧ Uncaught (f a) := by
  cases given with
  | none =>
    constructor
    · exact fun h => absurd h (not_uncaught_ok none)
    · rintro ⟨_, ⟨⟩, -⟩
  | some a =>
    have map : (some a).mapM f = f a >>= fun b => pure (some b) := rfl
    rw [map, uncaught_bind_iff]
    constructor
    · rintro (h | ⟨b, -, h⟩)
      · exact ⟨a, rfl, h⟩
      · exact absurd h (not_uncaught_ok _)
    · rintro ⟨_, ⟨⟩, h⟩
      exact .inl h

/-! ### Settings -/

namespace SettingsFile

/-- The sections and names of the truth values, in the order in which they are read. -/
def flagPlaces : List (String × String) :=
  [("issues", "admin"), ("issues", "link"), ("issues", "label_component"),
    ("issues", "label_milestone"), ("issues", "dry_run"), ("target", "ssl_verify")]

/-- All truth values can be read. -/
def FlagsRead (file : SettingsFile) : Prop :=
  ∀ place ∈ flagPlaces, ∃ value, file.flag place.1 place.2 = .ok value

/-- The usernames are found, but they are an expression whose datum cannot be computed: a key or the
member of a set cannot be one, a sum is too large, or the nesting is too deep. -/
def Breaks (file : SettingsFile) : Prop :=
  file.FlagsRead ∧ ∃ s fault, file.words? "target" "usernames" = some s ∧
    readLiteral s = .error fault ∧ fault ≠ .malformed

/-- A truth value that cannot be read is a fault of the settings. -/
theorem not_uncaught_flag (file : SettingsFile) (sectionName name : String) :
    ¬Uncaught (file.flag sectionName name) := by
  unfold flag
  split
  · exact not_uncaught_ok _
  · split
    · exact not_uncaught_ok _
    · exact not_uncaught_settings _

end SettingsFile

theorem uncaught_usernamesOf_iff (s : List Char) :
    Uncaught (usernamesOf s) ↔ ∃ fault, readLiteral s = .error fault ∧ fault ≠ .malformed := by
  unfold usernamesOf
  rcases readLiteral s with fault | value
  · cases fault <;> simp [Uncaught, LoadFault.Reportable]
  · cases value <;> simp [Uncaught, LoadFault.Reportable]

theorem not_uncaught_maxTicketsOf (s : List Char) : ¬Uncaught (maxTicketsOf s) := by
  unfold maxTicketsOf
  split
  · exact not_uncaught_ok _
  · exact not_uncaught_settings _

namespace Settings

/-- **Only the usernames can break a file**, and only if the truth values can be read. -/
theorem uncaught_ofFile_iff (file : SettingsFile) : Uncaught (ofFile file) ↔ file.Breaks := by
  have flag := file.not_uncaught_flag
  have tickets : ¬Uncaught ((file.words? "issues" "max_tickets").mapM maxTicketsOf) := by
    rw [uncaught_mapM_iff]
    rintro ⟨s, -, h⟩
    exact not_uncaught_maxTicketsOf s h
  have usernames : Uncaught ((file.words? "target" "usernames").mapM usernamesOf) ↔
      ∃ s fault, file.words? "target" "usernames" = some s ∧ readLiteral s = .error fault ∧
        fault ≠ .malformed := by
    rw [uncaught_mapM_iff]
    simp only [uncaught_usernamesOf_iff, exists_and_left]
  have flags : file.FlagsRead ↔ ∃ admin, file.flag "issues" "admin" = .ok admin ∧
      ∃ link, file.flag "issues" "link" = .ok link ∧
      ∃ component, file.flag "issues" "label_component" = .ok component ∧
      ∃ milestone, file.flag "issues" "label_milestone" = .ok milestone ∧
      ∃ dryRun, file.flag "issues" "dry_run" = .ok dryRun ∧
      ∃ verify, file.flag "target" "ssl_verify" = .ok verify := by
    simp only [SettingsFile.FlagsRead, SettingsFile.flagPlaces, List.forall_mem_cons,
      List.not_mem_nil, false_implies, implies_true, and_true, exists_and_right]
  unfold ofFile
  rw [SettingsFile.Breaks, flags, uncaught_bind_of_not (flag _ _)]
  simp only [uncaught_bind_of_not (flag _ _)]
  -- behind the truth values, the usernames break the file or nothing does
  have rest (settings : Option Entries → Option Int → Settings) : Uncaught (do
      let usernames ← (file.words? "target" "usernames").mapM usernamesOf
      let maxTickets ← (file.words? "issues" "max_tickets").mapM maxTicketsOf
      return settings usernames maxTickets) ↔
        ∃ s fault, file.words? "target" "usernames" = some s ∧ readLiteral s = .error fault ∧
          fault ≠ .malformed := by
    rw [uncaught_bind_iff, ← usernames]
    refine or_iff_left ?_
    rintro ⟨entries, -, h⟩
    obtain ⟨n, -, h⟩ := (uncaught_bind_of_not tickets).1 h
    exact not_uncaught_ok _ h
  simp only [rest, exists_and_right, exists_and_left, and_assoc]

theorem uncaught_ofBytes_iff (bytes : List UInt8) :
    Uncaught (ofBytes bytes) ↔
      ¬Legible bytes ∨ ∃ file, SettingsFile.ofBytes bytes = .ok file ∧ file.Breaks := by
  rw [← SettingsFile.exists_ofBytes_eq_ok_iff]
  unfold ofBytes
  cases SettingsFile.ofBytes bytes with
  | ok file => simp [uncaught_ofFile_iff]
  | error fault => simp [Uncaught, LoadFault.Reportable]

end Settings

/-! ### The program -/

section Program

variable {files : String → Option (List UInt8)} {arguments : List String} {path : String}
  {bytes : List UInt8}

/-- The program migrates, or it ends with the status for faulty settings and has asked nothing. -/
def RunsOrReports (files : String → Option (List UInt8)) (servers : Servers σ)
    (arguments : List String) (session : Session σ) : Prop :=
  (∃ configuration selection, Asked files arguments configuration selection) ∨
    (runProgram files servers arguments session).1.ending.status = some 2 ∧
      (runProgram files servers arguments session).2.requests = []

theorem exists_options_of_settingsPath? (named : settingsPath? arguments = some path) :
    ∃ options, parseArguments arguments = .ok (.migrate options) ∧
      options.config = some path ∧
      (options.config.filter fun path => !path.isEmpty) = some path := by
  unfold settingsPath? at named
  split at named
  · next options parsed =>
    refine ⟨options, parsed, ?_, named⟩
    exact (Option.filter_eq_some_iff.1 named).1
  · cases named

/-- Settings from a file end the program without a status exactly if their fault is none of the
settings. -/
theorem configurationFor_crash_iff {options : Arguments} (config : options.config = some path)
    (given : (options.config.filter fun path => !path.isEmpty) = some path)
    (proper : '\x00' ∉ path.toList) (holds : files path = some bytes) :
    Uncaught (Settings.ofBytes bytes) ↔
      ∃ fault, configurationFor files options = .error (.crash (.settings path fault)) := by
  have load : settingsFor files options
      = (Settings.ofBytes bytes).map (·.overriddenBy options.settings) := by
    have absent : path.toList.contains '\x00' = false := by simpa using proper
    unfold settingsFor Settings.load
    rw [given]
    simp only [absent, holds, Bool.false_eq_true, if_false]
  unfold configurationFor
  rw [load, config]
  cases Settings.ofBytes bytes with
  | ok settings =>
    simp only [Except.map, not_uncaught_ok, false_iff]
    rintro ⟨fault, h⟩
    split at h <;> cases h
  | error fault => cases fault <;> simp [Except.map, Uncaught, LoadFault.Reportable]

/-- **The program migrates or reports faulty settings exactly if the file is legible and does not
break.**

For every content of a settings file that the command line names: if it is the text of a file with a
proper layout, and the usernames in it, provided that the truth values can be read, have a datum or
are malformed, then the program asks nothing before it has a configuration, and without one it ends
with the status for faulty settings.  Any other file ends the program without a status, but it has
not asked anything then either. -/
theorem runsOrReports_iff (named : settingsPath? arguments = some path)
    (proper : '\x00' ∉ path.toList) (holds : files path = some bytes) (servers : Servers σ)
    (session : Session σ) :
    (RunsOrReports files servers arguments session ↔
        Legible bytes ∧ ∀ file, SettingsFile.ofBytes bytes = .ok file → ¬file.Breaks) ∧
      (¬RunsOrReports files servers arguments session →
        (∃ fault, (runProgram files servers arguments session).1.ending
            = .crash (.settings path fault)) ∧
          (runProgram files servers arguments session).2.requests = []) := by
  obtain ⟨options, parsed, config, given⟩ := exists_options_of_settingsPath? named
  have crash := configurationFor_crash_iff config given proper holds
  have sound : (Legible bytes ∧ ∀ file, SettingsFile.ofBytes bytes = .ok file → ¬file.Breaks) ↔
      ¬Uncaught (Settings.ofBytes bytes) := by
    rw [Settings.uncaught_ofBytes_iff]
    simp
  rw [sound, crash]
  cases configured : configurationFor files options with
  | ok both =>
    have asked : RunsOrReports files servers arguments session :=
      .inl ⟨both.1, both.2, options, parsed, configured⟩
    simp [asked]
  | error ending =>
    have run : runProgram files servers arguments session = ({ ending }, session.fresh) := by
      simp only [runProgram, parsed, configured]
      rfl
    have unasked : ¬∃ configuration selection, Asked files arguments configuration selection := by
      rintro ⟨configuration, selection, asked⟩
      exact not_asked_of_error parsed configured configuration selection asked
    have reports : RunsOrReports files servers arguments session ↔ ending.status = some 2 := by
      rw [RunsOrReports, or_iff_right unasked, run]
      exact and_iff_left rfl
    rw [reports, run]
    rcases configurationFor_error files configured with ⟨message, rfl⟩ | ⟨fault, rfl⟩
    · simp [Ending.status]
    · rw [config]
      simp [Ending.status, Session.fresh]

/-- A command line that leaves the rest to a settings file. -/
def configArguments : List String :=
  ["-t", "https://trac.example.org", "-g", "https://gitlab.example.org", "-k", "secret", "-p",
    "group/project", "-c", "core", "--config", "migrate.cfg"]

/-- A truth value that is none is reported, and nothing is asked. -/
theorem runsOrReports_iff_notBoolean :
    let bytes := encode "[target]\nssl_verify = maybe\n".toList
    let files : String → Option (List UInt8) := fun _ => some bytes
    settingsPath? configArguments = some "migrate.cfg" ∧ '\x00' ∉ "migrate.cfg".toList ∧
      files "migrate.cfg" = some bytes ∧
      (Legible bytes ∧ ∀ file, SettingsFile.ofBytes bytes = .ok file → ¬file.Breaks) ∧
      RunsOrReports files cutOff configArguments { world := () } := by
  intro bytes files
  have read : SettingsFile.ofBytes bytes = .ok
      { sections := ["target".toList]
        entries := [⟨"target".toList, "ssl_verify".toList, ["maybe".toList]⟩] } := by
    rw [SettingsFile.ofBytes, (decode_eq_text_iff bytes _).2 rfl]
    rfl
  have sound : Legible bytes ∧ ∀ file, SettingsFile.ofBytes bytes = .ok file → ¬file.Breaks := by
    refine ⟨(SettingsFile.exists_ofBytes_eq_ok_iff bytes).1 ⟨_, read⟩, ?_⟩
    rintro file h ⟨flags, -⟩
    rw [read] at h
    cases h
    obtain ⟨value, h⟩ := flags ("target", "ssl_verify") (by decide)
    cases h
  have named : settingsPath? configArguments = some "migrate.cfg" := by decide +kernel
  have proper : '\x00' ∉ "migrate.cfg".toList := by decide +kernel
  exact ⟨named, proper, rfl, sound,
    (runsOrReports_iff named proper rfl cutOff { world := () }).1.2 sound⟩

/-- A file in which a section is begun twice ends the program without a status. -/
theorem not_runsOrReports_repeatedSection :
    let bytes := encode "[issues]\n[issues]\n".toList
    let files : String → Option (List UInt8) := fun _ => some bytes
    settingsPath? configArguments = some "migrate.cfg" ∧ files "migrate.cfg" = some bytes ∧
      ¬RunsOrReports files cutOff configArguments { world := () } := by
  intro bytes files
  have named : settingsPath? configArguments = some "migrate.cfg" := by decide +kernel
  have read : SettingsFile.ofBytes bytes = .error (.repeatedSection 2 "issues".toList) := by
    rw [SettingsFile.ofBytes, (decode_eq_text_iff bytes _).2 rfl]
    rfl
  have uncaught : Uncaught (Settings.ofBytes bytes) := by
    rw [Settings.ofBytes, read]
    exact ⟨_, rfl, by rintro ⟨_, ⟨⟩⟩⟩
  obtain ⟨options, parsed, config, given⟩ := exists_options_of_settingsPath? named
  have holds : files "migrate.cfg" = some bytes := rfl
  obtain ⟨fault, configured⟩ :=
    (configurationFor_crash_iff config given (by decide +kernel) holds).1 uncaught
  refine ⟨named, holds, ?_⟩
  have run : runProgram files cutOff configArguments { world := () }
      = ({ ending := .crash (.settings "migrate.cfg" fault) }, { world := () }) := by
    simp only [runProgram, parsed, configured]
  rintro (⟨configuration, selection, asked⟩ | ⟨status, -⟩)
  · exact not_asked_of_error parsed configured configuration selection asked
  · rw [run] at status
    cases status

end Program

end TicketMigration
