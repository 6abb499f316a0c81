import TicketMigration.Proofs.Precedence
import TicketMigration.Proofs.Tallies

/-!
# Which user mappings can be used

A user mapping is of use if it maps names to names.  A mapping that is written on the command line
always does, or it is refused.  Of the dictionary in a settings file, nothing is asked but that it
is a dictionary: it may map anything that can be a key to any datum, and looking up a name that is
mapped to a list fails in the middle of a migration.

## Main definitions

* `Value.isName` — a text that is not empty.
* `Entries.Usable` — a mapping from names to names.
* `Entries.Sound` — looking up a name fails only where fetching the users does.
* `MappingJudged` — **what the mapping of a configuration is good for.**

## Main statements

* `isName_of_mappingEntries` — what is written on the command line maps names to names.
* `Entries.sound_iff` — look-ups are sound exactly if names are mapped to what can be a key.
* `Migration.exists_failure_of_usable` — with a usable mapping, a migration fails only with a
  request.
* `mappingJudged_of_configurationFor` — **a mapping is usable, and its look-ups are sound, exactly
  if the dictionary of the file is, where the command line does not say otherwise.**
-/

namespace TicketMigration

open Text

variable {σ : Type}

/-! ### Names -/

/-- A text that is not empty. -/
def Value.isName : Value → Bool
  | text (_ :: _) => true
  | _ => false

theorem Value.isKey_of_isName {value : Value} (h : value.isName = true) : value.isKey = true := by
  cases value <;> first | rfl | cases h

theorem Value.isName_text {name : List Char} (h : name ≠ []) :
    (Value.text (name.map Char.toNat)).isName = true := by
  cases name with
  | nil => exact absurd rfl h
  | cons c name => rfl

namespace Entries

variable {entries more : Entries}

/-- A mapping from names to names.  The value of a key is the one that is found for it. -/
structure Usable (mapping : Entries) : Prop where
  /-- Every key is a name. -/
  keys : ∀ entry ∈ mapping, entry.1.isName = true
  /-- Every value is a name. -/
  values : ∀ key value, mapping.get? key = some value → value.isName = true

/-- Setting the value of a name does not change whether all keys are names. -/
theorem forall_isName_put {key : Value} (named : key.isName = true) (value : Value)
    (entries : Entries) :
    (∀ entry ∈ put key value entries, entry.1.isName = true) ↔
      ∀ entry ∈ entries, entry.1.isName = true := by
  induction entries with
  | nil => simp [put, named]
  | cons entry rest ih =>
    rw [put]
    split
    · rw [List.forall_mem_cons, List.forall_mem_cons]
    · rw [List.forall_mem_cons, List.forall_mem_cons, ih]

theorem forall_isName_update (named : ∀ entry ∈ more, entry.1.isName = true) (entries : Entries) :
    (∀ entry ∈ entries.update more, entry.1.isName = true) ↔
      ∀ entry ∈ entries, entry.1.isName = true := by
  induction more generalizing entries with
  | nil => rfl
  | cons entry rest ih =>
    obtain ⟨first, others⟩ := List.forall_mem_cons.1 named
    exact (ih others (put entry.1 entry.2 entries)).trans (forall_isName_put first entry.2 entries)

end Entries

/-! ### Written mappings -/

theorem UserMapping.mem_put {name target : List Char} {mapping : UserMapping}
    {entry : List Char × List Char} (h : entry ∈ mapping.put name target) :
    entry = (name, target) ∨ entry ∈ mapping := by
  induction mapping with
  | nil => exact .inl (List.mem_singleton.1 h)
  | cons first rest ih =>
    rw [put] at h
    split at h
    · exact (List.mem_cons.1 h).imp id (List.mem_cons_of_mem _)
    · rcases List.mem_cons.1 h with rfl | h
      · exact .inr List.mem_cons_self
      · exact (ih h).imp id (List.mem_cons_of_mem _)

/-- Neither side of an item is empty. -/
theorem ne_nil_of_mappingEntry? {item : List Char} {entry : List Char × List Char}
    (h : mappingEntry? item = some entry) : entry.1 ≠ [] ∧ entry.2 ≠ [] := by
  unfold mappingEntry? at h
  split at h
  · next name target _ =>
    split at h
    · cases h
    · next visible =>
      obtain rfl := Option.some.inj h
      rw [Bool.or_eq_true, not_or] at visible
      exact ⟨mt (trim_eq_nil_iff name).1 visible.1, mt (trim_eq_nil_iff target).1 visible.2⟩
  · cases h

theorem ne_nil_of_readItems {items : List (List Char)} {mapping result : UserMapping}
    (proper : ∀ entry ∈ mapping, entry.1 ≠ [] ∧ entry.2 ≠ [])
    (h : readItems mapping items = .ok result) : ∀ entry ∈ result, entry.1 ≠ [] ∧ entry.2 ≠ [] := by
  induction items generalizing mapping with
  | nil =>
    cases h
    exact proper
  | cons item rest ih =>
    rw [readItems] at h
    split at h
    · next entry found =>
      refine ih (fun other mem => ?_) h
      rcases UserMapping.mem_put mem with rfl | mem
      · exact ne_nil_of_mappingEntry? found
      · exact proper other mem
    · cases h

/-- What is read maps no empty name, and none to an empty one. -/
theorem ne_nil_of_readMapping {s : List Char} {mapping : UserMapping}
    (h : readMapping s = .ok mapping) : ∀ entry ∈ mapping, entry.1 ≠ [] ∧ entry.2 ≠ [] := by
  unfold readMapping at h
  split at h
  · cases h
  · exact ne_nil_of_readItems (by simp) h

/-- What is written on the command line maps names to names. -/
theorem isName_of_mappingEntries {written : Option String} {mapped : Entries}
    (h : mappingEntries written = .ok mapped) :
    ∀ entry ∈ mapped, entry.1.isName = true ∧ entry.2.isName = true := by
  unfold mappingEntries at h
  split at h
  · cases h
    simp
  · split at h
    · next mapping read =>
      cases h
      intro entry mem
      obtain ⟨pair, hp, rfl⟩ := List.mem_map.1 mem
      obtain ⟨name, target⟩ := ne_nil_of_readMapping read pair hp
      exact ⟨Value.isName_text name, Value.isName_text target⟩
    · cases h

/-! ### Looking up -/

/-- Looking up a name fails only where fetching the users does, wherever the users come from. -/
def Entries.Sound (mapping : Entries) : Prop :=
  ∀ (σ : Type) (directory : Directory σ) (name : Option String) (before after : Session σ)
    (failure : Failure),
    ((⟨directory, mapping⟩ : Resolver σ).find name).start before = (.error failure, after) →
      directory.roster.start before = (.error failure, after)

/-- A name is looked up among the users, if it is mapped to what can be a key, and is counted if it
stands for nobody. -/
theorem Resolver.start_find (resolver : Resolver σ) {name : String} (named : name ≠ "")
    (before : Session σ) :
    (resolver.find (some name)).start before =
      match resolver.directory.roster.start before with
      | (.error failure, after) => (.error failure, after)
      | (.ok users, after) =>
        if (resolver.target name).isKey then
          (.ok (users.userOf (resolver.target name)),
            if (users.userOf (resolver.target name)).isNone then
              { after with misses := after.misses.add name }
            else after)
        else (.error .unhashable, after) := by
  have nonempty : ¬name.isEmpty = true := by simpa using named
  have count (user : Option RemoteUser) (session : Session σ) :
      (do
        if user.isNone then
          modify fun session => { session with misses := session.misses.add name }
        return user : Run σ (Option RemoteUser)).start session
        = (.ok user, if user.isNone then { session with misses := session.misses.add name }
            else session) := by
    cases user <;> rfl
  simp only [find]
  rw [if_neg nonempty, Run.start_bind, Directory.get?, Run.start_bind]
  rcases resolver.directory.roster.start before with ⟨_ | users, after⟩
  · rfl
  · dsimp only
    by_cases key : (resolver.target name).isKey = true
    · rw [if_pos key, if_pos key]
      exact count (users.userOf (resolver.target name)) after
    · rw [if_neg key, if_neg key]
      rfl

namespace Entries

/-- **Look-ups are sound exactly if names are mapped to what can be a key.** -/
theorem sound_iff (mapping : Entries) :
    mapping.Sound ↔ ∀ name : String, name ≠ "" → ∀ value,
      mapping.get? (.ofString name) = some value → value.isKey = true := by
  constructor
  · intro sound name named value found
    -- the users are known here, so nothing but the value of the name can fail
    let resolver : Resolver Unit := ⟨⟨fun _ _ => pure [], 100, 50⟩, mapping⟩
    let session : Session Unit := { world := (), roster := some [] }
    have target : resolver.target name = value := by rw [Resolver.target, found, Option.getD_some]
    cases key : value.isKey with
    | true => rfl
    | false =>
      have fails : (resolver.find (some name)).start session = (.error .unhashable, session) := by
        rw [resolver.start_find named, target, key]
        rfl
      cases sound Unit resolver.directory (some name) session session .unhashable fails
  · intro keys σ directory name before after failure fails
    cases name with
    | none => cases fails
    | some name =>
      by_cases empty : name = ""
      · rw [empty] at fails
        cases fails
      · have key : ((⟨directory, mapping⟩ : Resolver σ).target name).isKey = true := by
          rw [Resolver.target]
          cases found : mapping.get? (.ofString name) with
          | none => rfl
          | some value => exact keys name empty value found
        rw [Resolver.start_find _ empty] at fails
        rcases hr : directory.roster.start before with ⟨_ | users, between⟩
        all_goals
          rw [hr] at fails
          dsimp only at fails
        · obtain ⟨same, rfl⟩ := Prod.mk.inj fails
          rw [Except.error.inj same]
        · rw [if_pos key] at fails
          cases (Prod.mk.inj fails).1

theorem Usable.sound {mapping : Entries} (usable : mapping.Usable) : mapping.Sound :=
  mapping.sound_iff.2 fun _ _ _ found => Value.isKey_of_isName (usable.values _ _ found)

end Entries

/-- With a usable mapping, every name stands for what can be a key. -/
theorem Entries.Usable.isKey_target {resolver : Resolver σ} (usable : resolver.mapping.Usable)
    (name : String) : (resolver.target name).isKey = true := by
  rw [Resolver.target]
  cases found : resolver.mapping.get? (.ofString name) with
  | none => rfl
  | some value => exact Value.isKey_of_isName (usable.values _ _ found)

/-- With a usable mapping, a migration fails only with the failure of a request. -/
theorem Migration.exists_failure_of_usable (migration : Migration σ)
    (plain : migration.resolver.directory.Plain migration.servers fun _ => False)
    (usable : migration.resolver.mapping.Usable) (tickets : List Ticket) (project label : String)
    (session : Session σ) {failure : Failure}
    (fails : ((migration.migrateAll tickets project label).start session).1 = .error failure) :
    ∃ exchange ∈ migration.servers.exchanges session
        ((migration.migrateAll tickets project label).start session).2,
      exchange.failure? = some failure := by
  obtain ⟨trace, passed, tallied⟩ := does_migrateAll_tallied plain tickets project label session
  rw [passed.exchanges_eq]
  have failed := congrArg failure? fails
  rcases tallied.fails failure failed with found | ⟨name, -, ⟨-, missing⟩ | ⟨⟨⟩⟩⟩
  · exact found
  · obtain ⟨name, notKey⟩ := migration.resolver.exists_target_of_canFind missing
    rw [usable.isKey_target] at notKey
    cases notKey

/-! ### Configurations -/

/-- **What the mapping of a configuration is good for.**  It is made of the dictionary of the
settings file and of the mapping that is written on the command line. -/
structure MappingJudged (dictionary mapped : Entries) (configuration : Configuration) : Prop where
  /-- It maps names to names exactly if the keys of the dictionary are names and, where the command
  line says nothing else, so are its values. -/
  usable : configuration.mapping.Usable ↔
    (∀ entry ∈ dictionary, entry.1.isName = true) ∧
      ∀ key, mapped.get? key = none → ∀ value, dictionary.get? key = some value →
        value.isName = true
  /-- Its look-ups are sound exactly if the dictionary maps names to what can be a key, where the
  command line says nothing else. -/
  sound : configuration.mapping.Sound ↔
    ∀ name : String, name ≠ "" → mapped.get? (.ofString name) = none → ∀ value,
      dictionary.get? (.ofString name) = some value → value.isKey = true
  /-- If it maps names to names, its look-ups are sound, and a migration fails only with the failure
  of a request. -/
  harmless : configuration.mapping.Usable → configuration.mapping.Sound ∧
    ∀ (σ : Type) (servers : Servers σ) (tickets : List Ticket) (project label : String)
      (session : Session σ),
      let run := ((configuration.migration servers).migrateAll tickets project label).start session
      ∀ failure, run.1 = .error failure →
        ∃ exchange ∈ servers.exchanges session run.2, exchange.failure? = some failure

/-- What is found in the first of two places has a property already. -/
theorem forall_or_eq_some_iff {motive : Value → Prop} {first second : Option Value}
    (h : ∀ value, first = some value → motive value) :
    (∀ value, first.or second = some value → motive value) ↔
      (first = none → ∀ value, second = some value → motive value) := by
  cases first with
  | none => simp
  | some value => simpa using h value rfl

/-- The mapping of a configuration that is made of a dictionary and a written mapping. -/
theorem mappingJudged_of_update {dictionary mapped : Entries} {written : Option String}
    (read : mappingEntries written = .ok mapped) {configuration : Configuration}
    (made : configuration.mapping = dictionary.update mapped) :
    MappingJudged dictionary mapped configuration := by
  have names := isName_of_mappingEntries read
  have value_isName {key value : Value} (found : mapped.get? key = some value) :
      value.isName = true := by
    obtain ⟨entry, mem, rfl⟩ := Entries.exists_of_get? found
    exact (names entry mem).2
  have lookup (key : Value) :
      configuration.mapping.get? key = (mapped.get? key).or (dictionary.get? key) := by
    obtain ⟨mapping, distinct, rfl⟩ := exists_of_mappingEntries read
    rw [made, Entries.get?_update distinct]
  constructor
  case usable =>
    have keys : (∀ entry ∈ configuration.mapping, entry.1.isName = true) ↔
        ∀ entry ∈ dictionary, entry.1.isName = true := by
      rw [made]
      exact Entries.forall_isName_update (fun entry mem => (names entry mem).1) dictionary
    have values (key : Value) :
        (∀ value, configuration.mapping.get? key = some value → value.isName = true) ↔
          (mapped.get? key = none → ∀ value, dictionary.get? key = some value →
            value.isName = true) := by
      rw [lookup]
      exact forall_or_eq_some_iff fun _ => value_isName
    rw [← keys, ← forall_congr' values]
    exact ⟨fun usable => ⟨usable.keys, usable.values⟩, fun ⟨keys, values⟩ => ⟨keys, values⟩⟩
  case sound =>
    rw [Entries.sound_iff]
    refine forall_congr' fun name => imp_congr_right fun _ => ?_
    rw [lookup]
    exact forall_or_eq_some_iff fun _ found => Value.isKey_of_isName (value_isName found)
  case harmless =>
    refine fun usable => ⟨usable.sound, fun σ servers tickets project label session => ?_⟩
    intro run failure fails
    exact (configuration.migration servers).exists_failure_of_usable
      (Directory.plain_fetchUsers servers 100 50) usable tickets project label session fails

/-- **A mapping is usable, and its look-ups are sound, exactly if the dictionary of the file is,
where the command line does not say otherwise.** -/
theorem mappingJudged_of_configurationFor {files : String → Option (List UInt8)}
    {argv : List String} {arguments : Arguments} {configuration : Configuration}
    {selection : Selection} (parsed : parseArguments argv = .ok (.migrate arguments))
    (configured : configurationFor files arguments = .ok (configuration, selection)) :
    ∃ file mapped, arguments.Names files file ∧
      mappingEntries arguments.settings.mapping = .ok mapped ∧
      MappingJudged ((file.bind (·.usernames?)).getD []) mapped configuration := by
  obtain ⟨settings, hs, hc⟩ := exists_of_configurationFor configured
  obtain ⟨file, below, named, read, rfl⟩ := exists_of_settingsFor hs
  have switches := onlySwitches_of_parseArguments parsed
  obtain ⟨mapped, given, made⟩ := (Settings.configured_of_configure hc).mapping
  obtain ⟨written, usernames⟩ := Settings.mapping_overriddenBy switches read.mapping
  rw [written] at given
  rw [usernames, read.usernames] at made
  exact ⟨file, mapped, named, given, mappingJudged_of_update given made⟩

/-- A user who stands in the dictionary is mapped to one name. -/
theorem mappingJudged_of_configurationFor_mixed :
    let files : String → Option (List UInt8) := fun _ => some (encode
      "[target]\nusernames=\x7b'bob':'b'\x7d\n[issues]\nquery=a\n".toList)
    ∃ configuration selection,
      parseArguments mixedArguments = .ok (.migrate mixedGiven) ∧
      configurationFor files mixedGiven = .ok (configuration, selection) ∧
      configuration.mapping.map (fun entry => entry.1.isName && entry.2.isName) = [true, true] ∧
      ∃ file mapped, mixedGiven.Names files file ∧
        mappingEntries mixedGiven.settings.mapping = .ok mapped ∧
        MappingJudged ((file.bind (·.usernames?)).getD []) mapped configuration := by
  intro files
  have parsed : parseArguments mixedArguments = .ok (.migrate mixedGiven) := by cbv
  have names : (configurationFor files mixedGiven).toOption.map (fun both =>
      both.1.mapping.map fun entry => entry.1.isName && entry.2.isName) = some [true, true] := by
    decide +kernel
  cases configured : configurationFor files mixedGiven with
  | ok both =>
    rw [configured] at names
    exact ⟨both.1, both.2, parsed, rfl, Option.some.inj names,
      mappingJudged_of_configurationFor parsed configured⟩
  | error ending =>
    rw [configured] at names
    cases names

/-- A command line that leaves the mapping to a file. -/
def plainArguments : List String :=
  ["-t", "https://a.org", "-g", "https://b.org", "-k", "secret", "-p", "a/b", "-c", "core",
    "--config", "a.cfg"]

/-- What it gives. -/
def plainGiven : Arguments where
  settings.tracker := some "https://a.org"
  settings.forge := some "https://b.org"
  settings.token := some "secret"
  settings.project := some "a/b"
  settings.component := some "core"
  config := some "a.cfg"

/-- Two tickets, of which the second one has another owner. -/
def ownedTickets : List Ticket :=
  [{ id := .number 1, summary := some "one", owner := some "ann" },
    { id := .number 2, summary := some "two", owner := some "bob" }]

/-- A settings file with a dictionary that maps a name to a list. -/
def listTargetFile (_ : String) : Option (List UInt8) :=
  some (encode "[target]\nusernames=\x7b'bob':['b.jones']\x7d\n".toList)

/-- The migration of these tickets that a configuration describes. -/
def ownedRun (configuration : Configuration) :
    Except Failure (List (Ident × Int)) × Session (List (Option Failure)) :=
  ((configuration.migration Migration.scripted).migrateAll ownedTickets "a/b" "core").start
    { world := [] }

/-- A dictionary that maps a name to a list is accepted, and the migration breaks off behind the
first issue. -/
theorem not_usable_listTarget :
    ∃ configuration selection,
      parseArguments plainArguments = .ok (.migrate plainGiven) ∧
      configurationFor listTargetFile plainGiven = .ok (configuration, selection) ∧
      ¬configuration.mapping.Usable ∧ ¬configuration.mapping.Sound ∧
      (ownedRun configuration).1 = .error .unhashable ∧
      ((Migration.scripted.exchanges { world := [] } (ownedRun configuration).2).filter
        (·.isWrite)).length = 1 := by
  have parsed : parseArguments plainArguments = .ok (.migrate plainGiven) := by cbv
  have found : ((configurationFor listTargetFile plainGiven).toOption.bind fun both =>
      both.1.mapping.get? (.ofString "bob")).map Value.isKey = some false := by
    decide +kernel
  have broken : (configurationFor listTargetFile plainGiven).toOption.map (fun both =>
      (failure? (ownedRun both.1).1, ((Migration.scripted.exchanges { world := [] }
        (ownedRun both.1).2).filter (·.isWrite)).length)) = some (some .unhashable, 1) := by
    decide +kernel
  cases configured : configurationFor listTargetFile plainGiven with
  | error ending =>
    rw [configured] at found
    cases found
  | ok both =>
    rw [configured] at found broken
    obtain ⟨value, mapped, notKey⟩ := Option.map_eq_some_iff.1 found
    have unsound : ¬both.1.mapping.Sound := by
      intro sound
      rw [both.1.mapping.sound_iff.1 sound "bob" (by decide) value mapped] at notKey
      cases notKey
    obtain ⟨failed, created⟩ := Prod.mk.inj (Option.some.inj broken)
    have ended : (ownedRun both.1).1 = .error .unhashable := by
      cases hr : (ownedRun both.1).1 with
      | ok created =>
        rw [hr] at failed
        cases failed
      | error failure =>
        rw [hr] at failed
        rw [Option.some.inj failed]
    exact ⟨both.1, both.2, parsed, rfl, mt Entries.Usable.sound unsound, unsound, ended, created⟩

end TicketMigration
