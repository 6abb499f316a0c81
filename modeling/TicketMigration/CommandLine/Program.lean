import TicketMigration.CommandLine.Arguments
import TicketMigration.Endpoint.Address
import TicketMigration.Settings.Configuration
import TicketMigration.Settings.Load

/-!
# The program

The command line and the settings file make a configuration, and the tickets that it selects are
migrated.  The program tells which users of the tracker it could not find on the issue server,
whether the migration came to its end or not.

## Main definitions

* `Ending` says how the program ends, `Ending.status` with which status.
* `migrateSelection` migrates the tickets that are selected.
* `runProgram` is the program.
-/

namespace TicketMigration

open Text Endpoint

/-- How the program ends without a status of its own. -/
inductive Crash
  /-- The settings file at the path cannot be used. -/
  | settings (path : String) (fault : LoadFault)
  /-- A failure that is neither one of the servers nor one of the network. -/
  | failure (failure : Failure)
  deriving DecidableEq, Repr

/-- How the program ends. -/
inductive Ending
  /-- All that was asked for has been done. -/
  | done
  /-- The migration was stopped by a failure, which has been logged. -/
  | stopped
  /-- The command line or the settings are faulty. -/
  | usage (message : String)
  /-- The program cannot go on. -/
  | crash (cause : Crash)
  deriving DecidableEq, Repr

/-- The status with which the program ends. -/
def Ending.status : Ending → Option Nat
  | done => some 0
  | stopped => some 1
  | usage _ => some 2
  | crash _ => none

/-- What the program leaves behind. -/
structure Report where
  /-- How it ended. -/
  ending : Ending
  /-- What it printed. -/
  output : String := ""
  /-- The lines of the log that it showed. -/
  log : List LogLine := []
  deriving DecidableEq, Repr

/-! ### Settings -/

/-- The settings that the command line gives, over those of the settings file that it names. -/
def settingsFor (files : String → Option (List UInt8)) (arguments : Arguments) :
    Except LoadFault Settings :=
  match arguments.config.filter fun path => !path.isEmpty with
  | none => .ok arguments.settings
  | some path => (Settings.load files path).map (·.overriddenBy arguments.settings)

/-- The configuration that the command line asks for. -/
def configurationFor (files : String → Option (List UInt8)) (arguments : Arguments) :
    Except Ending (Configuration × Selection) :=
  match settingsFor files arguments with
  | .error (.settings fault) => .error (.usage fault.message)
  | .error fault => .error (.crash (.settings (arguments.config.getD "") fault))
  | .ok settings =>
    match settings.configure with
    | .error fault => .error (.usage fault.message)
    | .ok configured => .ok configured

/-! ### Migrating -/

/-- Makes ready to ask the tracker. -/
def connectTracker {σ : Type} (configuration : Configuration) : Run σ Unit :=
  match procedureUrl configuration.trackerUrl configuration.user configuration.password with
  | .error fault => throw (.badValue fault.message)
  | .ok url =>
    match Address.parse url.toList with
    | .error fault => throw (.badValue fault.message)
    | .ok address =>
      if isWebScheme address.scheme then Run.record (.connectTracker url)
      else throw (.system "unsupported XML-RPC protocol")

/-- Makes ready to ask both servers. -/
def connect {σ : Type} (configuration : Configuration) : Run σ Unit := do
  connectTracker configuration
  Run.record (.connectForge configuration.forgeUrl configuration.token configuration.verify)

/-- The migration that a configuration describes. -/
def Configuration.migration {σ : Type} (configuration : Configuration) (servers : Servers σ) :
    Migration σ where
  options :=
    { trackerUrl := configuration.trackerUrl
      linkBack := configuration.link
      labels := configuration.labels
      maxTickets := configuration.maxTickets
      dryRun := configuration.dryRun }
  servers := servers
  tracker :=
    .ofUrl configuration.trackerUrl (configuration.cacheDirectory.filter fun s => !s.isEmpty)
  forge := .ofUrl configuration.forgeUrl configuration.admin
  resolver := { directory := ⟨fetchUsers servers, 100, 50⟩, mapping := configuration.mapping }

/-- Migrates the tickets that are selected. -/
def migrateSelection {σ : Type} (configuration : Configuration) (selection : Selection)
    (servers : Servers σ) : Run σ (List (Ident × Int)) :=
  let migration := configuration.migration servers
  let limit := some configuration.maxTickets
  if isGiven selection.component then
    migration.migrateOpen (selection.component.getD "") selection.project limit
  else migration.migrateMatching (selection.query.getD "") selection.project limit

/-- How often each user was not found, the largest number first. -/
def ranked (tally : Tally) : Tally :=
  tally.mergeSort fun a b => b.2 ≤ a.2

/-- The text that tells which users were not found. -/
def summary (tally : Tally) : String :=
  "Unmapped users: [" ++ ", ".intercalate ((ranked tally).map fun entry =>
    "(" ++ quotedString entry.1 ++ ", " ++ toString entry.2 ++ ")") ++ "]\n"

/-- The line of the log for a failure that stops the migration, if it is one of a server or of the
network. -/
def stopLine? (failure : Failure) : Option String :=
  match failure with
  | .forge _ _ _ | .network _ => some ("GitLab Error: " ++ failure.message)
  | .fault _ _ | .protocol _ _ _ | .system _ => some ("Trac Error: " ++ failure.message)
  | .badValue _ | .broken _ | .unhashable | .shortAnswer | .notText | .wrongKind => none

/-- Ends a run with a result or a failure. -/
def conclude {σ α : Type} (reply : Except Failure α) (session : Session σ) :
    Ending × Session σ :=
  match reply with
  | .ok _ => (.done, session)
  | .error failure =>
    match stopLine? failure with
    | some line => (.stopped, { session with log := session.log ++ [⟨.error, line⟩] })
    | none => (.crash (.failure failure), session)

/-- The lines of a log that are shown. -/
def shownLines (debug : Bool) (log : List LogLine) : List LogLine :=
  log.filter fun line => debug || line.level != .debug

/-- Migrates as configured. -/
def runMigration {σ : Type} (configuration : Configuration) (selection : Selection)
    (servers : Servers σ) (session : Session σ) : Ending × String × Session σ :=
  match (connect configuration).start session with
  | (.error failure, session) =>
    let (ending, session) := conclude (α := Unit) (.error failure) session
    (ending, "", session)
  | (.ok (), session) =>
    let (reply, session) := (migrateSelection configuration selection servers).start session
    let (ending, session) := conclude reply session
    (ending, summary session.misses, session)

/-- The program.  Of the session it begins in, only the servers and the answers that are kept
matter. -/
def runProgram {σ : Type} (files : String → Option (List UInt8)) (servers : Servers σ)
    (arguments : List String) (session : Session σ) : Report × Session σ :=
  let fresh : Session σ := { world := session.world, cache := session.cache }
  match parseArguments arguments with
  | .error fault => ({ ending := .usage fault.message }, fresh)
  | .ok .help => ({ ending := .done, output := helpText }, fresh)
  | .ok .version => ({ ending := .done, output := versionText }, fresh)
  | .ok (.migrate arguments) =>
    match configurationFor files arguments with
    | .error ending => ({ ending }, fresh)
    | .ok (configuration, selection) =>
      let (ending, output, session) := runMigration configuration selection servers fresh
      ({ ending, output, log := shownLines arguments.debug session.log }, session)

end TicketMigration
