import TicketMigration.Migration
import TicketMigration.Settings.Basic
import TicketMigration.Settings.UserMapping

/-!
# Configurations

Settings that are complete and fit together make a configuration, with a selection of tickets.

## Main definitions

* `Configuration` is all that a run depends on, but for the tickets; `Selection` says which
  tickets are migrated, and where to.
* `Settings.configure` checks settings.
-/

namespace TicketMigration

open Text

/-- What a run depends on. -/
structure Configuration where
  /-- The address of the tracker, without trailing slashes. -/
  trackerUrl : String
  /-- The address of the issue server, without trailing slashes. -/
  forgeUrl : String
  /-- The token for the issue server. -/
  token : String
  /-- The name to log in to the tracker with. -/
  user : Option String := none
  /-- The password to log in to the tracker with. -/
  password : Option String := none
  /-- The certificate of the issue server is verified, if that is known. -/
  verify : Option Bool := some true
  /-- The token is one of an administrator. -/
  admin : Bool := false
  /-- Each issue has a link to its ticket. -/
  link : Bool := false
  /-- What the labels of an issue are. -/
  labels : LabelOptions := {}
  /-- How many tickets are migrated at most; zero stands for all. -/
  maxTickets : Int := 0
  /-- Nothing is created. -/
  dryRun : Bool := false
  /-- The names on the issue server that names of the tracker are mapped to. -/
  mapping : Entries := []
  /-- The directory in which answers of the tracker are kept. -/
  cacheDirectory : Option String := none
  deriving Repr

/-- Which tickets are migrated, and where to. -/
structure Selection where
  /-- The project on the issue server. -/
  project : String
  /-- The component whose tickets are migrated. -/
  component : Option String := none
  /-- The query whose tickets are migrated. -/
  query : Option String := none
  deriving DecidableEq, Repr

/-- Whether a text is given and not empty. -/
def isGiven (s : Option String) : Bool :=
  match s with
  | some s => !s.isEmpty
  | none => false

/-- The text of a setting that has to be given. -/
def required (setting : RequiredSetting) (value : Option String) : Except SettingsFault String :=
  match value.filter fun s => !s.isEmpty with
  | some s => .ok s
  | none => .error (.missing setting)

/-- The entries of a mapping. -/
def UserMapping.entries (mapping : UserMapping) : Entries :=
  mapping.map fun entry => (.text (entry.1.map Char.toNat), .text (entry.2.map Char.toNat))

/-- The entries of a mapping that may be given. -/
def mappingEntries (mapping : Option String) : Except SettingsFault Entries :=
  match mapping.filter fun s => !s.isEmpty with
  | none => .ok []
  | some s =>
    match readMapping s.toList with
    | .ok mapping => .ok mapping.entries
    | .error part => .error (.badMapping part)

namespace Settings

/-- Checks that exactly one of the component and the query is given. -/
def checkSelection (settings : Settings) : Except SettingsFault Unit :=
  match isGiven settings.component, isGiven settings.query with
  | false, false => .error .noSelection
  | true, true => .error .twoSelections
  | _, _ => .ok ()

/-- The number of tickets; none given means all. -/
def limit (settings : Settings) : Except SettingsFault Int :=
  let n := settings.maxTickets.getD 0
  if n < 0 then .error .negativeNumber else .ok n

/-- Checks settings. -/
def configure (settings : Settings) : Except SettingsFault (Configuration × Selection) := do
  let tracker ← required .tracker settings.tracker
  let forge ← required .forge settings.forge
  let token ← required .token settings.token
  let project ← required .project settings.project
  settings.checkSelection
  let maxTickets ← settings.limit
  let given ← mappingEntries settings.mapping
  let labels : LabelOptions :=
    { component := settings.labelComponent.getD false
      milestone := settings.labelMilestone.getD false
      extra := settings.extraLabel.filter fun s => !s.isEmpty }
  let configuration : Configuration :=
    { trackerUrl := dropTrailing '/' tracker
      forgeUrl := dropTrailing '/' forge
      token
      user := settings.user
      password := settings.password
      verify := settings.verify.getD (some true)
      admin := settings.admin.getD false
      link := settings.link.getD false
      labels
      maxTickets
      dryRun := settings.dryRun.getD false
      mapping := Entries.update (settings.usernames.getD []) given
      cacheDirectory := settings.cacheDirectory }
  return (configuration, { project, component := settings.component, query := settings.query })

end Settings

end TicketMigration
