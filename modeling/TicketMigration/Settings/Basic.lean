import TicketMigration.Settings.File
import TicketMigration.Value.Basic

/-!
# Settings

A setting is given on the command line, or in a settings file, or not at all.

## Main definitions

* `Settings` are the settings that are given.
* `Settings.overriddenBy` gives precedence to other settings.
* `SettingsFault` lists what can be wrong with settings, `SettingsFault.message` is the text that is
  shown for it.
-/

namespace TicketMigration

open Text

/-- The settings that are given. -/
structure Settings where
  /-- The address of the tracker. -/
  tracker : Option String := none
  /-- The name to log in to the tracker with. -/
  user : Option String := none
  /-- The password to log in to the tracker with. -/
  password : Option String := none
  /-- The address of the issue server. -/
  forge : Option String := none
  /-- The token for the issue server. -/
  token : Option String := none
  /-- The project on the issue server. -/
  project : Option String := none
  /-- The component whose tickets are migrated. -/
  component : Option String := none
  /-- The query whose tickets are migrated. -/
  query : Option String := none
  /-- A written user mapping. -/
  mapping : Option String := none
  /-- A user mapping as a dictionary. -/
  usernames : Option Entries := none
  /-- The token is one of an administrator. -/
  admin : Option Bool := none
  /-- Each issue has a link to its ticket. -/
  link : Option Bool := none
  /-- The component is a label. -/
  labelComponent : Option Bool := none
  /-- The milestone is a label. -/
  labelMilestone : Option Bool := none
  /-- A label that every issue gets. -/
  extraLabel : Option String := none
  /-- How many tickets are migrated at most. -/
  maxTickets : Option Int := none
  /-- Nothing is created. -/
  dryRun : Option Bool := none
  /-- The certificate of the issue server is verified.  The value may be given as unknown. -/
  verify : Option (Option Bool) := none
  /-- The directory in which answers of the tracker are kept. -/
  cacheDirectory : Option String := none
  deriving Repr

/-- The settings, where a setting of `given` takes precedence. -/
def Settings.overriddenBy (settings given : Settings) : Settings where
  tracker := given.tracker <|> settings.tracker
  user := given.user <|> settings.user
  password := given.password <|> settings.password
  forge := given.forge <|> settings.forge
  token := given.token <|> settings.token
  project := given.project <|> settings.project
  component := given.component <|> settings.component
  query := given.query <|> settings.query
  mapping := given.mapping <|> settings.mapping
  usernames := given.usernames <|> settings.usernames
  admin := given.admin <|> settings.admin
  link := given.link <|> settings.link
  labelComponent := given.labelComponent <|> settings.labelComponent
  labelMilestone := given.labelMilestone <|> settings.labelMilestone
  extraLabel := given.extraLabel <|> settings.extraLabel
  maxTickets := given.maxTickets <|> settings.maxTickets
  dryRun := given.dryRun <|> settings.dryRun
  verify := given.verify <|> settings.verify
  cacheDirectory := given.cacheDirectory <|> settings.cacheDirectory

/-- A setting that has to be given. -/
inductive RequiredSetting
  /-- The address of the tracker. -/
  | tracker
  /-- The address of the issue server. -/
  | forge
  /-- The token for the issue server. -/
  | token
  /-- The project on the issue server. -/
  | project
  deriving DecidableEq, Repr

/-- The name of a setting that has to be given. -/
def RequiredSetting.name : RequiredSetting → String
  | tracker => "trac"
  | forge => "gitlab"
  | token => "token"
  | project => "project"

/-- What is wrong with settings. -/
inductive SettingsFault
  /-- The file at the path cannot be read. -/
  | noFile (path : String)
  /-- An option of a file is no truth value. -/
  | notBoolean (sectionName name : String) (value : List Char)
  /-- The usernames in a file are no datum. -/
  | badUsernames
  /-- The usernames in a file are a datum, but no dictionary. -/
  | usernamesNotDictionary
  /-- The number of tickets in a file is no number. -/
  | notNumber (value : List Char)
  /-- A setting has no value. -/
  | missing (setting : RequiredSetting)
  /-- Neither a component nor a query is given. -/
  | noSelection
  /-- Both a component and a query are given. -/
  | twoSelections
  /-- The number of tickets is negative. -/
  | negativeNumber
  /-- A part of a written user mapping is no mapping. -/
  | badMapping (part : List Char)
  deriving DecidableEq, Repr

/-- The text that is shown for a fault.  What is wrong with usernames that are no datum is left out:
three dots stand for the description of the syntax error. -/
def SettingsFault.message : SettingsFault → String
  | noFile path => "Cannot read configuration file " ++ path
  | notBoolean sectionName name value =>
    sectionName ++ "." ++ name ++ ": Not a boolean: " ++ String.ofList value
  | badUsernames => "target.usernames: ..."
  | usernamesNotDictionary => "target.usernames must be a dictionary"
  | notNumber value => "issues.max_tickets must be a number, not " ++ shown value
  | missing setting => "Option '" ++ setting.name ++ "' must have a value"
  | noSelection => "One of 'component' or 'query' must have a value"
  | twoSelections => "Only one of 'component' or 'query' may have a value"
  | negativeNumber => "Option 'maxtickets' must not be negative"
  | badMapping part => "Invalid format for 'map' option: " ++ shown part

end TicketMigration
