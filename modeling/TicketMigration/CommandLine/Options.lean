import TicketMigration.Text.Quoted

/-!
# Options of the command line

Every option has a long name, and some have a short one.  Some take a value, the others are flags.

## Main definitions

* `CommandOption` lists the options, `CommandOption.all` in the order in which they are shown.
* `CommandOption.display` is the text that stands for an option in messages.
* `helpText` explains the options.
-/

namespace TicketMigration

/-- An option of the command line. -/
inductive CommandOption
  /-- Explain the options. -/
  | help
  /-- The address of the tracker. -/
  | tracker
  /-- The address of the issue server. -/
  | forge
  /-- The token for the issue server. -/
  | token
  /-- The project on the issue server. -/
  | project
  /-- The component whose tickets are migrated. -/
  | component
  /-- The query whose tickets are migrated. -/
  | query
  /-- A user mapping. -/
  | mapping
  /-- The token is one of an administrator. -/
  | admin
  /-- Each issue has a link to its ticket. -/
  | link
  /-- The component is a label. -/
  | labelComponent
  /-- The milestone is a label. -/
  | labelMilestone
  /-- A label that every issue gets. -/
  | extraLabel
  /-- How many tickets are migrated at most. -/
  | maxTickets
  /-- Nothing is created. -/
  | dryRun
  /-- A settings file. -/
  | config
  /-- The name to log in to the tracker with. -/
  | user
  /-- The password to log in to the tracker with. -/
  | password
  /-- The certificate of the issue server is not verified. -/
  | noVerify
  /-- The directory in which answers of the tracker are kept. -/
  | cacheDirectory
  /-- The log is shown in full. -/
  | debug
  /-- Tell the version. -/
  | version
  deriving DecidableEq, Repr

namespace CommandOption

/-- All options. -/
def all : List CommandOption :=
  [help, tracker, forge, token, project, component, query, mapping, admin, link, labelComponent,
    labelMilestone, extraLabel, maxTickets, dryRun, config, user, password, noVerify,
    cacheDirectory, debug, version]

/-- The letter of an option that has a short name. -/
def letter? : CommandOption → Option Char
  | help => some 'h'
  | tracker => some 't'
  | forge => some 'g'
  | token => some 'k'
  | project => some 'p'
  | component => some 'c'
  | query => some 'q'
  | mapping => some 'm'
  | admin => some 'a'
  | link => some 'l'
  | version => some 'v'
  | _ => none

/-- The long name of an option, without its dashes. -/
def word : CommandOption → String
  | help => "help"
  | tracker => "trac"
  | forge => "gitlab"
  | token => "token"
  | project => "project"
  | component => "component"
  | query => "query"
  | mapping => "map"
  | admin => "admin"
  | link => "link"
  | labelComponent => "labelcomponent"
  | labelMilestone => "labelmilestone"
  | extraLabel => "addlabel"
  | maxTickets => "maxtickets"
  | dryRun => "showonly"
  | config => "config"
  | user => "trac-user"
  | password => "trac-password"
  | noVerify => "no-ssl-verify"
  | cacheDirectory => "cache-dir"
  | debug => "debug"
  | version => "version"

/-- Whether an option takes a value. -/
def takesValue : CommandOption → Bool
  | help | admin | link | labelComponent | labelMilestone | dryRun | noVerify | debug
  | version => false
  | _ => true

/-- What an option does, as the help says it. -/
def purpose : CommandOption → String
  | help => "show this help message and exit"
  | tracker => "Trac URL"
  | forge => "GitLab URL"
  | token => "GitLab API private token"
  | project => "GitLab project to which the tickets should be migrated"
  | component => "Migrate open tickets of a specific Trac component"
  | query =>
    "Migrate all tickets matching this Trac query " ++
      "(e.g. \"id=1234\" or \"status=!closed&owner=alice\")"
  | mapping =>
    "Map of trac usernames to gitlab usernames in the format " ++
      "\"tracUserA=gitUserX,tracUserB=gitUserY\""
  | admin =>
    "The GitLab token is from an admin user, " ++
      "create issues and notes as their original authors where possible"
  | link => "Add a link back to the original Trac ticket to the migrated issue"
  | labelComponent => "Label issues with the Trac component"
  | labelMilestone => "Label issues with the Trac milestone"
  | extraLabel => "Add another custom label to all issues"
  | maxTickets => "Maximum number of tickets to migrate"
  | dryRun => "Show what would be done, do not create anything"
  | config =>
    "Read settings from this configuration file; " ++
      "options given on the command line take precedence"
  | user => "Trac username for authenticated access"
  | password => "Trac password for authenticated access"
  | noVerify => "Do not verify the SSL certificate of GitLab"
  | cacheDirectory => "Cache Trac responses in this directory"
  | debug => "Log debug messages"
  | version => "show program's version number and exit"

/-- What stands for the value of an option in the help. -/
def valueName (o : CommandOption) : String :=
  o.word.map fun c => if c = '-' then '_' else c.toUpper

/-- The long name of an option. -/
def longName (o : CommandOption) : String :=
  "--" ++ o.word

/-- The short name of an option that has one. -/
def shortName? (o : CommandOption) : Option String :=
  o.letter?.map fun c => String.ofList ['-', c]

/-- The names of an option, the short one first. -/
def names (o : CommandOption) : List String :=
  o.shortName?.toList ++ [o.longName]

/-- The text that stands for an option in messages. -/
def display (o : CommandOption) : String :=
  "/".intercalate o.names

/-- The option with a letter. -/
def ofLetter? (c : Char) : Option CommandOption :=
  all.find? fun o => o.letter? == some c

/-- The options whose long names begin with a text. -/
def beginningWith (s : List Char) : List CommandOption :=
  all.filter fun o => s.isPrefixOf o.longName.toList

end CommandOption

/-- The line that explains an option. -/
def helpLine (o : CommandOption) : String :=
  let value := if o.takesValue then " " ++ o.valueName else ""
  let names := ", ".intercalate (o.names.map fun name => name ++ value)
  "  " ++ names ++ "\n        " ++ o.purpose ++ "\n"

/-- The text that explains the options.  Its layout is simplified: the options are not listed behind
the name of the program, and what an option does is neither set in a column nor broken into
lines. -/
def helpText : String :=
  "usage: trac-to-gitlab [options]\n\nMigrate Trac tickets into GitLab issues.\n\noptions:\n" ++
    String.join (CommandOption.all.map helpLine)

/-- The text that tells the version. -/
def versionText : String :=
  "Trac to GitLab v1.0.0\n"

end TicketMigration
