import TicketMigration.Literal.Reader
import TicketMigration.Settings.Basic
import TicketMigration.Text.Decimal

/-!
# Settings from a file

## Main definitions

* `Settings.ofFile` finds the settings in a settings file, `Settings.ofBytes` in the bytes of one.
* `Settings.load` finds them in the file at a path.
* `LoadFault` lists what can go wrong.
-/

namespace TicketMigration

open Text Literal

/-- What goes wrong when settings are loaded from a file. -/
inductive LoadFault
  /-- The settings are faulty. -/
  | settings (fault : SettingsFault)
  /-- The file is faulty. -/
  | file (fault : FileFault)
  /-- The usernames have a key that may not be one, or a set such a member. -/
  | unhashable
  /-- The usernames have a sum with a whole number that is too large for it. -/
  | tooLarge
  /-- The usernames are nested too deeply to be evaluated. -/
  | tooDeep
  /-- The usernames are nested too deeply to be read. -/
  | tooNested
  /-- The path of the file has a null character, which no path has. -/
  | nullInPath
  deriving DecidableEq, Repr

/-- Reads a truth value. -/
def truth? (s : List Char) : Option Bool :=
  let word := String.ofList (lower s)
  if ["1", "yes", "true", "on"].contains word then some true
  else if ["0", "no", "false", "off"].contains word then some false
  else none

/-- An option that is a truth value.  It is false if the file lacks its section. -/
def SettingsFile.flag (file : SettingsFile) (sectionName name : String) : Except LoadFault Bool :=
  match file.get? sectionName name with
  | none => .ok false
  | some value =>
    match truth? value with
    | some b => .ok b
    | none => .error (.settings (.notBoolean sectionName name value))

/-- An option that is a text. -/
def SettingsFile.text? (file : SettingsFile) (sectionName name : String) : Option String :=
  (file.get? sectionName name).map String.ofList

/-- An option that is a text and not empty. -/
def SettingsFile.words? (file : SettingsFile) (sectionName name : String) : Option (List Char) :=
  (file.get? sectionName name).filter fun s => !s.isEmpty

/-- Reads a dictionary. -/
def usernamesOf (s : List Char) : Except LoadFault Entries :=
  match readLiteral s with
  | .ok (.dict entries) => .ok entries
  | .ok _ => .error (.settings .usernamesNotDictionary)
  | .error .malformed => .error (.settings .badUsernames)
  | .error .unhashable => .error .unhashable
  | .error .tooLarge => .error .tooLarge
  | .error .tooDeep => .error .tooDeep
  | .error .tooNested => .error .tooNested

/-- Reads a number of tickets. -/
def maxTicketsOf (s : List Char) : Except LoadFault Int :=
  match integer? s with
  | some n => .ok n
  | none => .error (.settings (.notNumber s))

namespace Settings

/-- Finds the settings in a file. -/
def ofFile (file : SettingsFile) : Except LoadFault Settings := do
  let admin ← file.flag "issues" "admin"
  let link ← file.flag "issues" "link"
  let labelComponent ← file.flag "issues" "label_component"
  let labelMilestone ← file.flag "issues" "label_milestone"
  let dryRun ← file.flag "issues" "dry_run"
  let verify ← file.flag "target" "ssl_verify"
  let usernames ← (file.words? "target" "usernames").mapM usernamesOf
  let maxTickets ← (file.words? "issues" "max_tickets").mapM maxTicketsOf
  return {
    tracker := file.text? "source" "url"
    user := file.text? "source" "username"
    password := file.text? "source" "password"
    forge := file.text? "target" "url"
    token := file.text? "target" "token"
    project := file.text? "target" "project_name"
    component := file.text? "issues" "component"
    query := file.text? "issues" "query"
    usernames
    admin := some admin
    link := some link
    labelComponent := some labelComponent
    labelMilestone := some labelMilestone
    extraLabel := file.text? "issues" "add_label"
    maxTickets
    dryRun := some dryRun
    verify := if file.has "target" then some (some verify) else none
    cacheDirectory := file.text? "cache" "dir" }

/-- Finds the settings in the bytes of a file. -/
def ofBytes (bytes : List UInt8) : Except LoadFault Settings :=
  match SettingsFile.ofBytes bytes with
  | .ok file => ofFile file
  | .error fault => .error (.file fault)

/-- The settings in the file at a path.  `files` gives the bytes of each file that can be read. -/
def load (files : String → Option (List UInt8)) (path : String) : Except LoadFault Settings :=
  if path.toList.contains '\x00' then .error .nullInPath
  else
    match files path with
    | none => .error (.settings (.noFile path))
    | some bytes => ofBytes bytes

end Settings

end TicketMigration
