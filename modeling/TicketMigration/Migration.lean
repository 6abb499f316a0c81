import TicketMigration.Directory
import TicketMigration.Forge
import TicketMigration.Markup.Document
import TicketMigration.Tracker

/-!
# Migration

For every ticket an issue is created, with the owner and the reporter of the ticket as users, its
description in Markdown and its labels; every comment becomes a note on the issue.  In a dry run
the users are looked up and the tickets are listed, but nothing is created.

## Main definitions

* `MigrationOptions` are the settings that a migration depends on.
* `Migration` joins the two servers and the users.
* `Migration.issueText` is what the issue of a ticket says.
* `Migration.migrateAll` migrates a list of tickets, `Migration.migrateOpen` and
  `Migration.migrateMatching` those that a component or a query has.
-/

namespace TicketMigration

open Markup

/-- The settings that a migration depends on. -/
structure MigrationOptions where
  /-- The address of the tracker. -/
  trackerUrl : String
  /-- Each issue has a link to its ticket. -/
  linkBack : Bool := false
  /-- What the labels of an issue are. -/
  labels : LabelOptions := {}
  /-- How many tickets are migrated at most; zero stands for all. -/
  maxTickets : Int := 0
  /-- Nothing is created. -/
  dryRun : Bool := false
  deriving DecidableEq, Repr

/-- A migration from a tracker to an issue server. -/
structure Migration (σ : Type) where
  /-- The settings. -/
  options : MigrationOptions
  /-- The servers. -/
  servers : Servers σ
  /-- The tracker. -/
  tracker : Tracker
  /-- The issue server. -/
  forge : Forge
  /-- How names of the tracker become users. -/
  resolver : Resolver σ

namespace Migration

variable {σ : Type}

/-- The line with which an issue refers to its ticket. -/
def linkBack (trackerUrl : String) (ticket : Ticket) : String :=
  "\n\n---\n\nOriginal ticket: " ++ trackerUrl ++ "/ticket/" ++ ticket.id.text

/-- What the issue of a ticket says. -/
def issueText (options : MigrationOptions) (ticket : Ticket) : String :=
  toMarkdown (ticket.description.getD "") options.trackerUrl ++
    if options.linkBack then linkBack options.trackerUrl ticket else ""

/-- The number of the user for a name of the tracker. -/
def userId (migration : Migration σ) (name : Option String) : Run σ (Option Int) := do
  let user ← migration.resolver.find name
  return user.map (·.id)

/-- Creates a note for each comment. -/
def postNotesFrom (migration : Migration σ) (project : String) (issue : Int) :
    List Comment → Run σ Unit
  | [] => return
  | comment :: rest => do
    let author ← migration.userId comment.author
    migration.forge.postNote migration.servers project issue
      (toMarkdown comment.text migration.options.trackerUrl) author comment.time
    migration.postNotesFrom project issue rest

/-- Creates the notes of a ticket. -/
def postNotes (migration : Migration σ) (project : String) (issue : Int)
    (comments : List Comment) : Run σ Unit := do
  unless comments.isEmpty do
    migration.postNotesFrom project issue comments
    Run.log .info ("  Also created " ++ toString comments.length ++ " note(s)")

/-- What a dry run says of a ticket. -/
def preview (count : Nat) (ticket : Ticket) : String :=
  toString count ++ " Trac ticket #" ++ ticket.id.text ++ " " ++ ticket.summary.getD "None" ++
    " (" ++ toString ticket.comments.length ++ " notes)"

/-- What is said of an issue that has been created. -/
def announcement (forge : Forge) (project : String) (issue : Int) (ticket : Ticket) : String :=
  "Created a GitLab issue #" ++ toString issue ++ " for Trac ticket #" ++ ticket.id.text ++ " : " ++
    forge.issueAddress project issue

/-- Migrates one ticket, the one with this count, and gives the number of its issue, if one was
created. -/
def migrateTicket (migration : Migration σ) (project : String) (count : Nat) (ticket : Ticket) :
    Run σ (Option Int) := do
  let options := migration.options
  let assignee ← migration.userId ticket.owner
  let author ← migration.userId ticket.reporter
  if options.dryRun then do
    Run.log .info (preview count ticket)
    return none
  else do
    let issue ← migration.forge.postIssue migration.servers project ticket.summary
      (issueText options ticket) (labels options.labels ticket) assignee author ticket.createdAt
    Run.log .info (announcement migration.forge project issue ticket)
    migration.postNotes project issue ticket.comments
    return some issue

/-- Whether no more tickets are migrated after this many. -/
def isLast (options : MigrationOptions) (count : Nat) : Bool :=
  options.maxTickets != 0 && options.maxTickets ≤ count

/-- Migrates tickets, of which the first has this count, and gives the numbers of the tickets with
those of their issues. -/
def migrateFrom (migration : Migration σ) (project : String) (count : Nat) :
    List Ticket → Run σ (List (Ident × Int))
  | [] => return []
  | ticket :: rest => do
    let issue ← migration.migrateTicket project count ticket
    let created := (issue.map (ticket.id, ·)).toList
    if isLast migration.options count then
      return created
    else
      let more ← migration.migrateFrom project (count + 1) rest
      return created ++ more

/-- Migrates tickets, at most as many as the settings allow. -/
def migrateAll (migration : Migration σ) (tickets : List Ticket) (project label : String) :
    Run σ (List (Ident × Int)) := do
  Run.log .info ("Found " ++ toString tickets.length ++ " tickets (" ++ label ++ ")")
  migration.migrateFrom project 1 tickets

/-- Migrates the open tickets of a component. -/
def migrateOpen (migration : Migration σ) (component project : String)
    (limit : Option Int) : Run σ (List (Ident × Int)) := do
  let tickets ← migration.tracker.openTicketsOf migration.servers component limit
  migration.migrateAll tickets project component

/-- Migrates the tickets that match a query. -/
def migrateMatching (migration : Migration σ) (query project : String) (limit : Option Int) :
    Run σ (List (Ident × Int)) := do
  let tickets ← migration.tracker.ticketsMatching migration.servers (withCap query limit)
  migration.migrateAll tickets project (withCap query limit)

end Migration

end TicketMigration
