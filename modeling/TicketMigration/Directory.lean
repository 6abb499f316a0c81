import TicketMigration.Run

/-!
# Users

The users of the issue server are fetched page by page when the first name has to be looked up,
and kept from then on.  The server lists the newest user first, so the administrator, who has
the first number of all, is normally the last user of the list.

A name of the tracker may be mapped to another name on the issue server.  Names that are not found
there are counted.

## Main definitions

* `Directory` fetches users; `Directory.reload` fetches them all, `Directory.get?` looks one up.
* `Resolver` looks up names of the tracker; `Resolver.find` counts those that are not found.
-/

namespace TicketMigration

/-- Puts a user under a name.  A name that is there keeps its place. -/
def Roster.put (user : RemoteUser) : Roster → Roster
  | [] => [(user.username, user)]
  | entry :: rest =>
    if entry.1 = user.username then (entry.1, user) :: rest else entry :: put user rest

/-- Puts all users of a page under their names. -/
def Roster.putAll (roster : Roster) (users : List RemoteUser) : Roster :=
  users.foldl (fun roster user => roster.put user) roster

/-- Counts a name once more. -/
def Tally.add (name : String) : Tally → Tally
  | [] => [(name, 1)]
  | entry :: rest =>
    if entry.1 = name then (entry.1, entry.2 + 1) :: rest else entry :: add name rest

/-- How often a name was counted. -/
def Tally.count (tally : Tally) (name : String) : Nat :=
  (tally.lookup name).getD 0

/-- The number of the administrator. -/
def administratorId : Int := 1

/-- Where users come from. -/
structure Directory (σ : Type) where
  /-- Fetches a page, given its number and how many users a full page has. -/
  fetch : Int → Int → Run σ (List RemoteUser)
  /-- How many users a full page has. -/
  pageSize : Int := 100
  /-- How many pages are fetched at most. -/
  maxPages : Int := 50

namespace Directory

variable {σ : Type}

/-- Fetches pages from a number on, at most as many as are left.  It stops at a page that is not
full, and at the page of the administrator. -/
def fetchFrom (directory : Directory σ) (page : Nat) : Nat → Roster → Run σ Roster
  | 0, roster => do
    Run.log .warning ("Stopped fetching GitLab users after " ++ toString directory.maxPages ++
      " pages, the user list may be incomplete")
    return roster
  | left + 1, roster => do
    let users ← directory.fetch page directory.pageSize
    if users.length < directory.pageSize then
      return roster.putAll users
    else if users.any fun user => user.id == administratorId then do
      Run.log .debug ("Administrator seen on page " ++ toString page ++
        ", assuming all users were fetched")
      return roster.putAll users
    else
      directory.fetchFrom (page + 1) left (roster.putAll users)

/-- Fetches all users anew.  The users known so far stay known if that fails. -/
def reload (directory : Directory σ) : Run σ Roster := do
  let roster ← directory.fetchFrom 1 directory.maxPages.toNat []
  Run.log .debug ("Fetched " ++ toString roster.length ++ " GitLab users")
  modify fun session => { session with roster := some roster }
  return roster

/-- Forgets the users. -/
def forget : Run σ Unit :=
  modify fun session => { session with roster := none }

/-- The users, fetched if they are not known. -/
def roster (directory : Directory σ) : Run σ Roster := do
  match (← get).roster with
  | some roster => return roster
  | none => directory.reload

/-- The user of a name. -/
def get? (directory : Directory σ) (name : Value) : Run σ (Option RemoteUser) := do
  let roster ← directory.roster
  if name.isKey then
    return (roster.find? fun entry => (Value.ofString entry.1).same name).map (·.2)
  else
    throw .unhashable

end Directory

/-- How names of the tracker become users. -/
structure Resolver (σ : Type) where
  /-- Where the users come from. -/
  directory : Directory σ
  /-- The names on the issue server that names of the tracker are mapped to. -/
  mapping : Entries := []

namespace Resolver

variable {σ : Type}

/-- The name under which a name of the tracker is looked up. -/
def target (resolver : Resolver σ) (name : String) : Value :=
  (resolver.mapping.get? (.ofString name)).getD (.ofString name)

/-- The user for a name of the tracker.  A name that is not found is counted; no name at all is
not. -/
def find (resolver : Resolver σ) (name : Option String) : Run σ (Option RemoteUser) := do
  match name with
  | none => return none
  | some name =>
    if name.isEmpty then
      return none
    else
      let user ← resolver.directory.get? (resolver.target name)
      if user.isNone then
        modify fun session => { session with misses := session.misses.add name }
      return user

end Resolver

end TicketMigration
