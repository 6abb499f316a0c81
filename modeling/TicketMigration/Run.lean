import TicketMigration.Request

/-!
# Runs

A run talks to the two servers.  What it asked and what it logged is recorded and stays recorded
when the run fails, and so does everything else that it has changed by then.

## Main definitions

* `Session` is the state of a run, `Run` a computation on it.
* `Run.send` asks the servers, `Run.record` notes a request that needs no answer, `Run.log` writes
  a line of the log.
-/

namespace TicketMigration

/-- How much a line of the log matters. -/
inductive Level
  /-- For those who look for a fault. -/
  | debug
  /-- What happens as it should. -/
  | info
  /-- What may need attention. -/
  | warning
  /-- What went wrong. -/
  | error
  deriving DecidableEq, Repr

/-- A line of the log. -/
structure LogLine where
  /-- How much it matters. -/
  level : Level
  /-- What it says. -/
  text : String
  deriving DecidableEq, Repr

/-- The users that are known, by name, in the order in which the names were first seen. -/
abbrev Roster := List (String × RemoteUser)

/-- How often each name could not be resolved, in the order in which the names first failed. -/
abbrev Tally := List (String × Nat)

/-- An answer of a tracker that is kept. -/
structure CacheEntry where
  /-- The directory that it is kept in. -/
  directory : String
  /-- The address of the tracker. -/
  url : String
  /-- What was asked. -/
  request : Request
  /-- What was answered. -/
  answer : request.Answer

/-- The state of a run. -/
structure Session (σ : Type) where
  /-- The state of the servers. -/
  world : σ
  /-- What has been asked so far. -/
  requests : List Request := []
  /-- What has been logged so far. -/
  log : List LogLine := []
  /-- The users, once they have been fetched. -/
  roster : Option Roster := none
  /-- The names that could not be resolved. -/
  misses : Tally := []
  /-- The projects that have been made ready. -/
  projects : List String := []
  /-- The answers that are kept. -/
  cache : List CacheEntry := []

/-- A computation that changes a session and ends with a value or a failure.  The session is not
reset by a failure. -/
abbrev Run (σ : Type) := ExceptT Failure (StateM (Session σ))

namespace Run

/-- Runs a computation from a session. -/
def start {σ α : Type} (x : Run σ α) (session : Session σ) : Except Failure α × Session σ :=
  x.run.run session

/-- Asks the servers. -/
def send {σ : Type} (servers : Servers σ) (request : Request) : Run σ request.Answer :=
  ExceptT.mk fun session =>
    let reply := servers.answer request session.world
    (reply.1, { session with world := reply.2, requests := session.requests ++ [request] })

/-- Notes a request that is not sent yet, since nothing depends on its answer. -/
def record {σ : Type} (request : Request) : Run σ Unit :=
  modify fun session => { session with requests := session.requests ++ [request] }

/-- Writes a line of the log. -/
def log {σ : Type} (level : Level) (text : String) : Run σ Unit :=
  modify fun session => { session with log := session.log ++ [⟨level, text⟩] }

/-- Goes on with a value that has been computed, or fails with its failure. -/
def ofExcept {σ α : Type} : Except Failure α → Run σ α
  | .ok a => pure a
  | .error failure => throw failure

end Run

end TicketMigration
