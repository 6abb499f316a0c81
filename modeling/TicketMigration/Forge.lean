import TicketMigration.Run
import TicketMigration.Text.Blank

/-!
# Creating issues and notes

With the token of an administrator, issues and notes are created on behalf of their authors.  If
the issue server refuses that, the request is repeated on behalf of the administrator.

## Main definitions

* `impersonating` repeats a request that is refused to a user.
* `Forge` is the issue server; `Forge.postIssue` and `Forge.postNote` create on it.
-/

namespace TicketMigration

open Text

/-- Does something on behalf of a user, and once more on behalf of nobody in particular if it
fails with a failure of the issue server that is worth a second try. -/
def impersonating {σ α β : Type} (describe : α → String) (worthRetry : Failure → Bool)
    (action : Option α → Run σ β) (actor : Option α) : Run σ β :=
  match actor with
  | none => action none
  | some user =>
    tryCatch (action (some user)) fun failure =>
      match failure.forgeMessage? with
      | none => throw failure
      | some message =>
        if worthRetry failure then do
          Run.log .warning ("Request as user " ++ describe user ++ " was refused (" ++ message ++
            "), retrying as token owner")
          action none
        else throw failure

/-- The issue server, as one token sees it. -/
structure Forge where
  /-- The address, without trailing slashes. -/
  url : String
  /-- Whether the token is one of an administrator. -/
  isAdmin : Bool := false
  deriving DecidableEq, Repr

namespace Forge

variable {σ : Type}

/-- The issue server at an address. -/
def ofUrl (url : String) (isAdmin : Bool) : Forge :=
  ⟨dropTrailing '/' url, isAdmin⟩

/-- The address of an issue. -/
def issueAddress (forge : Forge) (project : String) (issue : Int) : String :=
  forge.url ++ "/" ++ project ++ "/-/issues/" ++ toString issue

/-- The user on whose behalf something is created. -/
def actor (forge : Forge) (author : Option Int) : Option Int :=
  if forge.isAdmin then author else none

/-- The time of creation that the server is told: only an administrator may tell it one. -/
def stamp (forge : Forge) (time : Option Moment) : Option String :=
  if forge.isAdmin then time.map fun time => String.ofList time.isoZoned else none

/-- Makes a project ready, the first time that it is needed. -/
def openProject (project : String) : Run σ Unit := do
  unless (← get).projects.contains project do
    Run.record (.openProject project)
    modify fun session => { session with projects := session.projects ++ [project] }

/-- Creates an issue and gives its number. -/
def postIssue (forge : Forge) (servers : Servers σ) (project : String) (title : Option String)
    (description : String) (labels : String) (assignee author : Option Int)
    (createdAt : Option Moment) : Run σ Int := do
  let draft : IssueDraft :=
    { title, description, labels, assignee, createdAt := forge.stamp createdAt }
  let create (actor : Option Int) : Run σ Int := do
    openProject project
    Run.send servers (.createIssue project draft actor)
  let issue ← impersonating toString Failure.isRefusal create (forge.actor author)
  Run.log .debug ("  created issue " ++ toString issue)
  return issue

/-- Creates a note on an issue. -/
def postNote (forge : Forge) (servers : Servers σ) (project : String) (issue : Int)
    (body : String) (author : Option Int) (createdAt : Option Moment) : Run σ Unit := do
  let draft : NoteDraft := { body, createdAt := forge.stamp createdAt }
  openProject project
  Run.record (.openIssue project issue)
  impersonating toString Failure.isRefusal
    (fun actor => Run.send servers (.createNote project issue draft actor)) (forge.actor author)

end Forge

/-- One page of the users of the issue server. -/
def fetchUsers {σ : Type} (servers : Servers σ) (page size : Int) : Run σ (List RemoteUser) :=
  Run.send servers (.users page size)

end TicketMigration
