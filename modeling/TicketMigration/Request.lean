import TicketMigration.Failure
import TicketMigration.Ticket
import TicketMigration.Value.Basic

/-!
# Requests and answers

The tracker is only read; issues and notes are created on the issue server.  The servers are a
parameter of everything that talks to them: they answer every request as they like, and may change
with every request.

## Main definitions

* `WireValue` is a datum in an answer of the tracker.
* `Request` lists the requests, `Request.Answer` the type of the answer to each.
* `Servers` answer requests.
-/

namespace TicketMigration

/-- A datum in an answer of the tracker. -/
inductive WireValue
  /-- No value. -/
  | nil
  /-- A truth value. -/
  | flag (b : Bool)
  /-- A whole number. -/
  | int (n : Int)
  /-- A text. -/
  | text (s : String)
  /-- A moment as it was sent. -/
  | time (s : String)
  /-- A moment that has been read already. -/
  | moment (m : Moment)
  /-- Named members. -/
  | struct (members : List (String × WireValue))
  /-- A list. -/
  | array (items : List WireValue)
  deriving Repr, Inhabited

/-- A user of the issue server. -/
structure RemoteUser where
  /-- The number of the user. -/
  id : Int
  /-- The name to log in with. -/
  username : String
  /-- Everything that the server says of the user. -/
  attributes : List (String × Value) := []
  deriving Repr, Inhabited

/-- An issue that is to be created. -/
structure IssueDraft where
  /-- The title. -/
  title : Option String
  /-- What it says, in Markdown. -/
  description : String
  /-- The labels, with commas between them. -/
  labels : String := ""
  /-- Who is to work on it. -/
  assignee : Option Int := none
  /-- The time of creation, if the server is told one. -/
  createdAt : Option String := none
  deriving DecidableEq, Repr

/-- A note that is to be created on an issue. -/
structure NoteDraft where
  /-- What it says, in Markdown. -/
  body : String
  /-- The time of creation, if the server is told one. -/
  createdAt : Option String := none
  deriving DecidableEq, Repr

/-- What the servers can be asked. -/
inductive Request
  /-- Make ready to ask the tracker at an address. -/
  | connectTracker (url : String)
  /-- Make ready to ask the issue server at an address. -/
  | connectForge (url token : String) (verify : Option Bool)
  /-- The tickets that match a query. -/
  | query (query : String)
  /-- The fields of tickets, all in one request. -/
  | tickets (ids : List Ident)
  /-- The changes that were made to a ticket. -/
  | changeLog (id : Ident)
  /-- One page of the users. -/
  | users (page size : Int)
  /-- Make ready to ask for things of a project. -/
  | openProject (project : String)
  /-- Create an issue, on behalf of a user if one is given. -/
  | createIssue (project : String) (draft : IssueDraft) (actor : Option Int)
  /-- Make ready to ask for things of an issue. -/
  | openIssue (project : String) (issue : Int)
  /-- Create a note on an issue, on behalf of a user if one is given. -/
  | createNote (project : String) (issue : Int) (draft : NoteDraft) (actor : Option Int)
  deriving DecidableEq, Repr

/-- What the servers answer to a request. -/
def Request.Answer : Request → Type
  | query _ => List Ident
  | tickets _ => List (List WireValue)
  | changeLog _ => List (List WireValue)
  | users _ _ => List RemoteUser
  | createIssue _ _ _ => Int
  | _ => Unit

/-- The two servers.  They are in a state of their own, which every request may change. -/
structure Servers (σ : Type) where
  /-- The answer to a request and the state after it. -/
  answer : (request : Request) → σ → Except Failure request.Answer × σ

end TicketMigration
