import TicketMigration.Moment.Basic

/-!
# Tickets

## Main definitions

* `Ident` identifies a ticket.
* `Ticket` and `Comment` are what is migrated.
* `labels` are the labels that an issue gets from its ticket.
-/

namespace TicketMigration

/-- What identifies a ticket: a number, or a text where a tracker uses one. -/
inductive Ident
  /-- A number. -/
  | number (n : Int)
  /-- A text. -/
  | name (s : String)
  deriving DecidableEq, Repr, Inhabited

/-- The text of an identifier. -/
def Ident.text : Ident → String
  | number n => toString n
  | name s => s

/-- A comment on a ticket. -/
structure Comment where
  /-- Who wrote it. -/
  author : Option String
  /-- What it says, in wiki markup. -/
  text : String
  /-- When it was written. -/
  time : Option Moment := none
  deriving DecidableEq, Repr

/-- A ticket with its comments.  A field that the tracker leaves open has no text. -/
structure Ticket where
  /-- What identifies it. -/
  id : Ident
  /-- Its title. -/
  summary : Option String
  /-- What it says, in wiki markup. -/
  description : Option String := some ""
  /-- Who works on it. -/
  owner : Option String := some ""
  /-- Who wrote it. -/
  reporter : Option String := some ""
  /-- Words to find it by. -/
  keywords : Option String := some ""
  /-- The part of the project that it is about. -/
  component : Option String := some ""
  /-- The milestone for which it is planned. -/
  milestone : Option String := some ""
  /-- When it was written. -/
  createdAt : Option Moment := none
  /-- Its comments, in the order in which they were written. -/
  comments : List Comment := []
  deriving DecidableEq, Repr

/-- Which labels an issue gets besides the keywords of its ticket. -/
structure LabelOptions where
  /-- The component is a label. -/
  component : Bool := false
  /-- The milestone is a label. -/
  milestone : Bool := false
  /-- A label that every issue gets. -/
  extra : Option String := none
  deriving DecidableEq, Repr

/-- The texts that make up the labels of a ticket, in order; some may be missing or empty. -/
def LabelOptions.parts (options : LabelOptions) (ticket : Ticket) : List (Option String) :=
  [ticket.keywords] ++ (if options.component then [ticket.component] else [])
    ++ (if options.milestone then [ticket.milestone] else []) ++ [options.extra]

/-- Puts a label behind the labels so far, with a comma unless it is the first. -/
def addLabel (labels : String) (label : Option String) : String :=
  match label with
  | none => labels
  | some label =>
    if label.isEmpty then labels
    else if labels.isEmpty then label
    else labels ++ "," ++ label

/-- The labels of a ticket, with commas between them. -/
def labels (options : LabelOptions) (ticket : Ticket) : String :=
  (options.parts ticket).foldl addLabel ""

end TicketMigration
