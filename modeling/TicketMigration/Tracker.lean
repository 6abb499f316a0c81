import TicketMigration.Moment.Wire
import TicketMigration.Query
import TicketMigration.Run
import TicketMigration.Text.Blank
import TicketMigration.Text.Path

/-!
# Reading tickets

The tickets that match a query are read in three kinds of requests: the query gives their numbers,
one request gives the fields of them all, and one request for each gives its changes, among which
are its comments.  The answers may be kept in a directory, where later runs find them.

## Main definitions

* `momentOf`, `commentsOf`, `ticketOf` read the answers.
* `Request.storeKey?` is the key under which an answer is kept.
* `Tracker` is a tracker at an address; `Tracker.ask` asks it, unless the answer is kept.
* `Tracker.ticketsMatching` and `Tracker.openTicketsOf` read tickets.

## Main statements

* `Request.storeKey?_inj` — a key belongs to one address and one request.
* `Tracker.map_kept?_eq_find?` — looking up by key finds the answer that is kept.
-/

namespace TicketMigration

open Text

/-! ### Answers -/

/-- Reads a moment.  A moment that has been read already is taken as it is.  Answers are assumed to
be well typed: a truth value, a structure or an array in place of a time fails as being of the wrong
kind, and not as a text that is no time. -/
def momentOf : WireValue → Except Failure (Option Moment)
  | .nil => .ok none
  | .moment m => .ok (some m)
  | .time s | .text s => ofText s
  | .int n => ofText (toString n)
  | .flag _ | .struct _ | .array _ => .error .wrongKind
where
  /-- Reads the text of a moment. -/
  ofText (s : String) : Except Failure (Option Moment) :=
    match Moment.ofWire s.toList with
    | .ok m => .ok (some m)
    | .error fault => .error (.badValue fault.message)

/-- Reads a text that may be missing.  Answers are assumed to be well typed: what is neither a text
nor missing fails here, and is not carried along until something is done with it. -/
def textOf : WireValue → Except Failure (Option String)
  | .nil => .ok none
  | .text s => .ok (some s)
  | _ => .error .wrongKind

/-- Reads the number of a ticket, which may be a text.  Answers are assumed to be well typed, as by
`textOf`. -/
def identOf : WireValue → Except Failure Ident
  | .int n => .ok (.number n)
  | .text s => .ok (.name s)
  | _ => .error .wrongKind

/-- The member of an answer at a place. -/
def memberAt (items : List WireValue) (place : Nat) : Except Failure WireValue :=
  match items[place]? with
  | some value => .ok value
  | none => .error .shortAnswer

/-- Reads the comment in a change, if it is one that says something.  A change has a time, an
author, a field, an old value and a new value. -/
def commentOf (change : List WireValue) : Except Failure (Option Comment) := do
  match ← memberAt change 2 with
  | .text "comment" =>
    match ← memberAt change 4 with
    | .text s =>
      if isBlankText s.toList then
        return none
      else
        let author ← textOf (← memberAt change 1)
        let time ← momentOf (← memberAt change 0)
        return some { author, text := s, time }
    | _ => throw .notText
  | _ => return none

/-- Reads the comments in a change log, in their order. -/
def commentsOf : List (List WireValue) → Except Failure (List Comment)
  | [] => .ok []
  | change :: rest => do
    let comment ← commentOf change
    let comments ← commentsOf rest
    return comment.toList ++ comments

/-- Reads a field of a ticket.  A field that is not sent is empty.  Answers are assumed to be well
typed, as by `textOf`. -/
def attributeOf (attributes : List (String × WireValue)) (name : String) :
    Except Failure (Option String) :=
  match attributes.lookup name with
  | some value => textOf value
  | none => .ok (some "")

/-- Reads a ticket from the answer for it and from its change log.  The answer has the number, the
time of creation, the time of the last change and the fields. -/
def ticketOf (answer : List WireValue) (changes : List (List WireValue)) :
    Except Failure Ticket := do
  let attributes ←
    match ← memberAt answer 3 with
    | .struct members => pure members
    | _ => throw .notText
  let id ← identOf (← memberAt answer 0)
  let summary ← attributeOf attributes "summary"
  let description ← attributeOf attributes "description"
  let owner ← attributeOf attributes "owner"
  let reporter ← attributeOf attributes "reporter"
  let keywords ← attributeOf attributes "keywords"
  let component ← attributeOf attributes "component"
  let milestone ← attributeOf attributes "milestone"
  let createdAt ← momentOf (← memberAt answer 1)
  let comments ← commentsOf changes
  return { id, summary, description, owner, reporter, keywords, component, milestone, createdAt,
           comments }

/-! ### Keys -/

/-- What a request to a tracker is about: a text or a number, or a list of these. -/
inductive StoreArgument
  /-- A text or a number. -/
  | one (id : Ident)
  /-- A list. -/
  | many (ids : List Ident)
  deriving DecidableEq, Repr

/-- The operation that a tracker is asked for, and what it is about.  Other requests are none of a
tracker. -/
def Request.operation? : Request → Option (String × StoreArgument)
  | .query text => some (":ticket.query", .one (.name text))
  | .tickets ids => some (":ticket.get", .many ids)
  | .changeLog id => some (":ticket.changeLog", .one id)
  | _ => none

/-- The key under which the answer of the tracker at an address is kept: a name, made of the address
and the operation, and what the request is about. -/
def Request.storeKey? (url : String) (request : Request) : Option (String × StoreArgument) :=
  request.operation?.map fun operation => (url ++ operation.1, operation.2)

/-- The operations end differently, so a name tells them apart, whatever the addresses are. -/
theorem Request.operation?_inj {url url' : String} {request request' : Request}
    {operation operation' : String × StoreArgument} (h : request.operation? = some operation)
    (h' : request'.operation? = some operation')
    (name : url ++ operation.1 = url' ++ operation'.1) (about : operation.2 = operation'.2) :
    request = request' := by
  have last : (url ++ operation.1).toList.getLast? = (url' ++ operation'.1).toList.getLast? := by
    rw [name]
  rw [String.toList_append, String.toList_append, List.getLast?_append,
    List.getLast?_append] at last
  cases request <;> cases h <;> cases request' <;> cases h' <;> simp_all

/-- **A key belongs to one address and one request.** -/
theorem Request.storeKey?_inj {url url' : String} {request request' : Request}
    {key : String × StoreArgument} (h : request.storeKey? url = some key)
    (h' : request'.storeKey? url' = some key) : url = url' ∧ request = request' := by
  obtain ⟨operation, ho, rfl⟩ := Option.map_eq_some_iff.1 h
  obtain ⟨operation', ho', heq⟩ := Option.map_eq_some_iff.1 h'
  obtain ⟨name, about⟩ := Prod.mk.inj heq
  obtain rfl := operation?_inj ho ho' name.symm about.symm
  obtain rfl : operation = operation' := Option.some.inj (ho.symm.trans ho')
  have chars : url.toList ++ operation.1.toList = url'.toList ++ operation.1.toList := by
    rw [← String.toList_append, ← String.toList_append, name]
  exact ⟨String.toList_inj.1 (List.append_cancel_right chars), rfl⟩

/-! ### Trackers -/

/-- A tracker at an address. -/
structure Tracker where
  /-- The address, without trailing slashes. -/
  url : String
  /-- The directory in which answers are kept, if they are. -/
  directory : Option String := none
  deriving DecidableEq, Repr

namespace Tracker

variable {σ : Type}

/-- The tracker at an address.  A directory is the same by whatever path it is named.  Left out are
the home directories and the variables that a path may name, directories that cannot be opened, and
the size beyond which answers are thrown away. -/
def ofUrl (url : String) (directory : Option String) : Tracker :=
  ⟨dropTrailing '/' url, directory.map normalPath⟩

/-- The answer that is kept for a request to the tracker at an address.  Looking up by key finds the
same, by `map_kept?_eq_find?`. -/
def kept? (directory url : String) (request : Request) : List CacheEntry → Option request.Answer
  | [] => none
  | entry :: rest =>
    if h : entry.directory = directory ∧ entry.url = url ∧ entry.request = request then
      some (h.2.2 ▸ entry.answer)
    else kept? directory url request rest

/-- **Looking up by key finds the same entry**: the first one in the directory under the key of a
request has that address and that request, and its answer. -/
theorem map_kept?_eq_find? (directory : String) {url : String} {request : Request}
    {key : String × StoreArgument} (h : request.storeKey? url = some key)
    (cache : List CacheEntry) :
    (kept? directory url request cache).map (fun answer => ⟨directory, url, request, answer⟩)
      = cache.find? fun entry =>
          entry.directory = directory ∧ entry.request.storeKey? entry.url = some key := by
  induction cache with
  | nil => rfl
  | cons entry rest ih =>
    rw [kept?, List.find?_cons]
    split
    · next same =>
      obtain ⟨directory', url', request', answer⟩ := entry
      obtain ⟨rfl, rfl, rfl⟩ := same
      simp [h]
    · next other =>
      have otherKey : ¬(entry.directory = directory ∧
          entry.request.storeKey? entry.url = some key) := by
        rintro ⟨sameDirectory, sameKey⟩
        exact other ⟨sameDirectory, Request.storeKey?_inj sameKey h⟩
      rw [ih, decide_eq_false otherKey]

/-- Asks the tracker, unless the answer is kept.  An answer is kept when it has come; a failure is
not. -/
def ask (tracker : Tracker) (servers : Servers σ) (request : Request) : Run σ request.Answer :=
  match tracker.directory with
  | none => Run.send servers request
  | some directory => do
    match kept? directory tracker.url request (← get).cache with
    | some answer => return answer
    | none =>
      let answer ← Run.send servers request
      modify fun session =>
        { session with cache := session.cache ++ [⟨directory, tracker.url, request, answer⟩] }
      return answer

/-- Reads tickets with their changes, one after the other. -/
def readTickets (tracker : Tracker) (servers : Servers σ) :
    List (List WireValue) → Run σ (List Ticket)
  | [] => return []
  | answer :: rest => do
    let id ← Run.ofExcept (memberAt answer 0 >>= identOf)
    let changes ← tracker.ask servers (.changeLog id)
    let ticket ← Run.ofExcept (ticketOf answer changes)
    let tickets ← tracker.readTickets servers rest
    return ticket :: tickets

/-- The tickets that match a query, with their comments. -/
def ticketsMatching (tracker : Tracker) (servers : Servers σ) (query : String) :
    Run σ (List Ticket) := do
  Run.log .debug ("Querying Trac: " ++ query)
  let ids ← tracker.ask servers (.query query)
  let answers ← tracker.ask servers (.tickets ids)
  tracker.readTickets servers answers

/-- The open tickets of a component, with their comments. -/
def openTicketsOf (tracker : Tracker) (servers : Servers σ) (component : String)
    (limit : Option Int) : Run σ (List Ticket) :=
  tracker.ticketsMatching servers (componentQuery component limit)

end Tracker

end TicketMigration
