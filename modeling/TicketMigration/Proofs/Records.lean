import TicketMigration.Tracker
import TicketMigration.Proofs.Rosters
import TicketMigration.Proofs.Success

/-!
# What the tracker tells

A tracker holds tickets, each with its own identifier, its fields, its times and its change log.  It
tells of them in answers of loosely typed data.  Reading these answers gives back the tickets: every
change that is a comment and says something becomes a comment, in the order of the change log, and
no other change does.

## Main definitions

* `Stamp` — a time that can be read.
* `Change`, `TicketRecord` — what the tracker holds; `Change.wire`, `TicketRecord.wire` are what it
  sends.
* `TicketRecord.ticket` — the ticket that is migrated.
* `Tells` — the answers of a tracker that holds certain tickets for a query.
* `Tracker.Ready` — the tracker is asked and gives these answers, or they are kept already.

## Main statements

* `TicketRecord.ticketOf_wire` — **reading what the tracker sends of a ticket gives the ticket.**
* `Tracker.succeeds_ticketsMatching` — **reading the tickets of a query gives them all, in order.**
-/

namespace TicketMigration

open Text

variable {σ : Type}

/-! ### Answers -/

@[simp] theorem memberAt_zero (value : WireValue) (items : List WireValue) :
    memberAt (value :: items) 0 = .ok value := rfl

@[simp] theorem memberAt_succ (value : WireValue) (items : List WireValue) (place : Nat) :
    memberAt (value :: items) (place + 1) = memberAt items place := rfl

/-! ### Records -/

/-- A time as it is sent, which is missing or can be read. -/
structure Stamp where
  /-- What is sent. -/
  wire : WireValue
  /-- The moment, if the time is not missing. -/
  moment : Option Moment
  /-- The moment is what is read. -/
  reads : momentOf wire = .ok moment

/-- A text as it is sent, which may be missing. -/
def textWire : Option String → WireValue
  | none => .nil
  | some s => .text s

@[simp] theorem textOf_textWire (s : Option String) : textOf (textWire s) = .ok s := by
  cases s <;> rfl

/-- An identifier as it is sent. -/
def Ident.wire : Ident → WireValue
  | number n => .int n
  | name s => .text s

@[simp] theorem identOf_wire (id : Ident) : identOf id.wire = .ok id := by
  cases id <;> rfl

/-- A change of a ticket. -/
structure Change where
  /-- When it was made. -/
  time : Stamp
  /-- Who made it. -/
  author : Option String
  /-- The field that was changed. -/
  field : String
  /-- What the field said before. -/
  old : String
  /-- What it says since. -/
  new : String
  /-- Whether the change lasts. -/
  permanent : WireValue

namespace Change

/-- The change as it is sent. -/
def wire (change : Change) : List WireValue :=
  [change.time.wire, textWire change.author, .text change.field, .text change.old,
    .text change.new, change.permanent]

/-- Whether the change is a comment that says something. -/
def isComment (change : Change) : Bool :=
  change.field = "comment" && !isBlankText change.new.toList

/-- The comment that the change is. -/
def comment (change : Change) : Comment :=
  { author := change.author, text := change.new, time := change.time.moment }

/-- A change is read as a comment exactly if it is one that says something. -/
theorem commentOf_wire (change : Change) :
    commentOf change.wire = .ok (if change.isComment then some change.comment else none) := by
  obtain ⟨time, author, field, old, new, permanent⟩ := change
  -- what the field says now is looked at only if the change is a comment
  by_cases hfield : field = "comment"
  · subst hfield
    cases hblank : isBlankText new.toList with
    | true => simp [commentOf, wire, isComment, hblank, bind, Except.bind, pure, Except.pure]
    | false =>
      simp [commentOf, wire, isComment, comment, hblank, time.reads, bind, Except.bind, pure,
        Except.pure]
  · simp [commentOf, wire, isComment, hfield, bind, Except.bind, pure, Except.pure]

/-- **The comments of a change log** are read in their order, and nothing else is. -/
theorem commentsOf_wire (changes : List Change) :
    commentsOf (changes.map wire) = .ok ((changes.filter isComment).map comment) := by
  induction changes with
  | nil => rfl
  | cons change rest ih =>
    rw [List.map_cons, commentsOf, commentOf_wire, ih, List.filter_cons]
    cases change.isComment <;> rfl

end Change

/-- A ticket of the tracker. -/
structure TicketRecord where
  /-- What identifies it. -/
  id : Ident
  /-- When it was created. -/
  created : Stamp
  /-- When it was last changed. -/
  changed : WireValue
  /-- Its fields. -/
  fields : List (String × String)
  /-- Its changes, the oldest first. -/
  changes : List Change

namespace TicketRecord

/-- The ticket as it is sent. -/
def wire (record : TicketRecord) : List WireValue :=
  [record.id.wire, record.created.wire, record.changed,
    .struct (record.fields.map fun field => (field.1, .text field.2))]

/-- What a field says; a field that is not there says nothing. -/
def text (record : TicketRecord) (name : String) : String :=
  (record.fields.lookup name).getD ""

/-- The changes that are comments and say something, in their order. -/
def remarks (record : TicketRecord) : List Change :=
  record.changes.filter Change.isComment

/-- The ticket that is migrated. -/
def ticket (record : TicketRecord) : Ticket where
  id := record.id
  summary := some (record.text "summary")
  description := some (record.text "description")
  owner := some (record.text "owner")
  reporter := some (record.text "reporter")
  keywords := some (record.text "keywords")
  component := some (record.text "component")
  milestone := some (record.text "milestone")
  createdAt := record.created.moment
  comments := record.remarks.map Change.comment

theorem attributeOf_fields (record : TicketRecord) (name : String) :
    attributeOf (record.fields.map fun field => (field.1, WireValue.text field.2)) name
      = .ok (some (record.text name)) := by
  have sent (fields : List (String × String)) :
      (fields.map fun field => (field.1, WireValue.text field.2)).lookup name
        = (fields.lookup name).map WireValue.text := by
    induction fields with
    | nil => rfl
    | cons field rest ih =>
      rw [List.map_cons, lookup_cons_ite, lookup_cons_ite, ih]
      split <;> rfl
  rw [attributeOf, text, sent]
  cases record.fields.lookup name <;> rfl

/-- **Reading what the tracker sends of a ticket gives the ticket.** -/
theorem ticketOf_wire (record : TicketRecord) :
    ticketOf record.wire (record.changes.map Change.wire) = .ok record.ticket := by
  simp [ticketOf, ticket, wire, remarks, attributeOf_fields, Change.commentsOf_wire,
    record.created.reads, bind, Except.bind, pure, Except.pure]

end TicketRecord

/-! ### Asking the tracker -/

/-- The answers of a tracker that holds these tickets for a query. -/
inductive Tells (query : String) (records : List TicketRecord) :
    (request : Request) → request.Answer → Prop
  /-- The query is answered with the identifiers. -/
  | query : Tells query records (.query query) (records.map (·.id))
  /-- The tickets are sent in the order in which they are asked for. -/
  | tickets : Tells query records (.tickets (records.map (·.id))) (records.map (·.wire))
  /-- Each ticket has its change log. -/
  | changeLog {record : TicketRecord} (held : record ∈ records) :
    Tells query records (.changeLog record.id) (record.changes.map Change.wire)

namespace Tells

variable {query : String} {records : List TicketRecord} {request : Request}
  {answer : request.Answer}

/-- The tracker is asked, and not only noted down as asked. -/
theorem settle_eq (h : Tells query records request answer) (servers : Servers σ) (world : σ) :
    servers.settle request world = servers.answer request world := by
  cases h <;> rfl

theorem quiet (h : Tells query records request answer) : Exchange.Quiet ⟨request, .ok answer⟩ := by
  cases h <;> exact ⟨rfl, rfl⟩

end Tells

/-- The servers are in one of the given states, whatever they are asked they stay in these, and in
each of them the tracker holds these tickets for the query. -/
structure Holds (servers : Servers σ) (states : σ → Prop) (query : String)
    (records : List TicketRecord) : Prop where
  /-- No request leads to another state. -/
  stays : ∀ request world, states world → states (servers.answer request world).2
  /-- The tracker answers as it should. -/
  tells : ∀ request answer, Tells query records request answer → ∀ world, states world →
    (servers.answer request world).1 = .ok answer

namespace Tracker

/-- The tracker can be asked: the servers are in one of the given states, and the answers that are
kept are those that the tracker would give. -/
structure Ready (tracker : Tracker) (states : σ → Prop) (query : String)
    (records : List TicketRecord) (session : Session σ) : Prop where
  /-- The servers are in one of these states. -/
  world : states session.world
  /-- What is kept is what would be told. -/
  kept : ∀ directory, tracker.directory = some directory → ∀ request answer,
    Tells query records request answer →
      ∀ known, kept? directory tracker.url request session.cache = some known → known = answer

/-- An answer that is kept behind others is found if none of the others is. -/
theorem kept?_concat {directory url : String} {request : Request} {cache : List CacheEntry}
    {entry : CacheEntry} {known : request.Answer}
    (h : kept? directory url request (cache ++ [entry]) = some known) :
    kept? directory url request cache = some known ∨
      ∃ same : entry.request = request, known = same ▸ entry.answer := by
  induction cache with
  | nil =>
    rw [List.nil_append, kept?] at h
    split at h
    · next same => exact .inr ⟨same.2.2, (Option.some.inj h).symm⟩
    · cases h
  | cons other rest ih =>
    rw [List.cons_append, kept?] at h
    rw [kept?]
    split at h
    · next same => exact .inl (by rw [dif_pos same, h])
    · next different =>
      rw [dif_neg different]
      exact ih h

variable {tracker : Tracker} {servers : Servers σ} {states : σ → Prop} {query : String}
  {records : List TicketRecord}

/-- Keeping an answer of the tracker leaves it ready. -/
theorem Ready.keep {request : Request} {answer : request.Answer} {session : Session σ}
    (h : tracker.Ready states query records session)
    (holds : Holds servers states query records) (tells : Tells query records request answer)
    (directory : String) :
    tracker.Ready states query records
      { session with cache := session.cache ++ [⟨directory, tracker.url, request, answer⟩] } := by
  refine ⟨h.world, fun directory' hd request' answer' tells' known hk => ?_⟩
  rcases kept?_concat hk with hk | ⟨same, hk⟩
  · exact h.kept directory' hd request' answer' tells' known hk
  · -- the servers give one answer to a request
    cases same
    have once := (holds.tells request answer tells session.world h.world).symm.trans
      (holds.tells request answer' tells' session.world h.world)
    rw [hk]
    exact Except.ok.inj once

/-- **The tracker answers**, or its answer is kept already. -/
theorem succeeds_ask (holds : Holds servers states query records) {request : Request}
    {answer : request.Answer} (tells : Tells query records request answer) :
    Run.Succeeds servers (tracker.Ready states query records) Exchange.Quiet
      (tracker.ask servers request) (· = answer) := by
  have send : Run.Succeeds servers (tracker.Ready states query records) Exchange.Quiet
      (Run.send servers request) (· = answer) :=
    .of_send (tells.settle_eq servers) fun session h =>
      ⟨answer, holds.tells request answer tells session.world h.world, rfl, tells.quiet,
        holds.stays request session.world h.world, h.kept⟩
  unfold ask
  split
  · exact send
  · next directory hd =>
    refine .bind .of_get fun session hready => ?_
    split
    · next known hk => exact .of_pure (hready.kept directory hd request answer tells known hk)
    · refine .bind send ?_
      rintro _ rfl
      refine .bind (.of_modify _ (fun _ => rfl) (fun _ => rfl) fun session h => ?_)
        fun _ _ => .of_pure rfl
      exact h.keep holds tells directory

/-- Reading some of the tickets that the tracker holds gives these tickets. -/
theorem succeeds_readTickets (holds : Holds servers states query records)
    (part : List TicketRecord) (held : ∀ record ∈ part, record ∈ records) :
    Run.Succeeds servers (tracker.Ready states query records) Exchange.Quiet
      (tracker.readTickets servers (part.map (·.wire))) (· = part.map (·.ticket)) := by
  induction part with
  | nil => exact .of_pure rfl
  | cons record rest ih =>
    have identified : (memberAt record.wire 0 >>= identOf) = .ok record.id :=
      identOf_wire record.id
    refine .bind (.of_ofExcept identified rfl) ?_
    rintro _ rfl
    refine .bind (succeeds_ask holds (.changeLog (held record List.mem_cons_self))) ?_
    rintro _ rfl
    refine .bind (.of_ofExcept record.ticketOf_wire rfl) ?_
    rintro _ rfl
    refine .bind (ih fun other ho => held other (List.mem_cons_of_mem _ ho)) ?_
    rintro _ rfl
    exact .of_pure rfl

/-- **Reading the tickets of a query gives them all**, in the order of the answer. -/
theorem succeeds_ticketsMatching (holds : Holds servers states query records) :
    Run.Succeeds servers (tracker.Ready states query records) Exchange.Quiet
      (tracker.ticketsMatching servers query) (· = records.map (·.ticket)) := by
  refine .bind (.of_modify _ (fun _ => rfl) (fun _ => rfl) fun session h => ⟨h.world, h.kept⟩)
    fun _ _ => ?_
  refine .bind (succeeds_ask holds .query) ?_
  rintro _ rfl
  refine .bind (succeeds_ask holds .tickets) ?_
  rintro _ rfl
  exact succeeds_readTickets holds records fun _ h => h

end Tracker

end TicketMigration
