import TicketMigration.Migration
import TicketMigration.Proofs.Paging
import TicketMigration.Proofs.Records

/-!
# Where every request is granted

A migration is made of requests to the issue server, look-ups of users among them.  If the issue
server grants every request, none of those that a migration makes fails, however far it comes.

## Main definitions

* `Grants` — the tracker holds tickets, and the issue server grants every request.
* `Run.Granted` — with these servers all requests of a computation are granted.
* `Migration.Supported` — the users are those of an issue server that grants every request.

## Main statements

* `Migration.granted_migrateAll` — **no request of a migration that is supported fails.**
-/

namespace TicketMigration

variable {σ : Type}

/-! ### A server that grants every request -/

/-- Whether the issue server is asked. -/
def Request.isForge : Request → Bool
  | .users _ _ | .createIssue _ _ _ | .createNote _ _ _ _ => true
  | _ => false

/-- The tracker holds these tickets for the query, and the issue server grants every request. -/
structure Grants (servers : Servers σ) (states : σ → Prop) (query : String)
    (records : List TicketRecord) : Prop extends Holds servers states query records where
  /-- No request is refused and none fails. -/
  grants : ∀ request : Request, request.isForge = true → ∀ world, states world →
    ∃ answer, (servers.answer request world).1 = .ok answer

/-- From the given states of the servers on, all requests of the computation are granted, and they
lead to none but these states. -/
def Run.Granted {α : Type} (servers : Servers σ) (states : σ → Prop) (x : Run σ α) : Prop :=
  Run.Does servers x fun before trace _ after => states before.world →
    (∀ exchange ∈ trace, exchange.failure? = none) ∧ states after.world

namespace Run.Granted

variable {α β : Type} {servers : Servers σ} {states : σ → Prop}

theorem pure (a : α) : Granted servers states (pure a : Run σ α) :=
  Does.of_pure fun _ hs => ⟨by simp, hs⟩

theorem throw (failure : Failure) : Granted servers states (throw failure : Run σ α) :=
  Does.of_throw fun _ hs => ⟨by simp, hs⟩

/-- What is granted in two parts is granted as a whole. -/
theorem append {earlier later : List Exchange} {before between after : Session σ}
    (h₁ : states before.world →
      (∀ exchange ∈ earlier, exchange.failure? = none) ∧ states between.world)
    (h₂ : states between.world →
      (∀ exchange ∈ later, exchange.failure? = none) ∧ states after.world)
    (hs : states before.world) :
    (∀ exchange ∈ earlier ++ later, exchange.failure? = none) ∧ states after.world := by
  obtain ⟨granted, hs'⟩ := h₁ hs
  obtain ⟨granted', hs''⟩ := h₂ hs'
  exact ⟨List.forall_mem_append.2 ⟨granted, granted'⟩, hs''⟩

theorem bind {x : Run σ α} {f : α → Run σ β} (hx : Granted servers states x)
    (hf : ∀ a, Granted servers states (f a)) : Granted servers states (x >>= f) :=
  Does.bind hx _ hf (fun _ _ _ _ h => h) fun _ _ _ _ _ _ _ h₁ h₂ => append h₁ h₂

theorem tryCatch {x : Run σ α} {handle : Failure → Run σ α} (hx : Granted servers states x)
    (hf : ∀ failure, Granted servers states (handle failure)) :
    Granted servers states (MonadExcept.tryCatch x handle) :=
  Does.tryCatch hx _ hf (fun _ _ _ _ h => h) fun _ _ _ _ _ _ _ h₁ h₂ => append h₁ h₂

theorem get_bind {f : Session σ → Run σ β} (hf : ∀ session, Granted servers states (f session)) :
    Granted servers states (get >>= f) :=
  Does.get_bind fun session => (hf session).mono fun _ _ _ _ h _ => h

theorem modify (change : Session σ → Session σ)
    (hr : ∀ session, (change session).requests = session.requests)
    (hw : ∀ session, (change session).world = session.world) :
    Granted servers states (modify change) := by
  refine (does_modify servers change hr hw).mono ?_
  rintro before _ _ _ ⟨rfl, -, rfl⟩ hs
  exact ⟨by simp, by rwa [hw]⟩

theorem log (level : Level) (text : String) : Granted servers states (Run.log level text) :=
  modify _ (fun _ => rfl) fun _ => rfl

/-- A request that is only noted counts as granted. -/
theorem record (request : Request) {answer : request.Answer}
    (h : ∀ world, servers.settle request world = (.ok answer, world)) :
    Granted servers states (Run.record request) := by
  refine (does_record servers request h).mono ?_
  rintro before _ _ _ ⟨rfl, -, rfl⟩ hs
  refine ⟨fun exchange he => ?_, hs⟩
  rw [List.mem_singleton.1 he]
  rfl

end Run.Granted

/-! ### Programs that are granted -/

section

open Run

variable {servers : Servers σ} {states : σ → Prop} {query : String} {records : List TicketRecord}
  {pageSize maxPages : Int} {mapping : Entries}

theorem Grants.send (h : Grants servers states query records) {request : Request}
    (forge : request.isForge = true) : Granted servers states (Run.send servers request) := by
  have settled (world : σ) : servers.settle request world = servers.answer request world := by
    cases request <;> first | rfl | cases forge
  intro before
  obtain ⟨_, passed, rfl, -⟩ := does_send servers request settled before
  refine ⟨_, passed, fun hs => ⟨fun exchange he => ?_, h.stays request before.world hs⟩⟩
  obtain ⟨answer, ha⟩ := h.grants request forge before.world hs
  have told : ((Run.send servers request).start before).1 = .ok answer := ha
  rw [List.mem_singleton.1 he, Exchange.failure?, told, failure?_ok]

namespace Directory

theorem granted_fetchFrom (h : Grants servers states query records) (page left : Nat)
    (users : Roster) :
    Granted servers states ((ofServers servers pageSize maxPages).fetchFrom page left users) := by
  induction left generalizing page users with
  | zero => exact .bind (.log _ _) fun _ => .pure _
  | succ left ih =>
    refine .bind (h.send rfl) fun listed => ?_
    -- the reading ends with this page, or goes on with the next one
    split
    · exact .pure _
    · split
      · exact .bind (.log _ _) fun _ => .pure _
      · exact ih (page + 1) _

theorem granted_roster (h : Grants servers states query records) :
    Granted servers states (ofServers servers pageSize maxPages).roster := by
  refine .get_bind fun session => ?_
  split
  · exact .pure _
  · exact .bind (granted_fetchFrom h 1 maxPages.toNat []) fun users => .bind (.log _ _) fun _ =>
      .bind (.modify _ (fun _ => rfl) fun _ => rfl) fun _ => .pure _

theorem granted_get? (h : Grants servers states query records) (name : Value) :
    Granted servers states ((ofServers servers pageSize maxPages).get? name) := by
  refine .bind (granted_roster h) fun users => ?_
  split
  · exact .pure _
  · exact .throw _

end Directory

theorem Resolver.granted_find (h : Grants servers states query records) (name : Option String) :
    Granted servers states ((Resolver.ofServers servers pageSize maxPages mapping).find name) := by
  unfold find
  split
  · exact .pure _
  · split
    · exact .pure _
    · refine .bind (Directory.granted_get? h _) fun user => ?_
      split
      · exact .bind (.modify _ (fun _ => rfl) fun _ => rfl) fun _ => .pure _
      · exact .pure _

theorem granted_impersonating {α β : Type} (describe : α → String) (worthRetry : Failure → Bool)
    {action : Option α → Run σ β} (h : ∀ actor, Granted servers states (action actor))
    (actor : Option α) :
    Granted servers states (impersonating describe worthRetry action actor) := by
  unfold impersonating
  split
  · exact h none
  · refine .tryCatch (h _) fun failure => ?_
    split
    · exact .throw failure
    · split
      · exact .bind (.log _ _) fun _ => h none
      · exact .throw failure

namespace Forge

theorem granted_openProject (project : String) :
    Granted servers states (openProject project : Run σ Unit) := by
  refine .get_bind fun session => ?_
  split
  · exact .pure _
  · exact .bind (.record _ fun _ => rfl) fun _ => .modify _ (fun _ => rfl) fun _ => rfl

theorem granted_postIssue (h : Grants servers states query records) (forge : Forge)
    (project : String) (title : Option String) (description labels : String)
    (assignee author : Option Int) (createdAt : Option Moment) :
    Granted servers states
      (forge.postIssue servers project title description labels assignee author createdAt) := by
  refine .bind (granted_impersonating _ _ (fun actor => ?_) _) fun issue =>
    .bind (.log _ _) fun _ => .pure issue
  exact .bind (granted_openProject project) fun _ => h.send rfl

theorem granted_postNote (h : Grants servers states query records) (forge : Forge)
    (project : String) (issue : Int) (body : String) (author : Option Int)
    (createdAt : Option Moment) :
    Granted servers states (forge.postNote servers project issue body author createdAt) := by
  refine .bind (granted_openProject project) fun _ =>
    .bind (.record _ fun _ => rfl) fun _ => granted_impersonating _ _ (fun actor => ?_) _
  exact h.send rfl

end Forge

namespace Migration

variable {migration : Migration σ}

/-- The users of a migration are those of an issue server that grants every request, and the
tracker holds tickets.  Names may be mapped to anything. -/
structure Supported (migration : Migration σ) (states : σ → Prop) (query : String)
    (records : List TicketRecord) : Prop where
  /-- The users are those of the issue server. -/
  users : ∃ pageSize maxPages mapping,
    migration.resolver = .ofServers migration.servers pageSize maxPages mapping
  /-- The servers do what they are asked for. -/
  grants : Grants migration.servers states query records

theorem granted_userId (h : migration.Supported states query records) (name : Option String) :
    Granted migration.servers states (migration.userId name) := by
  obtain ⟨pageSize, maxPages, mapping, hr⟩ := h.users
  rw [userId, hr]
  exact .bind (Resolver.granted_find h.grants name) fun _ => .pure _

theorem granted_postNotes (h : migration.Supported states query records) (project : String)
    (issue : Int) (comments : List Comment) :
    Granted migration.servers states (migration.postNotes project issue comments) := by
  have notes : Granted migration.servers states
      (migration.postNotesFrom project issue comments) := by
    induction comments with
    | nil => exact .pure _
    | cons comment rest ih =>
      exact .bind (granted_userId h _) fun _ =>
        .bind (Forge.granted_postNote h.grants _ _ _ _ _ _) fun _ => ih
  unfold postNotes
  split
  · exact .pure _
  · exact .bind notes fun _ => .log _ _

theorem granted_migrateTicket (h : migration.Supported states query records) (project : String)
    (count : Nat) (ticket : Ticket) :
    Granted migration.servers states (migration.migrateTicket project count ticket) := by
  refine .bind (granted_userId h _) fun assignee => .bind (granted_userId h _) fun author => ?_
  split
  · exact .bind (.log _ _) fun _ => .pure _
  · exact .bind (Forge.granted_postIssue h.grants _ _ _ _ _ _ _ _) fun issue =>
      .bind (.log _ _) fun _ => .bind (granted_postNotes h _ _ _) fun _ => .pure _

/-- **No request of a migration fails** where every request is granted, however far it comes. -/
theorem granted_migrateAll (h : migration.Supported states query records) (tickets : List Ticket)
    (project label : String) :
    Granted migration.servers states (migration.migrateAll tickets project label) := by
  refine .bind (.log _ _) fun _ => ?_
  generalize 1 = count
  induction tickets generalizing count with
  | nil => exact .pure _
  | cons ticket rest ih =>
    refine .bind (granted_migrateTicket h _ _ _) fun issue => ?_
    split
    · exact .pure _
    · exact .bind (ih (count + 1)) fun _ => .pure _

end Migration

end

end TicketMigration
