import TicketMigration.Migration
import TicketMigration.Proofs.Posting

/-!
# The order of writing

A migration that creates anything goes through the tickets that it visits and creates, for each,
its issue and then one note for each comment.  Whatever the servers answer, what it creates is a
front part of this sequence: it stops at the first failure that a second attempt does not mend.

## Main definitions

* `MigrationOptions.visited` — the tickets that a migration goes through.
* `Migration.writesOf` — what it creates for one ticket.
* `Migration.writes` — the whole sequence, for given numbers of the issues.
* `Progress` — the part of a run that goes through some of the sequence.
* `Migration.TicketMigrated`, `Migration.Migrated` — what the migration of a ticket and of a list
  of them does.
* `Migration.WritesInOrder` — that a run has gone through the sequence up to its first failure.

## Main statements

* `Migration.does_migrateTicket`, `Migration.does_migrateFrom` — a ticket, and a list of tickets.
* `Migration.migrateAll_writes_in_order` — **what a migration creates is a front part of the
  sequence, and all of it if the migration succeeds.**
-/

namespace TicketMigration

open Markup

variable {σ : Type}

/-! ### The sequence -/

/-- The tickets that a migration goes through, at most as many as the settings allow. -/
def MigrationOptions.visited (options : MigrationOptions) (tickets : List Ticket) : List Ticket :=
  if options.maxTickets = 0 then tickets else tickets.take options.maxTickets.toNat

namespace Migration

variable (migration : Migration σ)

/-- The number of the user that a name of the tracker stands for. -/
def idOf (users : Roster) (name : Option String) : Option Int :=
  (migration.resolver.userOf users name).map (·.id)

/-- The issue of a ticket. -/
def issueOf (users : Roster) (ticket : Ticket) (number : Int) : Write :=
  .issue
    (migration.forge.issueDraft ticket.summary (issueText migration.options ticket)
      (labels migration.options.labels ticket) (migration.idOf users ticket.owner) ticket.createdAt)
    (migration.forge.actor (migration.idOf users ticket.reporter)) number

/-- The note for a comment on a ticket, whose issue has this number. -/
def noteOf (users : Roster) (number : Int) (comment : Comment) : Write :=
  .note number
    (migration.forge.noteDraft (toMarkdown comment.text migration.options.trackerUrl)
      comment.time)
    (migration.forge.actor (migration.idOf users comment.author))

/-- What is created for a ticket: its issue, and a note on this issue for each comment. -/
def writesOf (users : Roster) (ticket : Ticket) (number : Int) : List Write :=
  migration.issueOf users ticket number :: ticket.comments.map (migration.noteOf users number)

/-- What is created for tickets, whose issues have the given numbers. -/
def writes (users : Roster) (tickets : List (Ticket × Int)) : List Write :=
  tickets.flatMap fun ticket => migration.writesOf users ticket.1 ticket.2

end Migration

/-! ### Progress -/

/-- A part of a run that goes through a sequence of writes.  The sequence may depend on who the
users are. -/
structure Progress {α : Type} (project : String) (faults : Failure → Prop)
    (plan : Roster → List Write) (before : Session σ) (trace : List Exchange)
    (result : Except Failure α) (after : Session σ) : Prop where
  /-- What is created is a front part of the sequence, and all of it if nothing fails. -/
  course : ∃ posts, Course project faults posts trace (failure? result) ∧
    ∀ users, after.Fits users → posts.map (·.write) <+: plan users ∧
      (failure? result = none → posts.map (·.write) = plan users)
  /-- The users that were known are known still. -/
  keeps : ∀ known, before.roster = some known → after.roster = some known

namespace Progress

variable {α β : Type} {project : String} {faults : Failure → Prop}
  {plan plan' : Roster → List Write} {before between after : Session σ}
  {earlier later trace : List Exchange}

theorem ofInquiry {result : Except Failure α} (h : Inquiry faults before trace result after) :
    Progress project faults (fun _ => []) before trace result after :=
  ⟨⟨[], h.course project, fun _ _ => ⟨List.nil_prefix, fun _ => rfl⟩⟩, h.keeps⟩

theorem ofPosted {post : Posting} {write : Roster → Write} {result : Except Failure α}
    (h : Posted project post before trace result after)
    (hw : ∀ users, after.Fits users → post.write = write users) :
    Progress project faults (fun users => [write users]) before trace result after := by
  refine ⟨⟨[post], h.course faults, fun users hf => ?_⟩, fun known hk => h.roster.trans hk⟩
  rw [List.map_singleton, hw users hf]
  exact ⟨List.prefix_rfl, fun _ => rfl⟩

/-- A failure leaves the rest of the sequence undone. -/
theorem failed {failure : Failure}
    (h : Progress project faults plan before trace (.error failure : Except Failure α) after) :
    Progress project faults (fun users => plan users ++ plan' users) before trace
      (.error failure : Except Failure β) after := by
  obtain ⟨⟨posts, hc, hp⟩, hk⟩ := h
  refine ⟨⟨posts, hc, fun users hf => ⟨?_, fun h => by cases h⟩⟩, hk⟩
  exact (hp users hf).1.trans (List.prefix_append _ _)

theorem trans {a : α} {result : Except Failure β}
    (h₁ : Progress project faults plan before earlier (.ok a : Except Failure α) between)
    (h₂ : Progress project faults plan' between later result after) :
    Progress project faults (fun users => plan users ++ plan' users) before (earlier ++ later)
      result after := by
  obtain ⟨⟨posts, hc, hp⟩, hk⟩ := h₁
  obtain ⟨⟨posts', hc', hp'⟩, hk'⟩ := h₂
  refine ⟨⟨posts ++ posts', hc.append hc', fun users hf => ?_⟩, fun known h => hk' _ (hk _ h)⟩
  have fits : between.Fits users := fun known h => hf known (hk' known h)
  rw [List.map_append, (hp users fits).2 rfl]
  refine ⟨(List.prefix_append_right_inj _).2 (hp' users hf).1, fun h => ?_⟩
  rw [(hp' users hf).2 h]

/-- A step that creates something is followed by the rest. -/
theorem bind {servers : Servers σ} {x : Run σ α} {f : α → Run σ β}
    (hx : Run.Does servers x (Progress project faults plan))
    (hf : ∀ a, Run.Does servers (f a) (Progress project faults plan')) :
    Run.Does servers (x >>= f) (Progress project faults fun users => plan users ++ plan' users) :=
  Run.Does.bind hx _ hf (fun _ _ _ _ h => h.failed) fun _ _ _ _ _ _ _ h₁ h₂ => h₁.trans h₂

end Progress

/-! ### Tickets -/

namespace Migration

variable {migration : Migration σ} {faults : Failure → Prop}

/-- The failures that a look-up of a user may end with, besides those of requests. -/
abbrev lookupFaults (faults : Failure → Prop) (failure : Failure) : Prop :=
  failure = .unhashable ∨ faults failure

theorem does_userId (reads : migration.resolver.directory.Reads migration.servers faults)
    (name : Option String) :
    Run.Does migration.servers (migration.userId name) fun before trace result after =>
      Inquiry (lookupFaults faults) before trace result after ∧
        ∀ id, result = .ok id → ∀ users, after.Fits users → id = migration.idOf users name := by
  refine (Resolver.does_find reads name).bind _ (fun user => Run.does_pure _ _) ?_ ?_
  · rintro before trace failure after ⟨h, -⟩
    exact ⟨h.failed, fun _ h => by cases h⟩
  · rintro before earlier user between later result after ⟨h, hu⟩ ⟨rfl, rfl, rfl⟩
    refine ⟨h.trans (.silent rfl rfl), ?_⟩
    rintro _ ⟨⟩ users hf
    rw [hu user rfl users hf, idOf]

/-- The note for a comment is created on behalf of the author of the comment. -/
theorem does_noteOf (reads : migration.resolver.directory.Reads migration.servers faults)
    (project : String) (issue : Int) (comment : Comment) :
    Run.Does migration.servers
      (do
        let author ← migration.userId comment.author
        migration.forge.postNote migration.servers project issue
          (toMarkdown comment.text migration.options.trackerUrl) author comment.time)
      (Progress project (lookupFaults faults)
        fun users => [migration.noteOf users issue comment]) := by
  refine (does_userId reads comment.author).bind _
    (fun author => Forge.does_postNote migration.forge project issue _ author _) ?_ ?_
  · rintro before trace failure after ⟨h, -⟩
    exact (Progress.ofInquiry h).failed
  · rintro before earlier author between later result after ⟨h, ha⟩ ⟨post, hw, hp⟩
    refine (Progress.ofInquiry h).trans (Progress.ofPosted hp fun users hf => ?_)
    -- posting leaves the users alone, so what fits now has fitted the look-up
    have fits : between.Fits users := fun known hk => hf known (hp.roster.trans hk)
    rw [hw, ha author rfl users fits, noteOf]

/-- The notes of a ticket are created in the order of its comments. -/
theorem does_postNotesFrom (reads : migration.resolver.directory.Reads migration.servers faults)
    (project : String) (issue : Int) (comments : List Comment) :
    Run.Does migration.servers (migration.postNotesFrom project issue comments)
      (Progress project (lookupFaults faults)
        fun users => comments.map (migration.noteOf users issue)) := by
  induction comments with
  | nil =>
    exact .of_pure fun before => .ofInquiry (.silent rfl rfl)
  | cons comment rest ih =>
    have h := Progress.bind (does_noteOf reads project issue comment) fun _ => ih
    rw [bind_assoc] at h
    exact h

theorem does_postNotes (reads : migration.resolver.directory.Reads migration.servers faults)
    (project : String) (issue : Int) (comments : List Comment) :
    Run.Does migration.servers (migration.postNotes project issue comments)
      (Progress project (lookupFaults faults)
        fun users => comments.map (migration.noteOf users issue)) := by
  unfold postNotes
  split
  · next he =>
    refine .of_pure fun before => ?_
    rw [show comments = [] by simpa using he]
    exact .ofInquiry (.silent rfl rfl)
  · refine (does_postNotesFrom reads project issue comments).bind _
      (fun _ => Run.does_log _ _ _) (fun _ _ _ _ h => h) ?_
    rintro before earlier a between later result after ⟨hc, hk⟩ ⟨rfl, rfl, rfl⟩
    rw [List.append_nil]
    exact ⟨hc, hk⟩

/-- The issue of a ticket is announced, and then the notes are created on it. -/
theorem does_announced (reads : migration.resolver.directory.Reads migration.servers faults)
    (project : String) (issue : Int) (ticket : Ticket) :
    Run.Does migration.servers
      (do
        Run.log .info (announcement migration.forge project issue ticket)
        migration.postNotes project issue ticket.comments
        return some issue)
      fun before trace result after =>
        (∀ created, result = .ok created → created = some issue) ∧
          Progress project (lookupFaults faults)
            (fun users => ticket.comments.map (migration.noteOf users issue))
            before trace result after := by
  refine Run.Does.log_bind _ _ ((does_postNotes reads project issue ticket.comments).bind _
    (fun _ => Run.does_pure _ _) ?_ ?_)
  · rintro between trace failure after ⟨hc, hk⟩ before rfl
    refine ⟨?_, hc, hk⟩
    rintro _ ⟨⟩
  · rintro before' earlier a between later result after ⟨hc, hk⟩ ⟨rfl, rfl, rfl⟩ before rfl
    rw [List.append_nil]
    refine ⟨?_, hc, hk⟩
    rintro _ ⟨⟩
    rfl

/-- What the migration of a ticket does: its issue has a number, and with this number it goes
through the writes of the ticket.  The number is the result. -/
def TicketMigrated (migration : Migration σ) (faults : Failure → Prop) (project : String)
    (ticket : Ticket) (before : Session σ) (trace : List Exchange)
    (result : Except Failure (Option Int)) (after : Session σ) : Prop :=
  ∃ number : Int, (∀ created, result = .ok created → created = some number) ∧
    Progress project faults (fun users => migration.writesOf users ticket number)
      before trace result after

namespace TicketMigrated

variable {project : String} {ticket : Ticket} {before between after : Session σ}
  {earlier later trace : List Exchange}

/-- A ticket is not begun if a look-up fails. -/
theorem ofFailure {α : Type} {failure : Failure}
    (h : Inquiry faults before trace (.error failure : Except Failure α) after) :
    migration.TicketMigrated faults project ticket before trace (.error failure) after :=
  -- there is no issue, so any number will do
  ⟨0, by rintro _ ⟨⟩, (Progress.ofInquiry h).failed⟩

theorem behind {α : Type} {a : α} {result : Except Failure (Option Int)}
    (h : Inquiry faults before earlier (.ok a : Except Failure α) between)
    (rest : migration.TicketMigrated faults project ticket between later result after) :
    migration.TicketMigrated faults project ticket before (earlier ++ later) result after := by
  obtain ⟨number, hc, hp⟩ := rest
  exact ⟨number, hc, (Progress.ofInquiry h).trans hp⟩

end TicketMigrated

/-- **The issue of a ticket is created and then its notes**, on the issue of the number that the
server has given. -/
theorem does_migrateTicket (reads : migration.resolver.directory.Reads migration.servers faults)
    (hdry : migration.options.dryRun = false) (project : String) (count : Nat) (ticket : Ticket) :
    Run.Does migration.servers (migration.migrateTicket project count ticket)
      (migration.TicketMigrated (lookupFaults faults) project ticket) := by
  unfold migrateTicket
  -- what comes after a look-up does its part if the look-up has given the right user
  refine (does_userId reads ticket.owner).bind
    (fun assignee before trace result after =>
      (∀ users, before.Fits users → assignee = migration.idOf users ticket.owner) →
        migration.TicketMigrated (lookupFaults faults) project ticket before trace result after)
    (fun assignee => (does_userId reads ticket.reporter).bind
      (fun author before trace result after =>
        (∀ users, before.Fits users → assignee = migration.idOf users ticket.owner) →
        (∀ users, before.Fits users → author = migration.idOf users ticket.reporter) →
          migration.TicketMigrated (lookupFaults faults) project ticket before trace result after)
      (fun author => ?_) ?_ ?_) ?_ ?_
  · rw [hdry]
    refine (Forge.does_postIssue migration.forge project _ _ _ assignee author _).bind _
      (fun issue => does_announced reads project issue ticket) ?_ ?_
    · rintro before trace failure after ⟨post, number, hw, -, hp⟩ ha hr
      refine ⟨number, by rintro _ ⟨⟩, (Progress.ofPosted hp fun users hf => ?_).failed⟩
      have fits : before.Fits users := fun known hk => hf known (hp.roster.trans hk)
      rw [hw, ha users fits, hr users fits, issueOf]
    · rintro before earlier issue between later result after ⟨post, number, hw, hn, hp⟩ ⟨hc, h⟩
        ha hr
      obtain rfl := hn issue rfl
      refine ⟨number, hc, (Progress.ofPosted hp fun users hf => ?_).trans h⟩
      have fits : before.Fits users := fun known hk => hf known (hp.roster.trans hk)
      rw [hw, ha users fits, hr users fits, issueOf]
  · rintro before trace failure after ⟨h, -⟩ -
    exact .ofFailure h
  · rintro before earlier author between later result after ⟨h, hr⟩ hd ha
    exact .behind h (hd (fun users hf => ha users (h.fits hf)) (hr author rfl))
  · rintro before trace failure after ⟨h, -⟩
    exact .ofFailure h
  · rintro before earlier assignee between later result after ⟨h, ha⟩ hd
    exact .behind h (hd (ha assignee rfl))

/-! ### Lists of tickets -/

/-- The tickets that are visited if the first one has this count. -/
def visitedFrom (options : MigrationOptions) (count : Nat) : List Ticket → List Ticket
  | [] => []
  | ticket :: rest =>
    if isLast options count then [ticket] else ticket :: visitedFrom options (count + 1) rest

/-- Counting the tickets from one on visits as many as the settings allow. -/
theorem visitedFrom_eq_take {options : MigrationOptions} {limit : Nat}
    (hl : options.maxTickets = limit) {count : Nat} (h : count < limit) (tickets : List Ticket) :
    visitedFrom options (count + 1) tickets = tickets.take (limit - count) := by
  induction tickets generalizing count with
  | nil => rw [visitedFrom, List.take_nil]
  | cons ticket rest ih =>
    rw [visitedFrom]
    split
    · next hlast =>
      have : limit - count = 1 := by
        simp only [isLast, hl, Bool.and_eq_true, decide_eq_true_eq] at hlast
        omega
      rw [this, List.take_succ_cons, List.take_zero]
    · next hlast =>
      have : count + 1 < limit := by
        simp only [isLast, hl, Bool.and_eq_true, bne_iff_ne, ne_eq, decide_eq_true_eq] at hlast
        omega
      rw [ih this, show limit - count = (limit - (count + 1)) + 1 by omega, List.take_succ_cons]

theorem visitedFrom_one {options : MigrationOptions} (h : 0 ≤ options.maxTickets)
    (tickets : List Ticket) : visitedFrom options 1 tickets = options.visited tickets := by
  unfold MigrationOptions.visited
  split
  · next h0 =>
    generalize 1 = count
    induction tickets generalizing count with
    | nil => rfl
    | cons ticket rest ih => rw [visitedFrom, ih]; simp [isLast, h0]
  · next h0 =>
    have hl : options.maxTickets = options.maxTickets.toNat := by omega
    exact visitedFrom_eq_take hl (by omega) tickets

/-- What the migration of the given tickets does: there are numbers for their issues for which it
goes through the sequence of writes, and these come behind the first ones in the result. -/
def Migrated (migration : Migration σ) (faults : Failure → Prop) (project : String)
    (first : List (Ident × Int)) (tickets : List Ticket) (before : Session σ)
    (trace : List Exchange) (result : Except Failure (List (Ident × Int))) (after : Session σ) :
    Prop :=
  ∃ numbers : List Int, numbers.length = tickets.length ∧
    (∀ created, result = .ok created → created = first ++ (tickets.map (·.id)).zip numbers) ∧
    Progress project faults (fun users => migration.writes users (tickets.zip numbers))
      before trace result after

namespace Migrated

variable {project : String} {ticket : Ticket} {tickets : List Ticket}
  {before between after : Session σ} {earlier later trace : List Exchange}

/-- The tickets behind a failure are not begun. -/
theorem ofFailure {failure : Failure}
    (h : migration.TicketMigrated faults project ticket before trace (.error failure) after) :
    migration.Migrated faults project [] (ticket :: tickets) before trace (.error failure)
      after := by
  obtain ⟨number, -, h⟩ := h
  -- they get no numbers, so any will do
  exact ⟨number :: List.replicate tickets.length 0, by simp, by rintro _ ⟨⟩, h.failed⟩

/-- A ticket is followed by the rest of them. -/
theorem cons {issue : Option Int} {result : Except Failure (List (Ident × Int))}
    (h : migration.TicketMigrated faults project ticket before earlier (.ok issue) between)
    (rest : ∀ number, issue = some number →
      migration.Migrated faults project [(ticket.id, number)] tickets between later result after) :
    migration.Migrated faults project [] (ticket :: tickets) before (earlier ++ later) result
      after := by
  obtain ⟨number, hc, h⟩ := h
  obtain ⟨numbers, hn, hc', h'⟩ := rest number (hc issue rfl)
  exact ⟨number :: numbers, by simp [hn], hc', h.trans h'⟩

theorem nil (faults : Failure → Prop) (project : String) (first : List (Ident × Int))
    (session : Session σ) :
    migration.Migrated faults project first [] session [] (.ok first) session := by
  refine ⟨[], rfl, ?_, .ofInquiry (.silent rfl rfl)⟩
  rintro _ ⟨⟩
  rw [List.map_nil, List.zip_nil_left, List.append_nil]

end Migrated

/-- **The tickets are migrated one after the other**, until the last one that is visited or the
first failure. -/
theorem does_migrateFrom (reads : migration.resolver.directory.Reads migration.servers faults)
    (hdry : migration.options.dryRun = false) (project : String) (count : Nat)
    (tickets : List Ticket) :
    Run.Does migration.servers (migration.migrateFrom project count tickets)
      (migration.Migrated (lookupFaults faults) project []
        (visitedFrom migration.options count tickets)) := by
  induction tickets generalizing count with
  | nil =>
    exact .of_pure fun before => .nil _ _ _ before
  | cons ticket rest ih =>
    have here := does_migrateTicket reads hdry project count ticket
    rw [visitedFrom, migrateFrom]
    by_cases hlast : isLast migration.options count = true
    · -- the last ticket that is visited
      simp only [hlast, if_true]
      refine here.map ?_ ?_
      · rintro before trace failure after h
        exact .ofFailure h
      · rintro before trace issue after h
        rw [← List.append_nil trace]
        refine .cons h ?_
        rintro number rfl
        exact .nil _ _ _ _
    · simp only [hlast]
      refine here.bind
        (fun issue before trace result after => ∀ number, issue = some number →
          migration.Migrated (lookupFaults faults) project [(ticket.id, number)]
            (visitedFrom migration.options (count + 1) rest) before trace result after)
        (fun issue => (ih (count + 1)).map ?_ ?_) ?_ ?_
      · rintro before trace failure after ⟨numbers, hn, -, h⟩ number rfl
        exact ⟨numbers, hn, by rintro _ ⟨⟩, h.course, h.keeps⟩
      · rintro before trace more after ⟨numbers, hn, hc, h⟩ number rfl
        refine ⟨numbers, hn, ?_, h.course, h.keeps⟩
        rintro _ ⟨⟩
        rw [hc more rfl]
        rfl
      · rintro before trace failure after h
        exact .ofFailure h
      · rintro before earlier issue between later result after h hd
        exact .cons h hd

/-- That a run, which may have failed, has written in order: what passed in it is `trace`, what it
posted is `posts`, and `numbers` are the numbers of the issues. -/
structure WritesInOrder (migration : Migration σ) (faults : Failure → Prop)
    (tickets : List Ticket) (project : String) (session : Session σ)
    (run : Except Failure (List (Ident × Int)) × Session σ) (trace : List Exchange)
    (posts : List Posting) (numbers : List Int) : Prop where
  /-- The trace is all that was asked since the session began, with the answers of the servers. -/
  passed : Passed migration.servers session trace run.2
  /-- The run reads and posts, and the first failure ends it and is its result. -/
  course : Course project faults posts trace (failure? run.1)
  /-- Nothing is created but by the attempts of the postings. -/
  attempts : trace.filter (·.isWrite) = posts.flatMap (·.attempts project)
  /-- Each write is attempted once, or twice if it was refused to a user. -/
  proper : ∀ post ∈ posts, post.Proper
  /-- Each visited ticket has a number for its issue. -/
  numbered : numbers.length = (migration.options.visited tickets).length
  /-- The postings are a front part of the sequence of writes, -/
  attempted : posts.map (·.write) <+: migration.writes (run.2.roster.getD [])
    ((migration.options.visited tickets).zip numbers)
  /-- and so are those that succeed. -/
  succeeded : (posts.filter (·.failure.isNone)).map (·.write) <+:
    migration.writes (run.2.roster.getD []) ((migration.options.visited tickets).zip numbers)
  /-- A failure is that of the last request, unless it came up without one. -/
  failed : ∀ failure, run.1 = .error failure →
    (∃ exchange, trace.getLast? = some exchange ∧ exchange.failure? = some failure) ∨
      faults failure
  /-- A migration that succeeds has created everything, and its result is the numbers of the
  issues. -/
  complete : ∀ created, run.1 = .ok created →
    posts.map (·.write) = migration.writes (run.2.roster.getD [])
        ((migration.options.visited tickets).zip numbers) ∧
      (∀ post ∈ posts, post.failure = none) ∧
        created = ((migration.options.visited tickets).map (·.id)).zip numbers

/-- **What a migration creates is a front part of the sequence of its writes.**

Whatever the servers answer, a migration that is no dry run attempts each write once, or once more
on behalf of nobody in particular if the first attempt was refused to a user, and the first
failure that is left ends it and is its result.  What it attempts, and what succeeds, goes in order
through the visited tickets: for each its issue, and on that very issue a note for every comment.
So nothing is created twice, nothing is left out between two others, and no note ends up on the
issue of another ticket.

The directory of users may be any one whose pages are fetched without creating anything. -/
theorem migrateAll_writes_in_order
    (hdry : migration.options.dryRun = false) (hmax : 0 ≤ migration.options.maxTickets)
    (reads : migration.resolver.directory.Reads migration.servers faults)
    (tickets : List Ticket) (project label : String) (session : Session σ) :
    ∃ trace posts numbers, migration.WritesInOrder (lookupFaults faults) tickets project session
      ((migration.migrateAll tickets project label).start session) trace posts numbers := by
  have migrated : Run.Does migration.servers (migration.migrateAll tickets project label)
      (migration.Migrated (lookupFaults faults) project []
        (migration.options.visited tickets)) := by
    refine Run.Does.log_bind _ _ ((does_migrateFrom reads hdry project 1 tickets).mono ?_)
    rw [visitedFrom_one hmax]
    rintro between trace result after ⟨numbers, hn, hc, h⟩ before rfl
    exact ⟨numbers, hn, hc, h.course, h.keeps⟩
  obtain ⟨trace, hp, numbers, hn, hc, ⟨posts, course, hw⟩, -⟩ := migrated session
  generalize (migration.migrateAll tickets project label).start session = run at hp hc course hw ⊢
  obtain ⟨hfront, hall⟩ := hw _ run.2.fits_getD
  refine ⟨trace, posts, numbers, hp, course, course.filter_isWrite, course.proper_of_mem, hn,
    hfront, (course.succeeded_prefix.map _).trans hfront, ?_, ?_⟩
  · intro failure hr
    rw [hr] at course
    exact course.getLast?_of_failure
  · intro created hr
    have hnone : failure? run.1 = none := by rw [hr]; rfl
    exact ⟨hall hnone, course.failure_eq_none_of_mem hnone, hc created hr⟩

/-- Servers with one user, where issues and notes fail as a script says and every issue gets the
number one. -/
def scripted : Servers (List (Option Failure)) where
  answer
    | .query _, script => (.ok [], script)
    | .tickets _, script => (.ok [], script)
    | .changeLog _, script => (.ok [], script)
    | .users _ _, script => (.ok [⟨5, "ann", []⟩], script)
    | .createIssue _ _ _, script => (script.head?.join.elim (.ok (1 : Int)) .error, script.tail)
    | .createNote _ _ _ _, script => (script.head?.join.elim (.ok ()) .error, script.tail)
    | .connectTracker _, script | .connectForge _ _ _, script | .openProject _, script
    | .openIssue _ _, script => (.ok (), script)

/-- A migration to these servers with the token of an administrator. -/
def toScripted : Migration (List (Option Failure)) where
  options := { trackerUrl := "https://trac.example.org" }
  servers := scripted
  tracker := .ofUrl "https://trac.example.org" none
  forge := .ofUrl "https://gitlab.example.org" true
  resolver := { directory := { fetch := fetchUsers scripted } }

/-- The note is refused to its author and created at the second attempt. -/
theorem migrateAll_writes_in_order_refused_note :
    let ticket : Ticket :=
      { id := .number 7, summary := some "t", reporter := some "ann"
        comments := [{ author := some "ann", text := "" }] }
    let session : Session (List (Option Failure)) :=
      { world := [none, some (.forge .create (some 403) "no")] }
    let run := (toScripted.migrateAll [ticket] "p" "q").start session
    toScripted.options.dryRun = false ∧ 0 ≤ toScripted.options.maxTickets ∧
      toScripted.resolver.directory.Reads toScripted.servers (fun _ => False) ∧
      run.1 = .ok [(.number 7, 1)] ∧ run.2.requests.length = 6 ∧
      ∃ trace posts numbers, toScripted.WritesInOrder (lookupFaults fun _ => False) [ticket] "p"
        session run trace posts numbers := by
  intro ticket session run
  have reads := Directory.reads_fetchUsers scripted 100 50
  exact ⟨rfl, by decide, reads, rfl, by decide,
    migrateAll_writes_in_order rfl (by decide) reads [ticket] "p" "q" session⟩

end Migration

end TicketMigration
