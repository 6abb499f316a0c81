import TicketMigration.Proofs.Reach

/-!
# What is counted

The names that stand for nobody are counted when they are looked up, and by nothing else.  A dry run
looks up the owner and the reporter of a ticket.  Any other run looks up the authors of the comments
as well, so it may count names that a dry run has not shown.

## Main definitions

* `Resolver.Tallied` — a computation looks up some names and counts those that stand for nobody.
* `Migration.rehearsal`, `Migration.actual` — the same migration as a dry run, and as none.
* `Migration.unheard` — the authors of comments who stand for nobody.
* `Migration.CountsAlike` — a dry run counts what the migration would count.

## Main statements

* `Migration.does_migrateAll_tallied` — **a run counts the names that it looks up**, in order, up
  to its first failure.
* `Migration.countsAlike_iff_unheard` — **a dry run counts what the migration would count, except
  for the authors of comments.**
-/

namespace TicketMigration

open Markup

variable {σ α β : Type}

/-! ### Counting -/

namespace Resolver

variable {resolver : Resolver σ} {faults : Failure → Prop}

/-- That a computation looks up some names, one after the other. -/
structure Tallied (resolver : Resolver σ) (faults : Failure → Prop) (names : List (Option String))
    (before : Session σ) (trace : List Exchange) (result : Except Failure α) (after : Session σ) :
    Prop where
  /-- The users that were known are known still. -/
  keeps : ∀ known, before.roster = some known → after.roster = some known
  /-- Of the names that were looked up, those that stand for nobody are counted.  Only a failure
  keeps a name from being looked up. -/
  counts : ∃ looked, looked <+: names ∧ (failure? result = none → looked = names) ∧
    ∀ users, after.Fits users →
      after.misses = before.misses.addAll (looked.filterMap (resolver.missed? users))
  /-- A failure is that of a request, or comes of what one of the names is mapped to. -/
  fails : ∀ failure, failure? result = some failure →
    Explained (fun failure => ∃ name ∈ names, resolver.Fault faults name failure) trace failure

namespace Tallied

variable {names more : List (Option String)} {before between after : Session σ}
  {earlier later trace : List Exchange}

/-- Where no name is looked up, none is counted. -/
theorem ofNone {result : Except Failure α} (roster : after.roster = before.roster)
    (misses : after.misses = before.misses)
    (fails : ∀ failure, failure? result = some failure →
      ∃ exchange ∈ trace, exchange.failure? = some failure) :
    resolver.Tallied faults [] before trace result after where
  keeps _ hk := roster.trans hk
  counts := ⟨[], List.nil_prefix, fun _ => rfl, fun _ _ => misses⟩
  fails failure hf := .inl (fails failure hf)

/-- A failure keeps the rest from being looked up. -/
theorem failed {failure : Failure}
    (h : resolver.Tallied faults names before trace (.error failure : Except Failure α) after) :
    resolver.Tallied faults (names ++ more) before trace (.error failure : Except Failure β)
      after := by
  obtain ⟨looked, front, -, counted⟩ := h.counts
  refine ⟨h.keeps, ⟨looked, front.trans (List.prefix_append _ _), by simp, counted⟩, ?_⟩
  intro failure hf
  exact (h.fails failure hf).mono fun _ ⟨name, hn, fault⟩ =>
    ⟨name, List.mem_append_left _ hn, fault⟩

theorem trans {a : α} {result : Except Failure β}
    (h₁ : resolver.Tallied faults names before earlier (.ok a : Except Failure α) between)
    (h₂ : resolver.Tallied faults more between later result after) :
    resolver.Tallied faults (names ++ more) before (earlier ++ later) result after where
  keeps known hk := h₂.keeps known (h₁.keeps known hk)
  counts := by
    obtain ⟨looked, -, all, counted⟩ := h₁.counts
    obtain ⟨looked', front', all', counted'⟩ := h₂.counts
    obtain rfl := all rfl
    -- the first part has ended well, so all its names come before those of the second
    refine ⟨looked ++ looked', (List.prefix_append_right_inj _).2 front', ?_, ?_⟩
    · intro ends
      rw [all' ends]
    · intro users fits
      -- the users that are known at the end fit the session in the middle as well
      have fits' : between.Fits users := fun known hk => fits known (h₂.keeps known hk)
      rw [counted' users fits, counted users fits', List.filterMap_append, Tally.addAll_append]
  fails failure hf := (h₂.fails failure hf).behind.mono fun _ ⟨name, hn, fault⟩ =>
    ⟨name, List.mem_append_right _ hn, fault⟩

/-- One part of the looking up is followed by the rest. -/
theorem bind {servers : Servers σ} {x : Run σ α} {f : α → Run σ β}
    (hx : Run.Does servers x (resolver.Tallied faults names))
    (hf : ∀ a, Run.Does servers (f a) (resolver.Tallied faults more)) :
    Run.Does servers (x >>= f) (resolver.Tallied faults (names ++ more)) :=
  Run.Does.bind hx _ hf (fun _ _ _ _ h => h.failed) fun _ _ _ _ _ _ _ h₁ h₂ => h₁.trans h₂

theorem does_pure (servers : Servers σ) (a : α) :
    Run.Does servers (pure a : Run σ α) (resolver.Tallied faults []) :=
  .of_pure fun _ => .ofNone rfl rfl (by simp)

theorem does_log (servers : Servers σ) (level : Level) (text : String) :
    Run.Does servers (Run.log level text) (resolver.Tallied faults []) := by
  refine (Run.does_log servers level text).mono ?_
  rintro before _ _ _ ⟨rfl, rfl, rfl⟩
  exact .ofNone rfl rfl (by simp)

/-- Nobody is looked up for a posting. -/
theorem ofPosted {project : String} {post : Posting} {result : Except Failure α}
    (h : Posted project post before trace result after) (misses : after.misses = before.misses) :
    resolver.Tallied faults [] before trace result after := by
  refine .ofNone h.roster misses fun failure hf => ?_
  have course := h.course fun _ => False
  rw [hf] at course
  exact Or.resolve_right (Explained.ofCourse course) id

end Tallied

/-- One name is looked up. -/
theorem Sought.tallied {name : Option String} {before after : Session σ} {trace : List Exchange}
    {result : Except Failure (Option RemoteUser)}
    (h : resolver.Sought faults name before trace result after) :
    resolver.Tallied faults [name] before trace result after where
  keeps := h.keeps
  counts := by
    cases result with
    | ok user =>
      refine ⟨[name], List.prefix_rfl, fun _ => rfl, fun users fits => ?_⟩
      rw [h.counted user rfl users fits]
      cases hmissed : resolver.missed? users name <;> simp [hmissed]
    | error failure =>
      exact ⟨[], List.nil_prefix, by simp, fun _ _ => h.uncounted failure rfl⟩
  fails failure hf := (h.fails failure hf).mono fun _ fault => ⟨name, List.mem_singleton_self _, fault⟩

end Resolver

namespace Forge

variable {servers : Servers σ} {faults : Failure → Prop}

theorem does_postIssue_tallied (resolver : Resolver σ) (forge : Forge) (project : String)
    (title : Option String) (description labels : String) (assignee author : Option Int)
    (createdAt : Option Moment) :
    Run.Does servers
      (forge.postIssue servers project title description labels assignee author createdAt)
      (resolver.Tallied faults []) := by
  have posts := (does_postIssue forge project title description labels assignee author
    createdAt).leaving (leaves_postIssue Run.apart_misses forge servers project title description
      labels assignee author createdAt)
  refine posts.mono ?_
  rintro before trace result after ⟨⟨post, number, -, -, posted⟩, misses⟩
  exact .ofPosted posted misses

theorem does_postNote_tallied (resolver : Resolver σ) (forge : Forge) (project : String)
    (issue : Int) (body : String) (author : Option Int) (createdAt : Option Moment) :
    Run.Does servers (forge.postNote servers project issue body author createdAt)
      (resolver.Tallied faults []) := by
  have posts := (does_postNote forge project issue body author createdAt).leaving
    (leaves_postNote Run.apart_misses forge servers project issue body author createdAt)
  refine posts.mono ?_
  rintro before trace result after ⟨⟨post, -, posted⟩, misses⟩
  exact .ofPosted posted misses

end Forge

/-! ### Tickets -/

namespace Migration

variable {migration : Migration σ} {faults : Failure → Prop}

theorem does_userId_tallied (plain : migration.resolver.directory.Plain migration.servers faults)
    (name : Option String) :
    Run.Does migration.servers (migration.userId name)
      (migration.resolver.Tallied faults [name]) := by
  have find : Run.Does migration.servers (migration.resolver.find name)
      (migration.resolver.Tallied faults [name]) :=
    (Resolver.does_find_sought plain name).mono fun _ _ _ _ sought => sought.tallied
  exact Resolver.Tallied.bind find fun user => Resolver.Tallied.does_pure _ _

theorem does_postNotesFrom_tallied
    (plain : migration.resolver.directory.Plain migration.servers faults)
    (project : String) (issue : Int) (comments : List Comment) :
    Run.Does migration.servers (migration.postNotesFrom project issue comments)
      (migration.resolver.Tallied faults (comments.map (·.author))) := by
  induction comments with
  | nil => exact Resolver.Tallied.does_pure _ _
  | cons comment rest ih =>
    refine Resolver.Tallied.bind (does_userId_tallied plain comment.author) fun author => ?_
    exact Resolver.Tallied.bind (Forge.does_postNote_tallied _ _ project issue _ author _)
      fun _ => ih

theorem does_postNotes_tallied (plain : migration.resolver.directory.Plain migration.servers faults)
    (project : String) (issue : Int) (comments : List Comment) :
    Run.Does migration.servers (migration.postNotes project issue comments)
      (migration.resolver.Tallied faults (comments.map (·.author))) := by
  unfold postNotes
  split
  · next empty =>
    rw [show comments = [] by simpa using empty]
    exact Resolver.Tallied.does_pure _ _
  · rw [← List.append_nil (comments.map _)]
    exact Resolver.Tallied.bind (does_postNotesFrom_tallied plain project issue comments)
      fun _ => Resolver.Tallied.does_log _ _ _

theorem does_migrateTicket_tallied
    (plain : migration.resolver.directory.Plain migration.servers faults)
    (project : String) (count : Nat) (ticket : Ticket) :
    Run.Does migration.servers (migration.migrateTicket project count ticket)
      (migration.resolver.Tallied faults (lookups migration.options ticket)) := by
  unfold migrateTicket lookups
  refine Resolver.Tallied.bind (does_userId_tallied plain ticket.owner) fun assignee =>
    Resolver.Tallied.bind (does_userId_tallied plain ticket.reporter) fun author => ?_
  cases hdry : migration.options.dryRun
  case true =>
    -- the comments are only numbered, and their authors are not looked up
    exact Resolver.Tallied.bind (Resolver.Tallied.does_log _ _ _) fun _ =>
      Resolver.Tallied.does_pure _ _
  case false =>
    refine Resolver.Tallied.bind
      (Forge.does_postIssue_tallied _ _ project _ _ _ assignee author _) fun issue =>
        Resolver.Tallied.bind (Resolver.Tallied.does_log _ _ _) fun _ => ?_
    rw [← List.append_nil (ticket.comments.map _)]
    exact Resolver.Tallied.bind (does_postNotes_tallied plain project issue ticket.comments)
      fun _ => Resolver.Tallied.does_pure _ _

theorem does_migrateFrom_tallied
    (plain : migration.resolver.directory.Plain migration.servers faults)
    (project : String) (count : Nat) (tickets : List Ticket) :
    Run.Does migration.servers (migration.migrateFrom project count tickets)
      (migration.resolver.Tallied faults
        ((visitedFrom migration.options count tickets).flatMap (lookups migration.options))) := by
  induction tickets generalizing count with
  | nil => exact Resolver.Tallied.does_pure _ _
  | cons ticket rest ih =>
    rw [visitedFrom, migrateFrom]
    by_cases hlast : isLast migration.options count = true
    · -- the last ticket that is visited
      simp only [hlast, if_true, List.flatMap_cons, List.flatMap_nil]
      exact Resolver.Tallied.bind (does_migrateTicket_tallied plain project count ticket)
        fun _ => Resolver.Tallied.does_pure _ _
    · simp only [hlast]
      refine Resolver.Tallied.bind (does_migrateTicket_tallied plain project count ticket)
        fun issue => ?_
      have further := Resolver.Tallied.bind (ih (count + 1)) fun more =>
        Resolver.Tallied.does_pure migration.servers
          ((issue.map (ticket.id, ·)).toList ++ more)
      rw [List.append_nil] at further
      exact further

/-- **A run counts the names that it looks up**, in order, up to its first failure. -/
theorem does_migrateAll_tallied
    (plain : migration.resolver.directory.Plain migration.servers faults)
    (tickets : List Ticket) (project label : String) :
    Run.Does migration.servers (migration.migrateAll tickets project label)
      (migration.resolver.Tallied faults
        ((visitedFrom migration.options 1 tickets).flatMap (lookups migration.options))) :=
  Resolver.Tallied.bind (Resolver.Tallied.does_log _ _ _) fun _ =>
    does_migrateFrom_tallied plain project 1 tickets

/-! ### Dry runs -/

/-- The migration as a dry run. -/
def rehearsal (migration : Migration σ) : Migration σ :=
  { migration with options := { migration.options with dryRun := true } }

/-- The migration as one that creates what it should. -/
def actual (migration : Migration σ) : Migration σ :=
  { migration with options := { migration.options with dryRun := false } }

/-- How many tickets are visited does not depend on whether anything is created. -/
theorem visitedFrom_dryRun (options : MigrationOptions) (dryRun : Bool) (count : Nat)
    (tickets : List Ticket) :
    visitedFrom { options with dryRun } count tickets = visitedFrom options count tickets := by
  induction tickets generalizing count with
  | nil => rfl
  | cons ticket rest ih =>
    rw [visitedFrom, visitedFrom, ih]
    rfl

/-- The authors of the comments on the visited tickets who stand for nobody. -/
def unheard (migration : Migration σ) (users : Roster) (tickets : List Ticket) : List String :=
  ((visitedFrom migration.options 1 tickets).flatMap fun ticket =>
    ticket.comments.map (·.author)).filterMap (migration.resolver.missed? users)

/-- Where every request is granted, a run succeeds and counts all names that it looks up. -/
theorem misses_of_granted (migration : Migration σ)
    (plain : migration.resolver.directory.Plain migration.servers fun _ => False)
    (keys : ∀ entry ∈ migration.resolver.mapping, entry.2.isKey = true) (tickets : List Ticket)
    (project label : String) {session : Session σ}
    {run : Except Failure (List (Ident × Int)) × Session σ}
    (hrun : run = (migration.migrateAll tickets project label).start session)
    (granted : ∀ exchange ∈ migration.servers.exchanges session run.2, exchange.failure? = none)
    {users : Roster} (fits : run.2.Fits users) :
    (∃ created, run.1 = .ok created) ∧ run.2.misses = session.misses.addAll
      (((visitedFrom migration.options 1 tickets).flatMap (lookups migration.options)).filterMap
        (migration.resolver.missed? users)) := by
  have ends := failure?_of_unhindered migration plain tickets project label hrun ⟨granted, by simp⟩
  rw [if_pos (List.all_eq_true.2 fun ticket _ => canFinish_of_keys keys ticket)] at ends
  obtain ⟨created, hr⟩ := exists_of_failure?_eq_none ends
  obtain ⟨trace, passed, tallied⟩ := does_migrateAll_tallied plain tickets project label session
  obtain ⟨looked, -, all, counted⟩ := tallied.counts
  rw [← hrun] at all counted
  exact ⟨⟨created, hr⟩, by rw [counted users fits, all (by rw [hr, failure?_ok])]⟩

/-- The names that are counted for a list of tickets: those that a dry run looks up, and the
authors of the comments. -/
theorem count_lookups (options : MigrationOptions) (missed : Option String → Option String)
    (tickets : List Ticket) (name : String) :
    ((tickets.flatMap (lookups { options with dryRun := false })).filterMap missed).count name
      = ((tickets.flatMap (lookups { options with dryRun := true })).filterMap missed).count name
        + ((tickets.flatMap fun ticket => ticket.comments.map (·.author)).filterMap missed).count
            name := by
  induction tickets with
  | nil => rfl
  | cons ticket rest ih =>
    have owners (dryRun : Bool) : lookups { options with dryRun } ticket
        = [ticket.owner, ticket.reporter]
          ++ if dryRun then [] else ticket.comments.map (·.author) := rfl
    simp only [List.flatMap_cons, List.filterMap_append, List.count_append, owners, ih]
    simp only [if_true, Bool.false_eq_true, if_false, List.filterMap_nil, List.count_nil]
    omega

/-- That tickets are migrated twice from the same session, once as a dry run and once as none, and
that the issue server grants every request and has the same users both times. -/
structure Rehearsed (migration : Migration σ) (tickets : List Ticket) (project label : String)
    (session : Session σ) (users : Roster) : Prop where
  /-- The requests of the dry run are granted. -/
  rehearsal : ∀ exchange ∈ migration.servers.exchanges session
    ((migration.rehearsal.migrateAll tickets project label).start session).2,
      exchange.failure? = none
  /-- The requests of the other run are granted. -/
  actual : ∀ exchange ∈ migration.servers.exchanges session
    ((migration.actual.migrateAll tickets project label).start session).2,
      exchange.failure? = none
  /-- The dry run knows these users, if any. -/
  before : ((migration.rehearsal.migrateAll tickets project label).start session).2.Fits users
  /-- So does the other run. -/
  after : ((migration.actual.migrateAll tickets project label).start session).2.Fits users

/-- That a dry run counts what the migration would count. -/
def CountsAlike (migration : Migration σ) (tickets : List Ticket) (project label : String)
    (session : Session σ) : Prop :=
  ∀ name,
    ((migration.rehearsal.migrateAll tickets project label).start session).2.misses.count name
      = ((migration.actual.migrateAll tickets project label).start session).2.misses.count name

/-- **A dry run counts what the migration would count, except for the authors of comments.**

From the same session, and if every request is granted, both runs succeed.  Every name is then
counted by the migration as often as by the dry run and, besides, as often as a visited ticket has a
comment by it, if it stands for nobody.  So the dry run shows what will be counted exactly if every
visited comment has an author who stands for somebody, or no author. -/
theorem countsAlike_iff_unheard
    (plain : migration.resolver.directory.Plain migration.servers fun _ => False)
    (keys : ∀ entry ∈ migration.resolver.mapping, entry.2.isKey = true) (tickets : List Ticket)
    (project label : String) {session : Session σ} {users : Roster}
    (rehearsed : migration.Rehearsed tickets project label session users) :
    let dry := (migration.rehearsal.migrateAll tickets project label).start session
    let run := (migration.actual.migrateAll tickets project label).start session
    (∃ created, dry.1 = .ok created) ∧ (∃ created, run.1 = .ok created) ∧
      (∀ name, run.2.misses.count name
        = dry.2.misses.count name + (migration.unheard users tickets).count name) ∧
      (migration.CountsAlike tickets project label session ↔ migration.unheard users tickets = [])
    := by
  intro dry run
  obtain ⟨drySucceeds, dryCounts⟩ := misses_of_granted migration.rehearsal plain keys tickets
    project label rfl rehearsed.rehearsal rehearsed.before
  obtain ⟨succeeds, counts⟩ := misses_of_granted migration.actual plain keys tickets project label
    rfl rehearsed.actual rehearsed.after
  have more (name : String) : run.2.misses.count name
      = dry.2.misses.count name + (migration.unheard users tickets).count name := by
    rw [counts, dryCounts, Tally.count_addAll, Tally.count_addAll, unheard]
    simp only [Migration.rehearsal, Migration.actual, visitedFrom_dryRun, count_lookups]
    omega
  refine ⟨drySucceeds, succeeds, more, fun alike => ?_, fun heard name => ?_⟩
  · -- an author who stands for nobody is counted once more by the run that is none
    rw [List.eq_nil_iff_forall_not_mem]
    intro name hmem
    have same : dry.2.misses.count name = run.2.misses.count name := alike name
    have := more name
    have := List.count_pos_iff.2 hmem
    omega
  · have same := more name
    rw [heard, List.count_nil, Nat.add_zero] at same
    exact same.symm

/-- A ticket of a known user with a comment by an unknown one. -/
def strangersTicket : Ticket where
  id := .number 7
  summary := some "t"
  reporter := some "ann"
  comments := [{ author := some "zed", text := "x" }]

theorem toScripted_rehearsed :
    toScripted.Rehearsed [strangersTicket] "p" "q" { world := [] } [("ann", ⟨5, "ann", []⟩)] where
  rehearsal := by decide +kernel
  actual := by decide +kernel
  before := fun _ known => (Option.some.inj known).symm
  after := fun _ known => (Option.some.inj known).symm

/-- The unknown author of the comment is counted, but not by the dry run. -/
theorem countsAlike_iff_unheard_stranger :
    let session : Session (List (Option Failure)) := { world := [] }
    let users : Roster := [("ann", ⟨5, "ann", []⟩)]
    let dry := (toScripted.rehearsal.migrateAll [strangersTicket] "p" "q").start session
    let run := (toScripted.actual.migrateAll [strangersTicket] "p" "q").start session
    toScripted.resolver.directory.Plain toScripted.servers (fun _ => False) ∧
      (∀ entry ∈ toScripted.resolver.mapping, entry.2.isKey = true) ∧
      toScripted.Rehearsed [strangersTicket] "p" "q" session users ∧
      toScripted.unheard users [strangersTicket] = ["zed"] ∧
      dry.2.misses = [] ∧ run.2.misses = [("zed", 1)] ∧
      (∀ name, run.2.misses.count name
        = dry.2.misses.count name + (toScripted.unheard users [strangersTicket]).count name) := by
  intro session users dry run
  have plain := Directory.plain_fetchUsers scripted 100 50
  have keys : ∀ entry ∈ toScripted.resolver.mapping, entry.2.isKey = true := by
    rintro _ ⟨⟩
  exact ⟨plain, keys, toScripted_rehearsed, by decide +kernel, by decide +kernel,
    by decide +kernel,
    (countsAlike_iff_unheard plain keys [strangersTicket] "p" "q" toScripted_rehearsed).2.2.1⟩

/-- A dry run, all of whose requests are granted, may count less than the migration would. -/
theorem not_countsAlike_stranger :
    toScripted.Rehearsed [strangersTicket] "p" "q" { world := [] } [("ann", ⟨5, "ann", []⟩)] ∧
      ¬toScripted.CountsAlike [strangersTicket] "p" "q" { world := [] } := by
  refine ⟨toScripted_rehearsed, fun alike => ?_⟩
  have zed := alike "zed"
  revert zed
  decide +kernel

end Migration

end TicketMigration
