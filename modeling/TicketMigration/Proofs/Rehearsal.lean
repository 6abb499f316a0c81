import TicketMigration.Proofs.Faithfulness
import TicketMigration.Proofs.History
import TicketMigration.Proofs.ReadThrough
import TicketMigration.Proofs.Tallies

/-!
# Dry runs

A dry run reads the tickets and looks up users.  It asks the issue server for nothing of a project,
whatever the servers answer.  It tells of the tickets that it comes to, and the same migration
creates issues for the tickets that it comes to if it is no dry run.  Both come to all tickets that
are to be visited, unless a name is mapped to something that can be no name.

## Main definitions

* `Session.told` — what the operator was told between two sessions.
* `Spared` — a computation asks for nothing of a project.
* `MigrationStep` — a migration of given tickets, of a component or of a query.
* `Migration.Selected` — a dry run tells of some tickets, and issues are created for some.
* `Migration.Rehearses` — a migration is a read-only rehearsal.

## Main statements

* `Migration.does_perform` — a dry run of any kind asks for nothing of a project.
* `Migration.rehearses_of_dryRun` — **a dry run is a read-only rehearsal** at any point of any
  history, and selects the same tickets exactly if the names that it takes can be looked up.
-/

namespace TicketMigration

variable {σ α β : Type}

/-! ### What is told -/

/-- What the operator was told between two sessions. -/
def Session.told (before after : Session σ) : List String :=
  (infos after.log).drop (infos before.log).length

/-! ### Sparing the projects -/

/-- That a computation asks for nothing of a project, and that what comes of it is as expected. -/
def Spared (expected : α → Prop) (_ : Session σ) (trace : List Exchange)
    (result : Except Failure α) (_ : Session σ) : Prop :=
  (∀ exchange ∈ trace, exchange.request.concernsProject = false) ∧
    ∀ a, result = .ok a → expected a

namespace Spared

variable {servers : Servers σ} {expected : α → Prop} {wanted : β → Prop}

/-- One part is followed by the rest, which may rely on what is expected. -/
theorem bind {x : Run σ α} {f : α → Run σ β} (hx : Run.Does servers x (Spared expected))
    (hf : ∀ a, expected a → Run.Does servers (f a) (Spared wanted)) :
    Run.Does servers (x >>= f) (Spared wanted) := by
  -- the rule for `Run.Does` would ask for the rest after any value, expected or not
  intro before
  obtain ⟨earlier, passed, asks, gives⟩ := hx before
  rw [Run.start_bind]
  rcases hr : x.start before with ⟨failure | a, between⟩
  · rw [hr] at passed
    exact ⟨earlier, passed, asks, by simp⟩
  · rw [hr] at passed gives
    obtain ⟨later, passed', asks', gives'⟩ := hf a (gives a rfl) between
    exact ⟨earlier ++ later, passed.trans passed', List.forall_mem_append.2 ⟨asks, asks'⟩, gives'⟩

theorem get_bind {f : Session σ → Run σ β}
    (hf : ∀ session, Run.Does servers (f session) (Spared wanted)) :
    Run.Does servers (get >>= f) (Spared wanted) :=
  Run.Does.get_bind fun session => (hf session).mono fun _ _ _ _ h _ => h

theorem does_pure {a : α} (h : expected a) :
    Run.Does servers (pure a : Run σ α) (Spared expected) := by
  refine .of_pure fun _ => ⟨by simp, ?_⟩
  rintro _ ⟨⟩
  exact h

theorem does_modify (change : Session σ → Session σ)
    (requests : ∀ session, (change session).requests = session.requests)
    (world : ∀ session, (change session).world = session.world) :
    Run.Does servers (modify change) (Spared fun _ => True) := by
  refine (Run.does_modify servers change requests world).mono ?_
  rintro before _ _ _ ⟨rfl, -, -⟩
  exact ⟨by simp, fun _ _ => trivial⟩

theorem does_log (level : Level) (text : String) :
    Run.Does servers (Run.log level text) (Spared fun _ => True) :=
  does_modify _ (fun _ => rfl) fun _ => rfl

theorem does_ofExcept (result : Except Failure α) :
    Run.Does servers (Run.ofExcept result) (Spared fun _ => True) := by
  cases result with
  | ok a => exact does_pure trivial
  | error failure => exact .of_throw fun _ => ⟨by simp, by simp⟩

end Spared

/-! ### Reading the tickets -/

/-- What a tracker is asked for is nothing of a project. -/
theorem Request.concernsProject_of_operation? {request : Request}
    (h : request.operation?.isSome = true) : request.concernsProject = false := by
  cases request with
  | query | tickets | changeLog => rfl
  | _ => cases h

namespace Tracker

variable {servers : Servers σ}

theorem does_ask_spared (tracker : Tracker) {request : Request}
    (operation : request.operation?.isSome = true) :
    Run.Does servers (tracker.ask servers request) (Spared fun _ => True) := by
  have send : Run.Does servers (Run.send servers request) (Spared fun _ => True) := by
    refine (Run.does_send servers request (servers.settle_of_operation? operation)).mono ?_
    rintro before _ result after ⟨rfl, -⟩
    refine ⟨fun exchange he => ?_, fun _ _ => trivial⟩
    rw [List.mem_singleton.1 he]
    exact Request.concernsProject_of_operation? operation
  unfold ask
  split
  · exact send
  · refine Spared.get_bind fun session => ?_
    split
    · exact Spared.does_pure trivial
    · exact Spared.bind send fun answer _ =>
        Spared.bind (Spared.does_modify _ (fun _ => rfl) fun _ => rfl) fun _ _ =>
          Spared.does_pure trivial

theorem does_readTickets_spared (tracker : Tracker) (answers : List (List WireValue)) :
    Run.Does servers (tracker.readTickets servers answers) (Spared fun _ => True) := by
  induction answers with
  | nil => exact Spared.does_pure trivial
  | cons answer rest ih =>
    refine Spared.bind (Spared.does_ofExcept _) fun id _ => ?_
    refine Spared.bind (tracker.does_ask_spared rfl) fun changes _ => ?_
    refine Spared.bind (Spared.does_ofExcept _) fun ticket _ => ?_
    exact Spared.bind ih fun tickets _ => Spared.does_pure trivial

theorem does_ticketsMatching_spared (tracker : Tracker) (query : String) :
    Run.Does servers (tracker.ticketsMatching servers query) (Spared fun _ => True) := by
  refine Spared.bind (Spared.does_log _ _) fun _ _ =>
    Spared.bind (tracker.does_ask_spared rfl) fun ids _ => ?_
  exact Spared.bind (tracker.does_ask_spared rfl) fun answers _ =>
    tracker.does_readTickets_spared answers

end Tracker

/-! ### Issues among the requests -/

namespace Exchange

/-- Whether an issue was to be created. -/
def createsIssue (exchange : Exchange) : Bool :=
  match exchange.request with
  | .createIssue _ _ _ => true
  | _ => false

/-- Issues are created by requests that create something. -/
theorem filter_createsIssue_filter_isWrite (trace : List Exchange) :
    (trace.filter (·.isWrite)).filter (·.createsIssue) = trace.filter (·.createsIssue) := by
  rw [List.filter_filter]
  refine List.filter_congr fun exchange _ => ?_
  obtain ⟨request, answer⟩ := exchange
  cases request <;> rfl

end Exchange

/-! ### Dry runs -/

/-- A step that a migration can be asked for. -/
inductive MigrationStep
  /-- The migration of given tickets. -/
  | tickets (tickets : List Ticket) (project label : String)
  /-- The migration of the open tickets of a component. -/
  | component (component project : String) (limit : Option Int)
  /-- The migration of the tickets that match a query. -/
  | query (query project : String) (limit : Option Int)

namespace Migration

variable {migration : Migration σ} {faults : Failure → Prop}

/-- Takes a step. -/
def perform (migration : Migration σ) : MigrationStep → Run σ (List (Ident × Int))
  | .tickets tickets project label => migration.migrateAll tickets project label
  | .component component project limit => migration.migrateOpen component project limit
  | .query query project limit => migration.migrateMatching query project limit

theorem does_userId_spared (plain : migration.resolver.directory.Plain migration.servers faults)
    (name : Option String) :
    Run.Does migration.servers (migration.userId name) (Spared fun _ => True) := by
  have find : Run.Does migration.servers (migration.resolver.find name) (Spared fun _ => True) :=
    (Resolver.does_find_sought plain name).mono fun _ _ _ _ sought =>
      ⟨sought.asks, fun _ _ => trivial⟩
  exact Spared.bind find fun user _ => Spared.does_pure trivial

/-- Nothing is created for a ticket. -/
theorem does_migrateTicket_spared
    (plain : migration.resolver.directory.Plain migration.servers faults)
    (hdry : migration.options.dryRun = true) (project : String) (count : Nat) (ticket : Ticket) :
    Run.Does migration.servers (migration.migrateTicket project count ticket)
      (Spared (· = none)) := by
  unfold migrateTicket
  refine Spared.bind (does_userId_spared plain ticket.owner) fun assignee _ =>
    Spared.bind (does_userId_spared plain ticket.reporter) fun author _ => ?_
  rw [hdry]
  exact Spared.bind (Spared.does_log _ _) fun _ _ => Spared.does_pure rfl

theorem does_migrateFrom_spared
    (plain : migration.resolver.directory.Plain migration.servers faults)
    (hdry : migration.options.dryRun = true) (project : String) (count : Nat)
    (tickets : List Ticket) :
    Run.Does migration.servers (migration.migrateFrom project count tickets)
      (Spared (· = [])) := by
  induction tickets generalizing count with
  | nil => exact Spared.does_pure rfl
  | cons ticket rest ih =>
    refine Spared.bind (does_migrateTicket_spared plain hdry project count ticket)
      fun issue none => ?_
    split
    · exact Spared.does_pure (by rw [none]; rfl)
    · exact Spared.bind (ih (count + 1)) fun more nothing =>
        Spared.does_pure (by rw [none, nothing]; rfl)

theorem does_migrateAll_spared
    (plain : migration.resolver.directory.Plain migration.servers faults)
    (hdry : migration.options.dryRun = true) (tickets : List Ticket) (project label : String) :
    Run.Does migration.servers (migration.migrateAll tickets project label) (Spared (· = [])) :=
  Spared.bind (Spared.does_log _ _) fun _ _ => does_migrateFrom_spared plain hdry project 1 tickets

/-- **A dry run of any kind asks for nothing of a project**, and its result is empty. -/
theorem does_perform (plain : migration.resolver.directory.Plain migration.servers faults)
    (hdry : migration.options.dryRun = true) (step : MigrationStep) :
    Run.Does migration.servers (migration.perform step) (Spared (· = [])) := by
  -- reading the tickets asks for nothing of a project, and neither does their migration
  have reading (query project label : String) : Run.Does migration.servers
      (do
        let tickets ← migration.tracker.ticketsMatching migration.servers query
        migration.migrateAll tickets project label) (Spared (· = [])) :=
    Spared.bind (migration.tracker.does_ticketsMatching_spared query) fun tickets _ =>
      does_migrateAll_spared plain hdry tickets project label
  cases step with
  | tickets tickets project label =>
    -- there is nothing to read
    exact does_migrateAll_spared plain hdry tickets project label
  | component component project limit => exact reading _ project _
  | query query project limit => exact reading _ project _

/-! ### The same selection -/

/-- The exchange in which the issue of a ticket is created at once. -/
def issueExchangeOf (migration : Migration σ) (users : Roster) (project : String) (ticket : Ticket)
    (number : Int) : Exchange :=
  (migration.issueOf users ticket number).attempt project
    (migration.forge.actor (migration.idOf users ticket.reporter)) none

/-- Of the writes of some tickets, each of which is made at once, those that create an issue are one
for each ticket. -/
theorem filter_createsIssue_writes (migration : Migration σ) (users : Roster) (project : String)
    (entries : List (Ticket × Int)) :
    ((migration.writes users entries).map fun write =>
        write.attempt project write.actor none).filter (·.createsIssue)
      = entries.map fun entry => migration.issueExchangeOf users project entry.1 entry.2 := by
  induction entries with
  | nil => rfl
  | cons entry rest ih =>
    have notes : ((entry.1.comments.map (migration.noteOf users entry.2)).map fun write =>
        write.attempt project write.actor none).filter (·.createsIssue) = [] := by
      rw [List.filter_eq_nil_iff]
      intro exchange he
      obtain ⟨_, hwrite, rfl⟩ := List.mem_map.1 he
      obtain ⟨comment, -, rfl⟩ := List.mem_map.1 hwrite
      exact Bool.false_ne_true
    rw [writes, List.flatMap_cons, ← writes, List.map_append, List.filter_append, ih, writesOf,
      List.map_cons, List.filter_cons_of_pos rfl, notes]
    rfl

/-- That a dry run tells of some tickets, and that the same migration, if it is none, creates issues
for some: exactly for these, in this order and counted from one on. -/
structure Selected (migration : Migration σ) (listed created tickets : List Ticket)
    (project label : String) (session : Session σ)
    (dry run : Except Failure (List (Ident × Int)) × Session σ) : Prop where
  /-- The dry run has told of these tickets, and of nothing else. -/
  tells : session.told dry.2 = found tickets label :: previews 1 listed
  /-- The other run has created one issue for each of these tickets, and no other issue. -/
  creates : ∃ numbers : List Int, numbers.length = created.length ∧
    ∀ users, run.2.Fits users →
      (migration.servers.exchanges session run.2).filter (·.createsIssue)
        = (created.zip numbers).map fun entry =>
          migration.actual.issueExchangeOf users project entry.1 entry.2

/-- A dry run tells of the tickets that it comes to. -/
theorem told_of_unhindered (plain : migration.resolver.directory.Plain migration.servers faults)
    (hdry : migration.options.dryRun = true) (hmax : 0 ≤ migration.options.maxTickets)
    (tickets : List Ticket) (project label : String) {session : Session σ}
    {run : Except Failure (List (Ident × Int)) × Session σ}
    (hrun : run = (migration.migrateAll tickets project label).start session)
    (unhindered : Unhindered faults (migration.servers.exchanges session run.2) run.1) :
    session.told run.2
      = found tickets label :: previews 1 (migration.begun (migration.options.visited tickets)) := by
  obtain ⟨trace, passed, reaches⟩ :=
    does_migrateAll_previews plain hdry tickets project label session
  rw [← hrun] at passed reaches
  rw [passed.exchanges_eq] at unhindered
  have shown : infos run.2.log = infos session.log ++ _ := (reaches unhindered).1
  rw [Session.told, shown, List.drop_left, visitedFrom_one hmax]

/-- There is one issue among the requests for each title. -/
theorem length_filter_createsIssue (trace : List Exchange) :
    (trace.filter (·.createsIssue)).length
      = ((trace.map (·.request)).filterMap Request.issueTitle?).length := by
  induction trace with
  | nil => rfl
  | cons exchange trace ih =>
    obtain ⟨request, answer⟩ := exchange
    cases request with
    | createIssue => exact congrArg (· + 1) ih
    | _ => exact ih

/-- A run that is none creates issues for the tickets that it comes to. -/
theorem creates_of_unhindered (migration : Migration σ)
    (plain : migration.resolver.directory.Plain migration.servers faults)
    (hdry : migration.options.dryRun = false) (hmax : 0 ≤ migration.options.maxTickets)
    (tickets : List Ticket) (project label : String) {session : Session σ}
    {run : Except Failure (List (Ident × Int)) × Session σ}
    (hrun : run = (migration.migrateAll tickets project label).start session)
    (unhindered : Unhindered faults (migration.servers.exchanges session run.2) run.1) :
    ∃ numbers : List Int,
      numbers.length = (migration.begun (migration.options.visited tickets)).length ∧
        ∀ users, run.2.Fits users →
          (migration.servers.exchanges session run.2).filter (·.createsIssue)
            = ((migration.begun (migration.options.visited tickets)).zip numbers).map fun entry =>
              migration.issueExchangeOf users project entry.1 entry.2 := by
  obtain ⟨trace, passed, numbers, numbered, -, ⟨posts, course, planned⟩, -⟩ :=
    does_migrateAll plain.reads hdry hmax tickets project label session
  obtain ⟨trace', passed', reaches⟩ :=
    does_migrateAll_issues plain hdry tickets project label session
  obtain rfl : trace = trace' := passed.replay_drop.symm.trans passed'.replay_drop
  rw [← hrun] at passed course planned reaches
  rw [passed.exchanges_eq] at unhindered ⊢
  have front := migration.begun_isPrefix (migration.options.visited tickets)
  generalize hbegun : migration.begun (migration.options.visited tickets) = begun at front ⊢
  -- there are as many issues as tickets that the run comes to
  have count : (trace.filter (·.createsIssue)).length = begun.length := by
    have titles := (reaches unhindered).1
    rw [issueTitles, passed.requests, List.filterMap_append, visitedFrom_one hmax, hbegun] at titles
    rw [length_filter_createsIssue, List.append_cancel_left titles, List.length_map]
  refine ⟨numbers.take begun.length, ?_, fun users fits => ?_⟩
  · rw [List.length_take, numbered]
    exact Nat.min_eq_left front.length_le
  · -- and they are a front part of those that are planned
    have among := ((planned users fits).1.map fun write =>
      write.attempt project write.actor none).filter (·.createsIssue)
    rw [filter_createsIssue_writes, ← course.filter_isWrite_of_granted unhindered.granted,
      Exchange.filter_createsIssue_filter_isWrite, List.prefix_iff_eq_take, count] at among
    rw [among, ← List.map_take, List.zip, List.take_zipWith, ← List.prefix_iff_eq_take.1 front]

/-- That a migration is a read-only rehearsal. -/
structure Rehearses (migration : Migration σ) (faults : Failure → Prop) : Prop where
  /-- Whatever steps are taken and however they end, nothing of a project is asked for in any of
  them, and the result of a step that ends well is empty. -/
  spares : ∀ session turns, ∀ episode ∈ episodes migration.perform session turns,
    episode.Was migration.servers (Spared (· = []))
  /-- If the issue server answers without error, the dry run tells of the tickets that it comes to,
  and the same migration creates issues for the tickets that it comes to if it is no dry run.  Both
  of them end well, or with a name that cannot be looked up. -/
  selects : ∀ (tickets : List Ticket) (project label : String) (session : Session σ),
    let visited := migration.options.visited tickets
    let dry := (migration.migrateAll tickets project label).start session
    let run := (migration.actual.migrateAll tickets project label).start session
    Unhindered faults (migration.servers.exchanges session dry.2) dry.1 →
      Unhindered faults (migration.servers.exchanges session run.2) run.1 →
        migration.Selected (migration.begun visited) (migration.actual.begun visited) tickets project
            label session dry run ∧
          (failure? dry.1
            = if visited.all migration.canFinish then none else some .unhashable) ∧
          (failure? run.1
            = if visited.all migration.actual.canFinish then none else some .unhashable)
  /-- So both of them select all tickets that are to be visited exactly if each owner and reporter
  can be looked up and, on all tickets but the last one, each author of a comment as well. -/
  alike : ∀ (tickets : List Ticket) (project label : String) (session : Session σ),
    let visited := migration.options.visited tickets
    let dry := (migration.migrateAll tickets project label).start session
    let run := (migration.actual.migrateAll tickets project label).start session
    Unhindered faults (migration.servers.exchanges session dry.2) dry.1 →
      Unhindered faults (migration.servers.exchanges session run.2) run.1 →
        (migration.Selected visited visited tickets project label session dry run ↔
          (∀ ticket ∈ visited, migration.resolver.canFind ticket.owner = true ∧
              migration.resolver.canFind ticket.reporter = true) ∧
            ∀ ticket ∈ visited.dropLast, ∀ comment ∈ ticket.comments,
              migration.resolver.canFind comment.author = true)

/-- What a run comes to if it is none, told by the names. -/
theorem begun_actual_eq_self_iff (tickets : List Ticket) :
    migration.actual.begun tickets = tickets ↔
      (∀ ticket ∈ tickets, migration.resolver.canFind ticket.owner = true ∧
          migration.resolver.canFind ticket.reporter = true) ∧
        ∀ ticket ∈ tickets.dropLast, ∀ comment ∈ ticket.comments,
          migration.resolver.canFind comment.author = true := by
  have begins (ticket : Ticket) : migration.actual.canBegin ticket = true ↔
      migration.resolver.canFind ticket.owner = true ∧
        migration.resolver.canFind ticket.reporter = true := Bool.and_eq_true_iff
  have finishes (ticket : Ticket) : migration.actual.canFinish ticket = true ↔
      (migration.resolver.canFind ticket.owner = true ∧
        migration.resolver.canFind ticket.reporter = true) ∧
      ∀ comment ∈ ticket.comments, migration.resolver.canFind comment.author = true := by
    rw [canFinish_of_not_dryRun rfl, Bool.and_eq_true, begins, List.all_eq_true]
    rfl
  simp only [begun_eq_self_iff, begins, finishes]
  constructor
  · rintro ⟨all, most⟩
    exact ⟨all, fun ticket ht => (most ticket ht).2⟩
  · rintro ⟨all, most⟩
    exact ⟨all, fun ticket ht => ⟨all ticket (List.dropLast_subset _ ht), most ticket ht⟩⟩

/-- A migration that selects the tickets that it comes to selects all of them exactly if the run that
is none comes to all. -/
theorem selected_iff (hdry : migration.options.dryRun = true) {visited tickets : List Ticket}
    {project label : String} {session : Session σ}
    {dry run : Except Failure (List (Ident × Int)) × Session σ}
    (selected : migration.Selected (migration.begun visited) (migration.actual.begun visited) tickets
      project label session dry run) :
    migration.Selected visited visited tickets project label session dry run ↔
      migration.actual.begun visited = visited := by
  constructor
  · rintro ⟨-, numbers, numbered, all⟩
    obtain ⟨numbers', numbered', some⟩ := selected.creates
    -- the issues are counted in both ways
    have same := congrArg List.length ((some _ run.2.fits_getD).symm.trans
      (all _ run.2.fits_getD))
    rw [List.length_map, List.length_map, List.length_zip, List.length_zip, numbered, numbered',
      Nat.min_self, Nat.min_self] at same
    exact (begun_isPrefix visited).eq_of_length same
  · intro whole
    -- the dry run looks up fewer names
    obtain ⟨begins, -⟩ := (begun_eq_self_iff visited).1 whole
    have listed : migration.begun visited = visited := by
      simp only [begun_eq_self_iff, canFinish_of_dryRun hdry]
      exact ⟨begins, fun ticket ht => begins ticket (List.dropLast_subset _ ht)⟩
    rwa [whole, listed] at selected

/-- **A dry run is a read-only rehearsal.**

However many steps are taken, whatever the servers answer and wherever a step fails, no project is
opened, and no issue and no note is created or asked for.  If the issue server answers without error,
what a dry run tells of a list of tickets is, in order and counted from one on, what the first of them
are, up to one whose owner or reporter cannot be looked up; and for the first of them the migration
creates issues if it is no dry run, up to the first name that cannot be looked up.  If there is no
such name, these are the same tickets, as many as the settings allow. -/
theorem rehearses_of_dryRun (plain : migration.resolver.directory.Plain migration.servers faults)
    (hdry : migration.options.dryRun = true) (hmax : 0 ≤ migration.options.maxTickets) :
    migration.Rehearses faults := by
  have selects (tickets : List Ticket) (project label : String) (session : Session σ)
      {dry run : Except Failure (List (Ident × Int)) × Session σ}
      (hd : dry = (migration.migrateAll tickets project label).start session)
      (hr : run = (migration.actual.migrateAll tickets project label).start session)
      (unhinderedDry : Unhindered faults (migration.servers.exchanges session dry.2) dry.1)
      (unhindered : Unhindered faults (migration.servers.exchanges session run.2) run.1) :
      migration.Selected (migration.begun (migration.options.visited tickets))
        (migration.actual.begun (migration.options.visited tickets)) tickets project label session
        dry run :=
    ⟨told_of_unhindered plain hdry hmax tickets project label hd unhinderedDry,
      creates_of_unhindered migration.actual plain rfl hmax tickets project label hr unhindered⟩
  refine ⟨fun session turns episode he => Episode.does_of_mem (does_perform plain hdry) he, ?_, ?_⟩
  · intro tickets project label session visited dry run unhinderedDry unhindered
    refine ⟨selects tickets project label session rfl rfl unhinderedDry unhindered, ?_, ?_⟩
    · have ends := failure?_of_unhindered migration plain tickets project label rfl unhinderedDry
      rwa [visitedFrom_one hmax] at ends
    · have ends := failure?_of_unhindered migration.actual plain tickets project label rfl unhindered
      have same : visitedFrom migration.actual.options 1 tickets = visited :=
        @visitedFrom_one migration.actual.options hmax tickets
      rwa [same] at ends
  · intro tickets project label session visited dry run unhinderedDry unhindered
    rw [← begun_actual_eq_self_iff]
    exact selected_iff hdry (selects tickets project label session rfl rfl unhinderedDry unhindered)

/-- A ticket with a comment is told of and left alone. -/
theorem rehearses_of_dryRun_commented :
    let migration := toScripted.rehearsal
    let session : Session (List (Option Failure)) := { world := [] }
    let dry := (migration.migrateAll [strangersTicket] "p" "q").start session
    let run := (migration.actual.migrateAll [strangersTicket] "p" "q").start session
    migration.resolver.directory.Plain migration.servers (fun _ => False) ∧
      migration.options.dryRun = true ∧ 0 ≤ migration.options.maxTickets ∧
      dry.2.requests = [.users 1 100] ∧
      session.told dry.2 = ["Found 1 tickets (q)", "1 Trac ticket #7 t (1 notes)"] ∧
      run.1 = .ok [(.number 7, 1)] ∧
      migration.Selected [strangersTicket] [strangersTicket] [strangersTicket] "p" "q" session dry
        run ∧
      migration.Rehearses fun _ => False := by
  intro migration session dry run
  have plain : migration.resolver.directory.Plain migration.servers fun _ => False :=
    Directory.plain_fetchUsers scripted 100 50
  have rehearses := rehearses_of_dryRun plain rfl (by decide)
  have selected := (rehearses.alike [strangersTicket] "p" "q" session
    ⟨toScripted_rehearsed.rehearsal, by simp⟩ ⟨toScripted_rehearsed.actual, by simp⟩).2
      (by decide +kernel)
  exact ⟨plain, rfl, by decide, by decide +kernel, by decide +kernel, rfl, selected, rehearses⟩

/-- The author of a comment on the first of two tickets is mapped to a list.  Every request is
granted, and the dry run tells of both tickets; but an issue is created for the first one only. -/
theorem not_selected_listTarget :
    let migration : Migration (List (Option Failure)) := { toScripted.rehearsal with
      resolver := { toScripted.resolver with
        mapping := [(.ofString "zed", .list [.ofString "z"])] } }
    let session : Session (List (Option Failure)) := { world := [] }
    let tickets : List Ticket := [strangersTicket, { id := .number 8, summary := some "u" }]
    let dry := (migration.migrateAll tickets "p" "q").start session
    let run := (migration.actual.migrateAll tickets "p" "q").start session
    migration.options.dryRun = true ∧ 0 ≤ migration.options.maxTickets ∧
      migration.options.visited tickets = tickets ∧
      Unhindered (fun _ => False) (migration.servers.exchanges session dry.2) dry.1 ∧
      Unhindered (fun _ => False) (migration.servers.exchanges session run.2) run.1 ∧
      ¬migration.Selected tickets tickets tickets "p" "q" session dry run ∧
      session.told dry.2 = ["Found 2 tickets (q)", "1 Trac ticket #7 t (1 notes)",
        "2 Trac ticket #8 u (0 notes)"] ∧
      failure? run.1 = some .unhashable ∧
      ((migration.servers.exchanges session run.2).filter (·.createsIssue)).length = 1 := by
  intro migration session tickets dry run
  have one : ((migration.servers.exchanges session run.2).filter (·.createsIssue)).length = 1 := by
    decide +kernel
  refine ⟨rfl, by decide, rfl, ⟨by decide +kernel, by simp⟩, ⟨by decide +kernel, by simp⟩, ?_,
    by decide +kernel, by decide +kernel, one⟩
  rintro ⟨-, numbers, numbered, all⟩
  rw [all _ run.2.fits_getD, List.length_map, List.length_zip, numbered, Nat.min_self] at one
  cases one

end Migration

end TicketMigration
