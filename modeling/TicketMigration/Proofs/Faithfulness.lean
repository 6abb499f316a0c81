import TicketMigration.Proofs.Granted
import TicketMigration.Proofs.Reach

/-!
# Faithful migrations

If the tracker holds the tickets of a query and the issue server grants every request, a migration
succeeds, unless one of the names is mapped to something that can be no name.  For each ticket, in
the order of the query and up to the number that is allowed, it creates one issue and, on this issue,
one note for each comment in the change log.  It creates nothing else.

## Main definitions

* `MigrationOptions.firstOf` — as many tickets as are allowed.
* `TicketRecord.names` — the names that a ticket mentions.
* `Migration.creations` — the exchanges in which a ticket is created on the issue server.
* `Migration.Faithful` — that a run has created what the tracker holds.

## Main statements

* `Migration.faithful_of_ok` — **a migration creates what the tracker holds, in order, and
  nothing else**, if it comes to its end.
* `Migration.migrateMatching_faithful_iff` — **it does so exactly if every name can be looked up**.
-/

namespace TicketMigration

open Markup

variable {σ : Type}

/-! ### What is created -/

/-- As many of these as are migrated, which are all if no number is set. -/
def MigrationOptions.firstOf {α : Type} (options : MigrationOptions) (items : List α) : List α :=
  if options.maxTickets = 0 then items else items.take options.maxTickets.toNat

theorem MigrationOptions.visited_map {α : Type} (options : MigrationOptions) (f : α → Ticket)
    (items : List α) : options.visited (items.map f) = (options.firstOf items).map f := by
  rw [visited, firstOf]
  split
  · rfl
  · exact List.map_take.symm

/-- The names that a ticket mentions: its owner, its reporter and the authors of its comments that
say something. -/
def TicketRecord.names (record : TicketRecord) : List (Option String) :=
  some (record.text "owner") :: some (record.text "reporter") :: record.remarks.map (·.author)

namespace Migration

variable (migration : Migration σ)

/-- The exchange in which the issue of a ticket is created and gets its number. -/
def issueExchange (users : Roster) (project : String) (record : TicketRecord) (number : Int) :
    Exchange :=
  ⟨.createIssue project
    { title := some (record.text "summary")
      description := toMarkdown (record.text "description") migration.options.trackerUrl ++
        if migration.options.linkBack then
          "\n\n---\n\nOriginal ticket: " ++ migration.options.trackerUrl ++ "/ticket/" ++
            record.id.text
        else ""
      labels := labels migration.options.labels record.ticket
      assignee := migration.idOf users (some (record.text "owner"))
      createdAt := migration.forge.stamp record.created.moment }
    (migration.forge.actor (migration.idOf users (some (record.text "reporter")))), .ok number⟩

/-- The exchange in which the note for a comment is created. -/
def noteExchange (users : Roster) (project : String) (number : Int) (change : Change) : Exchange :=
  ⟨.createNote project number
    { body := toMarkdown change.new migration.options.trackerUrl
      createdAt := migration.forge.stamp change.time.moment }
    (migration.forge.actor (migration.idOf users change.author)), .ok ()⟩

/-- The exchanges in which a ticket is created: its issue, and on this issue one note for each
comment of the change log that says something. -/
def creations (users : Roster) (project : String) (record : TicketRecord) (number : Int) :
    List Exchange :=
  migration.issueExchange users project record number
    :: record.remarks.map (migration.noteExchange users project number)

/-- That a run has created what the tracker holds: what passed in it is `trace`, and `numbers` are
the numbers of the issues. -/
structure Faithful (migration : Migration σ) (project : String) (records : List TicketRecord)
    (session : Session σ) (run : Except Failure (List (Ident × Int)) × Session σ)
    (trace : List Exchange) (numbers : List Int) : Prop where
  /-- The trace is all that was asked since the session began, with the answers of the servers. -/
  passed : Passed migration.servers session trace run.2
  /-- Each ticket that is migrated has a number for its issue. -/
  numbered : numbers.length = (migration.options.firstOf records).length
  /-- The run succeeds, and its result is these numbers. -/
  result : run.1 = .ok (((migration.options.firstOf records).map (·.id)).zip numbers)
  /-- The requests that create something are, in order, those for these tickets, each made once. -/
  creates : ∀ users, run.2.Fits users → trace.filter (·.isWrite) =
    ((migration.options.firstOf records).zip numbers).flatMap fun entry =>
      migration.creations users project entry.1 entry.2

/-- The writes of a ticket, each attempted once, are its creations. -/
theorem map_attempt_writesOf (users : Roster) (project : String) (record : TicketRecord)
    (number : Int) :
    (migration.writesOf users record.ticket number).map
        (fun write => write.attempt project write.actor none)
      = migration.creations users project record number := by
  have comments : record.ticket.comments = record.remarks.map Change.comment := rfl
  rw [writesOf, creations, List.map_cons, List.map_map, comments, List.map_map]
  rfl

theorem map_attempt_writes (users : Roster) (project : String) (records : List TicketRecord)
    (numbers : List Int) :
    (migration.writes users ((records.map (·.ticket)).zip numbers)).map
        (fun write => write.attempt project write.actor none)
      = (records.zip numbers).flatMap fun entry =>
        migration.creations users project entry.1 entry.2 := by
  rw [writes, List.map_flatMap, List.zip_map_left, List.flatMap_map]
  exact congrArg (fun create => (records.zip numbers).flatMap create)
    (funext fun entry => map_attempt_writesOf migration users project entry.1 entry.2)

end Migration

/-! ### The migration of a query -/

namespace Migration

variable {migration : Migration σ} {states : σ → Prop} {records : List TicketRecord}

/-- The users of the issue server are fetched without anything else that would show. -/
theorem Supported.plain {query : String} (h : migration.Supported states query records) :
    migration.resolver.directory.Plain migration.servers fun _ => False := by
  obtain ⟨pageSize, maxPages, mapping, hr⟩ := h.users
  rw [hr]
  exact Directory.plain_fetchUsers migration.servers pageSize maxPages

/-- The tickets that are visited are migrated one after the other, whatever number is set. -/
theorem does_migrateAll_visitedFrom {faults : Failure → Prop}
    (reads : migration.resolver.directory.Reads migration.servers faults)
    (hdry : migration.options.dryRun = false) (tickets : List Ticket) (project label : String) :
    Run.Does migration.servers (migration.migrateAll tickets project label)
      (migration.Migrated (lookupFaults faults) project []
        (visitedFrom migration.options 1 tickets)) := by
  refine Run.Does.log_bind _ _ ((does_migrateFrom reads hdry project 1 tickets).mono ?_)
  rintro between trace result after ⟨numbers, hn, hc, h⟩ before rfl
  exact ⟨numbers, hn, hc, h.course, h.keeps⟩

/-- These are as many tickets as the settings allow. -/
theorem does_migrateAll {faults : Failure → Prop}
    (reads : migration.resolver.directory.Reads migration.servers faults)
    (hdry : migration.options.dryRun = false) (hmax : 0 ≤ migration.options.maxTickets)
    (tickets : List Ticket) (project label : String) :
    Run.Does migration.servers (migration.migrateAll tickets project label)
      (migration.Migrated (lookupFaults faults) project []
        (migration.options.visited tickets)) := by
  rw [← visitedFrom_one hmax]
  exact does_migrateAll_visitedFrom reads hdry tickets project label

/-- All names that the tickets mention can be looked up. -/
theorem all_canFinish_iff (hdry : migration.options.dryRun = false)
    (hmax : 0 ≤ migration.options.maxTickets) :
    (visitedFrom migration.options 1 (records.map (·.ticket))).all migration.canFinish = true ↔
      ∀ record ∈ migration.options.firstOf records, ∀ name ∈ record.names,
        migration.resolver.canFind name = true := by
  have names (record : TicketRecord) : lookups migration.options record.ticket = record.names := by
    rw [lookups, hdry, TicketRecord.names, TicketRecord.ticket, List.map_map]
    rfl
  simp only [visitedFrom_one hmax, MigrationOptions.visited_map, List.all_map, List.all_eq_true,
    Function.comp_apply, canFinish, names]

/-- **A migration creates what the tracker holds, in order, and nothing else**, if all requests were
granted and it has come to its end. -/
theorem faithful_of_ok {label project : String} {first : List Exchange}
    {session between after : Session σ} {created : List (Ident × Int)}
    (supported : migration.Supported states label records)
    (hdry : migration.options.dryRun = false) (hmax : 0 ≤ migration.options.maxTickets)
    (passed : Passed migration.servers session first between)
    (quiet : ∀ exchange ∈ first, exchange.Quiet) (ready : states between.world)
    (hrun : (migration.migrateAll (records.map (·.ticket)) project label).start between
      = (.ok created, after)) :
    ∃ trace numbers, migration.Faithful project records session (.ok created, after) trace
      numbers := by
  obtain ⟨second, passed', granted⟩ :=
    granted_migrateAll supported (records.map (·.ticket)) project label between
  obtain ⟨second', passed'', numbers, numbered, result, ⟨posts, course, planned⟩, -⟩ :=
    does_migrateAll supported.plain.reads hdry hmax (records.map (·.ticket)) project label between
  -- what succeeds has gone through all the writes
  obtain rfl : second = second' := passed'.replay_drop.symm.trans passed''.replay_drop
  rw [hrun] at passed' result course planned
  rw [MigrationOptions.visited_map] at numbered result planned
  rw [List.length_map] at numbered
  refine ⟨first ++ second, numbers, passed.trans passed', numbered, ?_, fun users fits => ?_⟩
  · rw [result created rfl, List.nil_append, List.map_map]
    rfl
  · have reading : first.filter (·.isWrite) = [] :=
      List.filter_eq_nil_iff.2 fun exchange he => by simp [(quiet exchange he).1]
    rw [List.filter_append, reading, List.nil_append,
      course.filter_isWrite_of_granted (granted ready).1, (planned users fits).2 rfl,
      map_attempt_writes]

/-- Once the tickets have been read, the names decide how the migration ends. -/
theorem faithful_iff_of_read {label project : String} {first : List Exchange}
    {session between : Session σ} {run : Except Failure (List (Ident × Int)) × Session σ}
    (supported : migration.Supported states label records)
    (hdry : migration.options.dryRun = false) (hmax : 0 ≤ migration.options.maxTickets)
    (passed : Passed migration.servers session first between)
    (quiet : ∀ exchange ∈ first, exchange.Quiet) (ready : states between.world)
    (hrun : run = (migration.migrateAll (records.map (·.ticket)) project label).start between) :
    ((∃ trace numbers, migration.Faithful project records session run trace numbers) ↔
      ∀ record ∈ migration.options.firstOf records, ∀ name ∈ record.names,
        migration.resolver.canFind name = true) ∧
      (¬(∀ record ∈ migration.options.firstOf records, ∀ name ∈ record.names,
        migration.resolver.canFind name = true) → run.1 = .error .unhashable) := by
  obtain ⟨second, passed', granted⟩ :=
    granted_migrateAll supported (records.map (·.ticket)) project label between
  rw [← hrun] at passed'
  have unhindered : Unhindered (fun _ => False) (migration.servers.exchanges between run.2) run.1 :=
    ⟨by rw [passed'.exchanges_eq]; exact (granted ready).1, by simp⟩
  have ends := failure?_of_unhindered migration supported.plain _ project label hrun unhindered
  rw [← all_canFinish_iff hdry hmax]
  cases hall : (visitedFrom migration.options 1 (records.map (·.ticket))).all
    migration.canFinish with
  | true =>
    rw [hall] at ends
    obtain ⟨created, hr⟩ := exists_of_failure?_eq_none ends
    have ended : run = (.ok created, run.2) := Prod.ext hr rfl
    have faithful := faithful_of_ok supported hdry hmax passed quiet ready (hrun.symm.trans ended)
    rw [← ended] at faithful
    exact ⟨iff_of_true faithful rfl, absurd rfl⟩
  | false =>
    rw [hall] at ends
    have failed : run.1 = .error .unhashable := eq_error_of_failure? ends
    refine ⟨iff_of_false ?_ Bool.false_ne_true, fun _ => failed⟩
    rintro ⟨trace, numbers, faithful⟩
    rw [faithful.result] at failed
    cases failed

/-- **A migration creates what the tracker holds** exactly if every name can be looked up.

Let the tracker hold the tickets and the issue server grant every request.  If every name that the
tickets mention can be looked up, the migration of a query succeeds.  For each ticket in the order of
the answer, up to the number that is allowed, there is then exactly one request for its issue and, on
the number that this issue has got, exactly one request for a note for each comment of its change log
that says something, in the order of the change log.  No other request creates anything, so no
comment is lost, repeated or put on the issue of another ticket.  If some name is mapped to
something that can be no name, such as a list, the migration fails when it comes to that name. -/
theorem migrateMatching_faithful_iff {query : String} {limit : Option Int}
    (supported : migration.Supported states (withCap query limit) records)
    (hdry : migration.options.dryRun = false) (hmax : 0 ≤ migration.options.maxTickets)
    {session : Session σ}
    (ready : migration.tracker.Ready states (withCap query limit) records session)
    (project : String) :
    let run := (migration.migrateMatching query project limit).start session
    let sound := ∀ record ∈ migration.options.firstOf records, ∀ name ∈ record.names,
      migration.resolver.canFind name = true
    ((∃ trace numbers, migration.Faithful project records session run trace numbers) ↔ sound) ∧
      (¬sound → run.1 = .error .unhashable) := by
  intro run sound
  obtain ⟨first, _, between, hread, passed, quiet, ready', rfl⟩ :=
    migration.tracker.succeeds_ticketsMatching supported.grants.toHolds session ready
  have whole : (migration.migrateMatching query project limit).start session
      = (migration.migrateAll (records.map (·.ticket)) project (withCap query limit)).start
        between := by
    rw [migrateMatching, Run.start_bind, hread]
  exact faithful_iff_of_read supported hdry hmax passed quiet ready'.world whole

/-- A ticket with two comments, one of which says nothing, and with a change of another field; and a
ticket with nothing but a title. -/
def twoRecords : List TicketRecord :=
  let never : Stamp := ⟨.nil, none, rfl⟩
  let moment : Stamp :=
    ⟨.time "20220102T03:04:05",
      some { year := 2022, month := 1, day := 2, hour := 3, minute := 4, second := 5 }, rfl⟩
  [{ id := .number 7, created := moment, changed := .nil
     fields := [("summary", "t"), ("owner", "ann"), ("description", "")]
     changes :=
      [⟨moment, some "ann", "comment", "1", "x", .int 1⟩,
        ⟨never, some "bob", "status", "new", "closed", .int 1⟩,
        ⟨never, none, "comment", "2", " ", .int 1⟩] },
    { id := .number 8, created := never, changed := .nil, fields := [("summary", "u")]
      changes := [] }]

/-- Servers that hold these tickets and count the issues. -/
def counting : Servers Int where
  answer
    | .query _, count => (.ok (twoRecords.map (·.id)), count)
    | .tickets _, count => (.ok (twoRecords.map (·.wire)), count)
    | .changeLog id, count =>
      (.ok ((twoRecords.find? (·.id = id)).elim [] fun record => record.changes.map Change.wire),
        count)
    | .users _ _, count => (.ok [⟨5, "ann", []⟩], count)
    | .createIssue _ _ _, count => (.ok (count + 1 : Int), count + 1)
    | .createNote _ _ _ _, count => (.ok (), count)
    | .connectTracker _, count | .connectForge _ _ _, count | .openProject _, count
    | .openIssue _ _, count => (.ok (), count)

/-- A migration to these servers, with names that are mapped to others. -/
def toCounting (mapping : Entries) : Migration Int where
  options := { trackerUrl := "https://trac.example.org", linkBack := true }
  servers := counting
  tracker := .ofUrl "https://trac.example.org" none
  forge := .ofUrl "https://gitlab.example.org" false
  resolver := .ofServers counting 100 50 mapping

theorem toCounting_supported (mapping : Entries) (query : String) :
    (toCounting mapping).Supported (fun _ => True) query twoRecords where
  users := ⟨100, 50, mapping, rfl⟩
  grants :=
    { stays := fun _ _ _ => trivial
      tells := by
        rintro request answer (_ | _ | ⟨held⟩) count -
        · rfl
        · rfl
        · have both := held
          rw [twoRecords, List.mem_cons, List.mem_singleton] at both
          rcases both with rfl | rfl <;> rfl
      grants := fun request _ count => by cases request <;> exact fun _ => ⟨_, rfl⟩ }

/-- The tracker has not been asked yet. -/
theorem toCounting_ready (mapping : Entries) (query : String) :
    (toCounting mapping).tracker.Ready (fun _ => True) query twoRecords
      ({ world := 0 } : Session Int) :=
  ⟨trivial, by rintro _ ⟨⟩⟩

/-- Two issues and one note are created. -/
theorem migrateMatching_faithful_iff_two :
    let session : Session Int := { world := 0 }
    let run := ((toCounting []).migrateMatching "status=new" "p" none).start session
    (toCounting []).Supported (fun _ => True) (withCap "status=new" none) twoRecords ∧
      (toCounting []).options.dryRun = false ∧ 0 ≤ (toCounting []).options.maxTickets ∧
      (toCounting []).tracker.Ready (fun _ => True) (withCap "status=new" none) twoRecords session ∧
      run.1.toOption = some [(.number 7, 1), (.number 8, 2)] ∧ run.2.requests.length = 10 ∧
      ∃ trace numbers, (toCounting []).Faithful "p" twoRecords session run trace numbers := by
  intro session run
  have supported := toCounting_supported [] (withCap "status=new" none)
  have ready := toCounting_ready [] (withCap "status=new" none)
  exact ⟨supported, rfl, by decide, ready, by decide +kernel, by decide +kernel,
    (migrateMatching_faithful_iff supported rfl (by decide) ready "p").1.2 (by decide +kernel)⟩

/-- If the owner of a ticket is mapped to a list, the migration fails at once, though every request is
granted. -/
theorem not_faithful_listTarget :
    let migration := toCounting [(.ofString "ann", .list [.ofString "b.jones"])]
    let session : Session Int := { world := 0 }
    let run := (migration.migrateMatching "status=new" "p" none).start session
    migration.Supported (fun _ => True) (withCap "status=new" none) twoRecords ∧
      migration.options.dryRun = false ∧ 0 ≤ migration.options.maxTickets ∧
      migration.tracker.Ready (fun _ => True) (withCap "status=new" none) twoRecords session ∧
      (¬∃ trace numbers, migration.Faithful "p" twoRecords session run trace numbers) ∧
      failure? run.1 = some .unhashable ∧
      (migration.servers.exchanges session run.2).filter (·.isWrite) = [] := by
  intro migration session run
  have ends : failure? run.1 = some .unhashable := by decide +kernel
  refine ⟨toCounting_supported _ _, rfl, by decide, toCounting_ready _ _, ?_, ends, ?_⟩
  · rintro ⟨trace, numbers, faithful⟩
    rw [faithful.result] at ends
    cases ends
  · rw [← List.isEmpty_iff]
    decide +kernel

end Migration

end TicketMigration
