import TicketMigration.Proofs.Rehearsal

/-!
# On whose behalf

With the token of an administrator, issues and notes are created on behalf of those who wrote the
tickets and the comments, at the times at which these were written.  A request on behalf of nobody
in particular is made only for an author who stands for nobody, or as the repetition of a request
that the server has just refused to the author.  Without such a token, no request is made on behalf
of anybody, and none tells a time.

## Main definitions

* `Origin` — the ticket or the comment that an issue or a note comes from.
* `Migration.requestFor` — the request for what comes from it, on behalf of a user or of nobody.
* `Migration.Attributed` — the requests go through the origins one after the other.
* `Migration.Accounted` — a single request is one for an origin, on behalf of the right user.
* `Migration.Confined` — what the migration of a batch of tickets does.

## Main statements

* `Migration.attributed_of_course` — what a run posts is attributed to the origins in their order.
* `Migration.does_migrateBatch` — **the migration of a batch is confined** in this way.
* `Migration.confined_of_mem_episodes` — so is every step of a history.
-/

namespace TicketMigration

open Markup

variable {σ : Type}

/-! ### Origins -/

/-- Where an issue or a note comes from. -/
inductive Origin
  /-- A ticket, whose issue gets this number. -/
  | ticket (ticket : Ticket) (number : Int)
  /-- A comment on a ticket, whose issue has this number. -/
  | comment (number : Int) (comment : Comment)

namespace Origin

/-- Who wrote it. -/
def author : Origin → Option String
  | .ticket written _ => written.reporter
  | .comment _ written => written.author

/-- When it was written. -/
def time : Origin → Option Moment
  | .ticket written _ => written.createdAt
  | .comment _ written => written.time

/-- The tickets, each followed by its comments. -/
def all (tickets : List (Ticket × Int)) : List Origin :=
  tickets.flatMap fun entry => ticket entry.1 entry.2 :: entry.1.comments.map (comment entry.2)

end Origin

/-! ### Requests -/

namespace Request

/-- The user on whose behalf something is asked for. -/
def actor? : Request → Option Int
  | createIssue _ _ actor | createNote _ _ _ actor => actor
  | _ => none

/-- The time of creation that the server is told. -/
def stamp? : Request → Option String
  | createIssue _ draft _ => draft.createdAt
  | createNote _ _ draft _ => draft.createdAt
  | _ => none

end Request

/-- What creates nothing is asked for on behalf of nobody, and tells no time. -/
theorem Exchange.impersonal_of_not_isWrite {exchange : Exchange} (h : exchange.isWrite = false) :
    exchange.request.actor? = none ∧ exchange.request.stamp? = none := by
  obtain ⟨request, answer⟩ := exchange
  cases request with
  | createIssue | createNote => cases h
  | _ => exact ⟨rfl, rfl⟩

/-- Where nothing of a project is asked for, nothing is created. -/
theorem Exchange.not_isWrite_of_not_concernsProject {exchange : Exchange}
    (h : exchange.request.concernsProject = false) : exchange.isWrite = false := by
  obtain ⟨request, answer⟩ := exchange
  cases request with
  | createIssue | createNote => cases h
  | _ => rfl

/-- The issue server refuses a request to a user with one of three codes. -/
theorem Failure.exists_code_of_isRefusal {failure : Failure} (h : failure.isRefusal = true) :
    ∃ operation code message, failure = .forge operation (some code) message ∧
      (code = 401 ∨ code = 403 ∨ code = 404) := by
  cases failure with
  | forge operation code message =>
    cases code with
    | some code => exact ⟨operation, code, message, rfl, by simpa [isRefusal, refusalCodes] using h⟩
    | none => cases h
  | _ => cases h

namespace Migration

variable (migration : Migration σ) (users : Roster) (project : String)

/-- The request for what comes from a ticket or a comment, on behalf of a user or of nobody in
particular. -/
def requestFor (origin : Origin) (actor : Option Int) : Request :=
  match origin with
  | .ticket ticket _ =>
    .createIssue project
      (migration.forge.issueDraft ticket.summary (issueText migration.options ticket)
        (labels migration.options.labels ticket) (migration.idOf users ticket.owner)
        ticket.createdAt) actor
  | .comment number comment =>
    .createNote project number
      (migration.forge.noteDraft (toMarkdown comment.text migration.options.trackerUrl)
        comment.time) actor

/-- The user on whose behalf it is asked for at first. -/
def actorFor (origin : Origin) : Option Int :=
  migration.forge.actor (migration.idOf users origin.author)

/-- What comes from a ticket or a comment. -/
def writeOf : Origin → Write
  | .ticket ticket number => migration.issueOf users ticket number
  | .comment number comment => migration.noteOf users number comment

theorem writes_eq_map_writeOf (tickets : List (Ticket × Int)) :
    migration.writes users tickets = (Origin.all tickets).map (migration.writeOf users) := by
  rw [writes, Origin.all, List.map_flatMap]
  refine congrArg (fun create => tickets.flatMap create) (funext fun entry => ?_)
  rw [writesOf, List.map_cons, List.map_map]
  rfl

@[simp] theorem actor_writeOf (origin : Origin) :
    (migration.writeOf users origin).actor = migration.actorFor users origin := by
  cases origin <;> rfl

@[simp] theorem request_attempt_writeOf (origin : Origin) (actor : Option Int)
    (failure : Option Failure) :
    ((migration.writeOf users origin).attempt project actor failure).request
      = migration.requestFor users project origin actor := by
  cases origin <;> rfl

@[simp] theorem actor?_requestFor (origin : Origin) (actor : Option Int) :
    (migration.requestFor users project origin actor).actor? = actor := by
  cases origin <;> rfl

@[simp] theorem stamp?_requestFor (origin : Origin) (actor : Option Int) :
    (migration.requestFor users project origin actor).stamp?
      = migration.forge.stamp origin.time := by
  cases origin <;> rfl

/-! ### Attribution -/

/-- The requests go through the origins in order: each is asked for once or, if that was refused to
its author, once more directly afterwards. -/
inductive Attributed : List Origin → List Exchange → Prop
  /-- Nothing more is asked, whether anything is left or not. -/
  | done (origins : List Origin) : Attributed origins []
  /-- Something is asked for that creates nothing. -/
  | other {origins : List Origin} {trace : List Exchange} (exchange : Exchange)
      (noWrite : exchange.isWrite = false) (rest : Attributed origins trace) :
      Attributed origins (exchange :: trace)
  /-- The next one is asked for, on behalf of its author if the author stands for somebody. -/
  | once {origins : List Origin} {trace : List Exchange} (origin : Origin) (exchange : Exchange)
      (asks : exchange.request
        = migration.requestFor users project origin (migration.actorFor users origin))
      (rest : Attributed origins trace) : Attributed (origin :: origins) (exchange :: trace)
  /-- The next one is refused to its author, and asked for again on behalf of nobody. -/
  | twice {origins : List Origin} {trace : List Exchange} (origin : Origin)
      (refused repeated : Exchange) (refusal : Failure)
      (onBehalf : (migration.actorFor users origin).isSome = true)
      (asks : refused.request
        = migration.requestFor users project origin (migration.actorFor users origin))
      (refuses : refused.failure? = some refusal) (isRefusal : refusal.isRefusal = true)
      (again : repeated.request = migration.requestFor users project origin none)
      (rest : Attributed origins trace) :
      Attributed (origin :: origins) (refused :: repeated :: trace)

variable {migration users project}

namespace Attributed

variable {origin : Origin} {origins : List Origin} {trace : List Exchange}

/-- Where nothing is created, nothing is attributed to anybody. -/
theorem ofReading (h : ∀ exchange ∈ trace, exchange.isWrite = false) (origins : List Origin) :
    migration.Attributed users project origins trace := by
  induction trace with
  | nil => exact done origins
  | cons exchange trace ih =>
    rw [List.forall_mem_cons] at h
    exact other exchange h.1 (ih h.2)

/-- A proper posting is one attempt, or two. -/
theorem posting {post : Posting} (hw : post.write = migration.writeOf users origin)
    (proper : post.Proper) (rest : migration.Attributed users project origins trace) :
    migration.Attributed users project (origin :: origins) (post.attempts project ++ trace) := by
  unfold Posting.attempts
  split
  · refine once origin _ ?_ rest
    rw [hw, request_attempt_writeOf, actor_writeOf]
  · next refusal hr =>
    obtain ⟨onBehalf, isRefusal⟩ := proper.refused refusal hr
    rw [hw, actor_writeOf] at onBehalf
    refine twice origin _ _ refusal onBehalf ?_ (Write.failure?_attempt ..) isRefusal ?_ rest
    · rw [hw, request_attempt_writeOf, actor_writeOf]
    · rw [hw, request_attempt_writeOf]

/-- Without the token of an administrator, nothing is done on behalf of anybody. -/
theorem impersonal (h : migration.Attributed users project origins trace)
    (notAdmin : migration.forge.isAdmin = false) :
    ∀ exchange ∈ trace, exchange.request.actor? = none ∧ exchange.request.stamp? = none := by
  have nobody (origin : Origin) : migration.actorFor users origin = none := by
    rw [actorFor, Forge.actor, notAdmin]
    rfl
  have unstamped (origin : Origin) : migration.forge.stamp origin.time = none := by
    rw [Forge.stamp, notAdmin]
    rfl
  induction h with
  | done => simp
  | other exchange noWrite _ ih =>
    rw [List.forall_mem_cons]
    exact ⟨Exchange.impersonal_of_not_isWrite noWrite, ih⟩
  | once origin exchange asks _ ih =>
    rw [List.forall_mem_cons, asks, nobody, actor?_requestFor, stamp?_requestFor, unstamped]
    exact ⟨⟨rfl, rfl⟩, ih⟩
  | twice origin refused repeated refusal onBehalf _ _ _ _ _ _ =>
    rw [nobody] at onBehalf
    cases onBehalf

end Attributed

/-- **What a run posts is attributed to the origins in their order.** -/
theorem attributed_of_course {faults : Failure → Prop} {posts : List Posting}
    {trace : List Exchange} {ending : Option Failure} (h : Course project faults posts trace ending)
    {origins : List Origin}
    (front : posts.map (·.write) <+: origins.map (migration.writeOf users)) :
    migration.Attributed users project origins trace := by
  -- on the course: each posting takes the next origin, and all that is read in between takes none
  induction h generalizing origins with
  | done => exact .done origins
  | read exchange quiet _ ih => exact .other exchange quiet.1 (ih front)
  | unread exchange _ noWrite _ => exact .other exchange noWrite (.done origins)
  | fault => exact .done origins
  | post post proper _ _ ih =>
    cases origins with
    | nil => cases List.prefix_nil.1 front
    | cons origin origins =>
      obtain ⟨hw, front⟩ := List.cons_prefix_cons.1 front
      exact .posting hw proper (ih front)
  | unposted post _ proper _ =>
    cases origins with
    | nil => cases List.prefix_nil.1 front
    | cons origin origins =>
      have posted : migration.Attributed users project (origin :: origins)
          (post.attempts project ++ []) :=
        .posting (List.cons_prefix_cons.1 front).1 proper (.done origins)
      rwa [List.append_nil] at posted

/-! ### Single requests -/

/-- That a request, made with the token of an administrator behind earlier ones, is for what comes
from a ticket or a comment. -/
structure Accounted (migration : Migration σ) (users : Roster) (project : String) (origin : Origin)
    (earlier : List Exchange) (exchange : Exchange) : Prop where
  /-- It asks for what comes from there. -/
  asks : exchange.request
    = migration.requestFor users project origin exchange.request.actor?
  /-- If it is made on behalf of a user, that is the one that the author stands for. -/
  actor : ∀ id, exchange.request.actor? = some id → migration.idOf users origin.author = some id
  /-- If it is made on behalf of nobody, then the author stands for nobody, or the same has just
  been asked for on behalf of the author and was refused. -/
  nobody : exchange.request.actor? = none → migration.idOf users origin.author = none ∨
    ∃ id refused operation code message, migration.idOf users origin.author = some id ∧
      earlier.getLast? = some refused ∧
        refused.request = migration.requestFor users project origin (some id) ∧
          refused.failure? = some (.forge operation (some code) message) ∧
            (code = 401 ∨ code = 403 ∨ code = 404)
  /-- A time is told exactly if there is one. -/
  stamp : exchange.request.stamp?.isSome = origin.time.isSome

/-- What happened before does not matter, but for the last request. -/
theorem Accounted.cons {origin : Origin} {earlier : List Exchange} {exchange : Exchange}
    (h : migration.Accounted users project origin earlier exchange) (first : Exchange) :
    migration.Accounted users project origin (first :: earlier) exchange where
  asks := h.asks
  actor := h.actor
  nobody := by
    intro ha
    refine (h.nobody ha).imp id ?_
    rintro ⟨id, refused, operation, code, message, hid, hlast, rest⟩
    refine ⟨id, refused, operation, code, message, hid, ?_, rest⟩
    rw [List.getLast?_cons, hlast]
    rfl
  stamp := h.stamp

section

variable (admin : migration.forge.isAdmin = true)

include admin

theorem actorFor_of_admin (origin : Origin) :
    migration.actorFor users origin = migration.idOf users origin.author := by
  rw [actorFor, Forge.actor, if_pos admin]

theorem isSome_stamp_of_admin (time : Option Moment) :
    (migration.forge.stamp time).isSome = time.isSome := by
  rw [Forge.stamp, if_pos admin, Option.isSome_map]

/-- The first attempt is made on behalf of the author, if that is anybody. -/
theorem Accounted.first {origin : Origin} {exchange : Exchange}
    (asks : exchange.request
      = migration.requestFor users project origin (migration.actorFor users origin))
    (earlier : List Exchange) : migration.Accounted users project origin earlier exchange where
  asks := by rw [asks, actor?_requestFor]
  actor := by
    intro id ha
    rwa [asks, actor?_requestFor, actorFor_of_admin admin] at ha
  nobody := by
    intro ha
    rw [asks, actor?_requestFor, actorFor_of_admin admin] at ha
    exact .inl ha
  stamp := by rw [asks, stamp?_requestFor, isSome_stamp_of_admin admin]

/-- The second attempt is made on behalf of nobody, directly behind the first one. -/
theorem Accounted.second {origin : Origin} {refused repeated : Exchange} {refusal : Failure}
    (onBehalf : (migration.actorFor users origin).isSome = true)
    (asks : refused.request
      = migration.requestFor users project origin (migration.actorFor users origin))
    (refuses : refused.failure? = some refusal) (isRefusal : refusal.isRefusal = true)
    (again : repeated.request = migration.requestFor users project origin none) :
    migration.Accounted users project origin [refused] repeated where
  asks := by rw [again, actor?_requestFor]
  actor := by
    intro id ha
    rw [again, actor?_requestFor] at ha
    cases ha
  nobody := by
    intro _
    obtain ⟨id, hid⟩ := Option.isSome_iff_exists.1 onBehalf
    obtain ⟨operation, code, message, rfl, hcode⟩ := Failure.exists_code_of_isRefusal isRefusal
    refine .inr ⟨id, refused, operation, code, message, ?_, rfl, ?_, refuses, hcode⟩
    · rw [← actorFor_of_admin admin, hid]
    · rw [asks, hid]
  stamp := by rw [again, stamp?_requestFor, isSome_stamp_of_admin admin]

/-- **Every request that creates something is accounted for** by one of the origins. -/
theorem Attributed.accounted {origins : List Origin} {trace : List Exchange}
    (h : migration.Attributed users project origins trace) {earlier later : List Exchange}
    {exchange : Exchange} (split : trace = earlier ++ exchange :: later)
    (write : exchange.isWrite = true) :
    ∃ origin ∈ origins, migration.Accounted users project origin earlier exchange := by
  -- the request is one of the first ones, or one of the rest, with fewer requests before it
  induction h generalizing earlier with
  | done => cases (List.append_eq_nil_iff.1 split.symm).2
  | other first noWrite _ ih =>
    cases earlier with
    | nil =>
      obtain ⟨rfl, -⟩ := List.cons.inj split
      rw [noWrite] at write
      cases write
    | cons before earlier =>
      obtain ⟨origin, ho, accounted⟩ := ih (List.cons.inj split).2
      exact ⟨origin, ho, accounted.cons before⟩
  | once origin first asks _ ih =>
    cases earlier with
    | nil =>
      obtain ⟨rfl, -⟩ := List.cons.inj split
      exact ⟨origin, List.mem_cons_self, .first admin asks []⟩
    | cons before earlier =>
      obtain ⟨other, ho, accounted⟩ := ih (List.cons.inj split).2
      exact ⟨other, List.mem_cons_of_mem _ ho, accounted.cons before⟩
  | twice origin refused repeated refusal onBehalf asks refuses isRefusal again _ ih =>
    match earlier with
    | [] =>
      obtain ⟨rfl, -⟩ := List.cons.inj split
      exact ⟨origin, List.mem_cons_self, .first admin asks []⟩
    | [before] =>
      obtain ⟨hbefore, behind⟩ := List.cons.inj split
      obtain ⟨rfl, -⟩ := List.cons.inj behind
      rw [← hbefore]
      exact ⟨origin, List.mem_cons_self, .second admin onBehalf asks refuses isRefusal again⟩
    | before :: before' :: earlier =>
      obtain ⟨other, ho, accounted⟩ := ih (List.cons.inj (List.cons.inj split).2).2
      exact ⟨other, List.mem_cons_of_mem _ ho, (accounted.cons before').cons before⟩

end

/-! ### Batches -/

/-- A list of tickets that is to be migrated. -/
structure Batch where
  /-- The tickets. -/
  tickets : List Ticket
  /-- The project that they are migrated to. -/
  project : String
  /-- What the list is called in the log. -/
  label : String

/-- Migrates a list of tickets. -/
def migrateBatch (migration : Migration σ) (batch : Batch) : Run σ (List (Ident × Int)) :=
  migration.migrateAll batch.tickets batch.project batch.label

/-- That what was asked for in the migration of a batch was asked for on behalf of the right users,
where the issues of the visited tickets have these numbers. -/
structure ConfinedTo (migration : Migration σ) (users : Roster) (batch : Batch)
    (numbers : List Int) (trace : List Exchange) : Prop where
  /-- Each visited ticket has a number for its issue. -/
  numbered : numbers.length = (visitedFrom migration.options 1 batch.tickets).length
  /-- The tickets and the comments are gone through in order. -/
  attributed : migration.Attributed users batch.project
    (Origin.all ((visitedFrom migration.options 1 batch.tickets).zip numbers)) trace
  /-- Without the token of an administrator, no request is made on behalf of anybody, and none tells
  a time. -/
  impersonal : migration.forge.isAdmin = false →
    ∀ exchange ∈ trace, exchange.request.actor? = none ∧ exchange.request.stamp? = none
  /-- With one, every request that creates something is for what comes from a visited ticket or from
  a comment on one. -/
  accounted : migration.forge.isAdmin = true → ∀ earlier exchange later,
    trace = earlier ++ exchange :: later → exchange.isWrite = true →
      ∃ origin ∈ Origin.all ((visitedFrom migration.options 1 batch.tickets).zip numbers),
        migration.Accounted users batch.project origin earlier exchange
  /-- What creates nothing is asked for on behalf of nobody, and tells no time. -/
  others : ∀ exchange ∈ trace, exchange.isWrite = false →
    exchange.request.actor? = none ∧ exchange.request.stamp? = none

/-- What is attributed to the visited tickets is confined to them. -/
theorem ConfinedTo.ofAttributed {batch : Batch} {numbers : List Int} {trace : List Exchange}
    (numbered : numbers.length = (visitedFrom migration.options 1 batch.tickets).length)
    (h : migration.Attributed users batch.project
      (Origin.all ((visitedFrom migration.options 1 batch.tickets).zip numbers)) trace) :
    migration.ConfinedTo users batch numbers trace where
  numbered := numbered
  attributed := h
  impersonal := h.impersonal
  accounted admin _ _ _ split write := h.accounted admin split write
  others _ _ noWrite := Exchange.impersonal_of_not_isWrite noWrite

/-- What the migration of a batch does: its issues have numbers for which all that is asked for is
confined to the visited tickets, whoever the users are. -/
def Confined (migration : Migration σ) (batch : Batch) (_ : Session σ) (trace : List Exchange)
    (_ : Except Failure (List (Ident × Int))) (after : Session σ) : Prop :=
  ∃ numbers, ∀ users, after.Fits users → migration.ConfinedTo users batch numbers trace

variable {faults : Failure → Prop}

/-- **The migration of a batch is confined** to the users that the authors stand for. -/
theorem does_migrateBatch (plain : migration.resolver.directory.Plain migration.servers faults)
    (batch : Batch) :
    Run.Does migration.servers (migration.migrateBatch batch) (migration.Confined batch) := by
  cases hdry : migration.options.dryRun with
  | true =>
    refine (does_migrateAll_spared plain hdry batch.tickets batch.project batch.label).mono ?_
    intro before trace result after spared
    -- no issue is created, so any numbers will do
    refine ⟨List.replicate _ 0, fun users _ => .ofAttributed (List.length_replicate ..) ?_⟩
    refine .ofReading (fun exchange he => ?_) _
    exact Exchange.not_isWrite_of_not_concernsProject (spared.1 exchange he)
  | false =>
    refine (does_migrateAll_visitedFrom plain.reads hdry batch.tickets batch.project
      batch.label).mono ?_
    rintro before trace result after ⟨numbers, numbered, -, ⟨posts, course, planned⟩, -⟩
    refine ⟨numbers, fun users fits => .ofAttributed numbered ?_⟩
    have front := (planned users fits).1
    rw [writes_eq_map_writeOf] at front
    exact attributed_of_course course front

/-- **Every migration in a history is confined to the users that the authors stand for.**

However many batches are migrated, whatever the servers answer and wherever a migration fails:
without the token of an administrator, no request is made on behalf of anybody and none tells a
time.  With one, the requests go through the visited tickets, each followed by its comments.  Each
request is made on behalf of the very author of this ticket or comment; only if the author stands
for nobody, or if the server has refused the same request to the author directly before, with one
of the codes 401, 403 and 404, it is made on behalf of nobody.  It tells a time exactly if the
ticket or the comment has one. -/
theorem confined_of_mem_episodes
    (plain : migration.resolver.directory.Plain migration.servers faults)
    (session : Session σ) (turns : List (Turn σ Batch)) :
    ∀ episode ∈ episodes migration.migrateBatch session turns,
      episode.Was migration.servers (migration.Confined episode.step) :=
  fun _ he => Episode.does_of_mem (does_migrateBatch plain) he

/-- A note is refused to its author and created on behalf of nobody.  When the same ticket is
migrated once more, nothing is refused. -/
theorem confined_of_mem_episodes_refused_note :
    let ticket : Ticket :=
      { id := .number 7, summary := some "t", reporter := some "ann"
        comments := [{ author := some "ann", text := "x" }] }
    let batch : Batch := ⟨[ticket], "p", "q"⟩
    let history := episodes toScripted.migrateBatch { world := [] }
      [⟨[none, some (.forge .create (some 403) "no")], batch⟩, ⟨[], batch⟩]
    toScripted.resolver.directory.Plain toScripted.servers (fun _ => False) ∧
      (history.map fun episode =>
          (episode.trace toScripted.servers).map fun exchange => exchange.request.actor?)
        = [[none, none, some 5, none, some 5, none], [some 5, none, some 5]] ∧
      ∀ episode ∈ history, episode.Was toScripted.servers (toScripted.Confined episode.step) := by
  intro ticket batch history
  have plain := Directory.plain_fetchUsers scripted 100 50
  exact ⟨plain, by decide +kernel, confined_of_mem_episodes plain _ _⟩

end Migration

end TicketMigration
