import TicketMigration.Proofs.LeftAlone
import TicketMigration.Proofs.LookupFrame
import TicketMigration.Proofs.WriteOrder

/-!
# How far a run comes

If the issue server answers without error, a run stops at nothing but a name that cannot be looked
up, since it is mapped to something that can be no name, such as a list.  So the names decide how far
a run comes: it tells of a ticket, or creates its issue, if the owner and the reporter can be looked
up, and it goes on behind the ticket if all its names can be.

## Main definitions

* `Unhindered` — nothing fails that is asked for.
* `Reaches` — what an unhindered computation adds to a view of the session, and whether it ends well.
* `Migration.lookups` — the names that are looked up for a ticket.
* `Migration.canBegin`, `Migration.canFinish` — those of its owner and its reporter, and all of them,
  can be looked up.
* `Migration.begun` — the tickets that a run comes to.
* `Migration.previews` — what a dry run says of the tickets.
* `issueTitles` — the titles of the issues that were to be created.

## Main statements

* `Migration.begun_eq_self_iff` — when a run comes to all tickets.
* `Migration.does_migrateAll_previews` — **a dry run tells of the tickets that it comes to**, and
  `Migration.does_migrateAll_issues` — any other run creates issues for them.
* `Migration.failure?_of_unhindered` — **a run ends well exactly if all its names can be looked
  up.**
-/

namespace TicketMigration

open Markup

variable {σ α β τ : Type}

/-! ### Without errors -/

/-- That the issue server answers without error: no request fails, and neither does fetching the
users without one. -/
structure Unhindered (faults : Failure → Prop) (trace : List Exchange)
    (result : Except Failure α) : Prop where
  /-- No request fails. -/
  granted : ∀ exchange ∈ trace, exchange.failure? = none
  /-- The users can be fetched. -/
  fetched : ∀ failure, failure? result = some failure → ¬faults failure

/-- If it is unhindered, a computation adds something to a view of the session.  It ends well if
`whole` is true, and otherwise with a name that cannot be looked up. -/
def Reaches (faults : Failure → Prop) (view : Session σ → List τ) (added : List τ) (whole : Bool)
    (before : Session σ) (trace : List Exchange) (result : Except Failure α) (after : Session σ) :
    Prop :=
  Unhindered faults trace result → view after = view before ++ added ∧
    failure? result = if whole then none else some .unhashable

namespace Reaches

variable {faults : Failure → Prop} {view : Session σ → List τ} {added more : List τ}
  {whole rest : Bool} {servers : Servers σ}

/-- **One part is followed by the rest**, if it ends well. -/
theorem bind {x : Run σ α} {f : α → Run σ β}
    (hx : Run.Does servers x (Reaches faults view added whole))
    (hf : ∀ a, Run.Does servers (f a) (Reaches faults view more rest)) :
    Run.Does servers (x >>= f)
      (Reaches faults view (if whole then added ++ more else added) (whole && rest)) := by
  refine Run.Does.bind hx _ hf ?_ ?_
  · intro before trace failure after h unhindered
    obtain ⟨shown, ends⟩ := h ⟨unhindered.granted, unhindered.fetched⟩
    cases whole
    · exact ⟨shown, ends⟩
    · cases ends
  · intro before earlier a between later result after h₁ h₂ unhindered
    obtain ⟨granted, granted'⟩ := List.forall_mem_append.1 unhindered.granted
    obtain ⟨shown, ends⟩ := h₁ ⟨granted, by simp⟩
    obtain ⟨shown', ends'⟩ := h₂ ⟨granted', unhindered.fetched⟩
    cases whole
    · cases ends
    · exact ⟨by rw [shown', shown, List.append_assoc]; rfl, ends'⟩

/-- What adds nothing and ends well may follow. -/
theorem followed {x : Run σ α} {f : α → Run σ β}
    (hx : Run.Does servers x (Reaches faults view added whole))
    (hf : ∀ a, Run.Does servers (f a) (Reaches faults view [] true)) :
    Run.Does servers (x >>= f) (Reaches faults view added whole) := by
  have both := bind hx hf
  rw [List.append_nil, ite_self, Bool.and_true] at both
  exact both

/-- Where both parts add nothing, the whole ends well exactly if both of them do. -/
theorem bind_nil {x : Run σ α} {f : α → Run σ β}
    (hx : Run.Does servers x (Reaches faults view [] whole))
    (hf : ∀ a, Run.Does servers (f a) (Reaches faults view [] rest)) :
    Run.Does servers (x >>= f) (Reaches faults view [] (whole && rest)) := by
  have both := bind hx hf
  rw [List.append_nil, ite_self] at both
  exact both

theorem does_pure (a : α) :
    Run.Does servers (pure a : Run σ α) (Reaches faults view [] true) :=
  .of_pure fun _ _ => ⟨(List.append_nil _).symm, rfl⟩

/-- A line of the log adds what can be seen of it. -/
theorem does_log {level : Level} {text : String}
    (shows : ∀ session : Session σ,
      view { session with log := session.log ++ [⟨level, text⟩] } = view session ++ added) :
    Run.Does servers (Run.log level text) (Reaches faults view added true) := by
  refine (Run.does_log servers level text).mono ?_
  rintro before _ _ _ ⟨-, rfl, rfl⟩ -
  exact ⟨shows before, rfl⟩

/-- A look-up adds nothing, and ends well exactly if the name can be looked up. -/
theorem does_find {resolver : Resolver σ} (plain : resolver.directory.Plain servers faults)
    {name : Option String} (leaves : Run.Leaves view (resolver.find name)) :
    Run.Does servers (resolver.find name)
      (Reaches faults view [] (resolver.canFind name)) := by
  refine ((Resolver.does_find_sought plain name).leaving leaves).mono ?_
  rintro before trace (failure | user) after ⟨sought, same⟩ unhindered
  · refine ⟨by rw [same, List.append_nil], ?_⟩
    rcases sought.fails failure rfl with ⟨exchange, he, hf⟩ | ⟨rfl, missing⟩ | fault
    · rw [unhindered.granted exchange he] at hf
      cases hf
    · rw [missing]
      rfl
    · exact absurd fault (unhindered.fetched failure rfl)
  · refine ⟨by rw [same, List.append_nil], ?_⟩
    rw [sought.found user rfl]
    rfl

end Reaches

/-! ### Tickets that a run comes to -/

namespace Migration

/-- The names that are looked up for a ticket: those of its owner and of its reporter and, unless
nothing is created, those of the authors of its comments. -/
def lookups (options : MigrationOptions) (ticket : Ticket) : List (Option String) :=
  ticket.owner :: ticket.reporter
    :: if options.dryRun then [] else ticket.comments.map (·.author)

variable (migration : Migration σ)

/-- Whether the owner and the reporter of a ticket can be looked up. -/
def canBegin (ticket : Ticket) : Bool :=
  migration.resolver.canFind ticket.owner && migration.resolver.canFind ticket.reporter

/-- Whether all names that are looked up for a ticket can be. -/
def canFinish (ticket : Ticket) : Bool :=
  (lookups migration.options ticket).all migration.resolver.canFind

/-- The tickets that a run comes to, of those that it would visit. -/
def begun : List Ticket → List Ticket
  | [] => []
  | ticket :: rest =>
    if migration.canBegin ticket then
      ticket :: if migration.canFinish ticket then begun rest else []
    else []

variable {migration}

theorem canFinish_of_dryRun (hdry : migration.options.dryRun = true) (ticket : Ticket) :
    migration.canFinish ticket = migration.canBegin ticket := by
  simp [canFinish, canBegin, lookups, hdry]

theorem canFinish_of_not_dryRun (hdry : migration.options.dryRun = false) (ticket : Ticket) :
    migration.canFinish ticket = (migration.canBegin ticket &&
      ticket.comments.all fun comment => migration.resolver.canFind comment.author) := by
  simp [canFinish, canBegin, lookups, hdry, Bool.and_assoc, List.all_map, Function.comp_def]

/-- What can be finished can be begun. -/
theorem canBegin_of_canFinish {ticket : Ticket} (h : migration.canFinish ticket = true) :
    migration.canBegin ticket = true := by
  rw [canFinish, lookups, List.all_cons, List.all_cons, ← Bool.and_assoc, Bool.and_eq_true] at h
  exact h.1

/-- Where names are mapped to what can be a name, every ticket can be finished. -/
theorem canFinish_of_keys (keys : ∀ entry ∈ migration.resolver.mapping, entry.2.isKey = true)
    (ticket : Ticket) : migration.canFinish ticket = true :=
  List.all_eq_true.2 fun name _ => migration.resolver.canFind_of_keys keys name

theorem begun_isPrefix (tickets : List Ticket) : migration.begun tickets <+: tickets := by
  induction tickets with
  | nil => exact List.prefix_rfl
  | cons ticket rest ih =>
    rw [begun]
    split
    · refine List.cons_prefix_cons.2 ⟨rfl, ?_⟩
      split
      · exact ih
      · exact List.nil_prefix
    · exact List.nil_prefix

/-- **A run comes to all tickets** exactly if the owner and the reporter of each can be looked up
and, on all tickets but the last one, all other names as well. -/
theorem begun_eq_self_iff (tickets : List Ticket) :
    migration.begun tickets = tickets ↔
      (∀ ticket ∈ tickets, migration.canBegin ticket = true) ∧
        ∀ ticket ∈ tickets.dropLast, migration.canFinish ticket = true := by
  induction tickets with
  | nil => simp [begun]
  | cons ticket rest ih =>
    rw [begun]
    cases begins : migration.canBegin ticket with
    | false => simp [begins]
    | true =>
      cases rest with
      | nil => simp [begun, begins]
      | cons next rest =>
        cases finishes : migration.canFinish ticket <;>
          simp [List.dropLast_cons_of_ne_nil, begins, finishes, ih]

end Migration

/-! ### Issues that are to be created -/

/-- The title of the issue that is to be created. -/
def Request.issueTitle? : Request → Option (Option String)
  | .createIssue _ draft _ => some draft.title
  | _ => none

/-- The titles of the issues that were to be created, in order. -/
def issueTitles (session : Session σ) : List (Option String) :=
  session.requests.filterMap Request.issueTitle?

/-- The title of the issue that is created. -/
def Write.title? : Write → Option (Option String)
  | issue draft _ _ => some draft.title
  | note _ _ _ => none

theorem Write.issueTitle?_attempt (project : String) (actor : Option Int)
    (failure : Option Failure) (write : Write) :
    (write.attempt project actor failure).request.issueTitle? = write.title? := by
  cases write <;> rfl

theorem Exchange.Quiet.issueTitle? {exchange : Exchange} (h : exchange.Quiet) :
    exchange.request.issueTitle? = none := by
  obtain ⟨request, answer⟩ := exchange
  cases request with
  | createIssue => cases h.1
  | _ => rfl

namespace Reaches

variable {servers : Servers σ} {faults : Failure → Prop}

/-- A posting asks for its issue, if it is one, and ends well. -/
theorem does_posting (project : String) {x : Run σ α} {titles : List (Option String)}
    (posts : Run.Does servers x fun before trace result after => ∃ post : Posting,
      post.write.title?.toList = titles ∧ Posted project post before trace result after) :
    Run.Does servers x (Reaches faults issueTitles titles true) := by
  intro before
  obtain ⟨trace, passed, post, rfl, ⟨lead, quiet, rfl⟩, -, fails, -⟩ := posts before
  refine ⟨_, passed, fun unhindered => ?_⟩
  obtain ⟨succeeds, once⟩ := Posting.attempts_of_granted fun exchange he =>
    unhindered.granted exchange (List.mem_append_right lead he)
  refine ⟨?_, by rw [← fails, succeeds]; rfl⟩
  have silent : (lead.map (·.request)).filterMap Request.issueTitle? = [] := by
    rw [List.filterMap_map, List.filterMap_eq_nil_iff]
    exact fun exchange he => (quiet exchange he).issueTitle?
  have asked : [(post.write.attempt project post.write.actor none).request].filterMap
      Request.issueTitle? = post.write.title?.toList := by
    rw [← Write.issueTitle?_attempt project post.write.actor none]
    cases h : (post.write.attempt project post.write.actor none).request.issueTitle? <;> simp [h]
  rw [issueTitles, passed.requests, List.filterMap_append, List.map_append,
    List.filterMap_append, silent, once, List.nil_append, List.map_singleton, asked]
  rfl

theorem does_info_issueTitles (text : String) :
    Run.Does servers (Run.log .info text) (Reaches faults issueTitles [] true) :=
  does_log fun _ => (List.append_nil _).symm

theorem does_info_infos (text : String) :
    Run.Does servers (Run.log .info text)
      (Reaches faults (fun session => infos session.log) [text] true) :=
  does_log fun _ => infos_append _ _

/-- A look-up asks for no issue. -/
theorem leaves_find_issueTitles {resolver : Resolver σ}
    (plain : resolver.directory.Plain servers faults) (name : Option String) :
    Run.Leaves issueTitles (resolver.find name) := by
  intro before
  obtain ⟨trace, passed, sought⟩ := Resolver.does_find_sought plain name before
  have silent : (trace.map (·.request)).filterMap Request.issueTitle? = [] := by
    rw [List.filterMap_map, List.filterMap_eq_nil_iff]
    intro exchange he
    have apart := sought.asks exchange he
    obtain ⟨request, answer⟩ := exchange
    cases request with
    | createIssue => cases apart
    | _ => rfl
  rw [issueTitles, passed.requests, List.filterMap_append, silent, List.append_nil]
  rfl

/-- A look-up tells nothing. -/
theorem leaves_find_infos {resolver : Resolver σ}
    (plain : resolver.directory.Plain servers faults) (name : Option String) :
    Run.Leaves (fun session => infos session.log) (resolver.find name) := by
  intro before
  obtain ⟨trace, passed, sought⟩ := Resolver.does_find_sought plain name before
  obtain ⟨lines, hlog, silent⟩ := sought.logged
  dsimp only
  rw [hlog, infos_append, silent, List.append_nil]

end Reaches

/-! ### Programs -/

namespace Migration

variable {migration : Migration σ} {faults : Failure → Prop} {view : Session σ → List τ}

theorem does_userId_reaches (plain : migration.resolver.directory.Plain migration.servers faults)
    (leaves : ∀ name, Run.Leaves view (migration.resolver.find name)) (name : Option String) :
    Run.Does migration.servers (migration.userId name)
      (Reaches faults view [] (migration.resolver.canFind name)) :=
  Reaches.followed (Reaches.does_find plain (leaves name)) fun _ => Reaches.does_pure _

/-- The owner and the reporter of a ticket are looked up, and then the rest is done. -/
theorem does_lookups_reaches (plain : migration.resolver.directory.Plain migration.servers faults)
    (leaves : ∀ name, Run.Leaves view (migration.resolver.find name)) (ticket : Ticket)
    {rest : Option Int → Option Int → Run σ α} {added : List τ} {whole : Bool}
    (does : ∀ assignee author,
      Run.Does migration.servers (rest assignee author) (Reaches faults view added whole)) :
    Run.Does migration.servers
      (do
        let assignee ← migration.userId ticket.owner
        let author ← migration.userId ticket.reporter
        rest assignee author)
      (Reaches faults view (if migration.canBegin ticket then added else [])
        (migration.canBegin ticket && whole)) := by
  have both := Reaches.bind (does_userId_reaches plain leaves ticket.owner) fun assignee =>
    Reaches.bind (does_userId_reaches plain leaves ticket.reporter) fun author =>
      does assignee author
  rw [canBegin]
  cases hm : migration.resolver.canFind ticket.owner <;>
    cases hr : migration.resolver.canFind ticket.reporter <;> simpa [hm, hr] using both

theorem does_postIssue_reaches (project : String) (title : Option String)
    (description labels : String) (assignee author : Option Int) (createdAt : Option Moment) :
    Run.Does migration.servers (migration.forge.postIssue migration.servers project title
      description labels assignee author createdAt) (Reaches faults issueTitles [title] true) := by
  refine Reaches.does_posting project ((Forge.does_postIssue migration.forge project title description
    labels assignee author createdAt).mono ?_)
  rintro before trace result after ⟨post, number, hw, -, posted⟩
  exact ⟨post, by rw [hw]; rfl, posted⟩

theorem does_postNote_reaches (project : String) (issue : Int) (body : String)
    (author : Option Int) (createdAt : Option Moment) :
    Run.Does migration.servers
      (migration.forge.postNote migration.servers project issue body author createdAt)
      (Reaches faults issueTitles [] true) := by
  refine Reaches.does_posting project ((Forge.does_postNote migration.forge project issue body author
    createdAt).mono ?_)
  rintro before trace result after ⟨post, hw, posted⟩
  exact ⟨post, by rw [hw]; rfl, posted⟩

/-- The notes of a ticket are created up to the first author who cannot be looked up. -/
theorem does_postNotes_reaches
    (plain : migration.resolver.directory.Plain migration.servers faults)
    (project : String) (issue : Int) (comments : List Comment) :
    Run.Does migration.servers (migration.postNotes project issue comments)
      (Reaches faults issueTitles []
        (comments.all fun comment => migration.resolver.canFind comment.author)) := by
  have notes : Run.Does migration.servers (migration.postNotesFrom project issue comments)
      (Reaches faults issueTitles []
        (comments.all fun comment => migration.resolver.canFind comment.author)) := by
    induction comments with
    | nil => exact Reaches.does_pure _
    | cons comment rest ih =>
      refine Reaches.bind_nil
        (does_userId_reaches plain (Reaches.leaves_find_issueTitles plain) comment.author)
        fun author => ?_
      exact Reaches.bind_nil (does_postNote_reaches project issue _ author _) fun _ => ih
  unfold postNotes
  split
  · next empty =>
    rw [show comments = [] by simpa using empty]
    exact Reaches.does_pure _
  · exact Reaches.followed notes fun _ => Reaches.does_info_issueTitles _

/-- The issue of a ticket is created if its owner and its reporter can be looked up. -/
theorem does_migrateTicket_issues
    (plain : migration.resolver.directory.Plain migration.servers faults)
    (hdry : migration.options.dryRun = false) (project : String) (count : Nat) (ticket : Ticket) :
    Run.Does migration.servers (migration.migrateTicket project count ticket)
      (Reaches faults issueTitles (if migration.canBegin ticket then [ticket.summary] else [])
        (migration.canFinish ticket)) := by
  rw [canFinish_of_not_dryRun hdry]
  refine does_lookups_reaches plain (Reaches.leaves_find_issueTitles plain) ticket
    fun assignee author => ?_
  rw [hdry]
  refine Reaches.bind (does_postIssue_reaches project ticket.summary _ _ assignee author _)
    fun issue => ?_
  refine Reaches.bind_nil (Reaches.does_info_issueTitles _) fun _ => ?_
  exact Reaches.followed (does_postNotes_reaches plain project issue ticket.comments)
    fun _ => Reaches.does_pure _

/-- What a dry run says of a ticket, it says if owner and reporter can be looked up. -/
theorem does_migrateTicket_previews
    (plain : migration.resolver.directory.Plain migration.servers faults)
    (hdry : migration.options.dryRun = true) (project : String) (count : Nat) (ticket : Ticket) :
    Run.Does migration.servers (migration.migrateTicket project count ticket)
      (Reaches faults (fun session => infos session.log)
        (if migration.canBegin ticket then [preview count ticket] else [])
        (migration.canFinish ticket)) := by
  have told : Run.Does migration.servers
      (do
        Run.log .info (preview count ticket)
        return (none : Option Int))
      (Reaches faults (fun session => infos session.log) [preview count ticket] true) :=
    Reaches.followed (Reaches.does_info_infos _) fun _ => Reaches.does_pure none
  have all := does_lookups_reaches plain (Reaches.leaves_find_infos plain) ticket fun _ _ => told
  rw [Bool.and_true] at all
  rw [canFinish_of_dryRun hdry, migrateTicket, hdry]
  exact all

/-- **A run comes to one ticket after the other**, and ends with the first name that cannot be looked
up.  Each ticket that it comes to adds an item to the view. -/
theorem does_migrateFrom_reaches {project : String} {item : Nat → Ticket → τ}
    (here : ∀ count ticket, Run.Does migration.servers
      (migration.migrateTicket project count ticket)
      (Reaches faults view (if migration.canBegin ticket then [item count ticket] else [])
        (migration.canFinish ticket))) (count : Nat) (tickets : List Ticket) :
    Run.Does migration.servers (migration.migrateFrom project count tickets)
      (Reaches faults view
        (((migration.begun (visitedFrom migration.options count tickets)).zipIdx count).map
          fun entry => item entry.2 entry.1)
        ((visitedFrom migration.options count tickets).all migration.canFinish)) := by
  -- on the tickets, with any count: the numbers of the rest go on from it
  induction tickets generalizing count with
  | nil => exact Reaches.does_pure _
  | cons ticket rest ih =>
    rw [visitedFrom, migrateFrom]
    by_cases last : isLast migration.options count = true
    · -- the last ticket that is visited
      simp only [last, if_true]
      have all := Reaches.followed (here count ticket) fun issue =>
        Reaches.does_pure (issue.map (ticket.id, ·)).toList
      rw [List.all_cons, List.all_nil, Bool.and_true, begun, begun, ite_self]
      cases begins : migration.canBegin ticket <;> simpa [begins] using all
    · simp only [last, Bool.false_eq_true, if_false]
      have all := Reaches.bind (here count ticket) fun issue =>
        Reaches.followed (ih (count + 1)) fun more =>
          Reaches.does_pure ((issue.map (ticket.id, ·)).toList ++ more)
      rw [List.all_cons, begun]
      cases finishes : migration.canFinish ticket with
      | false =>
        cases begins : migration.canBegin ticket <;> simpa [begins, finishes] using all
      | true =>
        have begins := canBegin_of_canFinish finishes
        simpa [begins, finishes] using all

/-- What a dry run says of tickets, of which the first has this count. -/
def previews (count : Nat) (tickets : List Ticket) : List String :=
  (tickets.zipIdx count).map fun entry => preview entry.2 entry.1

/-- What is said of the tickets before the first of them is visited. -/
def found (tickets : List Ticket) (label : String) : String :=
  "Found " ++ toString tickets.length ++ " tickets (" ++ label ++ ")"

/-- **A dry run tells of the tickets that it comes to.** -/
theorem does_migrateAll_previews
    (plain : migration.resolver.directory.Plain migration.servers faults)
    (hdry : migration.options.dryRun = true) (tickets : List Ticket) (project label : String) :
    Run.Does migration.servers (migration.migrateAll tickets project label)
      (Reaches faults (fun session => infos session.log)
        (found tickets label
          :: previews 1 (migration.begun (visitedFrom migration.options 1 tickets)))
        ((visitedFrom migration.options 1 tickets).all migration.canFinish)) :=
  Reaches.bind (Reaches.does_info_infos _) fun _ =>
    does_migrateFrom_reaches (does_migrateTicket_previews plain hdry project) 1 tickets

/-- **A run that is none creates issues for the tickets that it comes to.** -/
theorem does_migrateAll_issues
    (plain : migration.resolver.directory.Plain migration.servers faults)
    (hdry : migration.options.dryRun = false) (tickets : List Ticket) (project label : String) :
    Run.Does migration.servers (migration.migrateAll tickets project label)
      (Reaches faults issueTitles
        ((migration.begun (visitedFrom migration.options 1 tickets)).map (·.summary))
        ((visitedFrom migration.options 1 tickets).all migration.canFinish)) := by
  have counted (tickets : List Ticket) :
      (tickets.zipIdx 1).map (fun entry => entry.1.summary) = tickets.map (·.summary) := by
    rw [show (fun entry : Ticket × Nat => entry.1.summary) = (·.summary) ∘ Prod.fst from rfl,
      ← List.map_map, List.zipIdx_map_fst]
  rw [← counted]
  exact Reaches.bind (Reaches.does_info_issueTitles _) fun _ =>
    does_migrateFrom_reaches (does_migrateTicket_issues plain hdry project) 1 tickets

/-- **A run ends well exactly if all its names can be looked up**, be it a dry run or none. -/
theorem failure?_of_unhindered (migration : Migration σ)
    (plain : migration.resolver.directory.Plain migration.servers faults) (tickets : List Ticket)
    (project label : String) {session : Session σ}
    {run : Except Failure (List (Ident × Int)) × Session σ}
    (hrun : run = (migration.migrateAll tickets project label).start session)
    (unhindered : Unhindered faults (migration.servers.exchanges session run.2) run.1) :
    failure? run.1 = if (visitedFrom migration.options 1 tickets).all migration.canFinish then none
      else some .unhashable := by
  subst hrun
  cases hdry : migration.options.dryRun with
  | true =>
    obtain ⟨trace, passed, reaches⟩ :=
      does_migrateAll_previews plain hdry tickets project label session
    rw [passed.exchanges_eq] at unhindered
    exact (reaches unhindered).2
  | false =>
    obtain ⟨trace, passed, reaches⟩ :=
      does_migrateAll_issues plain hdry tickets project label session
    rw [passed.exchanges_eq] at unhindered
    exact (reaches unhindered).2

end Migration

end TicketMigration
