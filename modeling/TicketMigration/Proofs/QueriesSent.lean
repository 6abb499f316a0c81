import TicketMigration.Proofs.QueryTerms
import TicketMigration.Migration
import TicketMigration.Proofs.ReadThrough
import TicketMigration.Proofs.WrittenNumber

/-!
# The query that is sent

To read the tickets that match a query, the tracker is asked this query and no other one, unless its
answer is kept.  The query for the open tickets of a component has three terms, whatever the
component is called: its name is one value, and what stands in it cannot be taken for a separator.

## Main definitions

* `queriesIn` — the queries among exchanges.
* `Run.Queries` — a computation asks the tracker some queries, depending on the session;
  `Run.Queryless` if there are none.
* `Tracker.keeps` — the answer to a request is kept.
* `Tracker.queriesFor` — a query, unless its answer is kept.
* `SelectsComponent` — a query asks for the open tickets of a component.

## Main statements

* `Tracker.queries_ticketsMatching`, `Migration.queries_migrateMatching` — **reading tickets sends
  one query, and migrating them sends no other.**
* `selectsComponent_openTicketsOf` — **the name of a component cannot change what is selected.**
-/

namespace TicketMigration

variable {σ α β : Type} {servers : Servers σ}

/-! ### Queries among requests -/

/-- The query that the tracker is asked. -/
def Request.query? : Request → Option String
  | query text => some text
  | _ => none

/-- The queries that the tracker is asked in some exchanges. -/
def queriesIn (trace : List Exchange) : List String :=
  trace.filterMap (·.request.query?)

namespace Run

/-- Whatever session it starts in, the computation asks the tracker these queries. -/
def Queries (servers : Servers σ) (x : Run σ α) (asked : Session σ → List String) : Prop :=
  Does servers x fun before trace _ _ => queriesIn trace = asked before

/-- The computation asks the tracker no query. -/
abbrev Queryless (servers : Servers σ) (x : Run σ α) : Prop :=
  Queries servers x fun _ => []

/-- What follows asks no query. -/
theorem Queries.bind {asked : Session σ → List String} {x : Run σ α} {f : α → Run σ β}
    (hx : Queries servers x asked) (hf : ∀ a, Queryless servers (f a)) :
    Queries servers (x >>= f) asked := by
  refine Does.bind hx _ hf (fun _ _ _ _ h => h) ?_
  intro before earlier a between later result after h₁ h₂
  rw [queriesIn, List.filterMap_append]
  exact (congrArg₂ (· ++ ·) h₁ h₂).trans (List.append_nil _)

/-- Sending a request asks the query that the request is, if it is one. -/
theorem queries_send {request : Request}
    (h : ∀ world, servers.settle request world = servers.answer request world) :
    Queries servers (Run.send servers request) fun _ => request.query?.toList := by
  refine (does_send servers request h).mono ?_
  rintro before _ result after ⟨rfl, -⟩
  rw [queriesIn, List.filterMap_cons]
  cases request.query? <;> rfl

namespace Queries

theorem of_pure (a : α) : Queryless servers (pure a) :=
  Does.of_pure fun _ => rfl

theorem of_throw (failure : Failure) : Queryless servers (throw failure : Run σ α) :=
  Does.of_throw fun _ => rfl

theorem of_ofExcept (result : Except Failure α) : Queryless servers (ofExcept result) := by
  cases result with
  | ok a => exact of_pure a
  | error failure => exact of_throw failure

theorem of_modify (change : Session σ → Session σ)
    (requests : ∀ session, (change session).requests = session.requests)
    (world : ∀ session, (change session).world = session.world) :
    Queryless servers (modify change) := by
  refine (does_modify servers change requests world).mono ?_
  rintro before _ _ _ ⟨rfl, -⟩
  rfl

theorem of_log (level : Level) (text : String) : Queryless servers (Run.log level text) :=
  of_modify _ (fun _ => rfl) fun _ => rfl

theorem of_record {request : Request} {answer : request.Answer} (other : request.query? = none)
    (h : ∀ world, servers.settle request world = (.ok answer, world)) :
    Queryless servers (Run.record request) := by
  refine (does_record servers request h).mono ?_
  rintro before _ _ _ ⟨rfl, -⟩
  rw [queriesIn, List.filterMap_cons, other]
  rfl

theorem get_bind {f : Session σ → Run σ β} (hf : ∀ session, Queryless servers (f session)) :
    Queryless servers (get >>= f) :=
  Does.get_bind fun session => (hf session).mono fun _ _ _ _ h _ => h

theorem tryCatch {x : Run σ α} {handle : Failure → Run σ α} (hx : Queryless servers x)
    (hf : ∀ failure, Queryless servers (handle failure)) :
    Queryless servers (MonadExcept.tryCatch x handle) := by
  refine Does.tryCatch hx _ hf (fun _ _ _ _ h => h) ?_
  intro before earlier failure between later result after h₁ h₂
  rw [queriesIn, List.filterMap_append]
  exact congrArg₂ (· ++ ·) h₁ h₂

end Queries

end Run

/-! ### Reading tickets -/

namespace Tracker

variable (tracker : Tracker)

/-- Whether the answer to a request is kept. -/
def keeps (request : Request) (session : Session σ) : Bool :=
  tracker.directory.any fun directory =>
    (kept? directory tracker.url request session.cache).isSome

/-- A query, unless its answer is kept. -/
def queriesFor (query : String) (session : Session σ) : List String :=
  if tracker.keeps (.query query) session then [] else [query]

/-- A request whose answer is not kept is sent. -/
theorem queries_ask {request : Request} (operation : request.operation?.isSome = true) :
    Run.Queries servers (tracker.ask servers request) fun before =>
      if tracker.keeps request before then [] else request.query?.toList := by
  have send := Run.queries_send (servers.settle_of_operation? operation)
  unfold ask
  split
  · next absent =>
    refine send.mono fun before trace _ _ sent => Eq.trans sent (if_neg ?_).symm
    simp [keeps, absent]
  · next directory given =>
    refine Run.Does.get_bind fun session => ?_
    split
    · next answer found =>
      refine Run.Does.of_pure fun before same => (if_pos ?_).symm
      simp [keeps, given, ← same, found]
    · next unknown =>
      have stored : Run.Queries servers
          (do
            let answer ← Run.send servers request
            modify fun session => { session with
              cache := session.cache ++ [⟨directory, tracker.url, request, answer⟩] }
            return answer) fun _ => request.query?.toList :=
        send.bind fun answer =>
          .bind (.of_modify _ (fun _ => rfl) fun _ => rfl) fun _ => .of_pure answer
      refine stored.mono fun before trace _ _ sent same => Eq.trans sent (if_neg ?_).symm
      simp [keeps, given, ← same, unknown]

/-- Asking for the tickets or for a change log asks no query. -/
theorem queries_ask_other {request : Request} (operation : request.operation?.isSome = true)
    (other : request.query? = none) : Run.Queryless servers (tracker.ask servers request) := by
  refine (tracker.queries_ask operation).mono fun before trace _ _ sent => sent.trans ?_
  rw [other]
  exact ite_self []

/-- Reading what belongs to the tickets asks no query. -/
theorem queries_readTickets (answers : List (List WireValue)) :
    Run.Queryless servers (tracker.readTickets servers answers) := by
  induction answers with
  | nil => exact .of_pure _
  | cons answer rest ih =>
    exact .bind (.of_ofExcept _) fun id => .bind (tracker.queries_ask_other rfl rfl) fun changes =>
      .bind (.of_ofExcept _) fun ticket => .bind ih fun tickets => .of_pure _

/-- **Reading tickets sends one query.** -/
theorem queries_ticketsMatching (query : String) :
    Run.Queries servers (tracker.ticketsMatching servers query) (tracker.queriesFor query) := by
  have read : Run.Queries servers
      (do
        let ids ← tracker.ask servers (.query query)
        let answers ← tracker.ask servers (.tickets ids)
        tracker.readTickets servers answers) (tracker.queriesFor query) :=
    .bind (tracker.queries_ask rfl) fun ids => .bind (tracker.queries_ask_other rfl rfl)
      fun answers => tracker.queries_readTickets answers
  -- the line of the log in front changes nothing that is kept
  refine Run.Does.log_bind _ _ (read.mono ?_)
  rintro between trace _ _ sent before rfl
  exact sent

end Tracker

/-! ### Migrating them -/

namespace Forge

theorem queryless_impersonating {γ : Type} {describe : γ → String} {worthRetry : Failure → Bool}
    {action : Option γ → Run σ β} (h : ∀ actor, Run.Queryless servers (action actor))
    (actor : Option γ) :
    Run.Queryless servers (impersonating describe worthRetry action actor) := by
  unfold impersonating
  split
  · exact h none
  · refine .tryCatch (h _) fun failure => ?_
    split
    · exact .of_throw failure
    · split
      · exact (Run.Queries.of_log _ _).bind fun _ => h none
      · exact .of_throw failure

theorem queryless_openProject (project : String) :
    Run.Queryless servers (openProject project : Run σ Unit) := by
  refine .get_bind fun session => ?_
  split
  · exact .of_pure _
  · exact (Run.Queries.of_record rfl fun _ => rfl).bind fun _ =>
      .of_modify _ (fun _ => rfl) fun _ => rfl

/-- Creating an issue asks no query. -/
theorem queryless_postIssue (forge : Forge) (project : String) (title : Option String)
    (description labels : String) (assignee author : Option Int) (createdAt : Option Moment) :
    Run.Queryless servers
      (forge.postIssue servers project title description labels assignee author createdAt) := by
  refine (queryless_impersonating (fun actor => ?_) _).bind fun issue =>
    (Run.Queries.of_log _ _).bind fun _ => .of_pure issue
  exact (queryless_openProject project).bind fun _ => Run.queries_send fun _ => rfl

/-- Creating a note asks no query. -/
theorem queryless_postNote (forge : Forge) (project : String) (issue : Int) (body : String)
    (author : Option Int) (createdAt : Option Moment) :
    Run.Queryless servers (forge.postNote servers project issue body author createdAt) :=
  (queryless_openProject project).bind fun _ =>
    (Run.Queries.of_record rfl fun _ => rfl).bind fun _ =>
      queryless_impersonating (fun _ => Run.queries_send fun _ => rfl) _

end Forge

namespace Directory

variable {directory : Directory σ}
  (fetches : ∀ page size, Run.Queryless servers (directory.fetch page size))

include fetches

theorem queryless_fetchFrom (page left : Nat) (users : Roster) :
    Run.Queryless servers (directory.fetchFrom page left users) := by
  induction left generalizing page users with
  | zero => exact (Run.Queries.of_log _ _).bind fun _ => .of_pure users
  | succ left ih =>
    refine (fetches page _).bind fun listed => ?_
    split
    · exact .of_pure _
    · split
      · exact (Run.Queries.of_log _ _).bind fun _ => .of_pure _
      · exact ih (page + 1) _

theorem queryless_get? (name : Value) : Run.Queryless servers (directory.get? name) := by
  have roster : Run.Queryless servers directory.roster := by
    refine .get_bind fun session => ?_
    split
    · exact .of_pure _
    · exact (queryless_fetchFrom fetches 1 _ []).bind fun users =>
        (Run.Queries.of_log _ _).bind fun _ =>
          .bind (.of_modify _ (fun _ => rfl) fun _ => rfl) fun _ => .of_pure users
  refine roster.bind fun users => ?_
  split
  · exact .of_pure _
  · exact .of_throw _

end Directory

/-- Looking up a user asks no query. -/
theorem Resolver.queryless_find {resolver : Resolver σ}
    (fetches : ∀ page size, Run.Queryless servers (resolver.directory.fetch page size))
    (name : Option String) : Run.Queryless servers (resolver.find name) := by
  unfold find
  split
  · exact .of_pure _
  · split
    · exact .of_pure _
    · refine (Directory.queryless_get? fetches _).bind fun user => ?_
      split
      · exact .bind (.of_modify _ (fun _ => rfl) fun _ => rfl) fun _ => .of_pure user
      · exact .of_pure user

namespace Migration

variable {migration : Migration σ} (fetches : ∀ page size,
  Run.Queryless migration.servers (migration.resolver.directory.fetch page size))

include fetches

theorem queryless_userId (name : Option String) :
    Run.Queryless migration.servers (migration.userId name) :=
  (Resolver.queryless_find fetches name).bind fun _ => .of_pure _

theorem queryless_postNotesFrom (project : String) (issue : Int) (comments : List Comment) :
    Run.Queryless migration.servers (migration.postNotesFrom project issue comments) := by
  induction comments with
  | nil => exact .of_pure ()
  | cons comment comments ih =>
    exact (queryless_userId fetches _).bind fun author =>
      (Forge.queryless_postNote _ project issue _ author _).bind fun _ => ih

theorem queryless_migrateTicket (project : String) (count : Nat) (ticket : Ticket) :
    Run.Queryless migration.servers (migration.migrateTicket project count ticket) := by
  refine (queryless_userId fetches _).bind fun assignee =>
    (queryless_userId fetches _).bind fun author => ?_
  split
  · exact (Run.Queries.of_log _ _).bind fun _ => .of_pure none
  · have notes (issue : Int) :
        Run.Queryless migration.servers (migration.postNotes project issue ticket.comments) := by
      unfold postNotes
      split
      · exact .of_pure ()
      · exact (queryless_postNotesFrom fetches project issue _).bind fun _ => .of_log _ _
    exact (Forge.queryless_postIssue _ project _ _ _ _ _ _).bind fun issue =>
      (Run.Queries.of_log _ _).bind fun _ => (notes issue).bind fun _ => .of_pure _

theorem queryless_migrateFrom (project : String) (count : Nat) (tickets : List Ticket) :
    Run.Queryless migration.servers (migration.migrateFrom project count tickets) := by
  induction tickets generalizing count with
  | nil => exact .of_pure []
  | cons ticket tickets ih =>
    refine (queryless_migrateTicket fetches project count ticket).bind fun issue => ?_
    split
    · exact .of_pure _
    · exact (ih (count + 1)).bind fun more => .of_pure _

/-- **Migrating what matches a query sends one query**, with a limit added if need be. -/
theorem queries_migrateMatching (query project : String) (limit : Option Int) :
    Run.Queries migration.servers (migration.migrateMatching query project limit)
      (migration.tracker.queriesFor (withCap query limit)) :=
  (migration.tracker.queries_ticketsMatching _).bind fun tickets =>
    (Run.Queries.of_log _ _).bind fun _ => queryless_migrateFrom fetches project 1 tickets

end Migration

/-! ### The open tickets of a component -/

/-- The query has three terms, of which the first one names the component by one value. -/
structure SelectsComponent (component : String) (limit : Option Int) (query : String) : Prop where
  /-- The terms are the component, the state and the limit, which is zero if there is none. -/
  terms : ∃ value, queryTerms query.toList
      = ["component=".toList ++ value, "status=!closed".toList,
          "max=".toList ++ (toString (limit.getD 0)).toList] ∧
    termValues value = [value] ∧ unquoteChars value = component.toList

/-- Neither a backslash nor an ampersand is in a limit. -/
theorem plain_limit (limit : Int) :
    ∀ c ∈ "max=".toList ++ (toString limit).toList, c ≠ '\\' ∧ c ≠ '&' := by
  have digits : ∀ c ∈ Nat.toDigits 10 limit.natAbs, c ≠ '\\' ∧ c ≠ '&' := by
    intro c hc
    have digit := Nat.isDigit_of_mem_toDigits (by decide) (by decide) hc
    constructor <;> rintro rfl <;> cases digit
  have sign : ∀ c ∈ if limit < 0 then ['-'] else [], c ≠ '\\' ∧ c ≠ '&' := by
    split <;> simp
  rw [Text.toList_toString_int]
  exact List.forall_mem_append.2 ⟨by simp, List.forall_mem_append.2 ⟨sign, digits⟩⟩

theorem selectsComponent_componentQuery (component : String) (limit : Option Int) :
    SelectsComponent component limit (componentQuery component limit) := by
  have written : (componentQuery component limit).toList
      = ("component=".toList ++ quoteChars component.toList) ++
          '&' :: ("status=!closed".toList ++
            '&' :: ("max=".toList ++ (toString (limit.getD 0)).toList)) := by
    rw [componentQuery, String.toList_append, String.toList_append, String.toList_append,
      quoteValue, String.toList_ofList]
    simp
  have named : OnePiece '&' ("component=".toList ++ quoteChars component.toList) :=
    OnePiece.append (.of_forall (by simp)) (onePiece_quoteChars rfl _)
  have state : OnePiece '&' "status=!closed".toList := .of_forall (by simp)
  have limited : OnePiece '&' ("max=".toList ++ (toString (limit.getD 0)).toList) :=
    .of_forall (plain_limit _)
  refine ⟨quoteChars component.toList, ?_, (onePiece_quoteChars rfl _).splitUnquoted_eq,
    unquoteChars_quoteChars _⟩
  rw [queryTerms, written, named.splitUnquoted_append_separator (by decide),
    state.splitUnquoted_append_separator (by decide), limited.splitUnquoted_eq]

/-- **The name of a component cannot change what is selected.** -/
theorem selectsComponent_openTicketsOf (tracker : Tracker) (servers : Servers σ)
    (component : String) (limit : Option Int) :
    (∃ query, Run.Queries servers (tracker.openTicketsOf servers component limit)
        (tracker.queriesFor query) ∧ SelectsComponent component limit query) ∧
      Function.Injective quoteValue ∧
        ∀ s t, quoteValue (s ++ t) = quoteValue s ++ quoteValue t :=
  ⟨⟨componentQuery component limit, tracker.queries_ticketsMatching _,
      selectsComponent_componentQuery component limit⟩,
    quoteValue_injective, quoteValue_append⟩

end TicketMigration
