import TicketMigration.Proofs.Paging
import TicketMigration.Proofs.WriteOrder

/-!
# The users as they were read last

Users are looked up and resolved, read anew and forgotten in any order, while the issue server
changes as it likes.  Whatever the order, the users that are known are those that were read last and
not forgotten since.  An operation that fails leaves them as they were, unless it has read them itself
before it finds that what it looks up can be no name.

## Main definitions

* `UserOperation` — what is done with the users; `UserOperation.perform` does it.
* `Visit` — an operation with the sessions around it; `visits` are those of a whole history.
* `Visit.Reads` — the operation has read these users.
* `LastRead` — these users were read last, and not forgotten since.
* `Snapshot` — what is known of the users, and how it came to be known.

## Main statements

* `UserOperation.does_perform` — what one operation does.
* `snapshot_of_visits` — **the users that are known are those that were read last**, after any
  history.
-/

namespace TicketMigration

variable {σ : Type}

/-! ### Operations -/

/-- What is done with the users. -/
inductive UserOperation
  /-- A user is looked up. -/
  | get (name : Value)
  /-- All users are asked for. -/
  | users
  /-- The user of a name of the tracker is looked up. -/
  | resolve (name : Option String)
  /-- The users are fetched anew. -/
  | refresh
  /-- The users are forgotten. -/
  | invalidate

/-- What comes of an operation. -/
inductive UserReply
  /-- The user that was found, if any. -/
  | user (user : Option RemoteUser)
  /-- All users. -/
  | users (users : Roster)
  /-- Nothing to tell. -/
  | done

namespace UserOperation

/-- Does what the operation says. -/
def perform (resolver : Resolver σ) : UserOperation → Run σ UserReply
  | get name => do
    let user ← resolver.directory.get? name
    return .user user
  | users => do
    let users ← resolver.directory.roster
    return .users users
  | resolve name => do
    let user ← resolver.find name
    return .user user
  | refresh => do
    let _ ← resolver.directory.reload
    return .done
  | invalidate => do
    Directory.forget
    return .done

/-- Whether the operation fetches the users: `known` says whether they are known. -/
def fetches (known : Bool) : UserOperation → Bool
  | get _ | users => !known
  | resolve name => !known && name.any fun name => !name.isEmpty
  | refresh => true
  | invalidate => false

/-- The key under which the operation looks up a user. -/
def key? (resolver : Resolver σ) : UserOperation → Option Value
  | get name => some name
  | resolve name => name.map resolver.target
  | users | refresh | invalidate => none

/-- The reply of an operation when these users are known. -/
def reply (resolver : Resolver σ) (known : Roster) : UserOperation → UserReply
  | get name => .user (known.userOf name)
  | users => .users known
  | resolve name => .user (resolver.userOf known name)
  | refresh | invalidate => .done

/-- The name that an operation has not resolved. -/
def missed? : UserOperation → Except Failure UserReply → Option String
  | resolve (some name), .ok (.user none) => if name.isEmpty then none else some name
  | _, _ => none

@[simp] theorem missed?_error (operation : UserOperation) (failure : Failure) :
    operation.missed? (.error failure) = none := by
  rcases operation with _ | _ | (_ | _) | _ | _ <;> rfl

end UserOperation

/-- What an operation does to a session. -/
structure Performed (resolver : Resolver σ) (pageSize maxPages : Int) (operation : UserOperation)
    (before : Session σ) (trace : List Exchange) (result : Except Failure UserReply)
    (after : Session σ) : Prop where
  /-- Pages are asked for only if the users are fetched. -/
  idle : operation.fetches before.roster.isSome = false → trace = []
  /-- They are asked for in order, and what they hold becomes known as a whole or not at all. -/
  fetched : operation.fetches before.roster.isSome = true →
    ∃ answers, trace = pageExchanges pageSize 1 answers ∧ Paged pageSize maxPages.toNat answers ∧
      after.roster = ((usersOn answers).map (Roster.putAll [])).toOption.or before.roster
  /-- Otherwise what is known stays known. -/
  kept : operation.fetches before.roster.isSome = false → operation ≠ .invalidate →
    after.roster = before.roster
  /-- Or it is forgotten. -/
  forgotten : operation = .invalidate → after.roster = none
  /-- The reply tells what is known by then. -/
  told : ∀ reply, result = .ok reply → ∀ known, after.roster = some known →
    reply = operation.reply resolver known
  /-- A name that was not resolved is counted. -/
  misses : after.misses
    = ((operation.missed? result).map before.misses.add).getD before.misses
  /-- A failure is that of a page that could not be read, or it says that the key that is looked up
  is none that a name can have. -/
  fails : ∀ failure, result = .error failure →
    (∃ answers, trace = pageExchanges pageSize 1 answers ∧ usersOn answers = .error failure) ∨
      failure = .unhashable ∧ ∃ key, operation.key? resolver = some key ∧ key.isKey = false
  /-- A failure counts nothing.  It leaves the users as they were, unless what is looked up can be no
  name at all, such as a list: that is found out when the users are known, so if they were not, they
  have been read by then and stay known. -/
  atomic : ∀ failure, result = .error failure → after.misses = before.misses ∧
    (after.roster = before.roster ∨
      failure = .unhashable ∧ before.roster = none ∧ after.roster.isSome = true ∧
        ∃ key, operation.key? resolver = some key ∧ key.isKey = false)

namespace UserOperation

variable {servers : Servers σ} {pageSize maxPages : Int} {mapping : Entries}

/-- An operation that asks for the users does what asking for them does.  It fails if they cannot be
read, or if there can be no name such as the one that is looked up. -/
theorem performed_of_consulted {resolver : Resolver σ} {operation : UserOperation}
    {before between after : Session σ} {trace : List Exchange} {read : Except Failure Roster}
    {result : Except Failure UserReply}
    (asks : ∀ known, operation.fetches known = !known)
    (consulted : Consulted pageSize maxPages before trace read between)
    (roster : after.roster = between.roster)
    (misses : after.misses = ((operation.missed? result).map between.misses.add).getD between.misses)
    (replied : ∀ reply, result = .ok reply →
      ∃ users, read = .ok users ∧ reply = operation.reply resolver users)
    (failed : ∀ failure, result = .error failure → read = .error failure ∨
      failure = .unhashable ∧ ∃ key, operation.key? resolver = some key ∧ key.isKey = false) :
    Performed resolver pageSize maxPages operation before trace result after where
  idle := by
    intro h
    rw [asks] at h
    cases consulted with
    | known => rfl
    | fetched unknown => rw [unknown] at h; cases h
  fetched := by
    intro h
    rw [asks] at h
    cases consulted with
    | known held => rw [held] at h; cases h
    | @fetched answers _ _ _ unknown refreshed =>
      refine ⟨answers, refreshed.asked, refreshed.paged, ?_⟩
      rw [roster, refreshed.known, refreshed.read]
  kept := by
    intro h _
    rw [asks] at h
    cases consulted with
    | known => exact roster
    | fetched unknown => rw [unknown] at h; cases h
  forgotten := by
    rintro rfl
    have := asks false
    cases this
  told := by
    intro reply hr known hk
    obtain ⟨users, rfl, rfl⟩ := replied reply hr
    rw [roster, consulted.roster_of_ok] at hk
    rw [Option.some.inj hk]
  misses := by rw [misses, consulted.misses]
  fails := by
    intro failure hr
    rcases failed failure hr with rfl | no
    · exact .inl consulted.unread
    · exact .inr no
  atomic := by
    rintro failure rfl
    rw [missed?_error, Option.map_none, Option.getD_none] at misses
    refine ⟨misses.trans consulted.misses, ?_⟩
    rcases failed failure rfl with rfl | ⟨rfl, noKey⟩
    · rw [roster, consulted.roster_of_error]
      exact .inl rfl
    · cases consulted with
      | known => exact .inl roster
      | fetched unknown refreshed =>
        -- the users were asked for in vain, or they are known by now
        rw [roster, refreshed.known, unknown]
        cases read with
        | error failure => exact .inl rfl
        | ok users => exact .inr ⟨rfl, rfl, rfl, noKey⟩

/-- Nobody is looked up where there is no name. -/
theorem find_of_blank {resolver : Resolver σ} {name : Option String}
    (h : name.any (fun name => !name.isEmpty) = false) : resolver.find name = pure none := by
  rcases name with _ | name
  · rfl
  · rw [Resolver.find]
    exact if_pos (by simpa using h)

/-- A name of the tracker is looked up under its target, and counted if nobody is found. -/
theorem does_find_consulted {name : String} (h : name.isEmpty = false) :
    Run.Does servers ((Resolver.ofServers servers pageSize maxPages mapping).find (some name))
      fun before trace result after => ∃ read between,
        Consulted pageSize maxPages before trace read between ∧ after.roster = between.roster ∧
        (∀ user, result = .ok user →
          (∃ users, read = .ok users ∧ user = users.userOf
            ((Resolver.ofServers servers pageSize maxPages mapping).target name)) ∧
          after.misses = if user.isNone then between.misses.add name else between.misses) ∧
        ∀ failure, result = .error failure → after.misses = between.misses ∧
          (read = .error failure ∨ failure = .unhashable ∧
            ((Resolver.ofServers servers pageSize maxPages mapping).target name).isKey = false) := by
  rw [Resolver.find]
  dsimp only
  rw [if_neg (by simp [h])]
  refine (Directory.does_get?_consulted _).bind
    (fun user before trace result after => trace = [] ∧ result = .ok user ∧
      after.roster = before.roster ∧
      after.misses = if user.isNone then before.misses.add name else before.misses)
    (fun user => ?_) ?_ ?_
  · split
    · next hnone =>
      refine Run.Does.modify_bind _ (fun _ => rfl) (fun _ => rfl) (.of_pure ?_)
      rintro _ before rfl
      exact ⟨rfl, rfl, rfl, rfl⟩
    · exact .of_pure fun before => ⟨rfl, rfl, rfl, rfl⟩
  · rintro before trace failure after ⟨read, consulted, -, failed⟩
    refine ⟨read, after, consulted, rfl, ?_, ?_⟩
    · rintro _ ⟨⟩
    · rintro _ ⟨⟩
      exact ⟨rfl, failed _ rfl⟩
  · rintro before earlier user between later result after ⟨read, consulted, found, -⟩
      ⟨rfl, rfl, hr, hm⟩
    rw [List.append_nil]
    refine ⟨read, between, consulted, hr, ?_, ?_⟩
    · rintro _ ⟨⟩
      exact ⟨found _ rfl, hm⟩
    · rintro _ ⟨⟩

/-- Where there is no name, nothing is done. -/
theorem performed_of_blank {resolver : Resolver σ} {name : Option String} {session : Session σ}
    (h : name.any (fun name => !name.isEmpty) = false) :
    Performed resolver pageSize maxPages (.resolve name) session [] (.ok (.user none)) session where
  idle _ := rfl
  fetched hf := by
    rw [fetches, h, Bool.and_false] at hf
    cases hf
  kept _ _ := rfl
  forgotten := by rintro ⟨⟩
  told := by
    rintro _ ⟨⟩ known -
    rcases name with _ | name
    · rfl
    · rw [reply, Resolver.userOf, if_pos (by simpa using h)]
  misses := by
    rcases name with _ | name
    · rfl
    · simp [missed?, show name.isEmpty = true by simpa using h]
  fails := by rintro _ ⟨⟩
  atomic := by rintro _ ⟨⟩

/-- Fetching the users anew is done whether they are known or not. -/
theorem performed_of_refreshed {resolver : Resolver σ} {answers : List PageAnswer}
    {before after : Session σ} {trace : List Exchange} {read : Except Failure Roster}
    (refreshed : Refreshed pageSize maxPages answers before trace read after) :
    Performed resolver pageSize maxPages .refresh before trace
      (read.map fun _ => UserReply.done) after where
  idle := by rintro ⟨⟩
  fetched _ := ⟨answers, refreshed.asked, refreshed.paged, by rw [refreshed.known, refreshed.read]⟩
  kept := by rintro ⟨⟩
  forgotten := by rintro ⟨⟩
  told := by
    intro reply hr known _
    cases read <;> cases hr
    rfl
  misses := by
    rw [refreshed.misses]
    cases read <;> rfl
  fails := by
    intro failure hr
    cases read <;> cases hr
    exact .inl ⟨answers, refreshed.asked, refreshed.unread⟩
  atomic := by
    intro failure hr
    cases read <;> cases hr
    exact ⟨refreshed.misses, .inl refreshed.known⟩

theorem performed_invalidate {resolver : Resolver σ} (session : Session σ) :
    Performed resolver pageSize maxPages .invalidate session [] (.ok .done)
      { session with roster := none } where
  idle _ := rfl
  fetched := by rintro ⟨⟩
  kept _ hne := absurd rfl hne
  forgotten _ := rfl
  told := by
    rintro _ ⟨⟩ known -
    rfl
  misses := rfl
  fails := by rintro _ ⟨⟩
  atomic := by rintro _ ⟨⟩

theorem does_get_performed (name : Value) :
    Run.Does servers ((get name).perform (.ofServers servers pageSize maxPages mapping))
      (Performed (.ofServers servers pageSize maxPages mapping) pageSize maxPages (get name)) := by
  refine (Directory.does_get?_consulted name).map ?_ ?_
  · rintro before trace failure after ⟨read, consulted, -, failed⟩
    refine performed_of_consulted (fun _ => rfl) consulted rfl rfl ?_ ?_
    · rintro _ ⟨⟩
    · rintro _ ⟨⟩
      exact (failed _ rfl).imp id fun ⟨unhashable, no⟩ => ⟨unhashable, name, rfl, no⟩
  · rintro before trace user after ⟨read, consulted, found, -⟩
    refine performed_of_consulted (fun _ => rfl) consulted rfl rfl ?_ ?_
    · rintro _ ⟨⟩
      obtain ⟨users, hr, rfl⟩ := found _ rfl
      exact ⟨users, hr, rfl⟩
    · rintro _ ⟨⟩

theorem does_users_performed :
    Run.Does servers (users.perform (.ofServers servers pageSize maxPages mapping))
      (Performed (.ofServers servers pageSize maxPages mapping) pageSize maxPages users) := by
  refine Directory.does_roster_refreshed.map ?_ ?_
  · intro before trace failure after consulted
    refine performed_of_consulted (fun _ => rfl) consulted rfl rfl ?_ ?_
    · rintro _ ⟨⟩
    · rintro _ ⟨⟩
      exact .inl rfl
  · intro before trace users after consulted
    refine performed_of_consulted (fun _ => rfl) consulted rfl rfl ?_ ?_
    · rintro _ ⟨⟩
      exact ⟨users, rfl, rfl⟩
    · rintro _ ⟨⟩

theorem does_resolve_performed (name : Option String) :
    Run.Does servers ((resolve name).perform (.ofServers servers pageSize maxPages mapping))
      (Performed (.ofServers servers pageSize maxPages mapping) pageSize maxPages
        (resolve name)) := by
  -- without a name the users are not asked for
  cases blank : name.any fun name => !name.isEmpty with
  | false =>
    rw [perform, find_of_blank blank]
    refine (Run.does_pure servers none).map ?_ ?_
    · rintro before trace failure after ⟨-, ⟨⟩, -⟩
    · rintro before trace user after ⟨rfl, ⟨⟩, rfl⟩
      exact performed_of_blank blank
  | true =>
    obtain ⟨name, rfl, hname⟩ := (Option.any_eq_true _ _).1 blank
    have named : name.isEmpty = false := by simpa using hname
    have asks (known : Bool) : (resolve (some name)).fetches known = !known := by
      rw [fetches, Option.any_some, hname, Bool.and_true]
    refine (does_find_consulted named).map ?_ ?_
    · rintro before trace failure after ⟨read, between, consulted, hr, -, failed⟩
      refine performed_of_consulted asks consulted hr (failed _ rfl).1 ?_ ?_
      · rintro _ ⟨⟩
      · rintro _ ⟨⟩
        exact (failed _ rfl).2.imp id fun ⟨unhashable, no⟩ => ⟨unhashable, _, rfl, no⟩
    · rintro before trace user after ⟨read, between, consulted, hr, found, -⟩
      obtain ⟨⟨users, hread, huser⟩, hm⟩ := found _ rfl
      refine performed_of_consulted asks consulted hr ?_ ?_ ?_
      · rw [hm]
        cases user <;> simp [missed?, named]
      · rintro _ ⟨⟩
        refine ⟨users, hread, ?_⟩
        rw [reply, Resolver.userOf, named, huser]
        rfl
      · rintro _ ⟨⟩

/-- **What an operation does.** -/
theorem does_perform (operation : UserOperation) :
    Run.Does servers (operation.perform (.ofServers servers pageSize maxPages mapping))
      (Performed (.ofServers servers pageSize maxPages mapping) pageSize maxPages operation) := by
  cases operation with
  | get name => exact does_get_performed name
  | users => exact does_users_performed
  | resolve name => exact does_resolve_performed name
  | refresh =>
    refine Directory.does_reload_refreshed.map ?_ ?_
    · rintro before trace failure after ⟨answers, refreshed⟩
      exact performed_of_refreshed refreshed
    · rintro before trace users after ⟨answers, refreshed⟩
      exact performed_of_refreshed refreshed
  | invalidate =>
    refine (Run.does_modify servers (fun session => { session with roster := none }) (fun _ => rfl)
      fun _ => rfl).map ?_ ?_
    · rintro before trace failure after ⟨-, ⟨⟩, -⟩
    · rintro before trace reply after ⟨rfl, ⟨⟩, rfl⟩
      exact performed_invalidate before

end UserOperation

/-! ### Histories -/

/-- A call of an operation, and the state that the servers have come to by then. -/
structure Call (σ : Type) where
  /-- The state of the servers when the operation begins. -/
  world : σ
  /-- The operation. -/
  operation : UserOperation

/-- An operation that has been called, with the sessions around it. -/
structure Visit (σ : Type) where
  /-- The operation. -/
  operation : UserOperation
  /-- The session in which it began. -/
  before : Session σ
  /-- What came of it. -/
  result : Except Failure UserReply
  /-- The session in which it ended, be it with a failure. -/
  after : Session σ

/-- Calls an operation in a session, with the servers as they are by then. -/
def Call.visit (resolver : Resolver σ) (session : Session σ) (call : Call σ) : Visit σ :=
  let before := { session with world := call.world }
  let run := (call.operation.perform resolver).start before
  ⟨call.operation, before, run.1, run.2⟩

/-- Calls one operation after the other, also after failures. -/
def visits (resolver : Resolver σ) : Session σ → List (Call σ) → List (Visit σ)
  | _, [] => []
  | session, call :: rest =>
    call.visit resolver session :: visits resolver (call.visit resolver session).after rest

/-- The session after these calls. -/
def sessionAfter (resolver : Resolver σ) (session : Session σ) (calls : List (Call σ)) : Session σ :=
  calls.foldl (fun session call => (call.visit resolver session).after) session

namespace Visit

/-- What passed during the operation: its requests, with the answers of the servers. -/
def trace (servers : Servers σ) (visit : Visit σ) : List Exchange :=
  (servers.replay visit.before.world (visit.after.requests.drop visit.before.requests.length)).1

/-- Whether the operation fetched the users. -/
def fetches (visit : Visit σ) : Bool :=
  visit.operation.fetches visit.before.roster.isSome

/-- The operation has read these users: it fetched them, and all pages could be read. -/
def Reads (servers : Servers σ) (pageSize : Int) (visit : Visit σ) (users : List RemoteUser) :
    Prop :=
  visit.fetches = true ∧ ∃ answers, visit.trace servers = pageExchanges pageSize 1 answers ∧
    usersOn answers = .ok users

end Visit

/-- These users were read last: no later operation has read any, or made them forgotten. -/
def LastRead (servers : Servers σ) (pageSize : Int) (visits : List (Visit σ))
    (users : List RemoteUser) : Prop :=
  ∃ front visit back, visits = front ++ visit :: back ∧ visit.Reads servers pageSize users ∧
    ∀ later ∈ back, later.operation ≠ .invalidate ∧ ∀ users, ¬ later.Reads servers pageSize users

/-- How often a name was not resolved. -/
def missCount (visits : List (Visit σ)) (name : String) : Nat :=
  visits.countP fun visit => visit.operation.missed? visit.result = some name

/-- What a history of operations has led to. -/
structure Snapshot (servers : Servers σ) (resolver : Resolver σ) (pageSize maxPages : Int)
    (visits : List (Visit σ)) (now : Session σ) : Prop where
  /-- What each operation has done. -/
  each : ∀ visit ∈ visits, Passed servers visit.before (visit.trace servers) visit.after ∧
    Performed resolver pageSize maxPages visit.operation visit.before (visit.trace servers)
      visit.result visit.after
  /-- Users are known exactly if some have been read, and not been forgotten since. -/
  loaded : now.roster.isSome = true ↔ ∃ users, LastRead servers pageSize visits users
  /-- Under each name, the last user is known of those that were read last, and nobody else is. -/
  content : ∀ users, LastRead servers pageSize visits users → ∃ known, now.roster = some known ∧
    (known.map (·.1)).Nodup ∧
    ∀ name, known.lookup name = users.reverse.find? fun user => user.username = name
  /-- A name is counted as often as it was not resolved, and not at all if it never was. -/
  counted : (now.misses.map (·.1)).Nodup ∧ ∀ name, now.misses.lookup name =
    if missCount visits name = 0 then none else some (missCount visits name)

/-! ### One more operation -/

section

variable {servers : Servers σ} {resolver : Resolver σ} {pageSize maxPages : Int}
  {past : List (Visit σ)} {visit : Visit σ} {now : Session σ}

/-- What an operation reads is read last from then on.  Otherwise what was read before stays, unless
it is forgotten. -/
theorem lastRead_concat {users : List RemoteUser} :
    LastRead servers pageSize (past ++ [visit]) users ↔
      visit.Reads servers pageSize users ∨ visit.operation ≠ .invalidate ∧
        (∀ users, ¬ visit.Reads servers pageSize users) ∧ LastRead servers pageSize past users := by
  constructor
  · rintro ⟨front, reader, back, heq, reads, later⟩
    -- either the last operation has read them, or it comes behind the one that has
    rcases List.eq_nil_or_concat back with rfl | ⟨back, last, rfl⟩
    · obtain ⟨-, heq⟩ := List.append_inj' heq rfl
      rw [List.singleton_inj.1 heq]
      exact .inl reads
    · rw [List.concat_eq_append] at heq later
      rw [← List.cons_append, ← List.append_assoc] at heq
      obtain ⟨hpast, heq⟩ := List.append_inj' heq rfl
      rw [List.singleton_inj.1 heq]
      obtain ⟨hinvalidate, hreads⟩ := later last (by simp)
      exact .inr ⟨hinvalidate, hreads, front, reader, back, hpast, reads,
        fun visit hv => later visit (List.mem_append_left _ hv)⟩
  · rintro (reads | ⟨hinvalidate, hreads, front, reader, back, rfl, reads, later⟩)
    · exact ⟨past, visit, [], rfl, reads, by simp⟩
    · refine ⟨front, reader, back ++ [visit], by simp, reads, ?_⟩
      intro other ho
      rcases List.mem_append.1 ho with ho | ho
      · exact later other ho
      · rw [List.mem_singleton.1 ho]
        exact ⟨hinvalidate, hreads⟩

/-- An operation that has asked for these pages has read the users on them, if it has read all. -/
theorem Visit.reads_iff {answers : List PageAnswer} (fetches : visit.fetches = true)
    (asked : visit.trace servers = pageExchanges pageSize 1 answers) (users : List RemoteUser) :
    visit.Reads servers pageSize users ↔ usersOn answers = .ok users := by
  constructor
  · rintro ⟨-, answers', asked', read⟩
    rwa [pageExchanges_inj (asked.symm.trans asked')]
  · exact fun read => ⟨fetches, answers, asked, read⟩

/-- What a session holds after a history of operations. -/
structure Remembers (servers : Servers σ) (pageSize : Int) (past : List (Visit σ))
    (now : Session σ) : Prop where
  /-- The users that are known are those that were read last. -/
  roster : ∀ known, now.roster = some known ↔
    ∃ users, LastRead servers pageSize past users ∧ known = Roster.putAll [] users
  /-- No name is counted twice. -/
  nodup : (now.misses.map (·.1)).Nodup
  /-- A name is counted as often as it was not resolved. -/
  counts : ∀ name, now.misses.lookup name =
    if missCount past name = 0 then none else some (missCount past name)

/-- The users that are known after an operation are those that were read last. -/
theorem Remembers.roster_concat (h : Remembers servers pageSize past now)
    (performed : Performed resolver pageSize maxPages visit.operation visit.before
      (visit.trace servers) visit.result visit.after)
    (before : visit.before.roster = now.roster) (known : Roster) :
    visit.after.roster = some known ↔
      ∃ users, LastRead servers pageSize (past ++ [visit]) users ∧
        known = Roster.putAll [] users := by
  have keeps (hinvalidate : visit.operation ≠ .invalidate)
      (hreads : ∀ users, ¬ visit.Reads servers pageSize users)
      (hkept : visit.after.roster = visit.before.roster) :
      visit.after.roster = some known ↔
        ∃ users, LastRead servers pageSize (past ++ [visit]) users ∧
          known = Roster.putAll [] users := by
    simp [lastRead_concat, hkept, before, h.roster, hreads, hinvalidate]
  cases hfetches : visit.fetches with
  | true =>
    obtain ⟨answers, asked, -, hknown⟩ := performed.fetched hfetches
    have hreads := Visit.reads_iff hfetches asked
    -- either all pages could be read, or nothing has become known
    cases hread : usersOn answers with
    | ok users =>
      rw [hread] at hknown hreads
      have last (users' : List RemoteUser) :
          LastRead servers pageSize (past ++ [visit]) users' ↔ users = users' := by
        rw [lastRead_concat, hreads, Except.ok.injEq]
        refine or_iff_left ?_
        rintro ⟨-, unread, -⟩
        exact unread users ((hreads users).2 rfl)
      rw [hknown]
      simp only [last, exists_eq_left']
      exact Option.some_inj.trans eq_comm
    | error failure =>
      rw [hread] at hknown hreads
      refine keeps ?_ (fun users => by simp [hreads]) hknown
      intro hop
      rw [Visit.fetches, hop] at hfetches
      cases hfetches
  | false =>
    have hreads (users : List RemoteUser) : ¬ visit.Reads servers pageSize users := by
      rintro ⟨hf, -⟩
      rw [hfetches] at hf
      cases hf
    by_cases hinvalidate : visit.operation = .invalidate
    · simp [lastRead_concat, performed.forgotten hinvalidate, hreads, hinvalidate]
    · exact keeps hinvalidate hreads (performed.kept hfetches hinvalidate)

theorem missCount_concat (name : String) :
    missCount (past ++ [visit]) name = missCount past name +
      if visit.operation.missed? visit.result = some name then 1 else 0 := by
  rw [missCount, missCount, List.countP_append, List.countP_singleton]
  simp

/-- A name that an operation has not resolved is counted once more. -/
theorem Remembers.counts_concat (h : Remembers servers pageSize past now)
    (performed : Performed resolver pageSize maxPages visit.operation visit.before
      (visit.trace servers) visit.result visit.after)
    (before : visit.before.misses = now.misses) (name : String) :
    visit.after.misses.lookup name = if missCount (past ++ [visit]) name = 0 then none
      else some (missCount (past ++ [visit]) name) := by
  rw [performed.misses, missCount_concat, before]
  cases missed : visit.operation.missed? visit.result with
  | none => exact h.counts name
  | some other =>
    rw [Option.map_some, Option.getD_some, Tally.lookup_add]
    by_cases hname : name = other
    · subst hname
      rw [if_pos rfl, if_pos rfl, if_neg (Nat.succ_ne_zero _), Tally.count, h.counts]
      split <;> simp_all
    · have different : ¬ some other = some name := fun h => hname (Option.some.inj h).symm
      rw [if_neg hname, h.counts, if_neg different, Nat.add_zero]

/-- **One more operation.** -/
theorem Remembers.concat (h : Remembers servers pageSize past now)
    (performed : Performed resolver pageSize maxPages visit.operation visit.before
      (visit.trace servers) visit.result visit.after)
    (roster : visit.before.roster = now.roster) (misses : visit.before.misses = now.misses) :
    Remembers servers pageSize (past ++ [visit]) visit.after where
  roster := h.roster_concat performed roster
  nodup := by
    rw [performed.misses, misses]
    cases visit.operation.missed? visit.result with
    | none => exact h.nodup
    | some name => exact Tally.nodup_add h.nodup name
  counts := h.counts_concat performed misses

end

/-! ### Whole histories -/

section

variable (servers : Servers σ) (pageSize maxPages : Int) (mapping : Entries)

/-- An operation does the same whatever history it ends. -/
theorem performed_visit (call : Call σ) (session : Session σ) :
    let visit := call.visit (.ofServers servers pageSize maxPages mapping) session
    Passed servers visit.before (visit.trace servers) visit.after ∧
      Performed (.ofServers servers pageSize maxPages mapping) pageSize maxPages visit.operation
        visit.before (visit.trace servers) visit.result visit.after := by
  intro visit
  have does : Run.Does servers
      (call.operation.perform (.ofServers servers pageSize maxPages mapping)) _ :=
    UserOperation.does_perform call.operation
  obtain ⟨trace, passed, performed⟩ := does visit.before
  have : visit.trace servers = trace := passed.replay_drop
  rw [this]
  exact ⟨passed, performed⟩

theorem performed_of_mem_visits {calls : List (Call σ)} {session : Session σ} {visit : Visit σ}
    (hv : visit ∈ visits (.ofServers servers pageSize maxPages mapping) session calls) :
    Passed servers visit.before (visit.trace servers) visit.after ∧
      Performed (.ofServers servers pageSize maxPages mapping) pageSize maxPages visit.operation
        visit.before (visit.trace servers) visit.result visit.after := by
  induction calls generalizing session with
  | nil => cases hv
  | cons call calls ih =>
    rcases List.mem_cons.1 hv with rfl | hv
    · exact performed_visit servers pageSize maxPages mapping call session
    · exact ih hv

/-- **A history of operations**, with any other one before it. -/
theorem Remembers.append_visits {past : List (Visit σ)} {now : Session σ} (calls : List (Call σ))
    (h : Remembers servers pageSize past now) :
    Remembers servers pageSize
      (past ++ visits (.ofServers servers pageSize maxPages mapping) now calls)
      (sessionAfter (.ofServers servers pageSize maxPages mapping) now calls) := by
  induction calls generalizing past now with
  | nil =>
    rw [visits, List.append_nil]
    exact h
  | cons call calls ih =>
    have visited := performed_visit servers pageSize maxPages mapping call now
    rw [visits, List.append_cons]
    exact ih (h.concat visited.2 rfl rfl)

/-- **The users that are known are those that were read last.**  After any history of operations,
with servers that change and fail as they like, the known users are exactly those that the last
successful reading has found, if they have not been forgotten since.  An operation that fails leaves
them as they were, unless it has read them itself before it finds that what it looks up can be no
name. -/
theorem snapshot_of_visits (world : σ) (calls : List (Call σ)) :
    Snapshot servers (.ofServers servers pageSize maxPages mapping) pageSize maxPages
      (visits (.ofServers servers pageSize maxPages mapping) { world } calls)
      (sessionAfter (.ofServers servers pageSize maxPages mapping) { world } calls) := by
  have start : Remembers servers pageSize [] { world } := by
    refine ⟨fun known => ⟨by rintro ⟨⟩, ?_⟩, .nil, fun _ => rfl⟩
    rintro ⟨users, ⟨front, visit, back, heq, -⟩, -⟩
    simp at heq
  have remembers : Remembers servers pageSize
      (visits (.ofServers servers pageSize maxPages mapping) { world } calls)
      (sessionAfter (.ofServers servers pageSize maxPages mapping) { world } calls) :=
    start.append_visits servers pageSize maxPages mapping calls
  refine ⟨fun visit hv => performed_of_mem_visits servers pageSize maxPages mapping hv, ?_, ?_,
    remembers.nodup, remembers.counts⟩
  · rw [Option.isSome_iff_exists]
    constructor
    · rintro ⟨known, hk⟩
      obtain ⟨users, last, -⟩ := (remembers.roster known).1 hk
      exact ⟨users, last⟩
    · rintro ⟨users, last⟩
      exact ⟨_, (remembers.roster _).2 ⟨users, last, rfl⟩⟩
  · intro users last
    have nobody : (([] : Roster).map (·.1)).Nodup := List.Pairwise.nil
    refine ⟨_, (remembers.roster _).2 ⟨users, last, rfl⟩, Roster.nodup_putAll nobody users, ?_⟩
    intro name
    rw [Roster.lookup_putAll]
    exact Option.or_none

end

/-- A name that is mapped to a list cannot be looked up, but the users have been read by then and stay
known. -/
theorem not_atomic_listTarget :
    let resolver := Resolver.ofServers Migration.scripted 100 50
      [(.ofString "zed", .list [.ofString "z"])]
    ¬∀ visit ∈ visits resolver { world := [] } [⟨[], .resolve (some "zed")⟩],
      ∀ failure, visit.result = .error failure →
        visit.after.roster = visit.before.roster ∧ visit.after.misses = visit.before.misses := by
  intro resolver atomic
  let run := ((UserOperation.resolve (some "zed")).perform resolver).start { world := [] }
  have failed : failure? run.1 = some .unhashable := by decide +kernel
  have known : run.2.roster.isSome = true := by decide +kernel
  have kept : run.2.roster = none :=
    (atomic _ List.mem_cons_self .unhashable (eq_error_of_failure? failed)).1
  rw [kept] at known
  cases known

end TicketMigration
