import TicketMigration.Run

/-!
# Transcripts

A session keeps the requests of a run and the state of the servers.  Since the servers answer
every request from their state, these two give back what was answered: the requests are put to
the servers once more, from the state in which the run began.  A request that is only noted is
answered by nobody and counts as granted.

What a computation does to a session is described by a relation between the session before, the
exchanges, the result and the session after.  Such a relation is shown of each operation once,
and the relation of a longer computation is put together from those of its parts.

## Main definitions

* `Exchange` — a request with its answer.
* `Servers.replay` — the exchanges that a list of requests leads to.
* `Passed` — the exchanges lie between two sessions.
* `Run.Does` — what a computation does, whatever session it starts in.

## Main statements

* `Passed.trans` — transcripts are put together by appending them.
* `Run.Does.bind`, `Run.Does.tryCatch` — **the rules for computations that are put together**;
  `Run.Does.get_bind`, `Run.Does.modify_bind` and `Run.Does.log_bind` are for steps that ask
  nothing.
-/

namespace TicketMigration

variable {σ α β : Type}

/-! ### Results -/

/-- A bind of results that ends well has a first part that ends well. -/
theorem Except.bind_eq_ok {ε : Type} {x : Except ε α} {f : α → Except ε β} {b : β}
    (h : (x >>= f) = .ok b) : ∃ a, x = .ok a ∧ f a = .ok b := by
  cases x with
  | ok a => exact ⟨a, rfl, h⟩
  | error failure => cases h

theorem Except.bind_eq_error {ε : Type} {x : Except ε α} {f : α → Except ε β} {fault : ε}
    (h : (x >>= f) = .error fault) : x = .error fault ∨ ∃ a, x = .ok a ∧ f a = .error fault := by
  cases x with
  | ok a => exact .inr ⟨a, rfl, h⟩
  | error _ => exact .inl (congrArg Except.error (Except.error.inj h))

theorem Except.map_eq_ok {ε : Type} {x : Except ε α} {f : α → β} {b : β}
    (h : x.map f = .ok b) : ∃ a, x = .ok a ∧ f a = b := by
  cases x with
  | ok a => exact ⟨a, rfl, Except.ok.inj h⟩
  | error failure => cases h

/-! ### Exchanges -/

/-- A request and the answer to it. -/
structure Exchange where
  /-- What was asked. -/
  request : Request
  /-- What came of it. -/
  answer : Except Failure request.Answer

/-- The failure that a result is, if it is one. -/
def failure? : Except Failure α → Option Failure
  | .ok _ => none
  | .error failure => some failure

@[simp] theorem failure?_ok (a : α) : failure? (.ok a) = none := rfl

@[simp] theorem failure?_error (failure : Failure) :
    failure? (.error failure : Except Failure α) = some failure := rfl

theorem exists_of_failure?_eq_none {result : Except Failure α} (h : failure? result = none) :
    ∃ a, result = .ok a := by
  cases result with
  | ok a => exact ⟨a, rfl⟩
  | error failure => cases h

theorem eq_error_of_failure? {result : Except Failure α} {failure : Failure}
    (h : failure? result = some failure) : result = .error failure := by
  cases result with
  | ok a => cases h
  | error other => rw [Option.some.inj h]

namespace Exchange

/-- The failure of a request that was not granted. -/
def failure? (exchange : Exchange) : Option Failure :=
  TicketMigration.failure? exchange.answer

/-- Whether something was to be created. -/
def isWrite (exchange : Exchange) : Bool :=
  match exchange.request with
  | .createIssue _ _ _ | .createNote _ _ _ _ => true
  | _ => false

/-- A granted request that was to create nothing. -/
def Quiet (exchange : Exchange) : Prop :=
  exchange.isWrite = false ∧ exchange.failure? = none

end Exchange

/-- The answer to a request, also to one that is only noted. -/
def Servers.settle (servers : Servers σ) (request : Request) (world : σ) :
    Except Failure request.Answer × σ :=
  match request with
  | .connectTracker _ => (.ok (), world)
  | .connectForge _ _ _ => (.ok (), world)
  | .openProject _ => (.ok (), world)
  | .openIssue _ _ => (.ok (), world)
  | .query query => servers.answer (.query query) world
  | .tickets ids => servers.answer (.tickets ids) world
  | .changeLog id => servers.answer (.changeLog id) world
  | .users page size => servers.answer (.users page size) world
  | .createIssue project draft actor => servers.answer (.createIssue project draft actor) world
  | .createNote project issue draft actor =>
    servers.answer (.createNote project issue draft actor) world

/-- Puts requests to the servers one after the other. -/
def Servers.replay (servers : Servers σ) : σ → List Request → List Exchange × σ
  | world, [] => ([], world)
  | world, request :: rest =>
    (⟨request, (servers.settle request world).1⟩
        :: (servers.replay (servers.settle request world).2 rest).1,
      (servers.replay (servers.settle request world).2 rest).2)

theorem Servers.replay_append (servers : Servers σ) (world : σ) (earlier later : List Request) :
    servers.replay world (earlier ++ later) =
      ((servers.replay world earlier).1
          ++ (servers.replay (servers.replay world earlier).2 later).1,
        (servers.replay (servers.replay world earlier).2 later).2) := by
  induction earlier generalizing world with
  | nil => rfl
  | cons request earlier ih =>
    rw [List.cons_append, replay, ih]
    rfl

theorem Servers.length_replay (servers : Servers σ) (world : σ) (requests : List Request) :
    (servers.replay world requests).1.length = requests.length := by
  induction requests generalizing world with
  | nil => rfl
  | cons request rest ih => rw [replay, List.length_cons, ih, List.length_cons]

/-- Exchanges in two parts have passed one part after the other. -/
theorem Servers.replay_eq_append {servers : Servers σ} {world after : σ}
    {earlier later : List Exchange}
    (h : servers.replay world (earlier.map (·.request) ++ later.map (·.request))
      = (earlier ++ later, after)) :
    servers.replay world (earlier.map (·.request))
        = (earlier, (servers.replay world (earlier.map (·.request))).2) ∧
      servers.replay (servers.replay world (earlier.map (·.request))).2
          (later.map (·.request)) = (later, after) := by
  rw [replay_append] at h
  obtain ⟨hboth, hafter⟩ := Prod.mk.inj h
  obtain ⟨hearlier, hlater⟩ := List.append_inj hboth (by rw [length_replay, List.length_map])
  exact ⟨Prod.ext hearlier rfl, Prod.ext hlater hafter⟩

/-- The exchanges that lie between two sessions. -/
structure Passed (servers : Servers σ) (before : Session σ) (trace : List Exchange)
    (after : Session σ) : Prop where
  /-- The requests are those that were recorded in between. -/
  requests : after.requests = before.requests ++ trace.map (·.request)
  /-- The answers are those of the servers. -/
  answers : servers.replay before.world (trace.map (·.request)) = (trace, after.world)

namespace Passed

variable {servers : Servers σ}

/-- Where nothing was asked, nothing passed. -/
theorem refl {before after : Session σ} (hr : after.requests = before.requests)
    (hw : after.world = before.world) : Passed servers before [] after :=
  ⟨by rw [hr, List.map_nil, List.append_nil], by rw [hw]; rfl⟩

theorem trans {before between after : Session σ} {earlier later : List Exchange}
    (h₁ : Passed servers before earlier between) (h₂ : Passed servers between later after) :
    Passed servers before (earlier ++ later) after where
  requests := by rw [h₂.requests, h₁.requests, List.map_append, List.append_assoc]
  answers := by rw [List.map_append, Servers.replay_append, h₁.answers, h₂.answers]

/-- What passed is told by the requests that came up, put to the servers once more. -/
theorem replay_drop {before after : Session σ} {trace : List Exchange}
    (h : Passed servers before trace after) :
    (servers.replay before.world (after.requests.drop before.requests.length)).1 = trace := by
  rw [h.requests, List.drop_left, h.answers]

end Passed

/-- The exchanges between two sessions, told by the requests that came up in between. -/
def Servers.exchanges (servers : Servers σ) (before after : Session σ) : List Exchange :=
  (servers.replay before.world (after.requests.drop before.requests.length)).1

theorem Passed.exchanges_eq {servers : Servers σ} {before after : Session σ}
    {trace : List Exchange} (h : Passed servers before trace after) :
    servers.exchanges before after = trace :=
  h.replay_drop

/-! ### Running computations -/

namespace Run

/-- A computation goes on after a value and ends with a failure. -/
theorem start_bind (x : Run σ α) (f : α → Run σ β) (session : Session σ) :
    (x >>= f).start session =
      match x.start session with
      | (.ok a, after) => (f a).start after
      | (.error failure, after) => (.error failure, after) := by
  simp only [start, ExceptT.run, bind, ExceptT.bind, ExceptT.mk, StateT.bind, StateT.run]
  rcases x session with ⟨_ | _, _⟩ <;> rfl

theorem start_tryCatch (x : Run σ α) (handle : Failure → Run σ α) (session : Session σ) :
    (tryCatch x handle).start session =
      match x.start session with
      | (.ok a, after) => (.ok a, after)
      | (.error failure, after) => (handle failure).start after := by
  simp only [start, ExceptT.run, tryCatch, tryCatchThe, MonadExceptOf.tryCatch, ExceptT.tryCatch,
    ExceptT.mk, bind, StateT.bind, StateT.run]
  rcases x session with ⟨_ | _, _⟩ <;> rfl

/-! ### What a computation does -/

/-- A relation between the session before a computation, what passes during it, its result and the
session after it. -/
abbrev Deed (σ α : Type) :=
  Session σ → List Exchange → Except Failure α → Session σ → Prop

/-- From every session on, the computation asks the servers for all that it records, and what it
does is as the relation says. -/
def Does (servers : Servers σ) (x : Run σ α) (deed : Deed σ α) : Prop :=
  ∀ before, ∃ trace, Passed servers before trace (x.start before).2 ∧
    deed before trace (x.start before).1 (x.start before).2

namespace Does

variable {servers : Servers σ} {x : Run σ α} {deed : Deed σ α}

theorem mono {deed' : Deed σ α} (hx : Does servers x deed)
    (h : ∀ before trace result after, deed before trace result after →
      deed' before trace result after) : Does servers x deed' := by
  intro before
  obtain ⟨trace, hp, hd⟩ := hx before
  exact ⟨trace, hp, h _ _ _ _ hd⟩

/-- Two things that a computation does, it does with the same exchanges. -/
theorem and {deed' : Deed σ α} (hx : Does servers x deed) (hx' : Does servers x deed') :
    Does servers x fun before trace result after =>
      deed before trace result after ∧ deed' before trace result after := by
  intro before
  obtain ⟨trace, hp, hd⟩ := hx before
  obtain ⟨trace', hp', hd'⟩ := hx' before
  obtain rfl : trace = trace' := hp.replay_drop.symm.trans hp'.replay_drop
  exact ⟨trace, hp, hd, hd'⟩

/-- The rule for a value. -/
theorem of_pure {a : α} (h : ∀ session, deed session [] (.ok a) session) :
    Does servers (pure a) deed :=
  fun session => ⟨[], .refl rfl rfl, h session⟩

/-- The rule for a failure. -/
theorem of_throw {failure : Failure} (h : ∀ session, deed session [] (.error failure) session) :
    Does servers (throw failure) deed :=
  fun session => ⟨[], .refl rfl rfl, h session⟩

/-- **The rule for a computation that goes on with a value.**  A failure of the first part is one
of the whole; otherwise the second part follows. -/
theorem bind {f : α → Run σ β} {whole : Deed σ β} (hx : Does servers x deed)
    (next : α → Deed σ β) (hf : ∀ a, Does servers (f a) (next a))
    (failed : ∀ before trace failure after, deed before trace (.error failure) after →
      whole before trace (.error failure) after)
    (went : ∀ before earlier a between later result after,
      deed before earlier (.ok a) between → next a between later result after →
      whole before (earlier ++ later) result after) :
    Does servers (x >>= f) whole := by
  intro before
  obtain ⟨earlier, hp, hd⟩ := hx before
  rw [start_bind]
  rcases hr : x.start before with ⟨_ | a, between⟩
  · rw [hr] at hp hd
    exact ⟨earlier, hp, failed _ _ _ _ hd⟩
  · rw [hr] at hp hd
    obtain ⟨later, hp', hd'⟩ := hf a between
    exact ⟨earlier ++ later, hp.trans hp', went _ _ _ _ _ _ _ hd hd'⟩

/-- The rule for a computation whose value is only changed. -/
theorem map {g : α → β} {whole : Deed σ β} (hx : Does servers x deed)
    (failed : ∀ before trace failure after, deed before trace (.error failure) after →
      whole before trace (.error failure) after)
    (went : ∀ before trace a after, deed before trace (.ok a) after →
      whole before trace (.ok (g a)) after) :
    Does servers (do let a ← x; pure (g a)) whole := by
  intro before
  obtain ⟨trace, hp, hd⟩ := hx before
  rw [start_bind]
  rcases hr : x.start before with ⟨_ | a, after⟩
  · rw [hr] at hp hd
    exact ⟨trace, hp, failed _ _ _ _ hd⟩
  · rw [hr] at hp hd
    exact ⟨trace, hp, went _ _ _ _ hd⟩

/-- **The rule for a computation whose failures are handled.** -/
theorem tryCatch {handle : Failure → Run σ α} {whole : Deed σ α} (hx : Does servers x deed)
    (next : Failure → Deed σ α) (hf : ∀ failure, Does servers (handle failure) (next failure))
    (went : ∀ before trace a after, deed before trace (.ok a) after →
      whole before trace (.ok a) after)
    (failed : ∀ before earlier failure between later result after,
      deed before earlier (.error failure) between →
      next failure between later result after →
      whole before (earlier ++ later) result after) :
    Does servers (MonadExcept.tryCatch x handle) whole := by
  intro before
  obtain ⟨earlier, hp, hd⟩ := hx before
  rw [start_tryCatch]
  rcases hr : x.start before with ⟨failure | a, between⟩
  · rw [hr] at hp hd
    obtain ⟨later, hp', hd'⟩ := hf failure between
    exact ⟨earlier ++ later, hp.trans hp', failed _ _ _ _ _ _ _ hd hd'⟩
  · rw [hr] at hp hd
    exact ⟨earlier, hp, went _ _ _ _ hd⟩

/-- What is done with the session that is read. -/
theorem get_bind {f : Session σ → Run σ β} {whole : Deed σ β}
    (hf : ∀ session, Does servers (f session) fun before trace result after =>
      session = before → whole before trace result after) :
    Does servers (get >>= f) whole := by
  intro before
  obtain ⟨trace, hp, hd⟩ := hf before before
  rw [start_bind]
  exact ⟨trace, hp, hd rfl⟩

/-- A change that concerns neither the requests nor the servers is made, and then the rest is
done. -/
theorem modify_bind {f : Unit → Run σ β} {whole : Deed σ β} (change : Session σ → Session σ)
    (hr : ∀ session, (change session).requests = session.requests)
    (hw : ∀ session, (change session).world = session.world)
    (hf : Does servers (f ()) fun between trace result after =>
      ∀ before, between = change before → whole before trace result after) :
    Does servers (modify change >>= f) whole := by
  intro before
  obtain ⟨trace, hp, hd⟩ := hf (change before)
  rw [start_bind]
  exact ⟨trace, ⟨hp.requests.trans (by rw [hr]), by rw [← hw]; exact hp.answers⟩, hd before rfl⟩

/-- A line of the log is written, and then the rest is done. -/
theorem log_bind {f : Unit → Run σ β} {whole : Deed σ β} (level : Level) (text : String)
    (hf : Does servers (f ()) fun between trace result after =>
      ∀ before, between = { before with log := before.log ++ [⟨level, text⟩] } →
        whole before trace result after) :
    Does servers (Run.log level text >>= f) whole :=
  modify_bind _ (fun _ => rfl) (fun _ => rfl) hf

end Does

variable (servers : Servers σ)

theorem does_pure (a : α) : Does servers (pure a : Run σ α) fun before trace result after =>
    trace = [] ∧ result = .ok a ∧ after = before :=
  .of_pure fun _ => ⟨rfl, rfl, rfl⟩

theorem does_modify (change : Session σ → Session σ)
    (hr : ∀ session, (change session).requests = session.requests)
    (hw : ∀ session, (change session).world = session.world) :
    Does servers (modify change : Run σ Unit) fun before trace result after =>
      trace = [] ∧ result = .ok () ∧ after = change before :=
  fun before => ⟨[], .refl (hr before) (hw before), rfl, rfl, rfl⟩

theorem does_log (level : Level) (text : String) :
    Does servers (Run.log level text : Run σ Unit) fun before trace result after =>
      trace = [] ∧ result = .ok () ∧
        after = { before with log := before.log ++ [⟨level, text⟩] } :=
  does_modify servers _ (fun _ => rfl) fun _ => rfl

/-- A request that is sent is answered by the servers, and this answer is the result. -/
theorem does_send (request : Request)
    (h : ∀ world, servers.settle request world = servers.answer request world) :
    Does servers (Run.send servers request) fun before trace result after =>
      trace = [⟨request, result⟩] ∧
        after = { before with world := after.world, requests := after.requests } := by
  intro before
  refine ⟨[⟨request, (servers.answer request before.world).1⟩], ⟨rfl, ?_⟩, rfl, rfl⟩
  simp only [List.map_cons, List.map_nil, Servers.replay, h]
  rfl

/-- A request that is only noted counts as granted. -/
theorem does_record (request : Request) {answer : request.Answer}
    (h : ∀ world, servers.settle request world = (.ok answer, world)) :
    Does servers (Run.record request) fun before trace result after =>
      trace = [⟨request, .ok answer⟩] ∧ result = .ok () ∧
        after = { before with requests := before.requests ++ [request] } := by
  intro before
  refine ⟨[⟨request, .ok answer⟩], ⟨rfl, ?_⟩, rfl, rfl, rfl⟩
  simp only [List.map_cons, List.map_nil, Servers.replay, h]
  rfl

end Run

end TicketMigration
