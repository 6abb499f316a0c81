import TicketMigration.Proofs.Transcript

/-!
# Histories

A session outlives the computations that run in it.  One step is taken after the other, each in the
session that the one before has left behind, be it with a failure; meanwhile the servers may have
come to any other state.  What is known of one step in any session is known of every step of a
history.

## Main definitions

* `Turn` — a step, and the state that the servers have come to when it is taken.
* `Episode` — a step that was taken, with the sessions around it.
* `episodes` — the episodes of a whole history.
* `Episode.trace` — what passed between these sessions.

## Main statements

* `Episode.does_of_mem` — **what every step does is done in every episode.**
-/

namespace TicketMigration

variable {σ ι α : Type}

/-- A step that is to be taken, and the state that the servers have come to by then. -/
structure Turn (σ ι : Type) where
  /-- The state of the servers when the step begins. -/
  world : σ
  /-- The step. -/
  step : ι

/-- A step that was taken, with the sessions around it. -/
structure Episode (σ ι α : Type) where
  /-- The step. -/
  step : ι
  /-- The session in which it began. -/
  before : Session σ
  /-- What came of it. -/
  result : Except Failure α
  /-- The session in which it ended, be it with a failure. -/
  after : Session σ

/-- Takes a step in a session, with the servers as they are by then. -/
def Turn.take (perform : ι → Run σ α) (session : Session σ) (turn : Turn σ ι) : Episode σ ι α where
  step := turn.step
  before := { session with world := turn.world }
  result := ((perform turn.step).start { session with world := turn.world }).1
  after := ((perform turn.step).start { session with world := turn.world }).2

/-- Takes one step after the other, also after failures. -/
def episodes (perform : ι → Run σ α) : Session σ → List (Turn σ ι) → List (Episode σ ι α)
  | _, [] => []
  | session, turn :: rest =>
    turn.take perform session :: episodes perform (turn.take perform session).after rest

namespace Episode

/-- What passed in an episode: its requests, with the answers of the servers. -/
def trace (servers : Servers σ) (episode : Episode σ ι α) : List Exchange :=
  servers.exchanges episode.before episode.after

/-- That an episode passed as a relation says. -/
structure Was (servers : Servers σ) (deed : Run.Deed σ α) (episode : Episode σ ι α) : Prop where
  /-- The trace is all that was asked, with the answers of the servers. -/
  passed : Passed servers episode.before (episode.trace servers) episode.after
  /-- The relation holds of this trace. -/
  deed : deed episode.before (episode.trace servers) episode.result episode.after

/-- What a step does from every session on is done when its turn has come. -/
theorem was_take (perform : ι → Run σ α) {turn : Turn σ ι} {servers : Servers σ}
    {deed : Run.Deed σ α} (does : Run.Does servers (perform turn.step) deed)
    (session : Session σ) : (turn.take perform session).Was servers deed := by
  obtain ⟨trace, passed, done⟩ := does { session with world := turn.world }
  have told : (turn.take perform session).trace servers = trace := passed.exchanges_eq
  rw [← told] at passed done
  exact ⟨passed, done⟩

/-- **What every step does is done in every episode of a history.** -/
theorem does_of_mem {perform : ι → Run σ α} {servers : ι → Servers σ} {deed : ι → Run.Deed σ α}
    (does : ∀ step, Run.Does (servers step) (perform step) (deed step))
    {session : Session σ} {turns : List (Turn σ ι)} {episode : Episode σ ι α}
    (h : episode ∈ episodes perform session turns) :
    episode.Was (servers episode.step) (deed episode.step) := by
  induction turns generalizing session with
  | nil => cases h
  | cons turn rest ih =>
    rcases List.mem_cons.1 h with rfl | h
    · exact was_take perform (does turn.step) session
    · exact ih h

/-- An episode is that of one of the turns. -/
theorem exists_turn {perform : ι → Run σ α} {session : Session σ} {turns : List (Turn σ ι)}
    {episode : Episode σ ι α} (h : episode ∈ episodes perform session turns) :
    ∃ turn ∈ turns, episode.step = turn.step := by
  induction turns generalizing session with
  | nil => cases h
  | cons turn rest ih =>
    rcases List.mem_cons.1 h with rfl | h
    · exact ⟨turn, List.mem_cons_self, rfl⟩
    · obtain ⟨other, ho, hstep⟩ := ih h
      exact ⟨other, List.mem_cons_of_mem _ ho, hstep⟩

end Episode

end TicketMigration
