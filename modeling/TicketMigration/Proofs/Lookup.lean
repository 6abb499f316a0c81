import TicketMigration.Directory
import TicketMigration.Forge
import TicketMigration.Proofs.Course

/-!
# Looking up users

The users are fetched once and then kept, so what a name stands for does not change in the
course of a run: it is what the users that are known at the end of the run make of it.

## Main definitions

* `Resolver.userOf users name` — the user that a name of the tracker stands for.
* `Session.Fits session users` — the users, if any are known yet, are these.
* `Directory.Reads` — fetching a page creates nothing and stops at the first failure.
* `Inquiry` — what any look-up does to a session.

## Main statements

* `Directory.reads_fetchUsers` — fetching from the issue server is of this kind.
* `Resolver.does_find` — **a look-up that succeeds gives the user that the name stands for.**
-/

namespace TicketMigration

variable {σ : Type}

/-! ### What a name stands for -/

/-- The user of a name on the issue server. -/
def Roster.userOf (users : Roster) (name : Value) : Option RemoteUser :=
  (users.find? fun entry => (Value.ofString entry.1).same name).map (·.2)

/-- The user that a name of the tracker stands for; no name at all stands for nobody. -/
def Resolver.userOf (resolver : Resolver σ) (users : Roster) : Option String → Option RemoteUser
  | none => none
  | some name => if name.isEmpty then none else users.userOf (resolver.target name)

/-- The users, if any are known yet, are these. -/
def Session.Fits (session : Session σ) (users : Roster) : Prop :=
  ∀ known, session.roster = some known → known = users

/-- If the users are not known, no look-up has needed them, so any will do. -/
theorem Session.fits_getD (session : Session σ) : session.Fits (session.roster.getD []) := by
  intro known hk
  rw [hk]
  rfl

/-! ### Inquiries -/

/-- What a look-up does: it creates nothing, stops at the first failure, and leaves the users
alone that are known already. -/
structure Inquiry {α : Type} (faults : Failure → Prop) (before : Session σ)
    (trace : List Exchange) (result : Except Failure α) (after : Session σ) : Prop where
  /-- Nothing is created, and a failure ends the look-up. -/
  course : ∀ project, Course project faults [] trace (failure? result)
  /-- The users that were known are known still. -/
  keeps : ∀ known, before.roster = some known → after.roster = some known

namespace Inquiry

variable {α β : Type} {faults : Failure → Prop} {before between after : Session σ}
  {earlier later trace : List Exchange}

theorem silent {result : Except Failure α} (hr : failure? result = none)
    (h : after.roster = before.roster) : Inquiry faults before [] result after :=
  ⟨fun _ => by rw [hr]; exact .done, fun _ hk => by rw [h, hk]⟩

/-- The failure of a part is the failure of the whole. -/
theorem failed {failure : Failure}
    (h : Inquiry faults before trace (.error failure : Except Failure α) after) :
    Inquiry faults before trace (.error failure : Except Failure β) after :=
  ⟨h.course, h.keeps⟩

theorem trans {a : α} {result : Except Failure β}
    (h₁ : Inquiry faults before earlier (.ok a : Except Failure α) between)
    (h₂ : Inquiry faults between later result after) :
    Inquiry faults before (earlier ++ later) result after :=
  ⟨fun project => (h₁.course project).append (h₂.course project),
    fun known hk => h₂.keeps known (h₁.keeps known hk)⟩

theorem mono {faults' : Failure → Prop} {result : Except Failure α}
    (h : Inquiry faults before trace result after)
    (known : ∀ failure, faults failure → faults' failure) :
    Inquiry faults' before trace result after :=
  ⟨fun project => (h.course project).mono known, h.keeps⟩

/-- What fits at the end of a look-up has fitted at its beginning. -/
theorem fits {result : Except Failure α} {users : Roster}
    (h : Inquiry faults before trace result after) (hf : after.Fits users) : before.Fits users :=
  fun known hk => hf known (h.keeps known hk)

end Inquiry

/-! ### The directory -/

namespace Directory

/-- Fetching a page of users creates nothing and stops at the first failure, which is that of a
request or one of `faults`. -/
def Reads (servers : Servers σ) (faults : Failure → Prop) (directory : Directory σ) : Prop :=
  ∀ page size, Run.Does servers (directory.fetch page size) fun _ trace result _ =>
    ∀ project, Course project faults [] trace (failure? result)

/-- A page that is fetched from the issue server is one request. -/
theorem reads_fetchUsers (servers : Servers σ) (pageSize maxPages : Int) :
    Reads servers (fun _ => False) ⟨fetchUsers servers, pageSize, maxPages⟩ := by
  intro page size
  refine (Run.does_send servers _ fun _ => rfl).mono ?_
  rintro before trace result after ⟨rfl, -⟩ project
  cases result with
  | ok users => exact .read _ ⟨rfl, rfl⟩ .done
  | error failure => exact .unread _ failure rfl rfl

variable {servers : Servers σ} {faults : Failure → Prop} {directory : Directory σ}

theorem does_fetchFrom (reads : directory.Reads servers faults) (page left : Nat)
    (users : Roster) :
    Run.Does servers (directory.fetchFrom page left users) fun _ trace result _ =>
      ∀ project, Course project faults [] trace (failure? result) := by
  induction left generalizing page users with
  | zero =>
    exact Run.Does.log_bind _ _ (.of_pure fun _ _ _ _ => .done)
  | succ left ih =>
    refine (reads page directory.pageSize).bind
      (fun _ _ trace result _ => ∀ project, Course project faults [] trace (failure? result))
      (fun listed => ?_) (fun _ _ _ _ h => h)
      (fun _ _ _ _ _ _ _ h₁ h₂ project => (h₁ project).append (h₂ project))
    -- the page was listed: it is the last one, or the next one is fetched
    split
    · exact .of_pure fun _ _ => .done
    · split
      · exact Run.Does.log_bind _ _ (.of_pure fun _ _ _ _ => .done)
      · exact ih (page + 1) _

theorem does_reload (reads : directory.Reads servers faults) :
    Run.Does servers directory.reload fun _ trace result after =>
      (∀ project, Course project faults [] trace (failure? result)) ∧
        ∀ users, result = .ok users → after.roster = some users := by
  refine (does_fetchFrom reads 1 directory.maxPages.toNat []).bind
    (fun users _ trace result after =>
      trace = [] ∧ result = .ok users ∧ after.roster = some users)
    (fun users => ?_) ?_ ?_
  · refine Run.Does.log_bind _ _
      (Run.Does.modify_bind _ (fun _ => rfl) (fun _ => rfl) (.of_pure ?_))
    rintro _ between rfl before rfl
    exact ⟨rfl, rfl, rfl⟩
  · intro before trace failure after h
    exact ⟨h, fun _ h => by cases h⟩
  · rintro before earlier users between later result after h ⟨rfl, rfl, hr⟩
    refine ⟨fun project => (h project).append .done, ?_⟩
    rintro _ ⟨⟩
    exact hr

theorem does_roster (reads : directory.Reads servers faults) :
    Run.Does servers directory.roster fun before trace result after =>
      Inquiry faults before trace result after ∧
        ∀ users, result = .ok users → after.roster = some users := by
  refine Run.Does.get_bind fun session => ?_
  split
  · next users hs =>
    refine .of_pure fun before => ?_
    rintro rfl
    refine ⟨.silent rfl rfl, ?_⟩
    rintro _ ⟨⟩
    exact hs
  · next hs =>
    refine (does_reload reads).mono ?_
    rintro before trace result after ⟨hc, hr⟩ rfl
    exact ⟨⟨hc, fun known hk => by rw [hs] at hk; cases hk⟩, hr⟩

theorem does_get? (reads : directory.Reads servers faults) (name : Value) :
    Run.Does servers (directory.get? name) fun before trace result after =>
      Inquiry (fun failure => failure = .unhashable ∨ faults failure) before trace result after ∧
        ∀ user, result = .ok user →
          ∃ users : Roster, after.roster = some users ∧ user = users.userOf name := by
  refine (does_roster reads).bind
    (fun users before trace result after => trace = [] ∧ after = before ∧
      (result = .ok (users.userOf name) ∨ result = .error .unhashable))
    (fun users => ?_) ?_ ?_
  · split
    · exact .of_pure fun before => ⟨rfl, rfl, .inl rfl⟩
    · exact .of_throw fun before => ⟨rfl, rfl, .inr rfl⟩
  · rintro before trace failure after ⟨h, -⟩
    exact ⟨(h.mono fun _ => .inr).failed, fun _ h => by cases h⟩
  · rintro before earlier users between later result after ⟨h, hu⟩ ⟨rfl, rfl, rfl | rfl⟩
    · refine ⟨(h.mono fun _ => .inr).trans (.silent rfl rfl), ?_⟩
      rintro _ ⟨⟩
      exact ⟨users, hu users rfl, rfl⟩
    · refine ⟨(h.mono fun _ => .inr).trans ⟨fun project => .fault _ (.inl rfl), fun _ hk => hk⟩, ?_⟩
      rintro _ ⟨⟩

end Directory

/-! ### The resolver -/

namespace Resolver

variable {servers : Servers σ} {faults : Failure → Prop} {resolver : Resolver σ}

/-- **A look-up that succeeds gives the user that the name stands for.** -/
theorem does_find (reads : resolver.directory.Reads servers faults) (name : Option String) :
    Run.Does servers (resolver.find name) fun before trace result after =>
      Inquiry (fun failure => failure = .unhashable ∨ faults failure) before trace result after ∧
        ∀ user, result = .ok user →
          ∀ users, after.Fits users → user = resolver.userOf users name := by
  unfold find
  split
  · refine .of_pure fun before => ?_
    refine ⟨.silent rfl rfl, ?_⟩
    rintro _ ⟨⟩ users -
    rfl
  · next name =>
    split
    · next he =>
      refine .of_pure fun before => ?_
      refine ⟨.silent rfl rfl, ?_⟩
      rintro _ ⟨⟩ users -
      simp [userOf, he]
    · next he =>
      refine (Directory.does_get? reads (resolver.target name)).bind
        (fun user before trace result after =>
          trace = [] ∧ result = .ok user ∧ after.roster = before.roster) (fun user => ?_) ?_ ?_
      · split
        · refine Run.Does.modify_bind _ (fun _ => rfl) (fun _ => rfl) (.of_pure ?_)
          rintro _ before rfl
          exact ⟨rfl, rfl, rfl⟩
        · exact .of_pure fun before => ⟨rfl, rfl, rfl⟩
      · rintro before trace failure after ⟨h, -⟩
        exact ⟨h, fun _ h => by cases h⟩
      · rintro before earlier user between later result after ⟨h, hu⟩ ⟨rfl, rfl, hr⟩
        refine ⟨h.trans (.silent rfl hr), ?_⟩
        rintro _ ⟨⟩ users hf
        obtain ⟨known, hk, rfl⟩ := hu _ rfl
        rw [hf known (hr.trans hk)]
        simp [userOf, he]

end Resolver

end TicketMigration
