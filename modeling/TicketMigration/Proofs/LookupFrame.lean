import TicketMigration.Proofs.Posting
import TicketMigration.Proofs.Rosters

/-!
# What a look-up leaves alone

Looking up a user may fetch the users.  It asks for nothing of a project, tells the operator
nothing, and counts the name if nobody is found.

## Main definitions

* `Request.concernsProject` — something of a project of the issue server is asked for.
* `infos` — what is told of what happens as it should.
* `Explained` — a failure is that of a request, or is known.
* `Directory.Plain` — fetching a page of users only asks for it.
* `Perused` — what reading the users leaves alone.
* `Tally.addAll` — several names are counted.
* `Resolver.missed?` — the name that is counted when a name is looked up.
* `Resolver.canFind` — a name is mapped to something that can be a name.
* `Resolver.Fault` — the failures that a look-up may end with, besides those of requests.
* `Resolver.Sought` — what looking up a name does to a session.

## Main statements

* `Directory.plain_fetchUsers` — fetching from the issue server is of this kind.
* `Tally.count_addAll` — every name is counted as often as it occurs.
* `Resolver.does_find_sought` — **a look-up counts the name if it stands for nobody**, and does
  nothing else that would show.
-/

namespace TicketMigration

variable {σ α β : Type}

/-- Whether something of a project of the issue server is asked for. -/
def Request.concernsProject : Request → Bool
  | .openProject _ | .createIssue _ _ _ | .openIssue _ _ | .createNote _ _ _ _ => true
  | _ => false

/-- The texts of the lines that say what happens as it should. -/
def infos (lines : List LogLine) : List String :=
  (lines.filter fun line => line.level = .info).map (·.text)

theorem infos_append (lines more : List LogLine) :
    infos (lines ++ more) = infos lines ++ infos more := by
  rw [infos, List.filter_append, List.map_append]
  rfl

/-- A failure is that of a request, or one of those that come up without one. -/
def Explained (faults : Failure → Prop) (trace : List Exchange) (failure : Failure) : Prop :=
  (∃ exchange ∈ trace, exchange.failure? = some failure) ∨ faults failure

namespace Explained

variable {faults : Failure → Prop} {earlier later trace : List Exchange} {failure : Failure}

/-- More failures may be known than come up. -/
theorem mono {faults' : Failure → Prop} (h : Explained faults trace failure)
    (known : ∀ failure, faults failure → faults' failure) : Explained faults' trace failure :=
  h.imp id (known failure)

theorem behind (h : Explained faults later failure) : Explained faults (earlier ++ later) failure :=
  h.imp (fun ⟨exchange, he, hf⟩ => ⟨exchange, List.mem_append_right _ he, hf⟩) id

/-- The failure of a course is that of its last request, or known. -/
theorem ofCourse {project : String} {posts : List Posting}
    (h : Course project faults posts trace (some failure)) : Explained faults trace failure :=
  h.getLast?_of_failure.imp
    (fun ⟨exchange, hlast, hfails⟩ => ⟨exchange, List.mem_of_getLast? hlast, hfails⟩) id

end Explained

/-! ### Reading the users -/

/-- What reading the users leaves alone. -/
structure Perused (faults : Failure → Prop) (before : Session σ) (trace : List Exchange)
    (result : Except Failure α) (after : Session σ) : Prop where
  /-- Nothing of a project is asked for. -/
  asks : ∀ exchange ∈ trace, exchange.request.concernsProject = false
  /-- A failure is that of a request, or one of `faults`. -/
  fails : ∀ failure, failure? result = some failure → Explained faults trace failure
  /-- Nothing is told that would be of interest if all goes well. -/
  logged : ∃ lines, after.log = before.log ++ lines ∧ infos lines = []
  /-- Nothing is counted. -/
  misses : after.misses = before.misses

namespace Perused

variable {faults : Failure → Prop} {before between after : Session σ}
  {earlier later trace : List Exchange}

theorem silent {result : Except Failure α}
    (known : ∀ failure, failure? result = some failure → faults failure)
    (log : after.log = before.log) (misses : after.misses = before.misses) :
    Perused faults before [] result after :=
  ⟨by simp, fun failure hf => .inr (known failure hf), ⟨[], by rw [log, List.append_nil], rfl⟩,
    misses⟩

/-- More failures may be known than come up. -/
theorem mono {faults' : Failure → Prop} {result : Except Failure α}
    (h : Perused faults before trace result after)
    (known : ∀ failure, faults failure → faults' failure) :
    Perused faults' before trace result after :=
  ⟨h.asks, fun failure hf => (h.fails failure hf).mono known, h.logged, h.misses⟩

theorem failed {failure : Failure}
    (h : Perused faults before trace (.error failure : Except Failure α) after) :
    Perused faults before trace (.error failure : Except Failure β) after :=
  ⟨h.asks, h.fails, h.logged, h.misses⟩

theorem trans {a : α} {result : Except Failure β}
    (h₁ : Perused faults before earlier (.ok a : Except Failure α) between)
    (h₂ : Perused faults between later result after) :
    Perused faults before (earlier ++ later) result after where
  asks := List.forall_mem_append.2 ⟨h₁.asks, h₂.asks⟩
  fails failure hf := (h₂.fails failure hf).behind
  logged := by
    obtain ⟨lines, hlog, silent⟩ := h₁.logged
    obtain ⟨lines', hlog', silent'⟩ := h₂.logged
    refine ⟨lines ++ lines', ?_, ?_⟩
    · rw [hlog', hlog, List.append_assoc]
    · rw [infos_append, silent, silent', List.append_nil]
  misses := h₂.misses.trans h₁.misses

/-- One part of the reading is followed by the rest. -/
theorem bind {servers : Servers σ} {x : Run σ α} {f : α → Run σ β}
    (hx : Run.Does servers x (Perused faults)) (hf : ∀ a, Run.Does servers (f a) (Perused faults)) :
    Run.Does servers (x >>= f) (Perused faults) :=
  Run.Does.bind hx _ hf (fun _ _ _ _ h => h.failed) fun _ _ _ _ _ _ _ h₁ h₂ => h₁.trans h₂

theorem does_pure {servers : Servers σ} (a : α) :
    Run.Does servers (pure a) (Perused faults) :=
  .of_pure fun _ => silent (by simp) rfl rfl

/-- A change that concerns neither the log nor what is counted. -/
theorem does_modify {servers : Servers σ} (change : Session σ → Session σ)
    (requests : ∀ session, (change session).requests = session.requests)
    (world : ∀ session, (change session).world = session.world)
    (log : ∀ session, (change session).log = session.log)
    (misses : ∀ session, (change session).misses = session.misses) :
    Run.Does servers (modify change) (Perused faults) := by
  refine (Run.does_modify servers change requests world).mono ?_
  rintro before _ _ _ ⟨rfl, rfl, rfl⟩
  exact silent (by simp) (log before) (misses before)

/-- A line for those who look for a fault, or a warning. -/
theorem does_log {servers : Servers σ} {level : Level} (h : level ≠ .info) (text : String) :
    Run.Does servers (Run.log level text) (Perused faults) := by
  refine (Run.does_log servers level text).mono ?_
  rintro before _ _ _ ⟨rfl, rfl, rfl⟩
  exact ⟨by simp, by simp, ⟨[⟨level, text⟩], rfl, by simp [infos, h]⟩, rfl⟩

end Perused

namespace Directory

/-- Fetching a page of users asks for nothing of a project, stops at the first failure, which is
that of a request or one of `faults`, and otherwise leaves the session as it was. -/
def Plain (servers : Servers σ) (faults : Failure → Prop) (directory : Directory σ) : Prop :=
  ∀ page size, Run.Does servers (directory.fetch page size) fun before trace result after =>
    (∀ project, Course project faults [] trace (failure? result)) ∧
      (∀ exchange ∈ trace, exchange.request.concernsProject = false) ∧
        after = { before with world := after.world, requests := after.requests }

/-- A page that is fetched from the issue server is one request. -/
theorem plain_fetchUsers (servers : Servers σ) (pageSize maxPages : Int) :
    Plain servers (fun _ => False) ⟨fetchUsers servers, pageSize, maxPages⟩ := by
  intro page size
  refine ((reads_fetchUsers servers pageSize maxPages page size).and
    (Run.does_send servers (.users page size) fun _ => rfl)).mono ?_
  rintro before trace result after ⟨course, rfl, same⟩
  refine ⟨course, ?_, same⟩
  intro exchange he
  rw [List.mem_singleton.1 he]
  rfl

variable {servers : Servers σ} {faults : Failure → Prop} {directory : Directory σ}

theorem Plain.reads (plain : directory.Plain servers faults) : directory.Reads servers faults :=
  fun page size => (plain page size).mono fun _ _ _ _ h => h.1

/-- A page is fetched without anything else that would show. -/
theorem Plain.does_fetch (plain : directory.Plain servers faults) (page size : Int) :
    Run.Does servers (directory.fetch page size) (Perused faults) := by
  refine (plain page size).mono ?_
  rintro before trace result after ⟨course, asks, same⟩
  refine ⟨asks, fun failure hf => ?_, ⟨[], by rw [same, List.append_nil], rfl⟩, by rw [same]⟩
  -- a course that creates nothing is one on any project
  exact .ofCourse (hf ▸ course "")

theorem does_fetchFrom_perused (plain : directory.Plain servers faults) (page left : Nat)
    (users : Roster) :
    Run.Does servers (directory.fetchFrom page left users) (Perused faults) := by
  induction left generalizing page users with
  | zero => exact Perused.bind (Perused.does_log (by simp) _) fun _ => Perused.does_pure users
  | succ left ih =>
    refine Perused.bind (plain.does_fetch page _) fun listed => ?_
    -- the page was listed: it is the last one, or the next one is fetched
    split
    · exact Perused.does_pure _
    · split
      · exact Perused.bind (Perused.does_log (by simp) _) fun _ => Perused.does_pure _
      · exact ih (page + 1) _

theorem does_roster_perused (plain : directory.Plain servers faults) :
    Run.Does servers directory.roster (Perused faults) := by
  refine Run.Does.get_bind fun session => ?_
  split
  · exact (Perused.does_pure _).mono fun _ _ _ _ h _ => h
  · have reload : Run.Does servers directory.reload (Perused faults) := by
      refine Perused.bind (does_fetchFrom_perused plain 1 _ []) fun users => ?_
      refine Perused.bind (Perused.does_log (by simp) _) fun _ => ?_
      exact Perused.bind (Perused.does_modify _ (fun _ => rfl) (fun _ => rfl) (fun _ => rfl)
        fun _ => rfl) fun _ => Perused.does_pure users
    exact reload.mono fun _ _ _ _ h _ => h

/-- What is looked up must be something that a name can be; otherwise the look-up fails. -/
theorem does_get?_perused (plain : directory.Plain servers faults) (name : Value) :
    Run.Does servers (directory.get? name) fun before trace result after =>
      Perused (fun failure => (failure = .unhashable ∧ name.isKey = false) ∨ faults failure)
          before trace result after ∧
        ∀ user, result = .ok user → name.isKey = true := by
  refine (does_roster_perused plain).bind
    (fun _ before trace result after =>
      Perused (fun failure => (failure = .unhashable ∧ name.isKey = false) ∨ faults failure)
          before trace result after ∧
        ∀ user, result = .ok user → name.isKey = true) (fun users => ?_) ?_ ?_
  · split
    · next key => exact .of_pure fun _ => ⟨.silent (by simp) rfl rfl, fun _ _ => key⟩
    · next key =>
      refine .of_throw fun session => ⟨Perused.silent ?_ rfl rfl, by simp⟩
      rintro _ ⟨⟩
      exact .inl ⟨rfl, by simpa using key⟩
  · rintro before trace failure after h
    exact ⟨(h.mono fun _ => .inr).failed, by simp⟩
  · rintro before earlier users between later result after h ⟨h', key⟩
    exact ⟨(h.mono fun _ => .inr).trans h', key⟩

end Directory

/-! ### Names that are counted -/

namespace Tally

/-- Counts several names, one after the other. -/
def addAll (tally : Tally) (names : List String) : Tally :=
  names.foldl (fun tally name => tally.add name) tally

@[simp] theorem addAll_nil (tally : Tally) : tally.addAll [] = tally := rfl

theorem addAll_append (tally : Tally) (names more : List String) :
    tally.addAll (names ++ more) = (tally.addAll names).addAll more := List.foldl_append

theorem count_add (name other : String) (tally : Tally) :
    (tally.add name).count other = tally.count other + if other = name then 1 else 0 := by
  rw [count, lookup_add]
  split
  · next h => rw [h, Option.getD_some]
  · rw [count, Nat.add_zero]

/-- **Every name is counted as often as it occurs.** -/
theorem count_addAll (tally : Tally) (names : List String) (other : String) :
    (tally.addAll names).count other = tally.count other + names.count other := by
  induction names generalizing tally with
  | nil => rfl
  | cons name names ih =>
    have first : (tally.addAll (name :: names)) = (tally.add name).addAll names := rfl
    rw [first, ih, count_add, List.count_cons, Nat.add_assoc, Nat.add_comm (names.count other)]
    simp only [beq_iff_eq, eq_comm (a := name)]

end Tally

/-- The value of a key is that of one of the entries. -/
theorem Entries.exists_of_get? {entries : Entries} {key value : Value}
    (h : entries.get? key = some value) : ∃ entry ∈ entries, entry.2 = value := by
  induction entries with
  | nil => cases h
  | cons entry rest ih =>
    rw [get?] at h
    split at h
    · exact ⟨entry, List.mem_cons_self, Option.some.inj h⟩
    · obtain ⟨other, ho, hv⟩ := ih h
      exact ⟨other, List.mem_cons_of_mem _ ho, hv⟩

namespace Resolver

variable (resolver : Resolver σ)

/-- The name that is counted when this user, or nobody, is found for a name. -/
def uncovered (name : Option String) (user : Option RemoteUser) : Option String :=
  match name, user with
  | some name, none => if name.isEmpty then none else some name
  | _, _ => none

/-- The name that is counted when a name is looked up among these users. -/
def missed? (users : Roster) (name : Option String) : Option String :=
  uncovered name (resolver.userOf users name)

/-- Whether a name can be looked up: what it is mapped to, or else the name itself, can be a name.
No name at all stands for nobody. -/
def canFind : Option String → Bool
  | none => true
  | some name => name.isEmpty || (resolver.target name).isKey

/-- Where names are mapped to what can be a name, every name can be looked up. -/
theorem canFind_of_keys (keys : ∀ entry ∈ resolver.mapping, entry.2.isKey = true)
    (name : Option String) : resolver.canFind name = true := by
  cases name with
  | none => rfl
  | some name =>
    rw [canFind, Bool.or_eq_true, target]
    refine .inr ?_
    cases hv : resolver.mapping.get? (.ofString name) with
    | none => rfl
    | some value =>
      obtain ⟨entry, he, rfl⟩ := Entries.exists_of_get? hv
      exact keys entry he

/-- What cannot be looked up is a name that is mapped to something that can be no name. -/
theorem exists_target_of_canFind {name : Option String} (h : resolver.canFind name = false) :
    ∃ name, (resolver.target name).isKey = false := by
  cases name with
  | none => cases h
  | some name =>
    rw [canFind, Bool.or_eq_false_iff] at h
    exact ⟨name, h.2⟩

/-- A failure that comes up because a name is mapped to something that can be no name, or one of
those that fetching a page may end with. -/
def Fault (faults : Failure → Prop) (name : Option String) (failure : Failure) : Prop :=
  (failure = .unhashable ∧ resolver.canFind name = false) ∨ faults failure

/-- What looking up a name does. -/
structure Sought (faults : Failure → Prop) (name : Option String) (before : Session σ)
    (trace : List Exchange) (result : Except Failure (Option RemoteUser)) (after : Session σ) :
    Prop where
  /-- Nothing of a project is asked for. -/
  asks : ∀ exchange ∈ trace, exchange.request.concernsProject = false
  /-- A failure is that of a request, or comes of what the name is mapped to. -/
  fails : ∀ failure, failure? result = some failure →
    Explained (resolver.Fault faults name) trace failure
  /-- It succeeds only if the name can be looked up. -/
  found : ∀ user, result = .ok user → resolver.canFind name = true
  /-- Nothing is told that would be of interest if all goes well. -/
  logged : ∃ lines, after.log = before.log ++ lines ∧ infos lines = []
  /-- The users that were known are known still. -/
  keeps : ∀ known, before.roster = some known → after.roster = some known
  /-- Where the look-up succeeds, the name is counted if it stands for nobody. -/
  counted : ∀ user, result = .ok user → ∀ users, after.Fits users →
    after.misses = before.misses.addAll (resolver.missed? users name).toList
  /-- Where it fails, nothing is counted. -/
  uncounted : ∀ failure, result = .error failure → after.misses = before.misses

variable {resolver} {servers : Servers σ} {faults : Failure → Prop}

/-- A name for which nobody has been found is counted. -/
theorem does_count {name : String} (named : ¬name.isEmpty = true) (user : Option RemoteUser) :
    Run.Does servers
      (do
        if user.isNone then
          modify fun session => { session with misses := session.misses.add name }
        return user)
      fun before trace result after => trace = [] ∧ result = .ok user ∧ after.log = before.log ∧
        after.misses = before.misses.addAll (uncovered (some name) user).toList := by
  cases user with
  | none =>
    refine Run.Does.modify_bind _ (fun _ => rfl) (fun _ => rfl) (.of_pure ?_)
    rintro _ before rfl
    refine ⟨rfl, rfl, rfl, ?_⟩
    rw [uncovered, if_neg named]
    rfl
  | some user => exact .of_pure fun before => ⟨rfl, rfl, rfl, rfl⟩

/-- The parts of a look-up that do not depend on who the users are. -/
theorem does_find_frame (plain : resolver.directory.Plain servers faults) (name : Option String) :
    Run.Does servers (resolver.find name) fun before trace result after =>
      Perused (resolver.Fault faults name) before trace result
          { after with misses := before.misses } ∧
        (∀ user, result = .ok user → resolver.canFind name = true ∧
          after.misses = before.misses.addAll (uncovered name user).toList) ∧
        ∀ failure, result = .error failure → after.misses = before.misses := by
  unfold find
  split
  · -- no name at all
    refine .of_pure fun before => ⟨.silent (by simp) rfl rfl, ?_, by simp⟩
    rintro _ ⟨⟩
    exact ⟨rfl, rfl⟩
  · next text =>
    split
    · next empty =>
      refine .of_pure fun before => ⟨.silent (by simp) rfl rfl, ?_, by simp⟩
      rintro _ ⟨⟩
      rw [uncovered, if_pos empty, canFind, empty]
      exact ⟨rfl, rfl⟩
    · next named =>
      refine (Directory.does_get?_perused plain (resolver.target text)).bind _
        (fun user => does_count named user) ?_ ?_
      · rintro before trace failure after ⟨h, -⟩
        refine ⟨⟨h.asks, fun failure hf => (h.fails failure hf).imp id ?_, h.logged, rfl⟩, by simp,
          fun _ _ => h.misses⟩
        exact fun fault => fault.imp (fun h => ⟨h.1, by simp [canFind, named, h.2]⟩) id
      · rintro before earlier user between later result after ⟨h, key⟩ ⟨rfl, rfl, hlog, hmisses⟩
        rw [List.append_nil]
        refine ⟨⟨h.asks, by simp, ?_, rfl⟩, ?_, by simp⟩
        · obtain ⟨lines, hlines, silent⟩ := h.logged
          exact ⟨lines, hlog.trans hlines, silent⟩
        · rintro _ ⟨⟩
          refine ⟨?_, by rw [hmisses, h.misses]⟩
          rw [canFind, key user rfl, Bool.or_true]

/-- **A look-up counts the name if it stands for nobody**, and does nothing else that would show. -/
theorem does_find_sought (plain : resolver.directory.Plain servers faults) (name : Option String) :
    Run.Does servers (resolver.find name) (resolver.Sought faults name) := by
  refine ((does_find_frame plain name).and (does_find plain.reads name)).mono ?_
  rintro before trace result after ⟨⟨perused, counted, uncounted⟩, inquiry, found⟩
  refine ⟨perused.asks, perused.fails, fun user hr => (counted user hr).1, perused.logged,
    inquiry.keeps, ?_, uncounted⟩
  intro user hr users fits
  rw [(counted user hr).2, found user hr users fits, missed?]

end Resolver

end TicketMigration
