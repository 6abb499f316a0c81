import TicketMigration.Proofs.Transcript

/-!
# The course of a run that writes

What a run asks the servers for is told as a course: requests that create nothing, and postings.
A posting is one thing to create with all attempts to create it, which are one, or two when the
first was made on behalf of a user and refused.  The course goes on only from what succeeds, and
the failure that ends it is the failure of the run.

## Main definitions

* `Write` — a thing to create, with the number that the server gives it if it is an issue.
* `Posting` — a write and how it went; `Posting.attempts` — its requests and answers.
* `Course project faults posts trace ending` — `trace` is what passed in a run that made the
  postings `posts` on a project and ended with the failure `ending`, or with none.  The failures
  in `faults` may come up without a request.

## Main statements

* `Course.append` — a course goes on with another one if it ends with no failure.
* `Course.filter_isWrite` — the requests that create something are those of the postings.
* `Course.filter_isWrite_of_granted` — where nothing is refused, everything is attempted once.
* `Course.succeeded_prefix` — the postings that succeed are those before the failure.
* `Course.getLast?_of_failure` — the failure of a run is that of its last request.
-/

namespace TicketMigration

/-! ### Writes and postings -/

/-- A thing to create, with the user on whose behalf it is created. -/
inductive Write
  /-- An issue, and the number that it gets. -/
  | issue (draft : IssueDraft) (actor : Option Int) (number : Int)
  /-- A note on the issue of this number. -/
  | note (number : Int) (draft : NoteDraft) (actor : Option Int)
  deriving DecidableEq, Repr

namespace Write

/-- The user on whose behalf the thing is created. -/
def actor : Write → Option Int
  | issue _ actor _ => actor
  | note _ _ actor => actor

/-- One attempt on behalf of a user or of nobody in particular, which fails as given. -/
def attempt (project : String) (actor : Option Int) (failure : Option Failure) : Write → Exchange
  | issue draft _ number =>
    ⟨.createIssue project draft actor, failure.elim (.ok number) .error⟩
  | note number draft _ => ⟨.createNote project number draft actor, failure.elim (.ok ()) .error⟩

@[simp] theorem isWrite_attempt (project : String) (actor : Option Int)
    (failure : Option Failure) (write : Write) :
    (write.attempt project actor failure).isWrite = true := by
  cases write <;> rfl

@[simp] theorem failure?_attempt (project : String) (actor : Option Int)
    (failure : Option Failure) (write : Write) :
    (write.attempt project actor failure).failure? = failure := by
  cases write <;> cases failure <;> rfl

end Write

/-- A write and how it went. -/
structure Posting where
  /-- What was to be created. -/
  write : Write
  /-- The refusal of the first attempt, if there was a second one. -/
  refusal : Option Failure
  /-- The failure of the last attempt, if it failed. -/
  failure : Option Failure
  deriving DecidableEq, Repr

namespace Posting

/-- The attempts to make a posting: the one on behalf of the author and, if that was refused, the
same once more on behalf of nobody in particular. -/
def attempts (project : String) (post : Posting) : List Exchange :=
  match post.refusal with
  | none => [post.write.attempt project post.write.actor post.failure]
  | some refusal =>
    [post.write.attempt project post.write.actor (some refusal),
      post.write.attempt project none post.failure]

/-- There was a second attempt exactly when the first one was made on behalf of a user and was
refused to that user. -/
structure Proper (post : Posting) : Prop where
  /-- What made a second attempt necessary was a refusal to a user. -/
  refused : ∀ refusal, post.refusal = some refusal →
    post.write.actor.isSome = true ∧ refusal.isRefusal = true
  /-- A refusal to a user leads to a second attempt. -/
  repeated : post.refusal = none → post.write.actor.isSome = true →
    ∀ failure, post.failure = some failure → failure.isRefusal = false

theorem isWrite_of_mem_attempts {project : String} {post : Posting} {exchange : Exchange}
    (h : exchange ∈ post.attempts project) : exchange.isWrite = true := by
  unfold attempts at h
  split at h
  · rw [List.mem_singleton] at h
    rw [h, Write.isWrite_attempt]
  · rw [List.mem_cons, List.mem_singleton] at h
    rcases h with rfl | rfl <;> exact Write.isWrite_attempt ..

/-- The last attempt fails as the posting does. -/
theorem failure?_getLast?_attempts (project : String) (post : Posting) :
    ∃ exchange, (post.attempts project).getLast? = some exchange ∧
      exchange.failure? = post.failure := by
  unfold attempts
  split
  · exact ⟨_, rfl, Write.failure?_attempt ..⟩
  · exact ⟨_, rfl, Write.failure?_attempt ..⟩

/-- What is refused to nobody is attempted once and succeeds. -/
theorem attempts_of_granted {project : String} {post : Posting}
    (granted : ∀ exchange ∈ post.attempts project, exchange.failure? = none) :
    post.failure = none ∧
      post.attempts project = [post.write.attempt project post.write.actor none] := by
  obtain ⟨last, hlast, hfails⟩ := post.failure?_getLast?_attempts project
  have succeeds : post.failure = none :=
    hfails.symm.trans (granted last (List.mem_of_getLast? hlast))
  refine ⟨succeeds, ?_⟩
  unfold attempts at granted ⊢
  split
  · rw [succeeds]
  · next refusal hr =>
    -- the first attempt has been refused
    rw [hr] at granted
    have := granted _ List.mem_cons_self
    rw [Write.failure?_attempt] at this
    cases this

end Posting

/-! ### Courses -/

/-- A run that reads and posts, and ends with the first failure. -/
inductive Course (project : String) (faults : Failure → Prop) :
    List Posting → List Exchange → Option Failure → Prop
  /-- Nothing more is asked. -/
  | done : Course project faults [] [] none
  /-- Something that creates nothing is asked, and the run goes on. -/
  | read {posts : List Posting} {trace : List Exchange} {ending : Option Failure}
      (exchange : Exchange) (quiet : exchange.Quiet)
      (rest : Course project faults posts trace ending) :
      Course project faults posts (exchange :: trace) ending
  /-- A request that creates nothing fails. -/
  | unread (exchange : Exchange) (failure : Failure) (noWrite : exchange.isWrite = false)
      (fails : exchange.failure? = some failure) :
      Course project faults [] [exchange] (some failure)
  /-- The run fails between two requests. -/
  | fault (failure : Failure) (known : faults failure) : Course project faults [] [] (some failure)
  /-- A posting succeeds, and the run goes on. -/
  | post {posts : List Posting} {trace : List Exchange} {ending : Option Failure}
      (post : Posting) (proper : post.Proper) (succeeds : post.failure = none)
      (rest : Course project faults posts trace ending) :
      Course project faults (post :: posts) (post.attempts project ++ trace) ending
  /-- A posting fails. -/
  | unposted (post : Posting) (failure : Failure) (proper : post.Proper)
      (fails : post.failure = some failure) :
      Course project faults [post] (post.attempts project) (some failure)

namespace Course

variable {project : String} {faults : Failure → Prop} {posts posts' : List Posting}
  {trace trace' : List Exchange} {ending : Option Failure}

/-- Requests that create nothing and are granted lead on to any course. -/
theorem quiet_append (quiet : ∀ exchange ∈ trace, exchange.Quiet)
    (rest : Course project faults posts trace' ending) :
    Course project faults posts (trace ++ trace') ending := by
  induction trace with
  | nil => exact rest
  | cons exchange trace ih =>
    rw [List.cons_append]
    exact read exchange (quiet _ List.mem_cons_self)
      (ih fun e he => quiet e (List.mem_cons_of_mem _ he))

theorem append (h : Course project faults posts trace none)
    (rest : Course project faults posts' trace' ending) :
    Course project faults (posts ++ posts') (trace ++ trace') ending := by
  generalize hn : (none : Option Failure) = start at h
  induction h with
  | done => exact rest
  | read exchange quiet _ ih => exact read exchange quiet (ih hn)
  | unread => cases hn
  | fault => cases hn
  | post post proper succeeds _ ih =>
    rw [List.append_assoc]
    exact .post post proper succeeds (ih hn)
  | unposted => cases hn

/-- More failures may be known than come up. -/
theorem mono {faults' : Failure → Prop} (h : Course project faults posts trace ending)
    (known : ∀ failure, faults failure → faults' failure) :
    Course project faults' posts trace ending := by
  induction h with
  | done => exact done
  | read exchange quiet _ ih => exact read exchange quiet ih
  | unread exchange failure noWrite fails => exact unread exchange failure noWrite fails
  | fault failure hf => exact fault failure (known failure hf)
  | post post proper succeeds _ ih => exact .post post proper succeeds ih
  | unposted post failure proper fails => exact unposted post failure proper fails

theorem proper_of_mem (h : Course project faults posts trace ending) :
    ∀ post ∈ posts, post.Proper := by
  induction h with
  | done => simp
  | read _ _ _ ih => exact ih
  | unread => simp
  | fault => simp
  | post _ proper _ _ ih => simpa [proper] using ih
  | unposted _ _ proper _ => simpa using proper

/-- **The requests that create something are the attempts of the postings**, in their order. -/
theorem filter_isWrite (h : Course project faults posts trace ending) :
    trace.filter (·.isWrite) = posts.flatMap (·.attempts project) := by
  have attempts (post : Posting) :
      (post.attempts project).filter (·.isWrite) = post.attempts project :=
    List.filter_eq_self.2 fun _ he => Posting.isWrite_of_mem_attempts he
  induction h with
  | done => rfl
  | read exchange quiet _ ih => rw [List.filter_cons_of_neg (by simp [quiet.1]), ih]
  | unread exchange _ noWrite _ => simp [noWrite]
  | fault => rfl
  | post post _ _ _ ih => rw [List.filter_append, attempts, ih, List.flatMap_cons]
  | unposted post => rw [attempts, List.flatMap_cons, List.flatMap_nil, List.append_nil]

/-- A run that ends well has made all its postings. -/
theorem failure_eq_none_of_mem (h : Course project faults posts trace ending)
    (hn : ending = none) : ∀ post ∈ posts, post.failure = none := by
  induction h with
  | done => simp
  | read _ _ _ ih => exact ih hn
  | unread => simp
  | fault => simp
  | post post _ succeeds _ ih => simpa [succeeds] using ih hn
  | unposted => cases hn

/-- Where no request is refused, everything is attempted once, on behalf of its author. -/
theorem filter_isWrite_of_granted (h : Course project faults posts trace ending)
    (granted : ∀ exchange ∈ trace, exchange.failure? = none) :
    trace.filter (·.isWrite)
      = (posts.map (·.write)).map fun write => write.attempt project write.actor none := by
  have once : ∀ post ∈ posts,
      post.attempts project = [post.write.attempt project post.write.actor none] := by
    intro post hp
    refine (Posting.attempts_of_granted fun exchange he => ?_).2
    have written : exchange ∈ trace.filter (·.isWrite) := by
      rw [h.filter_isWrite]
      exact List.mem_flatMap.2 ⟨post, hp, he⟩
    exact granted exchange (List.mem_filter.1 written).1
  rw [h.filter_isWrite, List.flatMap_def, List.map_congr_left once, ← List.flatMap_def,
    List.map_map]
  exact List.map_eq_flatMap.symm

/-- The postings that succeed are those before the failure. -/
theorem succeeded_prefix (h : Course project faults posts trace ending) :
    posts.filter (·.failure.isNone) <+: posts := by
  induction h with
  | done => exact List.prefix_rfl
  | read _ _ _ ih => exact ih
  | unread => exact List.prefix_rfl
  | fault => exact List.prefix_rfl
  | post post _ succeeds _ ih =>
    rw [List.filter_cons_of_pos (by simp [succeeds])]
    exact (List.prefix_append_right_inj [post]).2 ih
  | unposted post failure _ fails =>
    rw [List.filter_cons_of_neg (by simp [fails])]
    exact List.nil_prefix

/-- **The failure of a run is that of the last request**, unless it came up without one. -/
theorem getLast?_of_failure {failure : Failure}
    (h : Course project faults posts trace (some failure)) :
    (∃ exchange, trace.getLast? = some exchange ∧ exchange.failure? = some failure) ∨
      faults failure := by
  generalize hs : some failure = start at h
  induction h with
  | done => cases hs
  | @read _ trace _ exchange _ _ ih =>
    rcases ih hs with ⟨last, hl, hf⟩ | hf
    · exact .inl ⟨last, by rw [List.getLast?_cons, hl]; rfl, hf⟩
    · exact .inr hf
  | unread exchange _ _ fails => exact .inl ⟨exchange, rfl, hs ▸ fails⟩
  | fault _ known =>
    cases hs
    exact .inr known
  | @post _ trace _ post _ _ _ ih =>
    rcases ih hs with ⟨last, hl, hf⟩ | hf
    · exact .inl ⟨last, by rw [List.getLast?_append, hl]; rfl, hf⟩
    · exact .inr hf
  | unposted post _ _ fails =>
    obtain ⟨last, hl, hf⟩ := post.failure?_getLast?_attempts project
    exact .inl ⟨last, hl, by rw [hf, fails, ← hs]⟩

end Course

end TicketMigration
