import TicketMigration.Proofs.Tallies

/-!
# What a run has got done

A migration is planned as a sequence of acts: for every ticket the owner and the reporter are looked
up and then its issue is created, and for every comment its author is looked up and then its note is
created.  A run goes through the plan up to its end or to the first act that fails.  The names that
it has looked up by then, and only these, decide what it counts.

## Main definitions

* `Act` — a name is looked up, or something is created.
* `Migration.acts` — the plan for a ticket.
* `Migration.Enacts` — a run goes through a plan, looks up these names and ends so.
* `MigrationOptions.reached` — the tickets that a migration goes through.

## Main statements

* `Migration.enacted_migrateAll` — **a migration goes through the plan for its tickets.**
* `Migration.Enacts.misses_eq` — **what is counted are the names that were looked up** and stand for
  nobody.
-/

namespace TicketMigration

open Markup

variable {σ α β : Type}

/-- A step of a migration. -/
inductive Act
  /-- A name is looked up. -/
  | look (name : Option String)
  /-- An issue or a note is created. -/
  | create
  deriving DecidableEq, Repr

/-- The name that an act looks up. -/
def Act.name? : Act → Option (Option String)
  | look name => some name
  | create => none

/-- The tickets that a migration goes through.  It looks at the number of tickets only behind a
ticket, so it goes through the first one in any case. -/
def MigrationOptions.reached (options : MigrationOptions) (tickets : List Ticket) : List Ticket :=
  if options.maxTickets = 0 then tickets else tickets.take (max 1 options.maxTickets.toNat)

namespace Migration

variable {migration : Migration σ} {project : String}

/-- The acts for a comment. -/
def commentActs (comment : Comment) : List Act :=
  [.look comment.author, .create]

/-- The acts for a ticket.  A dry run creates nothing and does not look at the comments. -/
def acts (options : MigrationOptions) (ticket : Ticket) : List Act :=
  .look ticket.owner :: .look ticket.reporter
    :: if options.dryRun then [] else .create :: ticket.comments.flatMap commentActs

/-! ### Going through a plan -/

/-- From the first session to the last one, a run goes through the acts of a plan.  It looks up the
given names, and these look-ups succeed.  It ends with the first act that fails, or with none. -/
inductive Enacts (migration : Migration σ) (project : String) :
    Session σ → List Act → List (Option String) → Option Failure → Session σ → Prop
  /-- Nothing is left to do. -/
  | done (session : Session σ) : Enacts migration project session [] [] none session
  /-- A line of the log is written in between. -/
  | tell {before after : Session σ} {plan : List Act} {looked : List (Option String)}
      {ending : Option Failure} (line : LogLine)
      (rest : Enacts migration project { before with log := before.log ++ [line] } plan looked
        ending after) : Enacts migration project before plan looked ending after
  /-- A name is looked up, and the run goes on. -/
  | look {before between after : Session σ} {plan : List Act} {looked : List (Option String)}
      {ending : Option Failure} (name : Option String) (user : Option RemoteUser)
      (finds : (migration.resolver.find name).start before = (.ok user, between))
      (rest : Enacts migration project between plan looked ending after) :
      Enacts migration project before (.look name :: plan) (name :: looked) ending after
  /-- A look-up fails. -/
  | unseen {before after : Session σ} (plan : List Act) (name : Option String) (failure : Failure)
      (fails : (migration.resolver.find name).start before = (.error failure, after)) :
      Enacts migration project before (.look name :: plan) [] (some failure) after
  /-- Something is created, and the run goes on. -/
  | create {before between after : Session σ} {plan : List Act} {looked : List (Option String)}
      {ending : Option Failure} (trace : List Exchange) (post : Posting)
      (passed : Passed migration.servers before trace between)
      (posted : Posted project post before trace (.ok () : Except Failure Unit) between)
      (uncounted : between.misses = before.misses)
      (rest : Enacts migration project between plan looked ending after) :
      Enacts migration project before (.create :: plan) looked ending after
  /-- Something cannot be created. -/
  | uncreated {before after : Session σ} (plan : List Act) (trace : List Exchange)
      (post : Posting) (failure : Failure) (passed : Passed migration.servers before trace after)
      (posted : Posted project post before trace (.error failure : Except Failure Unit) after)
      (uncounted : after.misses = before.misses) :
      Enacts migration project before (.create :: plan) [] (some failure) after

namespace Enacts

variable {before between after : Session σ} {plan more : List Act}
  {looked looked' : List (Option String)} {ending : Option Failure}

/-- A failure leaves the rest of the plan undone. -/
theorem failed {failure : Failure}
    (h : migration.Enacts project before plan looked (some failure) after) :
    migration.Enacts project before (plan ++ more) looked (some failure) after := by
  generalize he : some failure = ending at h
  induction h with
  | done => cases he
  | tell line _ ih => exact .tell line (ih he)
  | look name user finds _ ih => exact .look name user finds (ih he)
  | unseen plan name failure fails => exact .unseen (plan ++ more) name failure fails
  | create trace post passed posted uncounted _ ih =>
    exact .create trace post passed posted uncounted (ih he)
  | uncreated plan trace post failure passed posted uncounted =>
    exact .uncreated (plan ++ more) trace post failure passed posted uncounted

/-- A plan that has been carried out is followed by the next one. -/
theorem trans (h : migration.Enacts project before plan looked none between)
    (rest : migration.Enacts project between more looked' ending after) :
    migration.Enacts project before (plan ++ more) (looked ++ looked') ending after := by
  generalize hn : (none : Option Failure) = start at h
  induction h with
  | done => exact rest
  | tell line _ ih => exact .tell line (ih rest hn)
  | look name user finds _ ih => exact .look name user finds (ih rest hn)
  | unseen => cases hn
  | create trace post passed posted uncounted _ ih =>
    exact .create trace post passed posted uncounted (ih rest hn)
  | uncreated => cases hn

/-- The names that were looked up are the first ones of the plan, and all of them if nothing
fails. -/
theorem looked_prefix (h : migration.Enacts project before plan looked ending after) :
    looked <+: plan.filterMap Act.name? ∧ (ending = none → looked = plan.filterMap Act.name?) := by
  induction h with
  | done => exact ⟨List.prefix_rfl, fun _ => rfl⟩
  | tell _ _ ih => exact ih
  | look name _ _ _ ih =>
    obtain ⟨front, all⟩ := ih
    exact ⟨(List.prefix_append_right_inj [name]).2 front, fun he => by rw [all he]; rfl⟩
  | unseen => exact ⟨List.nil_prefix, by simp⟩
  | create _ _ _ _ _ _ ih => exact ih
  | uncreated => exact ⟨List.nil_prefix, by simp⟩

/-- The users that were known are known still. -/
theorem keeps {faults : Failure → Prop}
    (plain : migration.resolver.directory.Plain migration.servers faults)
    (h : migration.Enacts project before plan looked ending after) (known : Roster)
    (hk : before.roster = some known) : after.roster = some known := by
  have find {before after : Session σ} {name : Option String}
      {result : Except Failure (Option RemoteUser)}
      (hr : (migration.resolver.find name).start before = (result, after))
      (hk : before.roster = some known) : after.roster = some known := by
    obtain ⟨trace, -, sought⟩ := Resolver.does_find_sought plain name before
    rw [hr] at sought
    exact sought.keeps known hk
  induction h with
  | done => exact hk
  | tell _ _ ih => exact ih hk
  | look _ _ finds _ ih => exact ih (find finds hk)
  | unseen _ _ _ fails => exact find fails hk
  | create _ _ _ posted _ _ ih => exact ih (posted.roster.trans hk)
  | uncreated _ _ _ _ _ posted _ => exact posted.roster.trans hk

/-- **What is counted are the names that were looked up** and stand for nobody, in their order. -/
theorem misses_eq {faults : Failure → Prop}
    (plain : migration.resolver.directory.Plain migration.servers faults)
    (h : migration.Enacts project before plan looked ending after) {users : Roster}
    (fits : after.Fits users) :
    after.misses = before.misses.addAll (looked.filterMap (migration.resolver.missed? users)) := by
  induction h with
  | done => rfl
  | tell _ _ ih => exact ih fits
  | @look _ between _ _ _ _ name user finds rest ih =>
    obtain ⟨trace, -, sought⟩ := Resolver.does_find_sought plain name _
    rw [finds] at sought
    -- the users that are known at the end fit the session behind the look-up as well
    have fits' : between.Fits users := fun known hk => fits known (rest.keeps plain known hk)
    rw [ih fits, sought.counted user rfl users fits', ← Tally.addAll_append]
    cases hm : migration.resolver.missed? users name <;> simp [hm]
  | unseen _ name failure fails =>
    obtain ⟨trace, -, sought⟩ := Resolver.does_find_sought plain name _
    rw [fails] at sought
    exact sought.uncounted failure rfl
  | create _ _ _ _ uncounted _ ih => rw [ih fits, uncounted]
  | uncreated _ _ _ _ _ _ uncounted => exact uncounted

end Enacts

/-! ### Programs -/

/-- From every session, a computation goes through a plan. -/
def Enacted (migration : Migration σ) (project : String) (plan : List Act) (x : Run σ α) : Prop :=
  ∀ before, ∃ looked, migration.Enacts project before plan looked
    (failure? (x.start before).1) (x.start before).2

namespace Enacted

variable {plan more : List Act}

theorem of_pure (a : α) : migration.Enacted project [] (pure a : Run σ α) :=
  fun before => ⟨[], .done before⟩

theorem of_log (level : Level) (text : String) :
    migration.Enacted project [] (Run.log level text) :=
  fun _ => ⟨[], .tell ⟨level, text⟩ (.done _)⟩

theorem of_find (name : Option String) :
    migration.Enacted project [.look name] (migration.resolver.find name) := by
  intro before
  rcases hr : (migration.resolver.find name).start before with ⟨failure | user, after⟩
  · exact ⟨[], .unseen [] name failure hr⟩
  · exact ⟨[name], .look name user hr (.done after)⟩

/-- Only whether something was created matters, not which number it got. -/
theorem of_posted {x : Run σ α}
    (posts : Run.Does migration.servers x fun before trace result after =>
      (∃ post, Posted project post before trace result after) ∧ after.misses = before.misses) :
    migration.Enacted project [.create] x := by
  intro before
  obtain ⟨trace, passed, ⟨post, asked, proper, fails, roster⟩, uncounted⟩ := posts before
  rcases hr : x.start before with ⟨failure | a, after⟩
  · rw [hr] at passed fails roster uncounted
    exact ⟨[], .uncreated [] trace post failure passed ⟨asked, proper, fails, roster⟩ uncounted⟩
  · rw [hr] at passed fails roster uncounted
    exact ⟨[], .create trace post passed ⟨asked, proper, fails, roster⟩ uncounted (.done after)⟩

/-- **One plan is followed by the next one.** -/
theorem bind {x : Run σ α} {f : α → Run σ β} (hx : migration.Enacted project plan x)
    (hf : ∀ a, migration.Enacted project more (f a)) :
    migration.Enacted project (plan ++ more) (x >>= f) := by
  intro before
  obtain ⟨looked, first⟩ := hx before
  rw [Run.start_bind]
  rcases hr : x.start before with ⟨failure | a, between⟩
  · rw [hr] at first
    exact ⟨looked, first.failed⟩
  · rw [hr] at first
    obtain ⟨looked', next⟩ := hf a between
    exact ⟨looked ++ looked', first.trans next⟩

end Enacted

theorem enacted_userId (name : Option String) :
    migration.Enacted project [.look name] (migration.userId name) :=
  Enacted.bind (.of_find name) fun user => .of_pure (user.map (·.id))

theorem enacted_postIssue (title : Option String) (description labels : String)
    (assignee author : Option Int) (createdAt : Option Moment) :
    migration.Enacted project [.create] (migration.forge.postIssue migration.servers project title
      description labels assignee author createdAt) := by
  have uncounted := Forge.leaves_postIssue Run.apart_misses migration.forge migration.servers
    project title description labels assignee author createdAt
  have posts := Run.Does.leaving (Forge.does_postIssue migration.forge project title description
    labels assignee author createdAt) uncounted
  exact .of_posted (posts.mono fun _ _ _ _ ⟨⟨post, _, _, _, posted⟩, misses⟩ =>
    ⟨⟨post, posted⟩, misses⟩)

theorem enacted_postNote (issue : Int) (body : String) (author : Option Int)
    (createdAt : Option Moment) :
    migration.Enacted project [.create]
      (migration.forge.postNote migration.servers project issue body author createdAt) := by
  have uncounted := Forge.leaves_postNote Run.apart_misses migration.forge migration.servers
    project issue body author createdAt
  have posts := Run.Does.leaving (Forge.does_postNote migration.forge project issue body author
    createdAt) uncounted
  exact .of_posted (posts.mono fun _ _ _ _ ⟨⟨post, _, posted⟩, misses⟩ => ⟨⟨post, posted⟩, misses⟩)

theorem enacted_postNotesFrom (issue : Int) (comments : List Comment) :
    migration.Enacted project (comments.flatMap commentActs)
      (migration.postNotesFrom project issue comments) := by
  induction comments with
  | nil => exact .of_pure ()
  | cons comment rest ih =>
    rw [List.flatMap_cons, commentActs, List.cons_append]
    refine Enacted.bind (enacted_userId comment.author) fun author => ?_
    exact Enacted.bind (enacted_postNote issue _ author comment.time) fun _ => ih

theorem enacted_postNotes (issue : Int) (comments : List Comment) :
    migration.Enacted project (comments.flatMap commentActs)
      (migration.postNotes project issue comments) := by
  unfold postNotes
  split
  · next empty =>
    rw [show comments = [] by simpa using empty]
    exact .of_pure ()
  · rw [← List.append_nil (comments.flatMap commentActs)]
    exact Enacted.bind (enacted_postNotesFrom issue comments) fun _ => .of_log _ _

theorem enacted_migrateTicket (count : Nat) (ticket : Ticket) :
    migration.Enacted project (acts migration.options ticket)
      (migration.migrateTicket project count ticket) := by
  unfold migrateTicket acts
  refine Enacted.bind (enacted_userId ticket.owner) fun assignee =>
    Enacted.bind (enacted_userId ticket.reporter) fun author => ?_
  cases migration.options.dryRun
  case true => exact Enacted.bind (.of_log _ _) fun _ => .of_pure none
  case false =>
    refine Enacted.bind (enacted_postIssue _ _ _ assignee author _) fun issue =>
      Enacted.bind (.of_log _ _) fun _ => ?_
    have notes : migration.Enacted project (ticket.comments.flatMap commentActs ++ []) (do
        migration.postNotes project issue ticket.comments
        return some issue) :=
      Enacted.bind (enacted_postNotes issue ticket.comments) fun _ => .of_pure (some issue)
    rwa [List.append_nil] at notes

theorem enacted_migrateFrom (count : Nat) (tickets : List Ticket) :
    migration.Enacted project
      ((visitedFrom migration.options count tickets).flatMap (acts migration.options))
      (migration.migrateFrom project count tickets) := by
  -- on the tickets, with any count: the one behind a ticket goes on from it
  induction tickets generalizing count with
  | nil => exact .of_pure []
  | cons ticket rest ih =>
    rw [visitedFrom, migrateFrom]
    by_cases last : isLast migration.options count = true
    · simp only [last, if_true, List.flatMap_cons, List.flatMap_nil]
      exact Enacted.bind (enacted_migrateTicket count ticket) fun issue => .of_pure _
    · simp only [last]
      refine Enacted.bind (enacted_migrateTicket count ticket) fun issue => ?_
      have further := Enacted.bind (ih (count + 1)) fun more =>
        Enacted.of_pure ((issue.map (ticket.id, ·)).toList ++ more)
      rw [List.append_nil] at further
      exact further

/-- The first ticket is visited in any case, and then as many as the settings allow. -/
theorem visitedFrom_one_eq_reached (options : MigrationOptions) (tickets : List Ticket) :
    visitedFrom options 1 tickets = options.reached tickets := by
  by_cases natural : 0 ≤ options.maxTickets
  · rw [visitedFrom_one natural, MigrationOptions.visited, MigrationOptions.reached]
    split
    · rfl
    · rw [Nat.max_eq_right (by omega)]
  · have last : isLast options 1 = true := by
      simp only [isLast, Bool.and_eq_true, bne_iff_ne, ne_eq, decide_eq_true_eq]
      omega
    rw [MigrationOptions.reached, if_neg (by omega), Nat.max_eq_left (by omega)]
    cases tickets with
    | nil => rfl
    | cons ticket rest => rw [visitedFrom, if_pos last, List.take_succ_cons, List.take_zero]

/-- **A migration goes through the plan for its tickets.** -/
theorem enacted_migrateAll (tickets : List Ticket) (label : String) :
    migration.Enacted project
      ((migration.options.reached tickets).flatMap (acts migration.options))
      (migration.migrateAll tickets project label) := by
  rw [← visitedFrom_one_eq_reached]
  exact Enacted.bind (.of_log _ _) fun _ => enacted_migrateFrom 1 tickets

end Migration

end TicketMigration
