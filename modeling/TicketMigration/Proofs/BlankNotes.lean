import TicketMigration.CommandLine.Program
import TicketMigration.Proofs.Blankness
import TicketMigration.Proofs.Transcript

/-!
# Notes that say nothing

The issue server refuses notes that are blank, so comments that are blank are left out when a change
log is read.  Since the conversion makes no text blank, this is enough: a program that talks to a
server with this rule runs just as it does with one that takes blank notes as well.

Both runs are the same computation.  They differ in one request only, and a computation that makes no
such request is not changed by the answer to it; what has to be shown is that the comments which the
notes are made of come out of a change log.

## Main definitions

* `Servers.refusingBlankNotes` — the servers, but for the rule that a note is not blank.
* `Run.Yields` — all values that a computation can end with are of a kind.
* `Ticket.Speaks` — no comment of the ticket is blank.

## Main statements

* `Tracker.yields_ticketsMatching` — the tickets that are read have no blank comments.
* `Migration.migrateAll_refusing` — the migration of such tickets does not meet the rule.
* `blankness_kept` — **the conversion keeps blankness, and no note is refused for it.**
-/

namespace TicketMigration

open Text Markup

variable {σ α β : Type}

/-! ### Servers that refuse blank notes -/

/-- Whether a note is to be created that says nothing. -/
def Request.isBlankNote : Request → Bool
  | .createNote _ _ draft _ => isBlankText draft.body.toList
  | _ => false

/-- Servers that refuse notes that say nothing and are as they are otherwise. -/
def Servers.refusingBlankNotes (servers : Servers σ) (refusal : Failure) : Servers σ where
  answer request world :=
    if request.isBlankNote then (.error refusal, world) else servers.answer request world

theorem Run.send_refusing (servers : Servers σ) (refusal : Failure) {request : Request}
    (h : request.isBlankNote = false) :
    Run.send (servers.refusingBlankNotes refusal) request = Run.send servers request := by
  simp [Run.send, Servers.refusingBlankNotes, h]

/-! ### Values that a computation can end with -/

/-- All values that the computation can end with are of a kind, whatever session it starts in. -/
def Run.Yields (x : Run σ α) (kind : α → Prop) : Prop :=
  ∀ session a after, x.start session = (.ok a, after) → kind a

namespace Run.Yields

variable {x : Run σ α} {kind : α → Prop} {f g : α → Run σ β}

theorem of_pure {a : α} (h : kind a) : Yields (pure a : Run σ α) kind := by
  rintro session a' after hr
  obtain ⟨h', -⟩ := Prod.mk.inj hr
  exact Except.ok.inj h' ▸ h

theorem of_ofExcept {result : Except Failure α} (h : ∀ a, result = .ok a → kind a) :
    Yields (ofExcept result : Run σ α) kind := by
  cases result with
  | ok a => exact of_pure (h a rfl)
  | error failure =>
    intro session a after hr
    cases (Prod.mk.inj hr).1

theorem trivial (x : Run σ α) : x.Yields fun _ => True := fun _ _ _ _ => True.intro

/-- The value of a computation that is put together is one of the second part. -/
theorem bind {wanted : β → Prop} (hx : x.Yields kind) (hf : ∀ a, kind a → (f a).Yields wanted) :
    (x >>= f).Yields wanted := by
  intro session b after hr
  rw [start_bind] at hr
  split at hr
  · next a between hs => exact hf a (hx session a between hs) between b after hr
  · cases (Prod.mk.inj hr).1

/-- **Two computations that go on alike with all values that can come up are the same.** -/
theorem bind_congr (hx : x.Yields kind) (same : ∀ a, kind a → f a = g a) :
    x >>= f = x >>= g := by
  refine funext fun session => ?_
  show (x >>= f).start session = (x >>= g).start session
  rw [start_bind, start_bind]
  split
  · next a after hs => rw [same a (hx session a after hs)]
  · rfl

end Run.Yields

/-! ### Comments that are read -/

/-- No comment of the ticket is blank. -/
def Ticket.Speaks (ticket : Ticket) : Prop :=
  ∀ comment ∈ ticket.comments, Visible comment.text.toList

/-- A comment is left out if it is blank. -/
theorem visible_of_commentOf {change : List WireValue} {comment : Comment}
    (h : commentOf change = .ok (some comment)) : Visible comment.text.toList := by
  obtain ⟨field, -, h⟩ := Except.bind_eq_ok h
  split at h
  · obtain ⟨value, -, h⟩ := Except.bind_eq_ok h
    split at h
    · split at h
      · cases h
      · next s hs =>
        obtain ⟨author', -, h⟩ := Except.bind_eq_ok h
        obtain ⟨author, -, h⟩ := Except.bind_eq_ok h
        obtain ⟨time', -, h⟩ := Except.bind_eq_ok h
        obtain ⟨time, -, h⟩ := Except.bind_eq_ok h
        cases h
        simpa using hs
    · cases h
  · cases h

/-- **The comments of a change log say something.** -/
theorem visible_of_mem_commentsOf {changes : List (List WireValue)} {comments : List Comment}
    (h : commentsOf changes = .ok comments) :
    ∀ comment ∈ comments, Visible comment.text.toList := by
  induction changes generalizing comments with
  | nil =>
    cases h
    simp
  | cons change rest ih =>
    obtain ⟨first, hf, h⟩ := Except.bind_eq_ok h
    obtain ⟨others, ho, h⟩ := Except.bind_eq_ok h
    cases h
    intro comment hc
    rcases List.mem_append.1 hc with hc | hc
    · rw [Option.mem_toList] at hc
      exact visible_of_commentOf (by rw [hf, hc])
    · exact ih ho comment hc

theorem speaks_of_ticketOf {answer : List WireValue} {changes : List (List WireValue)}
    {ticket : Ticket} (h : ticketOf answer changes = .ok ticket) : ticket.Speaks := by
  rw [ticketOf] at h
  obtain ⟨fields, -, h⟩ := Except.bind_eq_ok h
  split at h
  · -- of all that is read for a ticket, only the comments, which are read last, matter
    iterate 12 obtain ⟨_, -, h⟩ := Except.bind_eq_ok h
    obtain ⟨comments, hc, h⟩ := Except.bind_eq_ok h
    cases h
    exact visible_of_mem_commentsOf hc
  · obtain ⟨attributes, hf, -⟩ := Except.bind_eq_ok h
    cases hf

namespace Tracker

theorem yields_readTickets (tracker : Tracker) (servers : Servers σ)
    (answers : List (List WireValue)) :
    (tracker.readTickets servers answers).Yields fun tickets =>
      ∀ ticket ∈ tickets, ticket.Speaks := by
  induction answers with
  | nil => exact .of_pure (by simp)
  | cons answer rest ih =>
    refine .bind (.trivial _) fun id _ => .bind (.trivial _) fun changes _ => ?_
    refine .bind (.of_ofExcept fun ticket h => speaks_of_ticketOf h) fun ticket ht => ?_
    refine .bind ih fun tickets hts => .of_pure ?_
    simpa [ht] using hts

/-- **The tickets that are read have no blank comments.** -/
theorem yields_ticketsMatching (tracker : Tracker) (servers : Servers σ) (query : String) :
    (tracker.ticketsMatching servers query).Yields fun tickets =>
      ∀ ticket ∈ tickets, ticket.Speaks :=
  .bind (.trivial _) fun _ _ => .bind (.trivial _) fun _ _ => .bind (.trivial _) fun _ _ =>
    tracker.yields_readTickets servers _

/-! ### Programs that do not meet the rule -/

theorem ask_refusing (tracker : Tracker) (servers : Servers σ) (refusal : Failure)
    {request : Request} (h : request.isBlankNote = false) :
    tracker.ask (servers.refusingBlankNotes refusal) request = tracker.ask servers request := by
  rw [ask, ask, Run.send_refusing servers refusal h]

theorem readTickets_refusing (tracker : Tracker) (servers : Servers σ) (refusal : Failure)
    (answers : List (List WireValue)) :
    tracker.readTickets (servers.refusingBlankNotes refusal) answers
      = tracker.readTickets servers answers := by
  have changeLog (id : Ident) :
      tracker.ask (servers.refusingBlankNotes refusal) (.changeLog id)
        = tracker.ask servers (.changeLog id) := tracker.ask_refusing servers refusal rfl
  induction answers with
  | nil => rfl
  | cons answer rest ih => simp only [readTickets, ih, changeLog]

theorem ticketsMatching_refusing (tracker : Tracker) (servers : Servers σ) (refusal : Failure)
    (query : String) :
    tracker.ticketsMatching (servers.refusingBlankNotes refusal) query
      = tracker.ticketsMatching servers query := by
  have found :
      tracker.ask (servers.refusingBlankNotes refusal) (.query query)
        = tracker.ask servers (.query query) := tracker.ask_refusing servers refusal rfl
  have fetched (ids : List Ident) :
      tracker.ask (servers.refusingBlankNotes refusal) (.tickets ids)
        = tracker.ask servers (.tickets ids) := tracker.ask_refusing servers refusal rfl
  rw [ticketsMatching, ticketsMatching, found]
  refine bind_congr fun _ => bind_congr fun ids => ?_
  rw [fetched ids]
  exact bind_congr fun answers => tracker.readTickets_refusing servers refusal answers

end Tracker

theorem Forge.postIssue_refusing (forge : Forge) (servers : Servers σ) (refusal : Failure) :
    (forge.postIssue (servers.refusingBlankNotes refusal)) = forge.postIssue servers := by
  have allowed (project : String) (draft : IssueDraft) (actor : Option Int) :
      Run.send (servers.refusingBlankNotes refusal) (.createIssue project draft actor)
        = Run.send servers (.createIssue project draft actor) :=
    Run.send_refusing servers refusal rfl
  funext project title description labels assignee author createdAt
  simp only [postIssue, allowed]

/-- A note that says something does not meet the rule. -/
theorem Forge.postNote_refusing (forge : Forge) (servers : Servers σ) (refusal : Failure)
    (project : String) (issue : Int) {body : String} (h : Visible body.toList)
    (author : Option Int) (createdAt : Option Moment) :
    forge.postNote (servers.refusingBlankNotes refusal) project issue body author createdAt
      = forge.postNote servers project issue body author createdAt := by
  have allowed (actor : Option Int) :
      Run.send (servers.refusingBlankNotes refusal)
          (.createNote project issue { body, createdAt := forge.stamp createdAt } actor)
        = Run.send servers
          (.createNote project issue { body, createdAt := forge.stamp createdAt } actor) :=
    Run.send_refusing servers refusal h
  simp only [postNote, allowed]

namespace Migration

/-- The migration, with the servers refusing notes that say nothing. -/
def refusingBlankNotes (migration : Migration σ) (refusal : Failure) : Migration σ :=
  { migration with servers := migration.servers.refusingBlankNotes refusal }

variable (migration : Migration σ) (refusal : Failure)

theorem postNotesFrom_refusing (project : String) (issue : Int) {comments : List Comment}
    (h : ∀ comment ∈ comments, Visible comment.text.toList) :
    (migration.refusingBlankNotes refusal).postNotesFrom project issue comments
      = migration.postNotesFrom project issue comments := by
  induction comments with
  | nil => rfl
  | cons comment rest ih =>
    have body : Visible (toMarkdown comment.text migration.options.trackerUrl).toList := by
      rw [Visible, isBlankText_toMarkdown, h comment List.mem_cons_self]
    rw [postNotesFrom, postNotesFrom, ih fun c hc => h c (List.mem_cons_of_mem _ hc)]
    simp only [refusingBlankNotes, Forge.postNote_refusing _ _ refusal project issue body]
    rfl

theorem migrateTicket_refusing (project : String) (count : Nat) {ticket : Ticket}
    (h : ticket.Speaks) :
    (migration.refusingBlankNotes refusal).migrateTicket project count ticket
      = migration.migrateTicket project count ticket := by
  have notes (issue : Int) :
      (migration.refusingBlankNotes refusal).postNotes project issue ticket.comments
        = migration.postNotes project issue ticket.comments := by
    rw [postNotes, postNotes, postNotesFrom_refusing migration refusal project issue h]
  simp only [migrateTicket, notes]
  simp only [refusingBlankNotes, Forge.postIssue_refusing]
  rfl

/-- **A migration of tickets without blank comments does not meet the rule.** -/
theorem migrateAll_refusing {tickets : List Ticket} (h : ∀ ticket ∈ tickets, ticket.Speaks)
    (project label : String) :
    (migration.refusingBlankNotes refusal).migrateAll tickets project label
      = migration.migrateAll tickets project label := by
  have from' (count : Nat) :
      (migration.refusingBlankNotes refusal).migrateFrom project count tickets
        = migration.migrateFrom project count tickets := by
    induction tickets generalizing count with
    | nil => rfl
    | cons ticket rest ih =>
      rw [migrateFrom, migrateFrom,
        migrateTicket_refusing migration refusal project count (h ticket List.mem_cons_self),
        ih fun t ht => h t (List.mem_cons_of_mem _ ht)]
      rfl
  rw [migrateAll, migrateAll, from']

theorem migrateMatching_refusing (query project : String) (limit : Option Int) :
    (migration.refusingBlankNotes refusal).migrateMatching query project limit
      = migration.migrateMatching query project limit := by
  rw [migrateMatching, migrateMatching]
  have read : (migration.refusingBlankNotes refusal).tracker.ticketsMatching
        (migration.refusingBlankNotes refusal).servers (withCap query limit)
      = migration.tracker.ticketsMatching migration.servers (withCap query limit) :=
    migration.tracker.ticketsMatching_refusing migration.servers refusal _
  rw [read]
  exact (migration.tracker.yields_ticketsMatching migration.servers _).bind_congr
    fun tickets h => migration.migrateAll_refusing refusal h project _

theorem migrateOpen_refusing (component project : String) (limit : Option Int) :
    (migration.refusingBlankNotes refusal).migrateOpen component project limit
      = migration.migrateOpen component project limit := by
  rw [migrateOpen, migrateOpen]
  have read : (migration.refusingBlankNotes refusal).tracker.openTicketsOf
        (migration.refusingBlankNotes refusal).servers component limit
      = migration.tracker.openTicketsOf migration.servers component limit :=
    migration.tracker.ticketsMatching_refusing migration.servers refusal _
  rw [read]
  exact (migration.tracker.yields_ticketsMatching migration.servers _).bind_congr
    fun tickets h => migration.migrateAll_refusing refusal h project _

end Migration

/-! ### The program -/

/-- The users are fetched in requests that are no notes. -/
theorem Configuration.migration_refusing (configuration : Configuration) (servers : Servers σ)
    (refusal : Failure) :
    configuration.migration (servers.refusingBlankNotes refusal)
      = (configuration.migration servers).refusingBlankNotes refusal := by
  have users : fetchUsers (servers.refusingBlankNotes refusal) = fetchUsers servers := by
    funext page size
    exact Run.send_refusing servers refusal rfl
  rw [migration, users]
  rfl

theorem migrateSelection_refusing (configuration : Configuration) (selection : Selection)
    (servers : Servers σ) (refusal : Failure) :
    migrateSelection configuration selection (servers.refusingBlankNotes refusal)
      = migrateSelection configuration selection servers := by
  rw [migrateSelection, migrateSelection, configuration.migration_refusing]
  simp only [Migration.migrateOpen_refusing, Migration.migrateMatching_refusing]

/-- **The program does not meet the rule.** -/
theorem runProgram_refusing (files : String → Option (List UInt8)) (servers : Servers σ)
    (refusal : Failure) (arguments : List String) (session : Session σ) :
    runProgram files (servers.refusingBlankNotes refusal) arguments session
      = runProgram files servers arguments session := by
  simp only [runProgram, runMigration, migrateSelection_refusing]

/-- **Nothing becomes blank, and nothing that is blank becomes anything else.**

A text is blank after the conversion exactly if it was before.  So each comment that is read from a
change log gives a note that says something, and whatever else the servers do, a program that talks
to servers which refuse blank notes runs as if they did not: it is never stopped by this rule. -/
theorem blankness_kept :
    (∀ text base : String,
      isBlankText (toMarkdown text base).toList = isBlankText text.toList) ∧
    (∀ (changes : List (List WireValue)) (comments : List Comment),
      commentsOf changes = .ok comments → ∀ comment ∈ comments, ∀ trackerUrl : String,
        isBlankText (toMarkdown comment.text trackerUrl).toList = false) ∧
    ∀ (σ : Type) (files : String → Option (List UInt8)) (servers : Servers σ) (refusal : Failure)
      (arguments : List String) (session : Session σ),
      runProgram files (servers.refusingBlankNotes refusal) arguments session
        = runProgram files servers arguments session := by
  refine ⟨isBlankText_toMarkdown, fun changes comments h comment hc trackerUrl => ?_, ?_⟩
  · rw [isBlankText_toMarkdown]
    exact visible_of_mem_commentsOf h comment hc
  · intro σ
    exact runProgram_refusing

/-- Of two comments, one is left out, and the other gives a note. -/
theorem blankness_kept_twoComments :
    commentsOf [[.nil, .text "ann", .text "comment", .text "1", .text " \t"],
        [.nil, .text "bob", .text "comment", .text "2", .text "''done''"]]
      = .ok [{ author := some "bob", text := "''done''", time := none }] ∧
    isBlankText (toMarkdown "''done''" "https://trac.example.org").toList = false := by
  have read : commentsOf [[.nil, .text "ann", .text "comment", .text "1", .text " \t"],
        [.nil, .text "bob", .text "comment", .text "2", .text "''done''"]]
      = .ok [{ author := some "bob", text := "''done''", time := none }] := by decide +kernel
  exact ⟨read, blankness_kept.2.1 _ _ read _ List.mem_cons_self _⟩

end TicketMigration
