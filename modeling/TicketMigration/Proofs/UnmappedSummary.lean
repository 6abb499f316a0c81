import TicketMigration.CommandLine.Program
import TicketMigration.Proofs.Enactment

/-!
# The summary of unmapped users

At the end of a run the program tells which names of the tracker stand for no user, and how often
each of them was looked up.  The counts are those of the look-ups that the run has performed, also if
a failure has cut it short; the largest count comes first, and of equal ones the name that was missed
first.

## Main definitions

* `Resolver.Unmapped` — a name stands for no user.
* `Resolver.Counts` — a tally counts the unmapped ones among some names.
* `Ranking` — an order of the entries of a tally.
* `Migration.Looked` — the look-ups of a run that reads tickets and migrates them.
* `Migration.SummedUp` — a migration of given tickets counts what it looks up.
* `PrintsSummary` — the program prints the counts of a run.

## Main statements

* `Resolver.counts_addAll` — counting names one after the other counts the unmapped ones.
* `ranking_ranked` — the entries are printed in this order.
* `Migration.counts_and_printsSummary` — **the summary counts every look-up**, whether the run comes
  to its end or not.
-/

namespace TicketMigration

open Text

variable {σ : Type}

/-! ### Names that stand for nobody -/

/-- The name is not empty, and what it is mapped to, or the name itself, is no username. -/
structure Resolver.Unmapped (resolver : Resolver σ) (users : Roster) (name : String) : Prop where
  /-- It is a name. -/
  named : name ≠ ""
  /-- No user has it, or what it is mapped to, as a username. -/
  unknown : ∀ username ∈ users.map (·.1), resolver.target name ≠ .ofString username

/-- A datum is the same key as a text exactly if it is that text. -/
theorem Value.same_ofString_iff (s : String) (value : Value) :
    (ofString s).same value = true ↔ value = ofString s := by
  cases value with
  | text codes => rw [ofString, same, beq_iff_eq, Value.text.injEq, eq_comm]
  | _ => simp [ofString, same, number?]

theorem Roster.userOf_eq_none_iff (users : Roster) (name : Value) :
    users.userOf name = none ↔ ∀ username ∈ users.map (·.1), name ≠ .ofString username := by
  rw [userOf, Option.map_eq_none_iff, List.find?_eq_none, List.forall_mem_map]
  simp only [Value.same_ofString_iff]

namespace Resolver

variable (resolver : Resolver σ) (users : Roster)

/-- What is counted is the name that was looked up, if it stands for nobody. -/
theorem missed?_eq_some_iff (name : Option String) (counted : String) :
    resolver.missed? users name = some counted ↔
      name = some counted ∧ resolver.Unmapped users counted := by
  cases name with
  | none => simp [missed?, uncovered]
  | some name =>
    by_cases blank : name.isEmpty = true
    · have empty : name = "" := String.isEmpty_iff.1 blank
      simp only [missed?, userOf, blank, if_true, uncovered, reduceCtorEq, Option.some.injEq,
        false_iff, not_and]
      rintro rfl unmapped
      exact unmapped.named empty
    · have named : name ≠ "" := fun h => blank (String.isEmpty_iff.2 h)
      have unknown := users.userOf_eq_none_iff (resolver.target name)
      rw [missed?, userOf, if_neg blank]
      cases found : users.userOf (resolver.target name) with
      | some user =>
        rw [found] at unknown
        simp only [uncovered, reduceCtorEq, Option.some.injEq, false_iff, not_and]
        rintro rfl unmapped
        cases unknown.2 unmapped.unknown
      | none =>
        simp only [uncovered, blank, Bool.false_eq_true, if_false, Option.some.injEq]
        refine ⟨?_, And.left⟩
        rintro rfl
        exact ⟨rfl, named, unknown.1 found⟩

/-- A tally has an entry for each name that stands for nobody, and it counts how often the name
occurs. -/
structure Counts (names : List (Option String)) (tally : Tally) : Prop where
  /-- Exactly the unmapped ones among the names have entries, and each has one. -/
  entries : (tally.map (·.1)).Nodup ∧
    ∀ name, name ∈ tally.map (·.1) ↔ some name ∈ names ∧ resolver.Unmapped users name
  /-- They are counted as often as they occur. -/
  counted : ∀ name, resolver.Unmapped users name → tally.count name = names.count (some name)
  /-- They stand in the order in which they occur first. -/
  order : tally.map (·.1) = (names.filterMap (resolver.missed? users)).eraseDups

end Resolver

/-! ### Tallies of a list of names -/

namespace Tally

theorem nodup_addAll {tally : Tally} (h : (tally.map (·.1)).Nodup) (names : List String) :
    ((tally.addAll names).map (·.1)).Nodup := by
  induction names generalizing tally with
  | nil => exact h
  | cons name names ih => exact ih (nodup_add h name)

/-- Names that are not there yet come behind the others, in the order of their first
occurrences. -/
theorem map_fst_addAll (tally : Tally) (names : List String) :
    (tally.addAll names).map (·.1)
      = tally.map (·.1) ++ (names.filter fun name => name ∉ tally.map (·.1)).eraseDups := by
  induction names generalizing tally with
  | nil => simp
  | cons name names ih =>
    have first : tally.addAll (name :: names) = (tally.add name).addAll names := rfl
    rw [first, ih, map_fst_add]
    by_cases known : name ∈ tally.map (·.1)
    · rw [if_pos known, List.filter_cons_of_neg (by simpa using known)]
    · -- the name becomes the last one, and does not count as new any more
      rw [if_neg known, List.filter_cons_of_pos (by simpa using known), List.eraseDups_cons,
        List.append_assoc, List.singleton_append, List.filter_filter]
      refine congrArg (fun rest => tally.map (·.1) ++ name :: rest) (congrArg _ ?_)
      refine List.filter_congr fun other _ => ?_
      by_cases same : other = name
      · simp [same]
      · have different : (other == name) = false := beq_false_of_ne same
        simp [different, same]

end Tally

/-- Of the names that are counted, each occurs as often as among all. -/
theorem Resolver.count_filterMap_missed? (resolver : Resolver σ) (users : Roster) {name : String}
    (unmapped : resolver.Unmapped users name) (names : List (Option String)) :
    (names.filterMap (resolver.missed? users)).count name = names.count (some name) := by
  induction names with
  | nil => rfl
  | cons other names ih =>
    have here := resolver.missed?_eq_some_iff users other name
    rw [List.count_cons, ← ih]
    cases missed : resolver.missed? users other with
    | none =>
      rw [List.filterMap_cons_none missed]
      have different : other ≠ some name := by
        rintro rfl
        rw [missed] at here
        cases here.2 ⟨rfl, unmapped⟩
      simp [different]
    | some counted =>
      rw [List.filterMap_cons_some missed, List.count_cons]
      have same : other = some counted :=
        ((resolver.missed?_eq_some_iff users other counted).1 missed).1
      simp [same]

/-- **Counting names one after the other counts the unmapped ones.** -/
theorem Resolver.counts_addAll (resolver : Resolver σ) (users : Roster)
    (names : List (Option String)) :
    resolver.Counts users names
      (Tally.addAll [] (names.filterMap (resolver.missed? users))) := by
  have order : (Tally.addAll [] (names.filterMap (resolver.missed? users))).map (·.1)
      = (names.filterMap (resolver.missed? users)).eraseDups := by
    rw [Tally.map_fst_addAll, List.map_nil, List.nil_append,
      List.filter_eq_self.2 fun _ _ => by simp]
  have empty : (([] : Tally).map (·.1)).Nodup := List.nodup_nil
  refine ⟨⟨Tally.nodup_addAll empty _, fun name => ?_⟩, fun name unmapped => ?_, order⟩
  · rw [order, List.mem_eraseDups, List.mem_filterMap]
    constructor
    · rintro ⟨other, mem, missed⟩
      obtain ⟨rfl, unmapped⟩ := (resolver.missed?_eq_some_iff users other name).1 missed
      exact ⟨mem, unmapped⟩
    · rintro ⟨mem, unmapped⟩
      exact ⟨some name, mem, (resolver.missed?_eq_some_iff users _ name).2 ⟨rfl, unmapped⟩⟩
  · rw [Tally.count_addAll, resolver.count_filterMap_missed? users unmapped]
    exact Nat.zero_add _

/-! ### The order of the entries -/

/-- The entries of a tally, the largest count first, and entries of the same count in the order in
which they stand in the tally. -/
structure Ranking (tally order : Tally) : Prop where
  /-- They are the entries of the tally. -/
  perm : order.Perm tally
  /-- No count is larger than one before it. -/
  falling : order.Pairwise fun a b => b.2 ≤ a.2
  /-- Entries of one count keep their order. -/
  ties : ∀ count, order.filter (fun entry => entry.2 = count)
    = tally.filter fun entry => entry.2 = count

/-- **The entries are put in this order.** -/
theorem ranking_ranked (tally : Tally) : Ranking tally (ranked tally) := by
  have trans (a b c : String × Nat) (hab : decide (b.2 ≤ a.2) = true)
      (hbc : decide (c.2 ≤ b.2) = true) : decide (c.2 ≤ a.2) = true := by
    rw [decide_eq_true_eq] at hab hbc ⊢
    exact Nat.le_trans hbc hab
  have total (a b : String × Nat) : (decide (b.2 ≤ a.2) || decide (a.2 ≤ b.2)) = true := by
    rw [Bool.or_eq_true, decide_eq_true_eq, decide_eq_true_eq]
    exact Nat.le_total b.2 a.2
  have perm : (ranked tally).Perm tally := List.mergeSort_perm tally _
  refine ⟨perm, ?_, fun count => ?_⟩
  · exact (List.pairwise_mergeSort trans total tally).imp of_decide_eq_true
  · -- entries of one count are in order as they stand, and sorting keeps such a selection
    have inOrder : (tally.filter fun entry => entry.2 = count).Pairwise
        fun a b => decide (b.2 ≤ a.2) = true := by
      refine List.pairwise_of_forall_mem_list fun a ha b hb => ?_
      have ha' := of_decide_eq_true (List.mem_filter.1 ha).2
      have hb' := of_decide_eq_true (List.mem_filter.1 hb).2
      exact decide_eq_true (Nat.le_of_eq (hb'.trans ha'.symm))
    have kept := (List.sublist_mergeSort trans total inOrder List.filter_sublist).filter
      fun entry => entry.2 = count
    rw [List.filter_filter] at kept
    simp only [Bool.and_self] at kept
    exact (kept.eq_of_length (perm.filter _).length_eq.symm).symm

/-! ### Runs -/

namespace Migration

variable (migration : Migration σ)

/-- The names that occur on tickets, as owners, as reporters and as authors of comments. -/
def namesOn (tickets : List Ticket) : List (Option String) :=
  tickets.flatMap fun ticket =>
    ticket.owner :: ticket.reporter :: ticket.comments.map (·.author)

/-- A plan looks up all names, unless nothing is created. -/
theorem filterMap_name?_acts {options : MigrationOptions} (hdry : options.dryRun = false)
    (tickets : List Ticket) :
    (tickets.flatMap (acts options)).filterMap Act.name? = namesOn tickets := by
  have authors (comments : List Comment) :
      (comments.flatMap commentActs).filterMap Act.name? = comments.map (·.author) := by
    induction comments with
    | nil => rfl
    | cons comment rest ih =>
      rw [List.flatMap_cons, List.filterMap_append, ih]
      rfl
  induction tickets with
  | nil => rfl
  | cons ticket rest ih =>
    have here : (acts options ticket).filterMap Act.name?
        = ticket.owner :: ticket.reporter :: ticket.comments.map (·.author) := by
      rw [acts, hdry, ← authors ticket.comments]
      rfl
    rw [List.flatMap_cons, List.filterMap_append, ih, here]
    rfl

/-- The look-ups of a run that reads the tickets for a query and migrates them: none if the tickets
cannot be read. -/
inductive Looked (query project : String) (before : Session σ) :
    List (Option String) → Option Failure → Session σ → Prop
  /-- The tickets cannot be read. -/
  | unread {after : Session σ} (failure : Failure)
      (reads : (migration.tracker.ticketsMatching migration.servers query).start before
        = (.error failure, after)) : Looked query project before [] (some failure) after
  /-- The run goes through the plan for the tickets. -/
  | read {between after : Session σ} {looked : List (Option String)} {ending : Option Failure}
      (tickets : List Ticket)
      (reads : (migration.tracker.ticketsMatching migration.servers query).start before
        = (.ok tickets, between))
      (enacts : migration.Enacts project between
        ((migration.options.reached tickets).flatMap (acts migration.options)) looked ending after) :
      Looked query project before looked ending after

/-- That a migration of given tickets, from a session in which nothing is counted yet, counts the
names that it looks up. -/
structure SummedUp (project : String) (tickets : List Ticket) (before : Session σ)
    (run : Except Failure (List (Ident × Int)) × Session σ) : Prop where
  /-- However the run ends, the look-ups that it has performed are counted, and nothing else. -/
  performed : ∃ looked, migration.Enacts project before
      ((migration.options.reached tickets).flatMap (acts migration.options)) looked
      (failure? run.1) run.2 ∧
    migration.resolver.Counts (run.2.roster.getD []) looked run.2.misses
  /-- If it comes to its end and is no dry run, the names that occur on the tickets are counted. -/
  complete : migration.options.dryRun = false → ∀ created, run.1 = .ok created →
    migration.resolver.Counts (run.2.roster.getD []) (namesOn (migration.options.reached tickets))
      run.2.misses
  /-- If every request is granted, it comes to its end, unless a name is mapped to something that
  can be no name. -/
  ends : (∀ exchange ∈ migration.servers.exchanges before run.2, exchange.failure? = none) →
    ∀ failure, run.1 = .error failure →
      failure = .unhashable ∧ ∃ name, (migration.resolver.target name).isKey = false

variable {migration} {faults : Failure → Prop} {project : String}

/-- From a session in which nothing is counted, what was looked up is counted. -/
theorem Enacts.counts (plain : migration.resolver.directory.Plain migration.servers faults)
    {before after : Session σ} {plan : List Act} {looked : List (Option String)}
    {ending : Option Failure} (h : migration.Enacts project before plan looked ending after)
    (fresh : before.misses = []) :
    migration.resolver.Counts (after.roster.getD []) looked after.misses := by
  rw [h.misses_eq plain after.fits_getD, fresh]
  exact migration.resolver.counts_addAll _ looked

/-- A migration counts the names that it looks up. -/
theorem summedUp_migrateAll
    (plain : migration.resolver.directory.Plain migration.servers fun _ => False)
    (tickets : List Ticket) (project label : String) (session : Session σ)
    (fresh : session.misses = []) :
    migration.SummedUp project tickets session
      ((migration.migrateAll tickets project label).start session) := by
  have planned : migration.Enacted project
      ((migration.options.reached tickets).flatMap (acts migration.options))
      (migration.migrateAll tickets project label) := enacted_migrateAll tickets label
  obtain ⟨looked, enacts⟩ := planned session
  have counts := enacts.counts plain fresh
  refine ⟨⟨looked, enacts, counts⟩, fun hdry created hr => ?_, fun granted failure hr => ?_⟩
  · have all := enacts.looked_prefix.2 (by rw [hr, failure?_ok])
    rw [← filterMap_name?_acts hdry, ← all]
    exact counts
  · have ends := failure?_of_unhindered migration plain tickets project label rfl
      ⟨granted, by simp⟩
    rw [hr, failure?_error] at ends
    split at ends
    · cases ends
    · next stopped =>
      -- one of the tickets has a name that cannot be looked up
      simp only [canFinish, Bool.not_eq_true, List.all_eq_false] at stopped
      obtain ⟨ticket, -, name, -, missing⟩ := stopped
      exact ⟨Option.some.inj ends, migration.resolver.exists_target_of_canFind missing⟩

/-- A run that reads the tickets for a query and migrates them looks up names as it should. -/
theorem exists_looked (query label : String) (before : Session σ)
    {run : Except Failure (List (Ident × Int)) × Session σ}
    (hrun : run = (do
      let tickets ← migration.tracker.ticketsMatching migration.servers query
      migration.migrateAll tickets project label : Run σ _).start before) :
    ∃ looked, migration.Looked query project before looked (failure? run.1) run.2 := by
  subst hrun
  rw [Run.start_bind]
  rcases reads : (migration.tracker.ticketsMatching migration.servers query).start before with
    ⟨failure | tickets, between⟩
  · exact ⟨[], .unread failure reads⟩
  · obtain ⟨looked, enacts⟩ := enacted_migrateAll tickets label between
    exact ⟨looked, .read tickets reads enacts⟩

/-- From a session in which nothing is counted, what such a run looks up is counted. -/
theorem Looked.counts (plain : migration.resolver.directory.Plain migration.servers faults)
    {query : String} {before after : Session σ} {looked : List (Option String)}
    {ending : Option Failure}
    (h : migration.Looked query project before looked ending after) (fresh : before.misses = []) :
    migration.resolver.Counts (after.roster.getD []) looked after.misses := by
  have unread := Tracker.leaves_ticketsMatching Run.apart_misses migration.tracker
    migration.servers query before
  cases h with
  | unread failure reads =>
    rw [reads, fresh] at unread
    rw [unread]
    exact migration.resolver.counts_addAll _ []
  | read tickets reads enacts =>
    rw [reads, fresh] at unread
    exact enacts.counts plain unread

end Migration

/-! ### The program -/

section Program

variable {π : Type} {part : Session σ → π}

theorem leaves_connectTracker (apart : Run.Apart part) (configuration : Configuration) :
    Run.Leaves part (connectTracker configuration : Run σ Unit) := by
  unfold connectTracker
  split
  · exact .of_throw _
  · split
    · exact .of_throw _
    · split
      · exact apart.record _
      · exact .of_throw _

/-- Making ready to ask the servers leaves such a part of a session alone. -/
theorem leaves_connect (apart : Run.Apart part) (configuration : Configuration) :
    Run.Leaves part (connect configuration : Run σ Unit) :=
  .bind (leaves_connectTracker apart configuration) fun _ => apart.record _

end Program

/-- The query for the tickets that are selected. -/
def Selection.queryFor (selection : Selection) (limit : Int) : String :=
  if isGiven selection.component then componentQuery (selection.component.getD "") (some limit)
  else withCap (selection.query.getD "") (some limit)

/-- That the program, once it is ready to ask both servers, prints the counts of the look-ups of its
run. -/
structure PrintsSummary (configuration : Configuration) (selection : Selection)
    (servers : Servers σ) (connected : Session σ) (report : Ending × String × Session σ) :
    Prop where
  /-- What was counted are the look-ups that were performed, however the run has ended. -/
  counts : ∃ (looked : List (Option String)) (reply : Except Failure (List (Ident × Int)))
      (ended : Session σ),
    (migrateSelection configuration selection servers).start connected = (reply, ended) ∧
      (configuration.migration servers).Looked (selection.queryFor configuration.maxTickets)
        selection.project connected looked (failure? reply) ended ∧
      (configuration.migration servers).resolver.Counts (ended.roster.getD []) looked ended.misses ∧
      report.2.2.misses = ended.misses
  /-- The counts are printed, the largest one first. -/
  prints : ∃ order, Ranking report.2.2.misses order ∧
    report.2.1 = "Unmapped users: [" ++ ", ".intercalate (order.map fun entry =>
      "(" ++ quotedString entry.1 ++ ", " ++ toString entry.2 ++ ")") ++ "]\n"

/-- A computation without a value of its own that does not fail has ended well. -/
theorem Run.start_eq_of_failure? {x : Run σ Unit} {session : Session σ}
    (h : failure? (x.start session).1 = none) :
    x.start session = (.ok (), (x.start session).2) := by
  rcases hr : x.start session with ⟨_ | _, after⟩
  · rw [hr] at h
    cases h
  · rfl

/-- The end of a run counts nothing. -/
theorem misses_conclude (reply : Except Failure α) (session : Session σ) :
    (conclude reply session).2.misses = session.misses := by
  unfold conclude
  split
  · rfl
  · split <;> rfl

theorem exists_looked_migrateSelection (configuration : Configuration) (selection : Selection)
    (servers : Servers σ) (before : Session σ)
    {run : Except Failure (List (Ident × Int)) × Session σ}
    (hrun : run = (migrateSelection configuration selection servers).start before) :
    ∃ looked, (configuration.migration servers).Looked
      (selection.queryFor configuration.maxTickets) selection.project before looked
      (failure? run.1) run.2 := by
  unfold migrateSelection at hrun
  unfold Selection.queryFor
  split at hrun
  · next given =>
    rw [if_pos given]
    exact Migration.exists_looked _ _ before hrun
  · next missing =>
    rw [if_neg missing]
    exact Migration.exists_looked _ _ before hrun

/-- Once it is ready, the program prints the counts of its run. -/
theorem printsSummary_runMigration (configuration : Configuration) (selection : Selection)
    (servers : Servers σ) {session connected : Session σ} (fresh : session.misses = [])
    (ready : (connect configuration).start session = (.ok (), connected)) :
    PrintsSummary configuration selection servers connected
      (runMigration configuration selection servers session) := by
  have uncounted : connected.misses = [] := by
    have := leaves_connect Run.apart_misses configuration session
    rw [ready] at this
    exact this.trans fresh
  rcases hr : (migrateSelection configuration selection servers).start connected with
    ⟨reply, ended⟩
  have run : runMigration configuration selection servers session
      = ((conclude reply ended).1, summary ended.misses, (conclude reply ended).2) := by
    rw [runMigration, ready]
    simp only [hr, misses_conclude]
  obtain ⟨looked, h⟩ := exists_looked_migrateSelection configuration selection servers connected
    hr.symm
  have plain := Directory.plain_fetchUsers servers 100 50
  have kept := misses_conclude reply ended
  rw [run]
  refine ⟨⟨looked, reply, ended, hr, h, h.counts plain uncounted, kept⟩, ranked ended.misses, ?_, rfl⟩
  rw [kept]
  exact ranking_ranked ended.misses

/-- **The summary counts every look-up.**

From a session in which nothing is counted, a migration counts the look-ups that it performs, and
nothing else, up to its end or to the failure that cuts it short.  If it comes to its end and is no
dry run, these are the names that occur on the tickets that it goes through, as owners, as
reporters and as authors of comments; and it comes to its end if every request is granted and names
are mapped to names.  The program prints the counts of its run, however that ends: the largest one
comes first, and of equal ones the name that was missed first. -/
theorem Migration.counts_and_printsSummary :
    (∀ (migration : Migration σ) (tickets : List Ticket) (project label : String)
        (session : Session σ),
      migration.resolver.directory.Plain migration.servers (fun _ => False) →
        session.misses = [] →
          migration.SummedUp project tickets session
            ((migration.migrateAll tickets project label).start session)) ∧
      ∀ (configuration : Configuration) (selection : Selection) (servers : Servers σ)
          (session connected : Session σ),
        session.misses = [] → (connect configuration).start session = (.ok (), connected) →
          PrintsSummary configuration selection servers connected
            (runMigration configuration selection servers session) := by
  refine ⟨fun migration tickets project label session plain fresh => ?_, ?_⟩
  · exact summedUp_migrateAll plain tickets project label session fresh
  · intro configuration selection servers session connected fresh ready
    exact printsSummary_runMigration configuration selection servers fresh ready

/-- Servers with a ticket of two users whom the issue server does not know, which cannot be
reached when the issue is to be created. -/
def cutOff : Servers Unit where
  answer
    | .query _, _ => (.ok [.number 7], ())
    | .tickets _, _ =>
      (.ok [[.int 7, .nil, .nil, .struct [("owner", .text "zed"), ("reporter", .text "bob")]]], ())
    | .changeLog _, _ => (.ok [], ())
    | .users _ _, _ => (.ok [⟨5, "ann", []⟩], ())
    | .createIssue _ _ _, _ | .createNote _ _ _ _, _ => (.error (.network "gone"), ())
    | .connectTracker _, _ | .connectForge _ _ _, _ | .openProject _, _ | .openIssue _ _, _ =>
      (.ok (), ())

/-- The owner and the reporter are counted and printed, though no issue can be created; where the
issue and the note can be, the author of the comment is counted. -/
theorem Migration.counts_and_printsSummary_cutOff :
    let configuration : Configuration :=
      { trackerUrl := "https://trac.example.org", forgeUrl := "https://gitlab.example.org"
        token := "secret" }
    let selection : Selection := { project := "p", component := some "core" }
    let connected := ((connect configuration).start { world := () : Session Unit }).2
    let report := runMigration configuration selection cutOff { world := () }
    let session : Session (List (Option Failure)) := { world := [] }
    let run := (toScripted.migrateAll [strangersTicket] "p" "q").start session
    report.1 = .stopped ∧ report.2.2.misses = [("zed", 1), ("bob", 1)] ∧
      PrintsSummary configuration selection cutOff connected report ∧
      run.2.misses = [("zed", 1)] ∧ toScripted.SummedUp "p" [strangersTicket] session run := by
  intro configuration selection connected report session run
  have plain := Directory.plain_fetchUsers scripted 100 50
  have ready : (connect configuration).start { world := () } = (.ok (), connected) :=
    Run.start_eq_of_failure? (by decide +kernel)
  have printed := Migration.counts_and_printsSummary.2 configuration selection cutOff { world := () }
    connected rfl ready
  have summed := Migration.counts_and_printsSummary.1 toScripted [strangersTicket] "p" "q" session
    plain rfl
  exact ⟨by decide +kernel, by decide +kernel, printed, by decide +kernel, summed⟩

end TicketMigration
