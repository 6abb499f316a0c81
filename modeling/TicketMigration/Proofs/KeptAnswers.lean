import Mathlib.Data.List.Induction
import TicketMigration.Proofs.History
import TicketMigration.Proofs.ReadThrough

/-!
# Answers that are kept for good

Trackers at any addresses, with any servers behind them, may keep their answers in one directory.
Each is asked until it has answered, and never again for the same: the first answer to a request is
the one that is read from then on, and an attempt that failed leaves no trace.  So if the servers
always give the same answers, it makes no difference whether answers are kept.

## Main definitions

* `Retrieval` — tickets are asked of a tracker.
* `RemoteCall` — a request that was sent to the tracker at an address, with its answer.
* `firstTold` — the first answer among some calls.
* `Listing.plainly` — what is read, and what is asked for, if nothing is kept and each request has
  one answer.
* `ReadBehind` — what a retrieval does behind others.
* `AnswersKept` — what a whole history of retrievals comes to.

## Main statements

* `kept?_calls` — what is kept is what was told first.
* `answersKept_of_retrievals` — **no request is sent again that has been answered, and keeping the
  answers does not show.**
-/

namespace TicketMigration

open Text

variable {σ : Type}

/-! ### Retrievals -/

/-- What tickets are asked for. -/
inductive Listing
  /-- Those that match a query. -/
  | matching (query : String)
  /-- The open ones of a component. -/
  | openOf (component : String) (limit : Option Int)
  deriving DecidableEq, Repr

/-- Asks a tracker for tickets. -/
def Listing.read {τ : Type} (tracker : Tracker) (servers : Servers τ) :
    Listing → Run τ (List Ticket)
  | matching query => tracker.ticketsMatching servers query
  | openOf component limit => tracker.openTicketsOf servers component limit

/-- Tickets are asked of a tracker that has been opened at an address. -/
structure Retrieval (σ : Type) where
  /-- The address that was given. -/
  url : String
  /-- The servers behind it. -/
  servers : Servers σ
  /-- What is asked for. -/
  listing : Listing

namespace Retrieval

/-- The address, without trailing slashes. -/
def address (retrieval : Retrieval σ) : String :=
  dropTrailing '/' retrieval.url

/-- Asks a tracker that keeps its answers in a directory. -/
def keeping (directory : String) (retrieval : Retrieval σ) : Run σ (List Ticket) :=
  retrieval.listing.read (.ofUrl retrieval.url (some directory)) retrieval.servers

/-- Asks a tracker that keeps no answers. -/
def uncached (retrieval : Retrieval σ) : Run σ (List Ticket) :=
  retrieval.listing.read (.ofUrl retrieval.url none) retrieval.servers

/-- **What a retrieval does.** -/
theorem does_keeping (directory : String) (retrieval : Retrieval σ) :
    Run.Does retrieval.servers (retrieval.keeping directory)
      (ReadThrough (normalPath directory) retrieval.address fun _ servers =>
        retrieval.listing.read (.ofUrl retrieval.url none) servers) := by
  obtain ⟨url, servers, listing⟩ := retrieval
  have keeps : (Tracker.ofUrl url (some directory)).directory = some (normalPath directory) := rfl
  cases listing with
  | matching query => exact Tracker.does_ticketsMatching keeps query
  | openOf component limit =>
    exact Tracker.does_ticketsMatching keeps (componentQuery component limit)

end Retrieval

/-! ### Calls -/

/-- A request that was sent to the tracker at an address, with the answer. -/
structure RemoteCall where
  /-- The address, without trailing slashes. -/
  url : String
  /-- What was asked, and what came of it. -/
  exchange : Exchange

/-- The entry under which the answer is kept, if one has come. -/
def RemoteCall.entry? (directory : String) (call : RemoteCall) : Option CacheEntry :=
  CacheEntry.granted? directory call.url call.exchange

/-- The first answer among some calls that the tracker at an address has given to a request. -/
def firstTold (url : String) (request : Request) : List RemoteCall → Option request.Answer
  | [] => none
  | ⟨other, asked, .ok answer⟩ :: rest =>
    if h : other = url ∧ asked = request then some (h.2 ▸ answer) else firstTold url request rest
  | ⟨_, _, .error _⟩ :: rest => firstTold url request rest

/-- What is kept of some calls is what was told first. -/
theorem kept?_calls (directory url : String) (request : Request) (calls : List RemoteCall) :
    Tracker.kept? directory url request (calls.filterMap (RemoteCall.entry? directory))
      = firstTold url request calls := by
  induction calls with
  | nil => rfl
  | cons call calls ih =>
    obtain ⟨other, asked, _ | answer⟩ := call
    · exact ih
    · have entry : RemoteCall.entry? directory ⟨other, asked, .ok answer⟩
          = some ⟨directory, other, asked, answer⟩ := rfl
      rw [List.filterMap_cons_some entry, Tracker.kept?, firstTold, ih]
      by_cases same : other = url ∧ asked = request
      · rw [dif_pos same, dif_pos ⟨rfl, same⟩]
      · rw [dif_neg same, dif_neg fun h => same h.2]

/-- What was told first was told in one of the calls. -/
theorem exists_of_firstTold {url : String} {request : Request} {answer : request.Answer}
    {calls : List RemoteCall} (h : firstTold url request calls = some answer) :
    ∃ call ∈ calls, call = ⟨url, request, .ok answer⟩ := by
  induction calls with
  | nil => cases h
  | cons call calls ih =>
    obtain ⟨other, asked, _ | told⟩ := call
    · obtain ⟨call, hc, heq⟩ := ih h
      exact ⟨call, List.mem_cons_of_mem _ hc, heq⟩
    · rw [firstTold] at h
      by_cases same : other = url ∧ asked = request
      · rw [dif_pos same] at h
        obtain rfl := same.1
        obtain rfl := same.2
        cases h
        exact ⟨_, List.mem_cons_self, rfl⟩
      · rw [dif_neg same] at h
        obtain ⟨call, hc, heq⟩ := ih h
        exact ⟨call, List.mem_cons_of_mem _ hc, heq⟩

/-- A request that was granted in one of the calls has been told. -/
theorem isSome_firstTold {call : RemoteCall} {calls : List RemoteCall} (h : call ∈ calls)
    (granted : call.exchange.failure? = none) :
    (firstTold call.url call.exchange.request calls).isSome = true := by
  induction calls with
  | nil => cases h
  | cons other calls ih =>
    obtain ⟨url, asked, failure | told⟩ := other
    · rcases List.mem_cons.1 h with rfl | h
      · cases granted
      · exact ih h
    · rw [firstTold]
      split
      · rfl
      · next different =>
        rcases List.mem_cons.1 h with rfl | h
        · exact absurd ⟨rfl, rfl⟩ different
        · exact ih h

/-- The calls that were made in an episode. -/
def Episode.calls (episode : Episode σ (Retrieval σ) (List Ticket)) : List RemoteCall :=
  (episode.trace episode.step.servers).map (RemoteCall.mk episode.step.address)

/-! ### What a history comes to -/

/-- Servers that always give these answers. -/
def Servers.steady (answers : Answers) : Servers Unit where
  answer request world := (answers request, world)

/-- What is read, and what is asked for on the way, if no answers are kept and each request has one
answer. -/
def Listing.plainly (url : String) (answers : Answers) (listing : Listing) :
    Except Failure (List Ticket) × List Request :=
  let run := (listing.read (.ofUrl url none) (Servers.steady answers)).start { world := () }
  (run.1, run.2.requests)

/-- What a retrieval does behind the calls that were made so far. -/
structure ReadBehind (directory : String) (past : List RemoteCall)
    (episode : Episode σ (Retrieval σ) (List Ticket)) : Prop where
  /-- The trace is all that was asked, with the answers of the servers. -/
  passed : Passed episode.step.servers episode.before (episode.trace episode.step.servers)
    episode.after
  /-- Kept is what was told first, under the address that it was asked of. -/
  kept : ∀ url request, Tracker.kept? (normalPath directory) url request episode.before.cache
    = firstTold url request past
  /-- What is kept stays as it is, also if the retrieval fails.  The answers that have come are kept
  with it, and failures are not. -/
  stored : episode.after.cache
    = episode.before.cache ++ episode.calls.filterMap (RemoteCall.entry? (normalPath directory))
  /-- Each request has one answer, which is the first one that this tracker has given to it, if it
  has given any.  The result is what these answers lead to.  Of what is asked for on the way, all
  that has no answer yet is sent, once, and nothing else. -/
  answered : ∃ answers : Answers,
    (∀ request answer, firstTold episode.step.address request past = some answer →
      answers request = .ok answer) ∧
    episode.result = (episode.step.listing.plainly episode.step.url answers).1 ∧
    episode.trace episode.step.servers =
      (unmet (fun request => (firstTold episode.step.address request past).isSome)
        (episode.step.listing.plainly episode.step.url answers).2).map
          fun request => ⟨request, answers request⟩

/-- What a history of retrievals comes to. -/
structure AnswersKept (directory : String) (turns : List (Turn σ (Retrieval σ)))
    (history : List (Episode σ (Retrieval σ) (List Ticket))) : Prop where
  /-- What each retrieval does behind those before it. -/
  each : ∀ past episode future, history = past ++ episode :: future →
    ReadBehind directory (past.flatMap Episode.calls) episode
  /-- A call behind another one for the same is made only if the other one has failed, so no more
  than one of them succeeds. -/
  once : (history.flatMap Episode.calls).Pairwise fun earlier later =>
    earlier.url = later.url → earlier.exchange.request = later.exchange.request →
      earlier.exchange.failure?.isSome = true
  /-- Calls that are kept under one key are calls for the same. -/
  apart : ∀ call ∈ history.flatMap Episode.calls, ∀ other ∈ history.flatMap Episode.calls,
    ∃ key key', call.exchange.request.storeKey? call.url = some key ∧
      other.exchange.request.storeKey? other.url = some key' ∧
        (key = key' → call.url = other.url ∧ call.exchange.request = other.exchange.request)
  /-- If the servers behind an address always give the same answers, every retrieval has the result
  that it would have if no answers were kept. -/
  transparent : ∀ fixed : String → Answers,
    (∀ turn ∈ turns, turn.step.servers.Always (fixed turn.step.address)) →
      ∀ episode ∈ history, ∀ session : Session σ,
        (episode.step.uncached.start session).1 = episode.result

/-! ### One history -/

section

variable {directory : String} {session : Session σ} {turns : List (Turn σ (Retrieval σ))}

/-- A retrieval reads through the answers that are kept when its turn has come. -/
theorem readThrough_of_mem {episode : Episode σ (Retrieval σ) (List Ticket)}
    (h : episode ∈ episodes (Retrieval.keeping directory) session turns) :
    episode.Was episode.step.servers
      (ReadThrough (normalPath directory) episode.step.address fun _ servers =>
        episode.step.listing.read (.ofUrl episode.step.url none) servers) :=
  Episode.does_of_mem (fun retrieval => retrieval.does_keeping directory) h

/-- What was kept, and what has come since, is kept in front of each retrieval. -/
theorem cache_before {past : List RemoteCall}
    (start : session.cache = past.filterMap (RemoteCall.entry? (normalPath directory)))
    {front back : List (Episode σ (Retrieval σ) (List Ticket))}
    {episode : Episode σ (Retrieval σ) (List Ticket)}
    (h : episodes (Retrieval.keeping directory) session turns = front ++ episode :: back) :
    episode.before.cache = (past ++ front.flatMap Episode.calls).filterMap
      (RemoteCall.entry? (normalPath directory)) := by
  induction turns generalizing session past front with
  | nil => simp [episodes] at h
  | cons turn rest ih =>
    rw [episodes] at h
    cases front with
    | nil =>
      obtain ⟨rfl, -⟩ := List.cons.inj h
      rw [List.flatMap_nil, List.append_nil]
      exact start
    | cons first front =>
      obtain ⟨rfl, hrest⟩ := List.cons.inj h
      rw [List.flatMap_cons, ← List.append_assoc]
      refine ih ?_ hrest
      -- the first retrieval has kept what it was told
      have was := Episode.was_take (Retrieval.keeping directory)
        (turn.step.does_keeping directory) session
      rw [was.deed.stored, List.filterMap_append, Episode.calls, List.filterMap_map]
      exact congrArg (· ++ _) start

/-- What is kept in front of a retrieval is what was told first. -/
theorem kept_before {past back : List (Episode σ (Retrieval σ) (List Ticket))}
    {episode : Episode σ (Retrieval σ) (List Ticket)}
    (h : episodes (Retrieval.keeping directory) { session with cache := [] } turns
      = past ++ episode :: back) (url : String) (request : Request) :
    Tracker.kept? (normalPath directory) url request episode.before.cache
      = firstTold url request (past.flatMap Episode.calls) := by
  have start : ({ session with cache := [] } : Session σ).cache
      = ([] : List RemoteCall).filterMap (RemoteCall.entry? (normalPath directory)) := rfl
  rw [cache_before start h, List.nil_append, kept?_calls]

/-- **One retrieval behind others.** -/
theorem readBehind {past back : List (Episode σ (Retrieval σ) (List Ticket))}
    {episode : Episode σ (Retrieval σ) (List Ticket)}
    (h : episodes (Retrieval.keeping directory) { session with cache := [] } turns
      = past ++ episode :: back) :
    ReadBehind directory (past.flatMap Episode.calls) episode := by
  have mem : episode
      ∈ episodes (Retrieval.keeping directory) { session with cache := [] } turns := by
    rw [h]
    exact List.mem_append_right _ List.mem_cons_self
  obtain ⟨passed, read⟩ := readThrough_of_mem mem
  refine ⟨passed, kept_before h, ?_, ?_⟩
  · rw [Episode.calls, List.filterMap_map]
    exact read.stored
  · obtain ⟨answers, extend, told⟩ := read.exists_answers
    obtain ⟨hresult, needs, hneeds, hsent⟩ := read.same answers extend told Unit
      (Servers.steady answers) (fun _ _ => rfl) { world := () }
    have first (request : Request) :
        Tracker.kept? (normalPath directory) episode.step.address request episode.before.cache
          = firstTold episode.step.address request (past.flatMap Episode.calls) :=
      kept_before h _ request
    refine ⟨answers, fun request answer ha => extend request answer ((first request).trans ha),
      hresult.symm, ?_⟩
    -- each exchange is a request with the answer that it has
    have answered : episode.trace episode.step.servers
        = ((episode.trace episode.step.servers).map (·.request)).map
            fun request => ⟨request, answers request⟩ := by
      rw [List.map_map]
      refine (List.map_id _).symm.trans (List.map_congr_left fun exchange he => ?_)
      rw [Function.comp_apply, told exchange he]
      rfl
    rw [List.nil_append] at hneeds
    rw [answered, hsent, ← hneeds]
    simp only [first]
    rfl

/-- No call is made behind one that was granted for the same. -/
theorem pairwise_calls {front back : List (Episode σ (Retrieval σ) (List Ticket))}
    (h : episodes (Retrieval.keeping directory) { session with cache := [] } turns
      = front ++ back) :
    (front.flatMap Episode.calls).Pairwise fun earlier later =>
      earlier.url = later.url → earlier.exchange.request = later.exchange.request →
        earlier.exchange.failure?.isSome = true := by
  induction front using List.reverseRecOn generalizing back with
  | nil => exact List.Pairwise.nil
  | append_singleton front episode ih =>
    rw [List.append_assoc, List.singleton_append] at h
    have mem : episode
        ∈ episodes (Retrieval.keeping directory) { session with cache := [] } turns := by
      rw [h]
      exact List.mem_append_right _ List.mem_cons_self
    have read := (readThrough_of_mem mem).deed
    rw [List.flatMap_append, List.flatMap_singleton, List.pairwise_append]
    refine ⟨ih h, ?_, ?_⟩
    · -- in one retrieval nothing is sent twice
      rw [Episode.calls, List.pairwise_map]
      refine (List.pairwise_map.1 read.once).imp ?_
      intro earlier later different _ same
      exact absurd same different
    · intro earlier he later hl url same
      obtain ⟨exchange, hx, rfl⟩ := List.mem_map.1 hl
      rw [← Option.ne_none_iff_isSome]
      -- what was granted is kept by now, and what is kept is not sent
      intro granted
      have unkept := read.fresh exchange hx
      have told := isSome_firstTold he granted
      rw [url, same, ← kept_before h, unkept] at told
      cases told

/-- The requests that are sent have keys. -/
theorem storeKey?_of_mem_calls {call : RemoteCall}
    (h : call ∈ (episodes (Retrieval.keeping directory) session turns).flatMap Episode.calls) :
    ∃ key, call.exchange.request.storeKey? call.url = some key := by
  obtain ⟨episode, he, hc⟩ := List.mem_flatMap.1 h
  obtain ⟨exchange, hx, rfl⟩ := List.mem_map.1 hc
  have operation := (readThrough_of_mem he).deed.asked exchange hx
  rw [← Option.isSome_iff_exists, Request.storeKey?, Option.isSome_map]
  exact operation

/-- Where the answers are fixed, all calls have been answered accordingly. -/
theorem answer_of_mem_calls {fixed : String → Answers}
    (always : ∀ turn ∈ turns, turn.step.servers.Always (fixed turn.step.address))
    {call : RemoteCall}
    (h : call ∈ (episodes (Retrieval.keeping directory) session turns).flatMap Episode.calls) :
    fixed call.url call.exchange.request = call.exchange.answer := by
  obtain ⟨episode, he, hc⟩ := List.mem_flatMap.1 h
  obtain ⟨exchange, hx, rfl⟩ := List.mem_map.1 hc
  obtain ⟨turn, ht, hstep⟩ := Episode.exists_turn he
  have always' := always turn ht
  rw [← hstep] at always'
  have was := readThrough_of_mem he
  exact always'.answer_of_replay was.passed.answers was.deed.asked exchange hx

/-- Where the answers are fixed, keeping them does not show. -/
theorem result_of_always {fixed : String → Answers}
    (always : ∀ turn ∈ turns, turn.step.servers.Always (fixed turn.step.address))
    {episode : Episode σ (Retrieval σ) (List Ticket)}
    (he : episode ∈ episodes (Retrieval.keeping directory) { session with cache := [] } turns)
    (other : Session σ) : (episode.step.uncached.start other).1 = episode.result := by
  obtain ⟨past, back, h⟩ := List.append_of_mem he
  obtain ⟨turn, ht, hstep⟩ := Episode.exists_turn he
  have always' := always turn ht
  rw [← hstep] at always'
  obtain ⟨passed, read⟩ := readThrough_of_mem he
  refine (read.same (fixed episode.step.address) ?_ ?_ σ _ always' other).1
  · -- what is kept was told in an earlier call
    intro request answer hk
    rw [kept_before h] at hk
    obtain ⟨call, hc, heq⟩ := exists_of_firstTold hk
    have called : call ∈ (episodes (Retrieval.keeping directory) { session with cache := [] }
        turns).flatMap Episode.calls := by
      rw [h, List.flatMap_append]
      exact List.mem_append_left _ hc
    have told := answer_of_mem_calls always called
    rw [heq] at told
    exact told
  · exact always'.answer_of_replay passed.answers read.asked

/-- **No request is sent again that has been answered, and keeping the answers does not show.**

Trackers are opened at any addresses, with one directory for their answers, which is empty at first;
tickets are asked of them one after the other, and the servers behind them change and fail as they
like.  Each request is sent to each address until it is granted, and not again.  From then on the
first answer is read, and it is read for this request to this address only.  A failure is not kept
and takes nothing away.  If the servers behind each address always give the same answers, every
retrieval ends as it would if no answers were kept. -/
theorem answersKept_of_retrievals (directory : String) (session : Session σ)
    (turns : List (Turn σ (Retrieval σ))) :
    AnswersKept directory turns
      (episodes (Retrieval.keeping directory) { session with cache := [] } turns) where
  each := fun _ _ _ h => readBehind h
  once := pairwise_calls (List.append_nil _).symm
  apart := by
    intro call hc other ho
    obtain ⟨key, hkey⟩ := storeKey?_of_mem_calls hc
    obtain ⟨key', hkey'⟩ := storeKey?_of_mem_calls ho
    refine ⟨key, key', hkey, hkey', ?_⟩
    rintro rfl
    exact Request.storeKey?_inj hkey hkey'
  transparent := fun _ always _ he other => result_of_always always he other

end

end TicketMigration
