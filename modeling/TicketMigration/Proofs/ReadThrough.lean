import Mathlib.Logic.Function.Basic
import TicketMigration.Tracker
import TicketMigration.Proofs.Transcript

/-!
# Reading through kept answers

A tracker that keeps answers is asked only for what is not kept.  What is read in this way is the
same as if every request were sent, provided that each request has one answer: the one that is kept,
or else the one that the server gives now.  So a computation that looks at the kept answers first is
compared with a plain one, which sends every request to servers that always give these answers.

## Main definitions

* `Answers` — an answer for every request; `Servers.Always` says that servers give no others.
* `CacheEntry.granted?` — the entry under which the answer in an exchange is kept.
* `unmet` — the requests that are not known, each of them once.
* `ReadThrough` — a computation reads through the kept answers what a plain one reads.

## Main statements

* `ReadThrough.bind` — **the rule for computations that are put together.**
* `Tracker.does_ask`, `Tracker.does_ticketsMatching` — a request, and all requests for the tickets
  of a query.
* `ReadThrough.exists_answers` — there are answers for which this is the case.
-/

namespace TicketMigration

variable {σ α β : Type}

/-! ### Answers -/

/-- An answer for every request. -/
abbrev Answers := (request : Request) → Except Failure request.Answer

/-- Whatever state they are in, the servers give these answers. -/
def Servers.Always (servers : Servers σ) (answers : Answers) : Prop :=
  ∀ request world, (servers.answer request world).1 = answers request

/-! ### What is kept -/

/-- The entry under which the answer in an exchange with a tracker is kept; a failure is not. -/
def CacheEntry.granted? (directory url : String) (exchange : Exchange) : Option CacheEntry :=
  match exchange with
  | ⟨request, .ok answer⟩ => some ⟨directory, url, request, answer⟩
  | ⟨_, .error _⟩ => none

namespace Tracker

variable {directory url : String} {request : Request}

/-- What is kept in front is found first. -/
theorem kept?_append (earlier later : List CacheEntry) :
    kept? directory url request (earlier ++ later)
      = (kept? directory url request earlier).or (kept? directory url request later) := by
  induction earlier with
  | nil => rfl
  | cons entry earlier ih =>
    rw [List.cons_append, kept?, kept?]
    split
    · rfl
    · exact ih

/-- What is kept of exchanges is the answer in one of them. -/
theorem exists_of_kept?_granted {trace : List Exchange} {answer : request.Answer}
    (h : kept? directory url request (trace.filterMap (CacheEntry.granted? directory url))
      = some answer) :
    ∃ exchange ∈ trace, exchange = ⟨request, .ok answer⟩ := by
  induction trace with
  | nil => cases h
  | cons exchange trace ih =>
    obtain ⟨asked, _ | told⟩ := exchange
    · obtain ⟨exchange, he, heq⟩ := ih h
      exact ⟨exchange, List.mem_cons_of_mem _ he, heq⟩
    · have entry : CacheEntry.granted? directory url ⟨asked, .ok told⟩
          = some ⟨directory, url, asked, told⟩ := rfl
      rw [List.filterMap_cons_some entry, kept?] at h
      by_cases same : directory = directory ∧ url = url ∧ asked = request
      · rw [dif_pos same] at h
        obtain rfl := same.2.2
        cases h
        exact ⟨_, List.mem_cons_self, rfl⟩
      · rw [dif_neg same] at h
        obtain ⟨exchange, he, heq⟩ := ih h
        exact ⟨exchange, List.mem_cons_of_mem _ he, heq⟩

/-- An answer that has come is kept. -/
theorem isSome_kept?_of_granted {trace : List Exchange} {exchange : Exchange}
    (h : exchange ∈ trace) (granted : exchange.failure? = none) :
    (kept? directory url exchange.request
      (trace.filterMap (CacheEntry.granted? directory url))).isSome = true := by
  obtain ⟨asked, _ | told⟩ := exchange
  · cases granted
  · obtain ⟨front, back, rfl⟩ := List.append_of_mem h
    have entry : CacheEntry.granted? directory url ⟨asked, .ok told⟩
        = some ⟨directory, url, asked, told⟩ := rfl
    rw [List.filterMap_append, List.filterMap_cons_some entry, kept?_append, kept?,
      dif_pos ⟨rfl, rfl, rfl⟩]
    simp

/-- If no exchange has failed, the answers to all of them are kept, and no others. -/
theorem isSome_kept?_granted (directory url : String) {trace : List Exchange}
    (granted : ∀ exchange ∈ trace, exchange.failure? = none) (request : Request) :
    (kept? directory url request (trace.filterMap (CacheEntry.granted? directory url))).isSome
      = decide (request ∈ trace.map (·.request)) := by
  by_cases asked : request ∈ trace.map (·.request)
  · obtain ⟨exchange, he, rfl⟩ := List.mem_map.1 asked
    rw [isSome_kept?_of_granted he (granted exchange he), decide_eq_true asked]
  · rw [decide_eq_false asked, ← Bool.not_eq_true]
    intro h
    obtain ⟨answer, ha⟩ := Option.isSome_iff_exists.1 h
    obtain ⟨exchange, he, rfl⟩ := exists_of_kept?_granted ha
    exact asked (List.mem_map_of_mem he)

end Tracker

/-! ### What is asked for -/

/-- The requests that are not known, each of them once, in the order in which they first come up. -/
def unmet (known : Request → Bool) (needs : List Request) : List Request :=
  (needs.filter fun request => !known request).eraseDups

theorem mem_unmet {known : Request → Bool} {needs : List Request} {request : Request} :
    request ∈ unmet known needs ↔ request ∈ needs ∧ known request = false := by
  simp [unmet]

/-- What is known after the first requests is not asked for once more. -/
theorem unmet_append {known known' : Request → Bool} {needs needs' : List Request}
    (h : ∀ request, known' request = (known request || decide (request ∈ unmet known needs))) :
    unmet known (needs ++ needs') = unmet known needs ++ unmet known' needs' := by
  rw [unmet, List.filter_append, List.eraseDups_append]
  congr 1
  rw [unmet, List.removeAll, List.filter_filter]
  congr 2
  funext request
  rw [h request]
  -- a request that is not known is one of the first ones, or none of them
  cases hk : known request with
  | true => simp
  | false => simp [mem_unmet, hk]

/-! ### Reading through -/

/-- A computation for any servers. -/
abbrev Plain (α : Type) := (τ : Type) → Servers τ → Run τ α

/-- Each of these is the answer that is kept, if one is kept. -/
def Answers.Extend (answers : Answers) (directory url : String) (cache : List CacheEntry) : Prop :=
  ∀ request answer, Tracker.kept? directory url request cache = some answer →
    answers request = .ok answer

/-- The answers that are kept.  A request whose answer is not kept may have any answer. -/
def Answers.kept (directory url : String) (cache : List CacheEntry) : Answers :=
  fun request => (Tracker.kept? directory url request cache).elim (.error .shortAnswer) .ok

/-- Answers may be changed into those that were told to some requests, each made once. -/
theorem Answers.exists_told (answers : Answers) {trace : List Exchange}
    (once : (trace.map (·.request)).Nodup) :
    ∃ changed : Answers,
      (∀ request, request ∉ trace.map (·.request) → changed request = answers request) ∧
        ∀ exchange ∈ trace, changed exchange.request = exchange.answer := by
  induction trace with
  | nil => exact ⟨answers, fun _ _ => rfl, by simp⟩
  | cons exchange trace ih =>
    rw [List.map_cons, List.nodup_cons] at once
    obtain ⟨changed, same, told⟩ := ih once.2
    refine ⟨Function.update changed exchange.request exchange.answer, ?_, ?_⟩
    · intro request hr
      rw [List.map_cons, List.mem_cons, not_or] at hr
      rw [Function.update_of_ne hr.1, same request hr.2]
    · intro other ho
      rcases List.mem_cons.1 ho with rfl | ho
      · exact Function.update_self ..
      · have different : other.request ≠ exchange.request := by
          intro again
          exact once.1 (again ▸ List.mem_map_of_mem ho)
        rw [Function.update_of_ne different, told other ho]

/-- A computation reads through the kept answers what a plain one reads.  It sends what is not kept,
and the answers are kept from then on. -/
structure ReadThrough (directory url : String) (plain : Plain α) (before : Session σ)
    (trace : List Exchange) (result : Except Failure α) (after : Session σ) : Prop where
  /-- The answers that have come are kept, and failures are not. -/
  stored : after.cache
    = before.cache ++ trace.filterMap (CacheEntry.granted? directory url)
  /-- Nothing is asked for that is kept. -/
  fresh : ∀ exchange ∈ trace, Tracker.kept? directory url exchange.request before.cache = none
  /-- Nothing is asked for twice. -/
  once : (trace.map (·.request)).Nodup
  /-- The tracker is asked, and not only noted down as asked. -/
  asked : ∀ exchange ∈ trace, exchange.request.operation?.isSome = true
  /-- A failure ends the reading. -/
  granted : ∀ a, result = .ok a → ∀ exchange ∈ trace, exchange.failure? = none
  /-- If each request has the answer that is kept or has come, then from any servers that always
  give these answers the plain computation reads the same, and what it asks for is sent if it is
  not kept. -/
  same : ∀ answers : Answers, answers.Extend directory url before.cache →
    (∀ exchange ∈ trace, answers exchange.request = exchange.answer) →
    ∀ (τ : Type) (servers : Servers τ), servers.Always answers → ∀ session : Session τ,
      ((plain τ servers).start session).1 = result ∧
        ∃ needs, ((plain τ servers).start session).2.requests = session.requests ++ needs ∧
          trace.map (·.request) = unmet
            (fun request => (Tracker.kept? directory url request before.cache).isSome) needs

namespace ReadThrough

variable {directory url : String} {before between after : Session σ}
  {earlier later trace : List Exchange}

/-- Where nothing is asked, nothing is kept. -/
theorem silent {plain : Plain α} {result : Except Failure α} (kept : after.cache = before.cache)
    (h : ∀ (τ : Type) (servers : Servers τ) (session : Session τ),
      ((plain τ servers).start session).1 = result ∧
        ((plain τ servers).start session).2.requests = session.requests) :
    ReadThrough directory url plain before [] result after where
  stored := by rw [kept, List.filterMap_nil, List.append_nil]
  fresh := by simp
  once := List.nodup_nil
  asked := by simp
  granted := by simp
  same := by
    intro answers _ _ τ servers _ session
    obtain ⟨hr, hs⟩ := h τ servers session
    exact ⟨hr, [], by rw [hs, List.append_nil], rfl⟩

/-- A failure of the first part is one of the whole. -/
theorem failed {plain : Plain α} {failure : Failure} (rest : α → Plain β)
    (h : ReadThrough directory url plain before trace (.error failure) after) :
    ReadThrough directory url (fun τ servers => plain τ servers >>= fun a => rest a τ servers)
      before trace (.error failure) after where
  stored := h.stored
  fresh := h.fresh
  once := h.once
  asked := h.asked
  granted := by rintro _ ⟨⟩
  same := by
    intro answers extend told τ servers always session
    obtain ⟨hr, needs, hneeds, hasked⟩ := h.same answers extend told τ servers always session
    rw [Run.start_bind]
    rcases hrun : (plain τ servers).start session with ⟨_ | _, plainAfter⟩
    · rw [hrun] at hr hneeds
      exact ⟨congrArg Except.error (Except.error.inj hr), needs, hneeds, hasked⟩
    · rw [hrun] at hr
      cases hr

/-- What is kept after the first part is what was kept before it, and the answers that have come. -/
theorem kept_between {plain : Plain α} {result : Except Failure α}
    (h : ReadThrough directory url plain before trace result after) (request : Request) :
    Tracker.kept? directory url request after.cache
      = (Tracker.kept? directory url request before.cache).or (Tracker.kept? directory url request
          (trace.filterMap (CacheEntry.granted? directory url))) := by
  rw [h.stored, Tracker.kept?_append]

/-- Answers that fit what was kept before, and what has come, fit what is kept after. -/
theorem extend_after {plain : Plain α} {result : Except Failure α} {answers : Answers}
    (h : ReadThrough directory url plain before trace result after)
    (extend : answers.Extend directory url before.cache)
    (told : ∀ exchange ∈ trace, answers exchange.request = exchange.answer) :
    answers.Extend directory url after.cache := by
  intro request answer hk
  rw [h.kept_between, Option.or_eq_some_iff] at hk
  rcases hk with hk | ⟨-, hk⟩
  · exact extend request answer hk
  · obtain ⟨exchange, he, rfl⟩ := Tracker.exists_of_kept?_granted hk
    exact told _ he

/-- The second part goes on with what the first one has left. -/
theorem trans {plain : Plain α} {rest : α → Plain β} {a : α} {result : Except Failure β}
    (h₁ : ReadThrough directory url plain before earlier (.ok a) between)
    (h₂ : ReadThrough directory url (rest a) between later result after) :
    ReadThrough directory url (fun τ servers => plain τ servers >>= fun a => rest a τ servers)
      before (earlier ++ later) result after where
  stored := by rw [h₂.stored, h₁.stored, List.filterMap_append, List.append_assoc]
  fresh := by
    intro exchange he
    rcases List.mem_append.1 he with he | he
    · exact h₁.fresh exchange he
    · have none := h₂.fresh exchange he
      rw [h₁.kept_between, Option.or_eq_none_iff] at none
      exact none.1
  once := by
    rw [List.map_append]
    refine List.nodup_append.2 ⟨h₁.once, h₂.once, ?_⟩
    intro request first _ second same
    subst same
    -- the answer to the first part's request is kept, so the second part does not send it
    obtain ⟨exchange, he, hrequest⟩ := List.mem_map.1 second
    have none := h₂.fresh exchange he
    rw [hrequest, h₁.kept_between, Option.or_eq_none_iff] at none
    have kept := Tracker.isSome_kept?_granted directory url (h₁.granted a rfl) request
    rw [none.2, decide_eq_true first] at kept
    cases kept
  asked := by
    intro exchange he
    rcases List.mem_append.1 he with he | he
    · exact h₁.asked exchange he
    · exact h₂.asked exchange he
  granted := by
    intro b hb exchange he
    rcases List.mem_append.1 he with he | he
    · exact h₁.granted a rfl exchange he
    · exact h₂.granted b hb exchange he
  same := by
    intro answers extend told τ servers always session
    have told₁ : ∀ exchange ∈ earlier, answers exchange.request = exchange.answer :=
      fun exchange he => told exchange (List.mem_append_left _ he)
    have told₂ : ∀ exchange ∈ later, answers exchange.request = exchange.answer :=
      fun exchange he => told exchange (List.mem_append_right _ he)
    obtain ⟨hr, needs, hneeds, hasked⟩ := h₁.same answers extend told₁ τ servers always session
    rw [Run.start_bind]
    rcases hrun : (plain τ servers).start session with ⟨_ | a', plainBetween⟩
    · rw [hrun] at hr
      cases hr
    · rw [hrun] at hr hneeds
      obtain rfl := Except.ok.inj hr
      obtain ⟨hr', needs', hneeds', hasked'⟩ := h₂.same answers (h₁.extend_after extend told₁)
        told₂ τ servers always plainBetween
      refine ⟨hr', needs ++ needs', by rw [hneeds', hneeds, List.append_assoc], ?_⟩
      rw [List.map_append, hasked, hasked']
      refine (unmet_append fun request => ?_).symm
      -- all requests of the first part are known by now
      rw [← hasked, h₁.kept_between, Option.isSome_or,
        Tracker.isSome_kept?_granted directory url (h₁.granted _ rfl)]

/-- **The rule for computations that are put together.** -/
theorem bind {servers : Servers σ} {x : Run σ α} {f : α → Run σ β} {plain : Plain α}
    {rest : α → Plain β} (hx : Run.Does servers x (ReadThrough directory url plain))
    (hf : ∀ a, Run.Does servers (f a) (ReadThrough directory url (rest a))) :
    Run.Does servers (x >>= f)
      (ReadThrough directory url fun τ servers => plain τ servers >>= fun a => rest a τ servers) :=
  Run.Does.bind hx _ hf (fun _ _ _ _ h => h.failed rest) fun _ _ _ _ _ _ _ h₁ h₂ => h₁.trans h₂

/-- A value is the same for everybody. -/
theorem does_pure {servers : Servers σ} (a : α) :
    Run.Does servers (pure a) (ReadThrough directory url fun _ _ => pure a) :=
  .of_pure fun _ => silent rfl fun _ _ _ => ⟨rfl, rfl⟩

/-- A result that has been computed is the same for everybody. -/
theorem does_ofExcept {servers : Servers σ} (result : Except Failure α) :
    Run.Does servers (Run.ofExcept result)
      (ReadThrough directory url fun _ _ => Run.ofExcept result) := by
  cases result with
  | ok a => exact does_pure a
  | error failure => exact .of_throw fun _ => silent rfl fun _ _ _ => ⟨rfl, rfl⟩

/-- What is logged is not kept. -/
theorem does_log {servers : Servers σ} (level : Level) (text : String) :
    Run.Does servers (Run.log level text : Run σ Unit)
      (ReadThrough directory url fun _ _ => Run.log level text) := by
  refine (Run.does_log servers level text).mono ?_
  rintro before _ _ _ ⟨rfl, rfl, rfl⟩
  exact silent rfl fun _ _ _ => ⟨rfl, rfl⟩

/-- There are answers of which each is the one that is kept, or else the one that has come. -/
theorem exists_answers {plain : Plain α} {result : Except Failure α}
    (h : ReadThrough directory url plain before trace result after) :
    ∃ answers : Answers, answers.Extend directory url before.cache ∧
      ∀ exchange ∈ trace, answers exchange.request = exchange.answer := by
  obtain ⟨answers, same, told⟩ :=
    (Answers.kept directory url before.cache).exists_told h.once
  refine ⟨answers, ?_, told⟩
  intro request answer hk
  have unsent : request ∉ trace.map (·.request) := by
    intro sent
    obtain ⟨exchange, he, rfl⟩ := List.mem_map.1 sent
    rw [h.fresh exchange he] at hk
    cases hk
  rw [same request unsent, Answers.kept, hk, Option.elim_some]

end ReadThrough

/-! ### Trackers -/

/-- An operation of a tracker is sent, and not only noted down. -/
theorem Servers.settle_of_operation? (servers : Servers σ) {request : Request}
    (h : request.operation?.isSome = true) (world : σ) :
    servers.settle request world = servers.answer request world := by
  cases request with
  | query | tickets | changeLog => rfl
  | _ => cases h

/-- Servers that always give the same answers have given them in all that was asked. -/
theorem Servers.Always.answer_of_replay {servers : Servers σ} {answers : Answers}
    (always : servers.Always answers) {trace : List Exchange} {world after : σ}
    (replayed : servers.replay world (trace.map (·.request)) = (trace, after))
    (asked : ∀ exchange ∈ trace, exchange.request.operation?.isSome = true) :
    ∀ exchange ∈ trace, answers exchange.request = exchange.answer := by
  induction trace generalizing world with
  | nil => simp
  | cons first trace ih =>
    -- the first request is answered, and the rest of them from the state that this leads to
    obtain ⟨hfirst, hafter⟩ := Prod.mk.inj replayed
    obtain ⟨hanswer, hrest⟩ := List.cons.inj hfirst
    rw [List.forall_mem_cons] at asked ⊢
    refine ⟨?_, ih (Prod.ext hrest hafter) asked.2⟩
    have told := eq_of_heq (Exchange.mk.inj hanswer).2
    rw [← always first.request world, ← servers.settle_of_operation? asked.1 world, told]

namespace Tracker

variable {servers : Servers σ} {tracker : Tracker} {directory : String}

/-- The same tracker, if no answers are kept. -/
def uncached (tracker : Tracker) : Tracker :=
  { tracker with directory := none }

/-- **A request is sent if its answer is not kept**, and then the answer is kept, if one comes. -/
theorem does_ask (keeps : tracker.directory = some directory) {request : Request}
    (operation : request.operation?.isSome = true) :
    Run.Does servers (tracker.ask servers request)
      (ReadThrough directory tracker.url fun _ servers =>
        tracker.uncached.ask servers request) := by
  unfold ask
  rw [keeps]
  refine Run.Does.get_bind fun session => ?_
  split
  · next answer known =>
    refine .of_pure fun before => ?_
    rintro rfl
    refine ⟨by rw [List.filterMap_nil, List.append_nil], by simp, List.nodup_nil, by simp,
      by simp, ?_⟩
    intro answers extend _ τ servers always session'
    -- a plain tracker sends the request and is told the same
    refine ⟨(always request _).trans (extend request answer known), [request], rfl, ?_⟩
    simp [unmet, known]
  · next unknown =>
    have once : [request] = unmet (fun request =>
        (kept? directory tracker.url request session.cache).isSome) [request] := by
      simp [unmet, unknown, List.eraseDups_cons]
    refine (Run.does_send servers request (servers.settle_of_operation? operation)).bind
      (fun answer before trace result after => trace = [] ∧ result = .ok answer ∧
        after.cache = before.cache ++ [⟨directory, tracker.url, request, answer⟩])
      (fun answer => Run.Does.modify_bind _ (fun _ => rfl) (fun _ => rfl) (.of_pure ?_)) ?_ ?_
    · rintro _ before rfl
      exact ⟨rfl, rfl, rfl⟩
    · rintro before trace failure after ⟨rfl, ha⟩ rfl
      refine ⟨?_, by simpa using unknown, by simp, by simpa using operation, ?_, ?_⟩
      · rw [ha]
        exact (List.append_nil _).symm
      · rintro _ ⟨⟩
      · intro answers _ told τ servers always session'
        exact ⟨(always request _).trans (told _ List.mem_cons_self), [request], rfl, once⟩
    · rintro before _ answer between _ _ after ⟨rfl, ha⟩ ⟨rfl, rfl, hc⟩ rfl
      rw [List.append_nil]
      refine ⟨?_, by simpa using unknown, by simp, by simpa using operation, ?_, ?_⟩
      · rw [hc, ha]
        rfl
      · rintro _ - exchange he
        rw [List.mem_singleton.1 he]
        rfl
      · intro answers _ told τ servers always session'
        exact ⟨(always request _).trans (told _ List.mem_cons_self), [request], rfl, once⟩

/-- Tickets are read one after the other, each with its change log. -/
theorem does_readTickets (keeps : tracker.directory = some directory)
    (answers : List (List WireValue)) :
    Run.Does servers (tracker.readTickets servers answers)
      (ReadThrough directory tracker.url fun _ servers =>
        tracker.uncached.readTickets servers answers) := by
  induction answers with
  | nil => exact ReadThrough.does_pure []
  | cons answer rest ih =>
    refine ReadThrough.bind (ReadThrough.does_ofExcept _) fun id => ?_
    refine ReadThrough.bind (does_ask keeps rfl) fun changes => ?_
    refine ReadThrough.bind (ReadThrough.does_ofExcept _) fun ticket => ?_
    exact ReadThrough.bind ih fun tickets => ReadThrough.does_pure (ticket :: tickets)

/-- **Reading the tickets of a query through the kept answers** gives what a plain tracker gives. -/
theorem does_ticketsMatching (keeps : tracker.directory = some directory) (query : String) :
    Run.Does servers (tracker.ticketsMatching servers query)
      (ReadThrough directory tracker.url fun _ servers =>
        tracker.uncached.ticketsMatching servers query) := by
  refine ReadThrough.bind (ReadThrough.does_log _ _) fun _ => ?_
  refine ReadThrough.bind (does_ask keeps rfl) fun ids => ?_
  exact ReadThrough.bind (does_ask keeps rfl) fun answers => does_readTickets keeps answers

end Tracker

end TicketMigration
