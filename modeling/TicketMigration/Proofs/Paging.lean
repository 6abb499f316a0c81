import TicketMigration.Proofs.Rosters

/-!
# Reading the users page by page

The users are read from the issue server in pages, counted from one.  Every page leads on to the
next one but the last: one that is not full, one that holds the administrator, one that cannot be
read, or the one with the highest number that is allowed.  What has been read becomes known as a
whole when the last page has been read, and not at all if a page cannot be read.

## Main definitions

* `PageAnswer` — what the server answers when it is asked for a page.
* `pageExchanges` — the exchanges in which pages are asked for, one after the other.
* `endsPaging` — whether a page leads on to no other one.
* `Paged` — the answers are those up to the first page that leads on to no other one.
* `usersOn` — the users on all pages.
* `FetchedBehind` — what fetching pages behind others does.
* `Refreshed` — what fetching the users anew does to a session, `Consulted` what asking for them
  does.

## Main statements

* `Directory.does_fetchFrom_paged`, `Directory.does_reload_refreshed` — **fetching the users reads
  the pages in order, and makes known all that it has read or nothing.**
* `Directory.does_roster_refreshed`, `Directory.does_get?_consulted` — the users are fetched if they
  are not known.
-/

namespace TicketMigration

variable {σ : Type} {servers : Servers σ}

/-! ### Pages -/

/-- What the server answers when it is asked for a page. -/
abbrev PageAnswer := Except Failure (List RemoteUser)

/-- The exchanges in which pages of a size are asked for from a number on. -/
def pageExchanges (size : Int) : Nat → List PageAnswer → List Exchange
  | _, [] => []
  | page, answer :: rest => ⟨.users page size, answer⟩ :: pageExchanges size (page + 1) rest

theorem pageExchanges_inj {size : Int} {page : Nat} {answers answers' : List PageAnswer}
    (h : pageExchanges size page answers = pageExchanges size page answers') :
    answers = answers' := by
  induction answers generalizing page answers' with
  | nil =>
    cases answers' with
    | nil => rfl
    | cons => cases h
  | cons answer answers ih =>
    cases answers' with
    | nil => cases h
    | cons answer' answers' =>
      obtain ⟨hfirst, hrest⟩ := List.cons.inj h
      rw [eq_of_heq (Exchange.mk.inj hfirst).2, ih hrest]

/-- Whether a page leads on to no other one: it cannot be read, is not full, or holds the
administrator. -/
def endsPaging (size : Int) : PageAnswer → Bool
  | .error _ => true
  | .ok users => decide (users.length < size) || users.any fun user => user.id == administratorId

/-- The users on all pages, or the failure to read one of them. -/
def usersOn : List PageAnswer → Except Failure (List RemoteUser)
  | [] => .ok []
  | .error failure :: _ => .error failure
  | .ok users :: rest => (usersOn rest).map (users ++ ·)

/-- The pages of a list of answers are asked for one after the other: each of them but the last
leads on to the next one, and the last one leads on to none or is the last that is allowed. -/
structure Paged (size : Int) (allowed : Nat) (answers : List PageAnswer) : Prop where
  /-- No more pages are asked for than are allowed. -/
  capped : answers.length ≤ allowed
  /-- All pages but the last lead on to another one. -/
  goesOn : ∀ answer ∈ answers.dropLast, endsPaging size answer = false
  /-- The last one does not, unless no more are allowed. -/
  ends : answers.length = allowed ∨
    ∃ answer, answers.getLast? = some answer ∧ endsPaging size answer = true

namespace Paged

variable {size : Int} {allowed : Nat} {answer : PageAnswer} {answers : List PageAnswer}

theorem nil : Paged size 0 [] := ⟨Nat.le_refl 0, by simp, .inl rfl⟩

theorem singleton (h : endsPaging size answer = true) : Paged size (allowed + 1) [answer] :=
  ⟨by simp, by simp, .inr ⟨answer, rfl, h⟩⟩

theorem cons (h : endsPaging size answer = false) (rest : Paged size allowed answers) :
    Paged size (allowed + 1) (answer :: answers) := by
  refine ⟨Nat.succ_le_succ rest.capped, ?_, ?_⟩
  · rcases answers with _ | ⟨next, answers⟩
    · simp
    · rw [List.dropLast_cons_cons]
      exact List.forall_mem_cons.2 ⟨h, rest.goesOn⟩
  · rcases rest.ends with hlength | ⟨last, hlast, hends⟩
    · exact .inl (by rw [List.length_cons, hlength])
    · exact .inr ⟨last, by rw [List.getLast?_cons, hlast]; rfl, hends⟩

end Paged

/-- A failure of the earlier pages is one of them all; otherwise the users of the later ones come
behind those of the earlier ones. -/
theorem usersOn_append (earlier later : List PageAnswer) :
    usersOn (earlier ++ later)
      = (usersOn earlier).bind fun users => (usersOn later).map (users ++ ·) := by
  induction earlier with
  | nil =>
    rw [List.nil_append]
    rcases usersOn later with failure | users <;> rfl
  | cons answer earlier ih =>
    rcases answer with failure | users
    · rfl
    · rw [List.cons_append, usersOn, usersOn, ih]
      rcases usersOn earlier with failure | users'
      · rfl
      · rcases usersOn later with failure | users''
        · rfl
        · exact congrArg Except.ok (List.append_assoc ..).symm

/-! ### Fetching -/

/-- The directory whose users are those of the issue server. -/
def Directory.ofServers (servers : Servers σ) (pageSize maxPages : Int) : Directory σ :=
  ⟨fetchUsers servers, pageSize, maxPages⟩

/-- The resolver whose users are those of the issue server. -/
def Resolver.ofServers (servers : Servers σ) (pageSize maxPages : Int) (mapping : Entries) :
    Resolver σ :=
  ⟨.ofServers servers pageSize maxPages, mapping⟩

/-- What fetching the users anew does: it asks for the pages in order, and all that it has read
becomes known, or nothing does. -/
structure Refreshed (pageSize maxPages : Int) (answers : List PageAnswer) (before : Session σ)
    (trace : List Exchange) (result : Except Failure Roster) (after : Session σ) : Prop where
  /-- The pages are asked for from the first one on. -/
  asked : trace = pageExchanges pageSize 1 answers
  /-- The last page is the first one that leads on to no other. -/
  paged : Paged pageSize maxPages.toNat answers
  /-- The result is all that was read. -/
  read : result = (usersOn answers).map (Roster.putAll [])
  /-- It becomes known, or what is known stays. -/
  known : after.roster = result.toOption.or before.roster
  /-- Nothing is counted. -/
  misses : after.misses = before.misses

/-- What asking for the users does: those that are known are given, and else they are fetched. -/
inductive Consulted (pageSize maxPages : Int) (before : Session σ) :
    List Exchange → Except Failure Roster → Session σ → Prop
  /-- The users are known. -/
  | known {users : Roster} (held : before.roster = some users) :
    Consulted pageSize maxPages before [] (.ok users) before
  /-- The users are fetched. -/
  | fetched {answers : List PageAnswer} {trace : List Exchange} {result : Except Failure Roster}
    {after : Session σ} (unknown : before.roster = none)
    (refreshed : Refreshed pageSize maxPages answers before trace result after) :
    Consulted pageSize maxPages before trace result after

/-- Reading the users fails only with the failure to read a page. -/
theorem Refreshed.unread {pageSize maxPages : Int} {answers : List PageAnswer}
    {before after : Session σ} {trace : List Exchange} {failure : Failure}
    (h : Refreshed pageSize maxPages answers before trace (.error failure) after) :
    usersOn answers = .error failure := by
  have read := h.read
  cases hu : usersOn answers with
  | error other =>
    rw [hu] at read
    cases read
    rfl
  | ok users =>
    rw [hu] at read
    cases read

namespace Consulted

variable {pageSize maxPages : Int} {before after : Session σ} {trace : List Exchange}
  {result : Except Failure Roster}

/-- The users that are given are known from then on. -/
theorem roster_of_ok {users : Roster}
    (h : Consulted pageSize maxPages before trace (.ok users) after) :
    after.roster = some users := by
  cases h with
  | known held => exact held
  | fetched _ refreshed => exact refreshed.known

/-- There are none to give only if a page could not be read. -/
theorem unread {failure : Failure}
    (h : Consulted pageSize maxPages before trace (.error failure) after) :
    ∃ answers, trace = pageExchanges pageSize 1 answers ∧ usersOn answers = .error failure := by
  cases h with
  | @fetched answers _ _ _ _ refreshed => exact ⟨answers, refreshed.asked, refreshed.unread⟩

/-- If there are none to give, none are known, as before. -/
theorem roster_of_error {failure : Failure}
    (h : Consulted pageSize maxPages before trace (.error failure) after) :
    after.roster = before.roster := by
  cases h with
  | fetched _ refreshed => exact refreshed.known

theorem misses (h : Consulted pageSize maxPages before trace result after) :
    after.misses = before.misses := by
  cases h with
  | known => rfl
  | fetched _ refreshed => exact refreshed.misses

end Consulted

namespace Directory

variable {pageSize maxPages : Int}

/-- What fetching pages from a number on does, where `earlier` are the answers for pages that have
been asked for and not yet been counted.  The users that are known are left alone. -/
def FetchedBehind (pageSize : Int) (earlier : List PageAnswer) (page allowed : Nat) (users : Roster)
    (before : Session σ) (trace : List Exchange) (result : Except Failure Roster)
    (after : Session σ) : Prop :=
  ∃ answers, trace = pageExchanges pageSize page answers ∧
    Paged pageSize allowed (earlier ++ answers) ∧
      result = (usersOn (earlier ++ answers)).map users.putAll ∧
        after.roster = before.roster ∧ after.misses = before.misses

/-- A page that leads on to no other one is the last one. -/
theorem does_pure_fetched {listed : List RemoteUser} (ends : endsPaging pageSize (.ok listed) = true)
    (page left : Nat) (users : Roster) :
    Run.Does servers (pure (users.putAll listed))
      (FetchedBehind pageSize [.ok listed] page (left + 1) users) :=
  .of_pure fun _ => ⟨[], rfl, .singleton ends,
    congrArg (fun all => Except.ok (users.putAll all)) (List.append_nil listed).symm, rfl, rfl⟩

/-- **The pages are read in order, until one leads on to no other.** -/
theorem does_fetchFrom_paged (page left : Nat) (users : Roster) :
    Run.Does servers ((ofServers servers pageSize maxPages).fetchFrom page left users)
      (FetchedBehind pageSize [] page left users) := by
  induction left generalizing page users with
  | zero =>
    refine Run.Does.log_bind _ _ (.of_pure ?_)
    rintro _ before rfl
    exact ⟨[], rfl, .nil, rfl, rfl, rfl⟩
  | succ left ih =>
    -- what follows a page that has been read goes with the answer for this page in front
    refine (Run.does_send servers (.users page pageSize) fun _ => rfl).bind
      (fun (listed : List RemoteUser) =>
        FetchedBehind pageSize [.ok listed] (page + 1) (left + 1) users)
      (fun (listed : List RemoteUser) => ?_) ?_ ?_
    · split
      · next hshort =>
        refine does_pure_fetched ?_ (page + 1) left users
        rw [endsPaging, Bool.or_eq_true]
        exact .inl (decide_eq_true hshort)
      · next hfull =>
        split
        · next hadmin =>
          have ends : endsPaging pageSize (.ok listed) = true := by
            rw [endsPaging, Bool.or_eq_true]
            exact .inr hadmin
          refine Run.Does.log_bind _ _ ((does_pure_fetched ends (page + 1) left users).mono ?_)
          rintro _ trace result after h before rfl
          exact h
        · next hadmin =>
          have goesOn : endsPaging pageSize (.ok listed) = false := by
            rw [endsPaging, Bool.or_eq_false_iff]
            exact ⟨decide_eq_false hfull, by simpa using hadmin⟩
          refine (ih (page + 1) (users.putAll listed)).mono ?_
          rintro before trace result after ⟨answers, rfl, hp, rfl, hr, hm⟩
          refine ⟨answers, rfl, .cons goesOn hp, ?_, hr, hm⟩
          rw [List.singleton_append, usersOn, List.nil_append]
          rcases usersOn answers with failure | more
          · rfl
          · exact congrArg Except.ok (Roster.putAll_append users listed more).symm
    · rintro before trace failure after ⟨rfl, ha⟩
      exact ⟨[.error failure], rfl, .singleton rfl, rfl, by rw [ha], by rw [ha]⟩
    · rintro before earlier listed between later result after ⟨rfl, ha⟩
        ⟨answers, rfl, hp, rfl, hr, hm⟩
      exact ⟨.ok listed :: answers, rfl, hp, rfl, hr.trans (by rw [ha]), hm.trans (by rw [ha])⟩

/-- **Fetching the users anew makes known all that it has read, or nothing.** -/
theorem does_reload_refreshed :
    Run.Does servers (ofServers servers pageSize maxPages).reload
      fun before trace result after =>
        ∃ answers, Refreshed pageSize maxPages answers before trace result after := by
  refine (does_fetchFrom_paged 1 maxPages.toNat []).bind
    (fun users before trace result after => trace = [] ∧ result = .ok users ∧
      after.roster = some users ∧ after.misses = before.misses) (fun users => ?_) ?_ ?_
  · refine Run.Does.log_bind _ _
      (Run.Does.modify_bind _ (fun _ => rfl) (fun _ => rfl) (.of_pure ?_))
    rintro _ between rfl before rfl
    exact ⟨rfl, rfl, rfl, rfl⟩
  · rintro before trace failure after ⟨answers, ha, hp, hr, hk, hm⟩
    exact ⟨answers, ha, hp, hr, hk, hm⟩
  · rintro before earlier users between later result after ⟨answers, rfl, hp, hr, hk, hm⟩
      ⟨rfl, rfl, hk', hm'⟩
    exact ⟨answers, List.append_nil _, hp, hr, hk', hm'.trans hm⟩

/-- The users are fetched exactly if they are not known. -/
theorem does_roster_refreshed :
    Run.Does servers (ofServers servers pageSize maxPages).roster
      (Consulted pageSize maxPages) := by
  refine Run.Does.get_bind fun session => ?_
  split
  · next users hs =>
    refine .of_pure fun before => ?_
    rintro rfl
    exact .known hs
  · next hs =>
    refine does_reload_refreshed.mono ?_
    rintro before trace result after ⟨answers, h⟩ rfl
    exact .fetched hs h

/-- A name is looked up in the users.  That fails if the users cannot be read, and if there can be no
such name. -/
theorem does_get?_consulted (name : Value) :
    Run.Does servers ((ofServers servers pageSize maxPages).get? name)
      fun before trace result after => ∃ read, Consulted pageSize maxPages before trace read after ∧
        (∀ user, result = .ok user → ∃ users, read = .ok users ∧ user = users.userOf name) ∧
        ∀ failure, result = .error failure →
          read = .error failure ∨ failure = .unhashable ∧ name.isKey = false := by
  refine does_roster_refreshed.bind
    (fun users before trace result after => trace = [] ∧ after = before ∧
      result = if name.isKey then .ok (users.userOf name) else .error .unhashable)
    (fun users => ?_) ?_ ?_
  · split
    · exact .of_pure fun _ => ⟨rfl, rfl, rfl⟩
    · exact .of_throw fun _ => ⟨rfl, rfl, rfl⟩
  · intro before trace failure after h
    refine ⟨_, h, ?_, ?_⟩
    · rintro _ ⟨⟩
    · rintro _ ⟨⟩
      exact .inl rfl
  · rintro before earlier users between later result after h ⟨rfl, rfl, rfl⟩
    rw [List.append_nil]
    refine ⟨_, h, ?_, ?_⟩
    · intro user hu
      split at hu
      · exact ⟨users, rfl, (Except.ok.inj hu).symm⟩
      · cases hu
    · intro failure hf
      split at hf
      · cases hf
      · next hkey =>
        cases hf
        exact .inr ⟨rfl, by simpa using hkey⟩

end Directory

end TicketMigration
