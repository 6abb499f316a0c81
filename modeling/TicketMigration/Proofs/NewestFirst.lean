import Mathlib.Data.List.Nodup
import TicketMigration.Proofs.Paging

/-!
# Nobody is missed

The issue server lists its accounts with the newest one first, and while the pages are read one
after the other, new accounts may come up in front of the list.  That moves the other accounts to
later places, so a page may hold accounts that the page before has held already, but none can slip
between two pages.  What has not been read by then stands behind the pages that have been read, in
the list as it is now.

So everything that was there at the beginning has been read as soon as nothing stands behind the
last page.  This is the case if the last page is not full.  It is also the case if it holds the
administrator, who has the lowest number of all and so is the last of the list.

## Main definitions

* `AccountList` — accounts in falling order of their numbers.
* `ListsNewestFirst servers accounts` — the pages are cut from the list as it is when they are asked
  for, and the list grows in front only.
* `lastAsked` — the servers in front of the last request for a page.
* `PagesHold` — what the pages have held that were read in turn.
* `ReadComplete` — what reading the users has made known.

## Main statements

* `AccountList.length_le_of_administrator` — nothing stands behind the administrator.
* `ListsNewestFirst.covers` — what has not been read stands behind the pages that were read.
* `ListsNewestFirst.pagesHold` — the pages hold all accounts that were there at the beginning.
* `reload_readComplete` — **reading the users misses nobody.**
-/

namespace TicketMigration

/-! ### Lists of accounts -/

/-- The accounts of the issue server, the newest one first. -/
structure AccountList where
  /-- The accounts. -/
  users : List RemoteUser
  /-- A newer account has a greater number. -/
  newestFirst : users.Pairwise fun newer older => older.id < newer.id
  /-- No number is below that of the administrator. -/
  positive : ∀ user ∈ users, administratorId ≤ user.id
  /-- No two accounts have the same name. -/
  distinct : (users.map (·.username)).Nodup

namespace AccountList

/-- Nothing stands behind the administrator. -/
theorem length_le_of_administrator (accounts : AccountList) {start size : Nat} {user : RemoteUser}
    (h : user ∈ (accounts.users.drop start).take size) (hid : user.id = administratorId) :
    accounts.users.length ≤ start + size := by
  by_contra hlong
  obtain ⟨older, holder⟩ : ∃ older, older ∈ (accounts.users.drop start).drop size :=
    List.exists_mem_of_length_pos (by
      rw [List.length_drop, List.length_drop]
      omega)
  have sorted : ((accounts.users.drop start).take size
      ++ (accounts.users.drop start).drop size).Pairwise fun newer older => older.id < newer.id := by
    rw [List.take_append_drop]
    exact accounts.newestFirst.sublist (List.drop_sublist _ _)
  have below : older.id < user.id := (List.pairwise_append.1 sorted).2.2 user h older holder
  have bound : administratorId ≤ older.id :=
    accounts.positive older (List.mem_of_mem_drop (List.mem_of_mem_drop holder))
  omega

/-- Nothing stands behind a page that leads on to no other. -/
theorem length_le_of_endsPaging (accounts : AccountList) {start size : Nat}
    (h : endsPaging size (.ok ((accounts.users.drop start).take size)) = true) :
    accounts.users.length ≤ start + size := by
  rw [endsPaging, Bool.or_eq_true, decide_eq_true_eq, List.any_eq_true] at h
  rcases h with short | ⟨user, hu, hid⟩
  · rw [List.length_take, List.length_drop] at short
    omega
  · exact accounts.length_le_of_administrator hu (by simpa using hid)

/-- A name belongs to one account only. -/
theorem eq_of_username_eq (accounts : AccountList) {user other : RemoteUser}
    (hu : user ∈ accounts.users) (ho : other ∈ accounts.users)
    (h : other.username = user.username) : other = user :=
  List.inj_on_of_nodup_map accounts.distinct ho hu h

end AccountList

/-- The users of a list that has them all are found under their names. -/
theorem find?_reverse_username {users : List RemoteUser} {user : RemoteUser} (hu : user ∈ users)
    (unique : ∀ other ∈ users, other.username = user.username → other = user) :
    (users.reverse.find? fun other => other.username = user.username) = some user := by
  rcases hfound : users.reverse.find? fun other => other.username = user.username with _ | other
  · have := List.find?_eq_none.1 hfound user (List.mem_reverse.2 hu)
    simp at this
  · have name : other.username = user.username := by simpa using List.find?_some hfound
    have same := unique other (List.mem_reverse.1 (List.mem_of_find?_eq_some hfound)) name
    exact hfound.trans (congrArg some same)

/-! ### A server that lists them -/

variable {σ : Type} {servers : Servers σ} {accounts : σ → AccountList}

/-- The issue server cuts its pages from the list of its accounts as it is when they are asked for.
By the next request any number of accounts may have come up in front. -/
structure ListsNewestFirst (servers : Servers σ) (accounts : σ → AccountList) : Prop where
  /-- A page is the part of the list at its place. -/
  lists : ∀ (page size : Nat) (world : σ),
    (servers.answer (.users (page + 1 : Nat) size) world).1
      = .ok (((accounts world).users.drop (page * size)).take size)
  /-- The list grows in front. -/
  grows : ∀ (page size : Nat) (world : σ), ∃ created,
    (accounts (servers.answer (.users (page + 1 : Nat) size) world).2).users
      = created ++ (accounts world).users

/-- Pages that were read in turn have been answered one after the other. -/
theorem replay_pageExchanges_cons {size : Int} {page : Nat} {answer : PageAnswer}
    {answers : List PageAnswer} {world after : σ}
    (h : servers.replay world ((pageExchanges size page (answer :: answers)).map (·.request))
      = (pageExchanges size page (answer :: answers), after)) :
    answer = (servers.answer (.users page size) world).1 ∧
      servers.replay (servers.answer (.users page size) world).2
          ((pageExchanges size (page + 1) answers).map (·.request))
        = (pageExchanges size (page + 1) answers, after) := by
  obtain ⟨hfirst, hafter⟩ := Prod.mk.inj h
  obtain ⟨hanswer, hrest⟩ := List.cons.inj hfirst
  exact ⟨(eq_of_heq (Exchange.mk.inj hanswer).2).symm, Prod.ext hrest hafter⟩

namespace ListsNewestFirst

/-- **What has not been read stands behind the pages that were read**, in the list as it is by
then.  What was read is in this list, and so is all that was there before. -/
theorem covers (h : ListsNewestFirst servers accounts) {size : Nat} (answers : List PageAnswer)
    (page : Nat) {world after : σ}
    (passed : servers.replay world ((pageExchanges size (page + 1) answers).map (·.request))
      = (pageExchanges size (page + 1) answers, after)) :
    ∃ read, usersOn answers = .ok read ∧
      (∀ user ∈ read, user ∈ (accounts after).users) ∧
      (∀ user ∈ (accounts world).users, user ∈ (accounts after).users) ∧
      ∀ user ∈ (accounts world).users.drop (page * size),
        user ∈ read ∨ user ∈ (accounts after).users.drop ((page + answers.length) * size) := by
  induction answers generalizing page world with
  | nil =>
    obtain rfl : world = after := congrArg Prod.snd passed
    exact ⟨[], rfl, by simp, fun _ hu => hu, fun _ hu => .inr hu⟩
  | cons answer answers ih =>
    obtain ⟨hanswer, rest⟩ := replay_pageExchanges_cons passed
    obtain rfl : answer = .ok (((accounts world).users.drop (page * size)).take size) :=
      hanswer.trans (h.lists page size world)
    obtain ⟨created, hgrown⟩ := h.grows page size world
    obtain ⟨read, hread, hknown, hkept, hcovered⟩ := ih (page + 1) rest
    have kept : ∀ user ∈ (accounts world).users, user ∈ (accounts after).users := fun user hu =>
      hkept user (by rw [hgrown]; exact List.mem_append_right created hu)
    refine ⟨((accounts world).users.drop (page * size)).take size ++ read, ?_, ?_, kept, ?_⟩
    · rw [usersOn, hread]
      rfl
    · intro user hu
      rcases List.mem_append.1 hu with hu | hu
      · exact kept user (List.mem_of_mem_drop (List.mem_of_mem_take hu))
      · exact hknown user hu
    · intro user hu
      rw [← List.take_append_drop size ((accounts world).users.drop (page * size)),
        List.mem_append, List.drop_drop, ← Nat.succ_mul] at hu
      rcases hu with hu | hu
      · exact .inl (List.mem_append_left _ hu)
      · -- the new accounts only push it further back
        have behind : user ∈ (created ++ (accounts world).users).drop ((page + 1) * size) := by
          rw [List.drop_append]
          exact List.mem_append_right _ (List.drop_subset_drop_left _ (Nat.sub_le _ _) hu)
        rw [← hgrown] at behind
        rcases hcovered user behind with hu | hu
        · exact .inl (List.mem_append_right _ hu)
        · rw [List.length_cons, show page + (answers.length + 1) = page + 1 + answers.length by omega]
          exact .inr hu

end ListsNewestFirst

/-! ### Reading the users -/

/-- The servers as they are when the last of these pages is asked for. -/
def lastAsked (servers : Servers σ) (world : σ) (size : Int) (answers : List PageAnswer) : σ :=
  (servers.replay world ((pageExchanges size 1 answers.dropLast).map (·.request))).2

/-- What reading the users has made known: `answers` are the pages that were read in the run, which
began in the given session. -/
structure ReadComplete (servers : Servers σ) (accounts : σ → AccountList) (size cap : Nat)
    (session : Session σ) (run : Except Failure Roster × Session σ) (answers : List PageAnswer) :
    Prop where
  /-- Pages were asked for one after the other, and nothing else was. -/
  passed : Passed servers session (pageExchanges size 1 answers) run.2
  /-- There was at least one of them, and no more than are allowed. -/
  asked : 1 ≤ answers.length ∧ answers.length ≤ cap
  /-- Reading them succeeds. -/
  succeeds : ∃ users, run.1 = .ok users
  /-- A page that ends the reading early is the last one of the list. -/
  early : answers.length < cap →
    (accounts (lastAsked servers session.world size answers)).users.length ≤ size * answers.length
  /-- If the pages that are allowed have room for the whole list, everybody who was there at the
  beginning is found. -/
  found : (accounts (lastAsked servers session.world size answers)).users.length ≤ size * cap →
    ∀ user ∈ (accounts session.world).users,
      ((Directory.ofServers servers size cap).get? (.ofString user.username)).start run.2
        = (.ok (some user), run.2)
  /-- Whoever is found has an account. -/
  only : ∀ name user,
    (((Directory.ofServers servers size cap).get? name).start run.2).1 = .ok (some user) →
      user ∈ (accounts run.2.world).users

theorem pageExchanges_append (size : Int) (page : Nat) (earlier later : List PageAnswer) :
    pageExchanges size page (earlier ++ later)
      = pageExchanges size page earlier ++ pageExchanges size (page + earlier.length) later := by
  induction earlier generalizing page with
  | nil => rfl
  | cons answer earlier ih =>
    rw [List.cons_append, pageExchanges, ih, pageExchanges, List.cons_append, List.length_cons,
      Nat.add_assoc, Nat.add_comm 1]

/-- Looking up a name in users that are known asks for nothing. -/
theorem Directory.start_get? {directory : Directory σ} {session : Session σ} {users : Roster}
    (h : session.roster = some users) (name : Value) :
    (directory.get? name).start session
      = (if name.isKey then .ok (users.userOf name) else .error .unhashable, session) := by
  have read : (get : Run σ (Session σ)).start session = (.ok session, session) := rfl
  have known : directory.roster.start session = (.ok users, session) := by
    rw [roster, Run.start_bind, read]
    dsimp only
    rw [h]
    rfl
  rw [get?, Run.start_bind, known]
  dsimp only
  split <;> rfl

/-- The last page is cut from the list as it is when it is asked for. -/
theorem ListsNewestFirst.last_page (h : ListsNewestFirst servers accounts) {size : Nat}
    {front : List PageAnswer} {last : PageAnswer} {world after : σ}
    (passed : servers.replay world ((pageExchanges size 1 (front ++ [last])).map (·.request))
      = (pageExchanges size 1 (front ++ [last]), after)) :
    servers.replay world ((pageExchanges size 1 front).map (·.request))
        = (pageExchanges size 1 front, lastAsked servers world size (front ++ [last])) ∧
      last = .ok (((accounts (lastAsked servers world size (front ++ [last]))).users.drop
        (front.length * size)).take size) ∧
      ∃ created, (accounts after).users
        = created ++ (accounts (lastAsked servers world size (front ++ [last]))).users := by
  rw [pageExchanges_append, List.map_append] at passed
  obtain ⟨hfront, hlast⟩ := Servers.replay_eq_append passed
  rw [Nat.add_comm 1] at hlast
  obtain ⟨hanswer, hafter⟩ := replay_pageExchanges_cons hlast
  have asked : (servers.replay world ((pageExchanges size 1 front).map (·.request))).2
      = lastAsked servers world size (front ++ [last]) := by
    rw [lastAsked, List.dropLast_concat]
  rw [asked] at hfront hanswer hafter
  obtain rfl := congrArg Prod.snd hafter
  exact ⟨hfront, hanswer.trans (h.lists _ _ _), h.grows _ _ _⟩

/-- What pages that were read in turn have held, `world` being the servers as they are when the last
one is asked for. -/
structure PagesHold (accounts : σ → AccountList) (size cap : Nat) (before world after : σ)
    (answers : List PageAnswer) (all : List RemoteUser) : Prop where
  /-- All pages could be read. -/
  read : usersOn answers = .ok all
  /-- What they hold is in the list. -/
  listed : ∀ user ∈ all, user ∈ (accounts world).users
  /-- The list has grown in front since. -/
  grown : ∃ created, (accounts after).users = created ++ (accounts world).users
  /-- They have room for the list, unless no more are allowed. -/
  room : answers.length = cap ∨ (accounts world).users.length ≤ size * answers.length
  /-- If they have room for it, they hold all that was in it at the beginning. -/
  complete : (accounts world).users.length ≤ size * answers.length →
    ∀ user ∈ (accounts before).users, user ∈ all

/-- **Pages that were read in turn hold all accounts** that were there at the beginning. -/
theorem ListsNewestFirst.pagesHold (h : ListsNewestFirst servers accounts) {size cap : Nat}
    {answers : List PageAnswer} {before after : σ} (hne : answers ≠ [])
    (paged : Paged size cap answers)
    (passed : servers.replay before ((pageExchanges size 1 answers).map (·.request))
      = (pageExchanges size 1 answers, after)) :
    ∃ all, PagesHold accounts size cap before (lastAsked servers before size answers) after
      answers all := by
  obtain ⟨front, last, rfl⟩ : ∃ front last, answers = front ++ [last] :=
    ⟨_, _, (List.dropLast_concat_getLast hne).symm⟩
  obtain ⟨hfront, hlast, grown⟩ := h.last_page passed
  generalize lastAsked servers before size (front ++ [last]) = world at *
  obtain ⟨read, hread, hknown, -, hcovered⟩ := h.covers front 0 hfront
  rw [Nat.zero_mul, List.drop_zero, Nat.zero_add] at hcovered
  have pages : size * (front ++ [last]).length = front.length * size + size := by
    rw [List.length_append, List.length_singleton, Nat.mul_comm, Nat.succ_mul]
  generalize hpage : ((accounts world).users.drop (front.length * size)).take size = page at hlast
  subst hlast
  refine ⟨read ++ page, ?_, ?_, grown, paged.ends.imp id ?_, ?_⟩
  · rw [usersOn_append, hread]
    exact congrArg (fun users => Except.ok (read ++ users)) (List.append_nil page)
  · intro user hu
    rcases List.mem_append.1 hu with hu | hu
    · exact hknown user hu
    · rw [← hpage] at hu
      exact List.mem_of_mem_drop (List.mem_of_mem_take hu)
  · rintro ⟨answer, hanswer, hends⟩
    rw [List.getLast?_concat] at hanswer
    obtain rfl := Option.some.inj hanswer
    rw [← hpage] at hends
    rw [pages]
    exact (accounts world).length_le_of_endsPaging hends
  · intro fits user hu
    rw [pages] at fits
    -- nothing stands behind the last page
    have behind : (accounts world).users.drop (front.length * size) = page := by
      rw [← hpage, List.take_of_length_le]
      rw [List.length_drop]
      omega
    rw [List.mem_append, ← behind]
    exact hcovered user hu

/-- **Reading the users misses nobody.**  However many accounts come up while the pages are read,
everybody who was there at the beginning is found under the own name, provided that the pages that
are allowed have room for the list as it is when the last one is asked for. -/
theorem reload_readComplete (h : ListsNewestFirst servers accounts) (size : Nat) {cap : Nat}
    (hcap : 1 ≤ cap) (session : Session σ) :
    ∃ answers, ReadComplete servers accounts size cap session
      ((Directory.ofServers servers size cap).reload.start session) answers := by
  have refreshed : Run.Does servers (Directory.ofServers servers size cap).reload _ :=
    Directory.does_reload_refreshed
  obtain ⟨_, passed, answers, rfl, paged, result, known, -⟩ := refreshed session
  generalize (Directory.ofServers servers size cap).reload.start session = run at *
  rw [Int.toNat_natCast] at paged
  have asked : 1 ≤ answers.length := by
    rcases paged.ends with hlength | ⟨answer, hanswer, -⟩
    · omega
    · exact List.length_pos_of_mem (List.mem_of_getLast? hanswer)
  obtain ⟨all, hold⟩ := h.pagesHold (List.ne_nil_of_length_pos asked) paged passed.answers
  rw [hold.read] at result
  rw [result] at known
  refine ⟨answers, passed, ⟨asked, paged.capped⟩, ⟨_, result⟩, ?_, ?_, ?_⟩
  · intro early
    exact hold.room.resolve_left (by omega)
  · intro room user hu
    have fits := hold.room.elim (fun hlength => by rwa [hlength]) id
    have there := hold.complete fits user hu
    rw [Directory.start_get? known, Value.isKey_ofString, if_pos rfl, Roster.userOf_ofString,
      Roster.lookup_putAll, find?_reverse_username there fun other ho hname =>
        (accounts _).eq_of_username_eq (hold.listed user there) (hold.listed other ho) hname]
    rfl
  · intro name user hfound
    obtain ⟨created, grown⟩ := hold.grown
    rw [Directory.start_get? known] at hfound
    split at hfound
    · have hu := Roster.mem_of_mem_putAll (Roster.mem_of_userOf (Except.ok.inj hfound))
      rw [List.map_nil, List.mem_nil_iff, or_false] at hu
      rw [grown]
      exact List.mem_append_right created (hold.listed user hu)
    · cases hfound

/-- The accounts before and after a third one has come up. -/
def twoThenThree (created : Bool) : AccountList :=
  if created then
    ⟨[⟨3, "eve", []⟩, ⟨2, "bob", []⟩, ⟨1, "root", []⟩], by decide, by decide, by decide⟩
  else ⟨[⟨2, "bob", []⟩, ⟨1, "root", []⟩], by decide, by decide, by decide⟩

/-- A server on which this account comes up behind the first request for a page. -/
def creating : Servers Bool where
  answer
    | .users page size, created =>
      (.ok (((twoThenThree created).users.drop ((page.toNat - 1) * size.toNat)).take size.toNat),
        true)
    | .query _, created => (.ok [], created)
    | .tickets _, created => (.ok [], created)
    | .changeLog _, created => (.ok [], created)
    | .createIssue _ _ _, created => (.ok (1 : Int), created)
    | .createNote _ _ _ _, created => (.ok (), created)
    | .connectTracker _, created | .connectForge _ _ _, created | .openProject _, created
    | .openIssue _ _, created => (.ok (), created)

/-- The first account is read twice, since the new one has moved it to the second page. -/
theorem reload_readComplete_creating :
    let run := (Directory.ofServers creating 1 3).reload.start { world := false }
    ListsNewestFirst creating twoThenThree ∧ 1 ≤ 3 ∧
      run.2.requests = [.users 1 1, .users 2 1, .users 3 1] ∧
      run.2.roster.map (·.map (·.1)) = some ["bob", "root"] ∧
      ∃ answers, ReadComplete creating twoThenThree 1 3 { world := false } run answers := by
  intro run
  have lists : ListsNewestFirst creating twoThenThree :=
    ⟨fun page size created => rfl, fun page size created => by
      cases created with
      | true => exact ⟨[], rfl⟩
      | false => exact ⟨[⟨3, "eve", []⟩], rfl⟩⟩
  exact ⟨lists, by decide, by decide, by decide,
    reload_readComplete lists 1 (by decide) { world := false }⟩

end TicketMigration
