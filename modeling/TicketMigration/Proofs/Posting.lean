import TicketMigration.Proofs.Lookup

/-!
# Postings on the issue server

To post is to make one attempt on behalf of the author and, if the server refuses that to the
author, the same attempt once more on behalf of nobody in particular.  Before the first attempt
the project may have to be made ready; before the second one there is nothing left to do, so the
two attempts follow each other directly.

## Main definitions

* `Posted` — what posting does to a session.

## Main statements

* `does_impersonating` — the two attempts, for any action that is made of requests.
* `Forge.does_postIssue`, `Forge.does_postNote` — **creating an issue or a note is one posting.**
-/

namespace TicketMigration

variable {σ : Type} {servers : Servers σ}

/-- A refusal is a failure of the issue server, which says something. -/
theorem Failure.isRefusal_of_forgeMessage?_eq_none {failure : Failure}
    (h : failure.forgeMessage? = none) : failure.isRefusal = false := by
  cases failure with
  | forge => cases h
  | _ => rfl

/-! ### Attempts -/

/-- What one attempt does, where `ready` says of the projects that have been made ready that
nothing is left to do before it. -/
structure Attempted {β : Type} (ready : List String → Prop)
    (attempt : Except Failure β → Exchange) (before : Session σ) (trace : List Exchange)
    (result : Except Failure β) (after : Session σ) : Prop where
  /-- The attempt is the last request. -/
  asked : ∃ lead, (∀ exchange ∈ lead, exchange.Quiet) ∧ (ready before.projects → lead = []) ∧
    trace = lead ++ [attempt result]
  /-- Nothing is left to do before another one. -/
  isReady : ready after.projects
  /-- The users that are known are the same. -/
  roster : after.roster = before.roster

/-- **An attempt on behalf of a user that is refused to that user is made once more**, on behalf of
nobody in particular, and then its result stands. -/
theorem does_impersonating {β : Type} {describe : Int → String} {action : Option Int → Run σ β}
    {ready : List String → Prop} {attempt : Option Int → Except Failure β → Exchange}
    (h : ∀ actor, Run.Does servers (action actor) (Attempted ready (attempt actor)))
    (actor : Option Int) :
    Run.Does servers (impersonating describe Failure.isRefusal action actor)
      fun before trace result after => after.roster = before.roster ∧
        ∃ lead, (∀ exchange ∈ lead, exchange.Quiet) ∧
          ((trace = lead ++ [attempt actor result] ∧
              (actor.isSome = true → ∀ failure, failure? result = some failure →
                failure.isRefusal = false)) ∨
            ∃ refusal : Failure, actor.isSome = true ∧ refusal.isRefusal = true ∧
              trace = lead ++ [attempt actor (.error refusal), attempt none result]) := by
  unfold impersonating
  split
  · refine (h none).mono ?_
    rintro before trace result after ⟨⟨lead, hq, -, ht⟩, -, hr⟩
    exact ⟨hr, lead, hq, .inl ⟨ht, fun h => by cases h⟩⟩
  · next user =>
    refine (h (some user)).tryCatch
      (fun failure before trace result after =>
        (failure.isRefusal = false ∧ trace = [] ∧ result = .error failure ∧ after = before) ∨
          (failure.isRefusal = true ∧ Attempted ready (attempt none) before trace result after))
      (fun failure => ?_) ?_ ?_
    · -- a failure that is no refusal is passed on
      have passedOn (hf : failure.isRefusal = false) :
          Run.Does servers (throw failure : Run σ β) fun before trace result after =>
            (failure.isRefusal = false ∧ trace = [] ∧ result = .error failure ∧ after = before) ∨
              (failure.isRefusal = true ∧
                Attempted ready (attempt none) before trace result after) :=
        .of_throw fun _ => .inl ⟨hf, rfl, rfl, rfl⟩
      split
      · next hm => exact passedOn (Failure.isRefusal_of_forgeMessage?_eq_none hm)
      · split
        · next hf =>
          refine Run.Does.log_bind _ _ ((h none).mono ?_)
          rintro between trace result after ⟨hl, hp, hr⟩ before rfl
          exact .inr ⟨hf, hl, hp, hr⟩
        · next hf => exact passedOn (by simpa using hf)
    · -- the first attempt succeeds
      rintro before trace a after ⟨⟨lead, hq, -, ht⟩, -, hr⟩
      exact ⟨hr, lead, hq, .inl ⟨ht, fun _ _ h => by cases h⟩⟩
    · rintro before earlier failure between later result after ⟨⟨lead, hq, -, rfl⟩, hp, hr⟩
        (⟨hf, rfl, rfl, rfl⟩ | ⟨hf, ⟨lead', -, hn, rfl⟩, -, hr'⟩)
      · refine ⟨hr, lead, hq, .inl ⟨List.append_nil _, ?_⟩⟩
        rintro - _ ⟨⟩
        exact hf
      · refine ⟨hr'.trans hr, lead, hq, .inr ⟨failure, rfl, hf, ?_⟩⟩
        rw [hn hp, List.append_assoc]
        rfl

/-! ### Postings -/

/-- What posting does: it may have to make something ready, and then makes the attempts of one
proper posting. -/
structure Posted {β : Type} (project : String) (post : Posting) (before : Session σ)
    (trace : List Exchange) (result : Except Failure β) (after : Session σ) : Prop where
  /-- The attempts are the last requests. -/
  asked : ∃ lead, (∀ exchange ∈ lead, exchange.Quiet) ∧ trace = lead ++ post.attempts project
  /-- There were as many attempts as there should be. -/
  proper : post.Proper
  /-- The posting fails as the whole does. -/
  fails : post.failure = failure? result
  /-- The users that are known are the same. -/
  roster : after.roster = before.roster

/-- A posting is a course of its own. -/
theorem Posted.course {β : Type} {project : String} {post : Posting} {before after : Session σ}
    {trace : List Exchange} {result : Except Failure β}
    (h : Posted project post before trace result after) (faults : Failure → Prop) :
    Course project faults [post] trace (failure? result) := by
  obtain ⟨⟨lead, hq, rfl⟩, hp, hf, -⟩ := h
  refine Course.quiet_append hq ?_
  cases result with
  | ok a =>
    have nothing : Course project faults [] [] none := .done
    simpa using Course.post post hp hf nothing
  | error failure => exact .unposted post failure hp hf

/-- The attempts of `impersonating` are those of a posting, if each attempt is one at the write. -/
theorem does_impersonating_posting {β : Type} (describe : Int → String)
    {action : Option Int → Run σ β} {ready : List String → Prop}
    {attempt : Option Int → Except Failure β → Exchange}
    (h : ∀ actor, Run.Does servers (action actor) (Attempted ready (attempt actor)))
    (project : String) {actor : Option Int} (write : Except Failure β → Write)
    (hactor : ∀ result, (write result).actor = actor)
    (hlast : ∀ user result, attempt user result =
      (write result).attempt project user (failure? result))
    (hfirst : ∀ user refusal result, attempt user (.error refusal) =
      (write result).attempt project user (some refusal)) :
    Run.Does servers (impersonating describe Failure.isRefusal action actor)
      fun before trace result after => ∃ post : Posting, post.write = write result ∧
        Posted project post before trace result after := by
  refine (does_impersonating h actor).mono ?_
  rintro before trace result after ⟨hr, lead, hq, ⟨rfl, hn⟩ | ⟨refusal, ha, hf, rfl⟩⟩
  · refine ⟨⟨write result, none, failure? result⟩, rfl, ⟨lead, hq, ?_⟩, ⟨?_, ?_⟩, rfl, hr⟩
    · rw [hlast]
      simp only [Posting.attempts, hactor]
    · rintro _ ⟨⟩
    · intro _ ha
      rw [hactor] at ha
      exact hn ha
  · refine ⟨⟨write result, some refusal, failure? result⟩, rfl, ⟨lead, hq, ?_⟩, ⟨?_, ?_⟩, rfl, hr⟩
    · rw [hfirst actor refusal result, hlast]
      simp only [Posting.attempts, hactor]
    · rintro _ ⟨⟩
      exact ⟨by rw [hactor]; exact ha, hf⟩
    · rintro ⟨⟩

namespace Forge

/-- A project is made ready once. -/
theorem does_openProject (project : String) :
    Run.Does servers (openProject project : Run σ Unit) fun before trace result after =>
      (∀ exchange ∈ trace, exchange.Quiet) ∧ (project ∈ before.projects → trace = []) ∧
        result = .ok () ∧ project ∈ after.projects ∧ after.roster = before.roster := by
  unfold openProject
  refine Run.Does.get_bind fun session => ?_
  split
  · next hp =>
    refine .of_pure fun before => ?_
    rintro rfl
    exact ⟨by simp, fun _ => rfl, rfl, by simpa using hp, rfl⟩
  · next hp =>
    refine (Run.does_record servers (.openProject project) fun _ => rfl).bind _
      (fun _ => Run.does_modify servers _ (fun _ => rfl) fun _ => rfl) ?_ ?_
    · rintro before trace failure after ⟨-, h, -⟩
      cases h
    · rintro before earlier a between later result after ⟨rfl, -, rfl⟩ ⟨rfl, rfl, rfl⟩ rfl
      refine ⟨?_, fun h => absurd (by simpa using h) hp, rfl, by simp, rfl⟩
      intro exchange he
      rw [List.append_nil, List.mem_singleton] at he
      subst he
      exact ⟨rfl, rfl⟩

/-- The issue that is to be created. -/
def issueDraft (forge : Forge) (title : Option String) (description labels : String)
    (assignee : Option Int) (createdAt : Option Moment) : IssueDraft :=
  { title, description, labels, assignee, createdAt := forge.stamp createdAt }

/-- The note that is to be created. -/
def noteDraft (forge : Forge) (body : String) (createdAt : Option Moment) : NoteDraft :=
  { body, createdAt := forge.stamp createdAt }

/-- **Creating an issue is one posting**, and the number of the issue is the one that the server
gives. -/
theorem does_postIssue (forge : Forge) (project : String) (title : Option String)
    (description labels : String) (assignee author : Option Int) (createdAt : Option Moment) :
    Run.Does servers
      (forge.postIssue servers project title description labels assignee author createdAt)
      fun before trace result after => ∃ (post : Posting) (number : Int),
        post.write = .issue (forge.issueDraft title description labels assignee createdAt)
            (forge.actor author) number ∧
          (∀ issue, result = .ok issue → number = issue) ∧
            Posted project post before trace result after := by
  let draft := forge.issueDraft title description labels assignee createdAt
  -- the project is made ready with the first attempt
  have attempt (actor : Option Int) : Run.Does servers
      (do openProject project; Run.send servers (.createIssue project draft actor))
      (Attempted (project ∈ ·) fun result => ⟨.createIssue project draft actor, result⟩) := by
    refine (does_openProject project).bind _ (fun _ => Run.does_send servers _ fun _ => rfl) ?_ ?_
    · rintro before trace failure after ⟨-, -, h, -⟩
      cases h
    · rintro before earlier a between later result after ⟨hq, hn, -, hp, hr⟩ ⟨rfl, ha⟩
      exact ⟨⟨earlier, hq, hn, rfl⟩, by rw [ha]; exact hp, by rw [ha]; exact hr⟩
  refine (does_impersonating_posting toString attempt project
      (fun result => .issue draft (forge.actor author) (result.toOption.getD 0))
      (fun _ => rfl) ?_ ?_).bind
    (fun issue before trace result after =>
      trace = [] ∧ result = .ok issue ∧ after.roster = before.roster) (fun issue => ?_) ?_ ?_
  · intro user result
    cases result <;> rfl
  · intro user refusal result
    rfl
  · refine Run.Does.log_bind _ _ (.of_pure ?_)
    rintro _ before rfl
    exact ⟨rfl, rfl, rfl⟩
  · rintro before trace failure after ⟨post, hw, hp⟩
    refine ⟨post, _, hw, ?_, hp.asked, hp.proper, hp.fails, hp.roster⟩
    rintro _ ⟨⟩
  · rintro before earlier issue between later result after ⟨post, hw, hp⟩ ⟨rfl, rfl, hr⟩
    refine ⟨post, issue, hw, ?_, ?_, hp.proper, hp.fails, hr.trans hp.roster⟩
    · rintro _ ⟨⟩
      rfl
    · rw [List.append_nil]
      exact hp.asked

/-- **Creating a note is one posting.** -/
theorem does_postNote (forge : Forge) (project : String) (issue : Int) (body : String)
    (author : Option Int) (createdAt : Option Moment) :
    Run.Does servers (forge.postNote servers project issue body author createdAt)
      fun before trace result after => ∃ post : Posting,
        post.write = .note issue (forge.noteDraft body createdAt) (forge.actor author) ∧
          Posted project post before trace result after := by
  let draft := forge.noteDraft body createdAt
  have attempt (actor : Option Int) : Run.Does servers
      (Run.send servers (.createNote project issue draft actor))
      (Attempted (fun _ => True) fun result =>
        ⟨.createNote project issue draft actor, result⟩) := by
    refine (Run.does_send servers _ fun _ => rfl).mono ?_
    rintro before trace result after ⟨rfl, ha⟩
    exact ⟨⟨[], by simp, fun _ => rfl, rfl⟩, trivial, by rw [ha]⟩
  have create := does_impersonating_posting toString attempt project
    (fun _ => .note issue draft (forge.actor author)) (fun _ => rfl)
    (fun _ result => by cases result <;> rfl) fun _ _ _ => rfl
  -- the project and the issue are made ready in front of both attempts
  refine (does_openProject project).bind
    (fun _ before trace result after => ∃ post : Posting,
      post.write = .note issue draft (forge.actor author) ∧
        Posted project post before trace result after)
    (fun _ => (Run.does_record servers (.openIssue project issue) fun _ => rfl).bind _
      (fun _ => create) ?_ ?_) ?_ ?_
  · rintro before trace failure after ⟨-, h, -⟩
    cases h
  · rintro before earlier a between later result after ⟨rfl, -, rfl⟩
      ⟨post, hw, ⟨lead, hq, rfl⟩, hp, hf, hr⟩
    refine ⟨post, hw, ⟨_ :: lead, ?_, rfl⟩, hp, hf, hr⟩
    intro exchange he
    rcases List.mem_cons.1 he with rfl | he
    · exact ⟨rfl, rfl⟩
    · exact hq exchange he
  · rintro before trace failure after ⟨-, -, h, -⟩
    cases h
  · rintro before earlier a between later result after ⟨hq', -, -, -, hr'⟩
      ⟨post, hw, ⟨lead, hq, rfl⟩, hp, hf, hr⟩
    refine ⟨post, hw, ⟨earlier ++ lead, ?_, ?_⟩, hp, hf, hr.trans hr'⟩
    · intro exchange he
      rcases List.mem_append.1 he with he | he
      · exact hq' exchange he
      · exact hq exchange he
    · rw [List.append_assoc]

end Forge

end TicketMigration
