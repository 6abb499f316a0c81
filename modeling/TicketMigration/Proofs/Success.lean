import TicketMigration.Proofs.Transcript

/-!
# Computations that succeed

Most of what a run does may fail.  Here are the rules by which a computation is shown to end with a
value: it starts in a session of a certain kind, every request in it is answered well, and it leaves
a session of this kind behind, so that the next computation succeeds as well.

## Main definitions

* `Run.Succeeds` — from every session of a kind, the computation ends with a value.

## Main statements

* `Run.Succeeds.bind` — **the rule for computations that are put together.**
* `Run.Succeeds.of_send`, `Run.Succeeds.of_modify` — the rules for single steps.
-/

namespace TicketMigration

variable {σ α β : Type}

namespace Run

/-- From every session that is ready, the computation ends with a value as expected, in a session
that is ready again.  It asks the servers for all that it records, and what passes is fine. -/
def Succeeds (servers : Servers σ) (ready : Session σ → Prop) (fine : Exchange → Prop)
    (x : Run σ α) (expected : α → Prop) : Prop :=
  ∀ before, ready before → ∃ trace a after, x.start before = (.ok a, after) ∧
    Passed servers before trace after ∧ (∀ exchange ∈ trace, fine exchange) ∧ ready after ∧
      expected a

namespace Succeeds

variable {servers : Servers σ} {ready : Session σ → Prop} {fine : Exchange → Prop}
  {x : Run σ α} {expected : α → Prop}

/-- The rule for a value. -/
theorem of_pure {a : α} (h : expected a) : Succeeds servers ready fine (pure a) expected :=
  fun before hb => ⟨[], a, before, rfl, .refl rfl rfl, by simp, hb, h⟩

/-- A result that has been computed is a value. -/
theorem of_ofExcept {result : Except Failure α} {a : α} (hr : result = .ok a) (h : expected a) :
    Succeeds servers ready fine (ofExcept result) expected := by
  subst hr
  exact of_pure h

/-- **The rule for a computation that goes on with a value.** -/
theorem bind {f : α → Run σ β} {wanted : β → Prop} (hx : Succeeds servers ready fine x expected)
    (hf : ∀ a, expected a → Succeeds servers ready fine (f a) wanted) :
    Succeeds servers ready fine (x >>= f) wanted := by
  intro before hb
  obtain ⟨earlier, a, between, hr, hp, he, hready, ha⟩ := hx before hb
  obtain ⟨later, b, after, hr', hp', he', hready', hb'⟩ := hf a ha between hready
  refine ⟨earlier ++ later, b, after, ?_, hp.trans hp', ?_, hready', hb'⟩
  · rw [start_bind, hr]
    exact hr'
  · intro exchange h
    rcases List.mem_append.1 h with h | h
    · exact he exchange h
    · exact he' exchange h

/-- The session that is read is one that is ready. -/
theorem of_get : Succeeds servers ready fine get ready :=
  fun before hb => ⟨[], before, before, rfl, .refl rfl rfl, by simp, hb, hb⟩

/-- The rule for a change that concerns neither the requests nor the servers. -/
theorem of_modify (change : Session σ → Session σ)
    (hr : ∀ session, (change session).requests = session.requests)
    (hw : ∀ session, (change session).world = session.world)
    (h : ∀ session, ready session → ready (change session)) :
    Succeeds servers ready fine (modify change) fun _ => True :=
  fun before hb =>
    ⟨[], (), change before, rfl, .refl (hr before) (hw before), by simp, h before hb, trivial⟩

/-- The rule for a request that is sent. -/
theorem of_send {request : Request} {wanted : request.Answer → Prop}
    (hs : ∀ world, servers.settle request world = servers.answer request world)
    (h : ∀ session, ready session → ∃ answer,
      (servers.answer request session.world).1 = .ok answer ∧ wanted answer ∧
        fine ⟨request, .ok answer⟩ ∧
          ready { session with world := (servers.answer request session.world).2
                               requests := session.requests ++ [request] }) :
    Succeeds servers ready fine (send servers request) wanted := by
  intro before hb
  obtain ⟨answer, ha, hwanted, hfine, hready⟩ := h before hb
  refine ⟨[⟨request, .ok answer⟩], answer, _, ?_, ⟨rfl, ?_⟩, by simpa using hfine, hready, hwanted⟩
  · rw [← ha]
    rfl
  · simp only [List.map_cons, List.map_nil, Servers.replay, hs, ha]

end Succeeds

end Run

end TicketMigration
