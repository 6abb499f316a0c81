import TicketMigration.Proofs.QueriesSent
import TicketMigration.Proofs.WriteOrder

/-!
# The limit of a query

A query that is to be limited gets a limit behind it, unless one is seen in it.  A limit is a term
of the query, but it is looked for behind any ampersand, also behind one that is quoted and that is
a part of a value.  So a query with a value that looks like a limit is sent without a limit.  And a
query that ends with a backslash quotes the ampersand of the limit that is put behind it.

## Main definitions

* `StatesCap` — a term of the query is a limit.
* `Capped` — what is sent is the query, with a limit added if it has none.

## Main statements

* `hasCap_iff` — **what looks like a limit.**
* `statesCap_withLimit_iff` — a limit that is put behind a query is a term of it, unless it is
  quoted.
* `Migration.queries_migrateMatching_capped_iff` — **a query is sent with a limit exactly if it has
  one, or neither looks as if it had one nor quotes what follows.**
-/

namespace TicketMigration

open Text

variable {σ : Type} {query : String}

/-! ### Where a limit stands -/

/-- A term of the query is a limit. -/
def StatesCap (query : String) : Prop :=
  ∃ term ∈ queryTerms query.toList, "max=".toList <+: term

instance : Decidable (StatesCap query) :=
  inferInstanceAs (Decidable (∃ term ∈ queryTerms query.toList, "max=".toList <+: term))

theorem statesCap_iff (query : String) :
    StatesCap query ↔ "max=".toList <+: query.toList ∨ Stands false "&max=".toList query.toList :=
  exists_prefix_mem_splitUnquoted_iff (by decide) (by simp) query.toList

theorem occurs_iff {needle s : List Char} : occurs needle s = true ↔ needle <:+: s := by
  induction s with
  | nil => rw [occurs, List.isEmpty_iff, List.infix_nil]
  | cons c s ih => rw [occurs, Bool.or_eq_true, ih, isSome_after?_iff, List.infix_cons_iff]

/-- **What looks like a limit** is one, or stands behind an ampersand that is quoted. -/
theorem hasCap_iff (query : String) :
    hasCap query = true ↔ StatesCap query ∨ Stands true "&max=".toList query.toList := by
  rw [hasCap, Bool.or_eq_true, isSome_after?_iff, occurs_iff, isInfix_iff_stands, statesCap_iff,
    or_assoc]

/-! ### Adding a limit -/

/-- A limit that is put behind a query is a term of it, unless it is quoted. -/
theorem statesCap_withLimit_iff (unstated : ¬StatesCap query) (limit : Int) :
    StatesCap (query ++ "&max=" ++ toString limit) ↔ endsQuoting query.toList = false := by
  have written : (query ++ "&max=" ++ toString limit).toList
      = query.toList ++ '&' :: ("max=".toList ++ (toString limit).toList) := by
    rw [String.toList_append, String.toList_append, List.append_assoc]
    rfl
  have apart : '&' ∉ "max=".toList ++ (toString limit).toList :=
    fun found => (plain_limit limit _ found).2 rfl
  rw [statesCap_iff, not_or] at unstated
  rw [statesCap_iff, written, prefix_append_cons_iff (by decide), or_iff_right unstated.1]
  cases quoting : endsQuoting query.toList with
  | false =>
    refine iff_of_true ⟨query.toList, (toString limit).toList, ?_, quoting⟩ rfl
    rw [List.append_assoc]
    rfl
  | true =>
    refine iff_of_false ?_ (by simp)
    exact mt (stands_append_of_endsQuoting (by decide) (by decide) apart quoting).1 unstated.2

/-- What is sent is the query, with a limit added if it has none. -/
structure Capped (query sent : String) (limit : Int) : Prop where
  /-- What is sent has a limit. -/
  states : StatesCap sent
  /-- A query with a limit is sent as it is. -/
  kept : StatesCap query → sent = query
  /-- To another one the limit is added. -/
  added : ¬StatesCap query → sent = query ++ "&max=" ++ toString limit

theorem capped_withCap_iff {limit : Int} (positive : 1 ≤ limit) :
    Capped query (withCap query (some limit)) limit ↔
      StatesCap query ∨
        ¬Stands true "&max=".toList query.toList ∧ endsQuoting query.toList = false := by
  have nonzero : limit ≠ 0 := by omega
  by_cases stated : StatesCap query
  · -- the limit is seen, and nothing is added
    have sent : withCap query (some limit) = query := by
      rw [withCap, (hasCap_iff query).2 (.inl stated), Bool.or_true, if_pos rfl]
    rw [sent]
    exact iff_of_true ⟨stated, fun _ => rfl, fun none => absurd stated none⟩ (.inl stated)
  · rw [or_iff_right stated]
    by_cases seen : Stands true "&max=".toList query.toList
    · have sent : withCap query (some limit) = query := by
        rw [withCap, (hasCap_iff query).2 (.inr seen), Bool.or_true, if_pos rfl]
      rw [sent]
      exact iff_of_false (fun h => stated h.states) fun h => h.1 seen
    · have unseen : hasCap query = false :=
        eq_false_of_ne_true fun has => ((hasCap_iff query).1 has).elim stated seen
      have sent : withCap query (some limit) = query ++ "&max=" ++ toString limit := by
        simp [withCap, unseen, nonzero]
      rw [sent, ← statesCap_withLimit_iff stated limit]
      exact ⟨fun h => ⟨seen, h.states⟩,
        fun h => ⟨h.2, fun has => absurd has stated, fun _ => rfl⟩⟩

/-! ### What is sent -/

namespace Migration

/-- **A query is sent with a limit exactly if it has one, or neither looks as if it had one nor
quotes what follows.** -/
theorem queries_migrateMatching_capped_iff (migration : Migration σ)
    (fetches : ∀ page size,
      Run.Queryless migration.servers (migration.resolver.directory.fetch page size))
    (query project : String) {limit : Int} (positive : 1 ≤ limit) :
    Run.Queries migration.servers (migration.migrateMatching query project (some limit))
        (migration.tracker.queriesFor (withCap query (some limit))) ∧
      (Capped query (withCap query (some limit)) limit ↔
        StatesCap query ∨
          ¬Stands true "&max=".toList query.toList ∧ endsQuoting query.toList = false) ∧
      Run.Queries migration.servers (migration.migrateMatching query project (some 0))
        (migration.tracker.queriesFor query) :=
  ⟨queries_migrateMatching fetches query project (some limit), capped_withCap_iff positive,
    queries_migrateMatching fetches query project (some 0)⟩

/-- The new tickets are asked for with a limit. -/
theorem queries_migrateMatching_capped_iff_new :
    (∀ page size,
        Run.Queryless toScripted.servers (toScripted.resolver.directory.fetch page size)) ∧
      (1 : Int) ≤ 5 ∧ ¬StatesCap "status=new" ∧
      Capped "status=new" "status=new&max=5" 5 ∧
      Run.Queries toScripted.servers (toScripted.migrateMatching "status=new" "p" (some 5))
        (toScripted.tracker.queriesFor "status=new&max=5") ∧
      ((toScripted.migrateMatching "status=new" "p" (some 5)).start
        { world := [] }).2.requests.filterMap Request.query? = ["status=new&max=5"] := by
  have fetches : ∀ page size,
      Run.Queryless toScripted.servers (toScripted.resolver.directory.fetch page size) :=
    fun _ _ => Run.queries_send fun _ => rfl
  have unstated : ¬StatesCap "status=new" := by decide
  have unseen : ¬Stands true "&max=".toList "status=new".toList := fun stands =>
    absurd ((hasCap_iff "status=new").2 (.inr stands)) (by decide)
  have positive : (1 : Int) ≤ 5 := by decide
  obtain ⟨asks, capped, -⟩ :=
    queries_migrateMatching_capped_iff toScripted fetches "status=new" "p" positive
  exact ⟨fetches, positive, unstated, capped.2 (.inr ⟨unseen, rfl⟩), asks, by decide +kernel⟩

/-- A value with a quoted ampersand in it is taken for a limit. -/
theorem not_capped_quotedAmpersand :
    ¬StatesCap "component=a\\&max=b" ∧
      ((toScripted.migrateMatching "component=a\\&max=b" "p" (some 5)).start
        { world := [] }).2.requests.filterMap Request.query? = ["component=a\\&max=b"] ∧
      ¬Capped "component=a\\&max=b" "component=a\\&max=b" 5 := by
  have unstated : ¬StatesCap "component=a\\&max=b" := by decide
  exact ⟨unstated, by decide +kernel, fun capped => unstated capped.states⟩

end Migration

end TicketMigration
