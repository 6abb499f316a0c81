import TicketMigration.Directory
import TicketMigration.Proofs.Lookup

/-!
# Rosters and tallies as maps

A roster holds one user for each name and a tally one number for each name.  Both are told by what
they hold for a name: a user that is put under a name is there from then on, so of several users of
one name the last one stays, and a name that is counted has one more than before.

## Main statements

* `Roster.lookup_put`, `Roster.lookup_putAll` — **the last user of a name stays.**
* `Roster.nodup_putAll` — a roster that pages are put into has every name once.
* `Roster.userOf_ofString` — looking up a text is looking up a name.
* `Tally.lookup_add` — a name that is counted has one more.
-/

namespace TicketMigration

/-! ### Texts as keys -/

namespace Value

theorem ofString_inj {s t : String} : ofString s = ofString t ↔ s = t := by
  refine ⟨fun h => ?_, congrArg ofString⟩
  have codes : s.toList.map Char.toNat = t.toList.map Char.toNat := Value.text.inj h
  have chars : s.toList = t.toList :=
    (List.map_inj_right fun _ _ h => Char.toNat_inj.1 h).1 codes
  exact String.toList_inj.1 chars

/-- Two texts are the same key exactly if they are the same text. -/
theorem same_ofString (s t : String) : (ofString s).same (ofString t) = decide (s = t) := by
  have codes : (ofString s).same (ofString t) = true ↔ ofString s = ofString t := by
    rw [ofString, ofString, same, beq_iff_eq, Value.text.injEq]
  rw [Bool.eq_iff_iff, codes, ofString_inj, decide_eq_true_eq]

@[simp] theorem isKey_ofString (s : String) : (ofString s).isKey = true := rfl

end Value

/-! ### Rosters -/

theorem lookup_cons_ite {α : Type} (name key : String) (a : α) (entries : List (String × α)) :
    ((key, a) :: entries).lookup name = if name = key then some a else entries.lookup name := by
  rw [List.lookup_cons]
  by_cases h : name = key
  · simp [h]
  · rw [if_neg h, beq_false_of_ne h]

/-- Keys that are different stay so when one is added that is not there. -/
theorem nodup_ite_mem {keys : List String} (h : keys.Nodup) (key : String) :
    (if key ∈ keys then keys else keys ++ [key]).Nodup := by
  split
  · exact h
  · next new => exact List.nodup_append.2 ⟨h, by simp, by grind⟩

namespace Roster

theorem lookup_put (user : RemoteUser) (roster : Roster) (name : String) :
    (roster.put user).lookup name
      = if name = user.username then some user else roster.lookup name := by
  induction roster with
  | nil => exact lookup_cons_ite name user.username user []
  | cons entry rest ih =>
    obtain ⟨key, known⟩ := entry
    rw [put, lookup_cons_ite]
    by_cases hkey : key = user.username
    · -- the user takes the place of the one that is known under the name
      rw [if_pos hkey, lookup_cons_ite, hkey]
      split <;> rfl
    · rw [if_neg hkey, lookup_cons_ite, ih]
      by_cases hname : name = key
      · subst hname
        simp [hkey]
      · simp [hname]

/-- **The last user of a name stays**; a name that no user has keeps what it had. -/
theorem lookup_putAll (users : List RemoteUser) (roster : Roster) (name : String) :
    (roster.putAll users).lookup name
      = (users.reverse.find? fun user => user.username = name).or (roster.lookup name) := by
  induction users generalizing roster with
  | nil => rfl
  | cons user users ih =>
    rw [putAll, List.foldl_cons, ← putAll, ih, lookup_put, List.reverse_cons, List.find?_append,
      List.find?_singleton, Option.or_assoc]
    by_cases h : user.username = name
    · simp [h]
    · simp [h, Ne.symm h]

theorem putAll_append (roster : Roster) (users more : List RemoteUser) :
    roster.putAll (users ++ more) = (roster.putAll users).putAll more := List.foldl_append

/-- A user keeps the place of the name or gets a new one behind all others. -/
theorem map_fst_put (user : RemoteUser) (roster : Roster) :
    (roster.put user).map (·.1)
      = if user.username ∈ roster.map (·.1) then roster.map (·.1)
        else roster.map (·.1) ++ [user.username] := by
  induction roster with
  | nil => rfl
  | cons entry rest ih =>
    rw [put]
    by_cases h : entry.1 = user.username
    · simp [h]
    · rw [if_neg h, List.map_cons, ih, List.map_cons]
      by_cases hmem : user.username ∈ rest.map (·.1)
      · simp [hmem]
      · simp [hmem, Ne.symm h]

theorem nodup_put {roster : Roster} (h : (roster.map (·.1)).Nodup) (user : RemoteUser) :
    ((roster.put user).map (·.1)).Nodup := by
  rw [map_fst_put]
  exact nodup_ite_mem h user.username

theorem nodup_putAll {roster : Roster} (h : (roster.map (·.1)).Nodup) (users : List RemoteUser) :
    ((roster.putAll users).map (·.1)).Nodup := by
  induction users generalizing roster with
  | nil => exact h
  | cons user users ih => exact ih (nodup_put h user)

/-- Looking up a text is looking up a name. -/
theorem userOf_ofString (users : Roster) (name : String) :
    users.userOf (.ofString name) = users.lookup name := by
  induction users with
  | nil => rfl
  | cons entry rest ih =>
    obtain ⟨key, known⟩ := entry
    rw [lookup_cons_ite, ← ih, userOf, userOf, List.find?_cons, Value.same_ofString]
    by_cases h : key = name
    · simp [h]
    · simp [h, Ne.symm h]

/-- What is looked up is one of the users. -/
theorem mem_of_userOf {users : Roster} {name : Value} {user : RemoteUser}
    (h : users.userOf name = some user) : user ∈ users.map (·.2) := by
  obtain ⟨entry, he, rfl⟩ := Option.map_eq_some_iff.1 h
  exact List.mem_map_of_mem (List.mem_of_find?_eq_some he)

theorem mem_of_mem_put {user other : RemoteUser} {roster : Roster}
    (h : other ∈ (roster.put user).map (·.2)) : other = user ∨ other ∈ roster.map (·.2) := by
  induction roster with
  | nil => exact .inl (by simpa [put] using h)
  | cons entry rest ih =>
    rw [put] at h
    split at h
    · rcases List.mem_cons.1 h with rfl | h
      · exact .inl rfl
      · exact .inr (List.mem_cons_of_mem _ h)
    · rcases List.mem_cons.1 h with rfl | h
      · exact .inr List.mem_cons_self
      · exact (ih h).imp id (List.mem_cons_of_mem _)

/-- The users of a roster are those that were there and those that were put in. -/
theorem mem_of_mem_putAll {other : RemoteUser} {users : List RemoteUser} {roster : Roster}
    (h : other ∈ (roster.putAll users).map (·.2)) : other ∈ users ∨ other ∈ roster.map (·.2) := by
  induction users generalizing roster with
  | nil => exact .inr h
  | cons user users ih =>
    rcases ih h with h | h
    · exact .inl (List.mem_cons_of_mem _ h)
    · rcases mem_of_mem_put h with rfl | h
      · exact .inl List.mem_cons_self
      · exact .inr h

end Roster

/-! ### Tallies -/

namespace Tally

/-- A name that is counted has one more than before, and all others have what they had. -/
theorem lookup_add (name other : String) (tally : Tally) :
    (tally.add name).lookup other
      = if other = name then some (tally.count name + 1) else tally.lookup other := by
  induction tally with
  | nil => exact lookup_cons_ite other name 1 []
  | cons entry rest ih =>
    obtain ⟨key, number⟩ := entry
    rw [add, count, lookup_cons_ite, lookup_cons_ite]
    by_cases hkey : key = name
    · rw [if_pos hkey, lookup_cons_ite, hkey]
      split <;> simp
    · rw [if_neg hkey, lookup_cons_ite, ih, if_neg (Ne.symm hkey), count]
      by_cases hother : other = key
      · subst hother
        simp [hkey]
      · simp [hother]

theorem map_fst_add (name : String) (tally : Tally) :
    (tally.add name).map (·.1)
      = if name ∈ tally.map (·.1) then tally.map (·.1) else tally.map (·.1) ++ [name] := by
  induction tally with
  | nil => rfl
  | cons entry rest ih =>
    rw [add]
    by_cases h : entry.1 = name
    · simp [h]
    · rw [if_neg h, List.map_cons, ih, List.map_cons]
      by_cases hmem : name ∈ rest.map (·.1)
      · simp [hmem]
      · simp [hmem, Ne.symm h]

theorem nodup_add {tally : Tally} (h : (tally.map (·.1)).Nodup) (name : String) :
    ((tally.add name).map (·.1)).Nodup := by
  rw [map_fst_add]
  exact nodup_ite_mem h name

end Tally

end TicketMigration
