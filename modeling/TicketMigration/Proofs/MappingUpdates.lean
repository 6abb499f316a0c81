import Mathlib.Data.List.Nodup
import TicketMigration.Proofs.Precedence

/-!
# Updating user mappings

Entries are put into a user mapping one after the other.  What they make has each name once, in the
order in which the names come first, with the target that comes last.  This determines the mapping,
so that updates can be told apart by what they say: putting in the entries of a text after those of
another one is the same as updating the mapping of the one with that of the other.

## Main definitions

* `UserMapping.update` — a mapping with the entries of another one put into it.
* `Collects` — **a mapping has each name of some entries once, with its last target.**

## Main statements

* `Collects.unique` — there is only one such mapping.
* `Collects.update`, `Collects.append` — what is put in later comes last.
* `UserMapping.entries_update` — an update is one of dictionaries.
-/

/-! ### First occurrences -/

namespace List

variable {α : Type*} [BEq α] [LawfulBEq α]

theorem eraseDups_filter (p : α → Bool) (l : List α) :
    (l.filter p).eraseDups = l.eraseDups.filter p := by
  induction hn : l.length using Nat.strongRecOn generalizing l with
  | ind n ih =>
    cases l with
    | nil => rfl
    | cons a l =>
      have shorter : (l.filter fun b => !b == a).length < n := by
        rw [← hn]
        exact Nat.lt_succ_of_le (length_filter_le _ l)
      rw [eraseDups_cons, filter_cons, filter_cons, ← ih _ shorter _ rfl, filter_filter]
      split
      · rw [eraseDups_cons, filter_filter]
        simp only [Bool.and_comm]
      · next fails =>
        -- a member that passes is not the one that fails
        congr 1
        refine filter_congr fun b _ => ?_
        by_cases same : b = a
        · simp [same, fails]
        · simp [same]

theorem nodup_eraseDups (l : List α) : l.eraseDups.Nodup := by
  induction hn : l.length using Nat.strongRecOn generalizing l with
  | ind n ih =>
    cases l with
    | nil => exact nodup_nil
    | cons a l =>
      rw [eraseDups_cons, nodup_cons, mem_eraseDups]
      refine ⟨by simp, ih _ ?_ _ rfl⟩
      rw [← hn]
      exact Nat.lt_succ_of_le (length_filter_le _ l)

theorem Nodup.eraseDups_eq {l : List α} (h : l.Nodup) : l.eraseDups = l := by
  induction l with
  | nil => rfl
  | cons a l ih =>
    rw [nodup_cons] at h
    have others : l.filter (fun b => !b == a) = l :=
      filter_eq_self.2 fun b mem => by simpa using fun same : b = a => h.1 (same ▸ mem)
    rw [eraseDups_cons, others, ih h.2]

end List

namespace TicketMigration

namespace UserMapping

variable {mapping other : UserMapping}

/-- Puts entries into a mapping, one after the other. -/
def update (mapping more : UserMapping) : UserMapping :=
  more.foldl (fun acc entry => acc.put entry.1 entry.2) mapping

theorem lookup_cons (entry : List Char × List Char) (rest : UserMapping) (name : List Char) :
    List.lookup name (entry :: rest)
      = if name = entry.1 then some entry.2 else rest.lookup name := by
  rw [List.lookup_cons]
  split
  · next same => rw [if_pos (eq_of_beq same)]
  · next differs => rw [if_neg (by simpa using differs)]

theorem lookup_put (name target key : List Char) (mapping : UserMapping) :
    (mapping.put name target).lookup key
      = if key = name then some target else mapping.lookup key := by
  induction mapping with
  | nil => rw [put, lookup_cons]
  | cons entry rest ih =>
    rw [put]
    split
    · next same =>
      rw [lookup_cons, lookup_cons, same]
      split <;> rfl
    · next differs =>
      rw [lookup_cons, lookup_cons, ih]
      by_cases first : key = entry.1
      · rw [if_pos first, if_neg fun same => differs (first.symm.trans same), if_pos first]
      · rw [if_neg first, if_neg first]

theorem lookup_eq_none_of_not_mem {name : List Char} (h : name ∉ mapping.map Prod.fst) :
    mapping.lookup name = none := by
  rw [List.lookup_eq_none_iff]
  intro entry mem
  simpa using fun same : name = entry.1 => h (same ▸ List.mem_map_of_mem mem)

/-- Mappings with the same names in the same order are told apart by looking up. -/
theorem ext_lookup (distinct : (mapping.map Prod.fst).Nodup)
    (keys : mapping.map Prod.fst = other.map Prod.fst)
    (values : ∀ name, mapping.lookup name = other.lookup name) : mapping = other := by
  induction mapping generalizing other with
  | nil => exact (List.map_eq_nil_iff.1 keys.symm).symm
  | cons entry rest ih =>
    cases other with
    | nil => cases keys
    | cons entry' rest' =>
      obtain ⟨first, others⟩ := List.cons.inj keys
      rw [List.map_cons, List.nodup_cons] at distinct
      simp only [lookup_cons, ← first] at values
      have target : entry.2 = entry'.2 := by simpa using values entry.1
      have tail (name : List Char) : rest.lookup name = rest'.lookup name := by
        by_cases same : name = entry.1
        · rw [same, lookup_eq_none_of_not_mem distinct.1,
            lookup_eq_none_of_not_mem (others ▸ distinct.1)]
        · simpa [same] using values name
      rw [Prod.ext first target, ih distinct.2 others tail]

/-- Where names are distinct, it does not matter from which end they are looked up. -/
theorem lookup_reverse (distinct : (mapping.map Prod.fst).Nodup) (name : List Char) :
    mapping.reverse.lookup name = mapping.lookup name := by
  induction mapping with
  | nil => rfl
  | cons entry rest ih =>
    rw [List.map_cons, List.nodup_cons] at distinct
    rw [List.reverse_cons, List.lookup_append, ih distinct.2, lookup_cons, lookup_cons]
    by_cases same : name = entry.1
    · rw [same, lookup_eq_none_of_not_mem distinct.1]
      simp
    · simp [same]

/-- Putting a name into a mapping puts it into the dictionary. -/
theorem entries_put (name target : List Char) (mapping : UserMapping) :
    (mapping.put name target).entries
      = Entries.put (.text (name.map Char.toNat)) (.text (target.map Char.toNat))
          mapping.entries := by
  induction mapping with
  | nil => rfl
  | cons entry rest ih =>
    have same : (Value.text (entry.1.map Char.toNat)).same (.text (name.map Char.toNat)) = true ↔
        entry.1 = name := by
      constructor
      · intro same
        exact ((List.map_inj_right fun _ _ => Char.toNat_inj.1).1
          (Value.text.inj (Value.eq_of_text_same same))).symm
      · rintro rfl
        simp [Value.same]
    rw [put]
    by_cases first : entry.1 = name
    · subst first
      rw [if_pos rfl]
      exact (if_pos (same.2 rfl)).symm
    · rw [if_neg first]
      exact (congrArg _ ih).trans (if_neg (mt same.1 first)).symm

theorem entries_update (mapping more : UserMapping) :
    (mapping.update more).entries = mapping.entries.update more.entries := by
  induction more generalizing mapping with
  | nil => rfl
  | cons entry rest ih =>
    refine (ih (mapping.put entry.1 entry.2)).trans ?_
    rw [entries_put]
    rfl

end UserMapping

/-- **A mapping has each name of some entries once, with its last target.**  The names are in the
order in which they come first. -/
structure Collects (entries mapping : UserMapping) : Prop where
  /-- The names are those of the entries. -/
  keys : mapping.map Prod.fst = (entries.map Prod.fst).eraseDups
  /-- The target of a name is the last one. -/
  values : ∀ name, mapping.lookup name = entries.reverse.lookup name

theorem collects_nil : Collects [] [] := ⟨rfl, fun _ => rfl⟩

/-- Entries with distinct names are a mapping already. -/
theorem collects_self {mapping : UserMapping} (distinct : (mapping.map Prod.fst).Nodup) :
    Collects mapping mapping :=
  ⟨distinct.eraseDups_eq.symm, fun name => (UserMapping.lookup_reverse distinct name).symm⟩

namespace Collects

variable {entries more mapping other : UserMapping}

theorem nodup (h : Collects entries mapping) : (mapping.map Prod.fst).Nodup := by
  rw [h.keys]
  exact List.nodup_eraseDups _

/-- The entries determine the mapping. -/
theorem unique (h : Collects entries mapping) (h' : Collects entries other) : mapping = other :=
  UserMapping.ext_lookup h.nodup (h.keys.trans h'.keys.symm) fun name =>
    (h.values name).trans (h'.values name).symm

/-- One more entry is put into the mapping. -/
theorem put (h : Collects entries mapping) (entry : List Char × List Char) :
    Collects (entries ++ [entry]) (mapping.put entry.1 entry.2) where
  keys := by
    have mem : entry.1 ∈ mapping.map Prod.fst ↔ entry.1 ∈ entries.map Prod.fst := by
      rw [h.keys, List.mem_eraseDups]
    rw [UserMapping.map_fst_put, List.map_append, List.eraseDups_append, ← h.keys]
    by_cases known : entry.1 ∈ mapping.map Prod.fst
    · rw [if_pos known]
      simp [List.removeAll, mem.1 known]
    · rw [if_neg known]
      simp [List.removeAll, mt mem.2 known, List.eraseDups_cons]
  values name := by
    rw [UserMapping.lookup_put, List.reverse_concat, UserMapping.lookup_cons, h.values]

/-- More entries are put into the mapping. -/
theorem update (h : Collects entries mapping) (more : UserMapping) :
    Collects (entries ++ more) (mapping.update more) := by
  induction more generalizing entries mapping with
  | nil => rwa [List.append_nil]
  | cons entry rest ih =>
    rw [List.append_cons]
    exact ih (h.put entry)

/-- **Updating with the mapping of further entries is putting in these entries.** -/
theorem append (h : Collects entries mapping) (h' : Collects more other) :
    Collects (entries ++ more) (mapping.update other) where
  keys := by
    -- names that come again and names that are known already are dropped in either order
    have distinct : ((other.map Prod.fst).removeAll (entries.map Prod.fst)).Nodup :=
      h'.nodup.filter _
    rw [(h.update other).keys, List.map_append, List.eraseDups_append, distinct.eraseDups_eq,
      h'.keys, List.map_append, List.eraseDups_append, List.removeAll, List.removeAll,
      List.eraseDups_filter]
  values name := by
    rw [(h.update other).values, List.reverse_append, List.lookup_append,
      UserMapping.lookup_reverse h'.nodup, h'.values, List.reverse_append, List.lookup_append]

end Collects

end TicketMigration
