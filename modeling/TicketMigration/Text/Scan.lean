/-!
# Scanning a text from the left

Markup is recognised by looking at a text from one place on.  Two questions come back in every
rule: does a marker stand here, and how far is it to the next one.

## Main definitions

* `after? marker s` is what follows the marker that `s` begins with.
* `upTo? allowed marker s` cuts `s` at the first occurrence of the marker, if only allowed
  characters stand before it.
* `onLine` allows everything but the newline, `anywhere` allows everything.

## Main statements

* `after?_eq_some_iff`: a text begins with a marker exactly when it is the marker and a rest.
* `eq_append_of_upTo?`: the two parts and the marker make up the text.
-/

namespace TicketMigration.Text

/-- What follows a marker at the front of a text, if it is there. -/
def after? : List Char → List Char → Option (List Char)
  | [], s => some s
  | _ :: _, [] => none
  | m :: marker, c :: s => if c = m then after? marker s else none

/-- Every character but the newline. -/
def onLine (c : Char) : Bool :=
  c != '\n'

/-- Every character. -/
def anywhere (_ : Char) : Bool :=
  true

/-- The part of a text before the first occurrence of a marker and the part after it, if all
characters of the first part are allowed. -/
def upTo? (allowed : Char → Bool) (marker : List Char) :
    List Char → Option (List Char × List Char)
  | [] => (after? marker []).map fun rest => ([], rest)
  | c :: s =>
    match after? marker (c :: s) with
    | some rest => some ([], rest)
    | none =>
      if allowed c then (upTo? allowed marker s).map fun parts => (c :: parts.1, parts.2)
      else none

@[simp] theorem after?_nil (s : List Char) : after? [] s = some s := by
  cases s <;> rfl

@[simp] theorem after?_cons_nil (m : Char) (marker : List Char) :
    after? (m :: marker) [] = none := rfl

@[simp] theorem after?_cons_cons (m c : Char) (marker s : List Char) :
    after? (m :: marker) (c :: s) = if c = m then after? marker s else none := rfl

/-- A text begins with a marker exactly when it is the marker followed by the rest. -/
theorem after?_eq_some_iff {marker s rest : List Char} :
    after? marker s = some rest ↔ s = marker ++ rest := by
  induction marker generalizing s with
  | nil => simp
  | cons m marker ih =>
    cases s with
    | nil => simp
    | cons c s =>
      rw [after?_cons_cons]
      by_cases h : c = m
      · simp [h, ih]
      · simp [h]

theorem isSome_after?_iff {marker s : List Char} :
    (after? marker s).isSome = true ↔ marker <+: s := by
  rw [Option.isSome_iff_exists]
  exact exists_congr fun rest => after?_eq_some_iff.trans eq_comm

@[simp] theorem after?_append (marker rest : List Char) :
    after? marker (marker ++ rest) = some rest :=
  after?_eq_some_iff.2 rfl

theorem length_of_after? {marker s rest : List Char} (h : after? marker s = some rest) :
    s.length = marker.length + rest.length := by
  rw [after?_eq_some_iff.1 h, List.length_append]

/-- The two parts and the marker make up the text. -/
theorem eq_append_of_upTo? {allowed : Char → Bool} {marker s body rest : List Char}
    (h : upTo? allowed marker s = some (body, rest)) : s = body ++ marker ++ rest := by
  induction s generalizing body with
  | nil =>
    rw [upTo?, Option.map_eq_some_iff] at h
    obtain ⟨r, hr, hp⟩ := h
    obtain ⟨rfl, rfl⟩ := Prod.mk.inj hp
    simpa using after?_eq_some_iff.1 hr
  | cons c s ih =>
    rw [upTo?] at h
    split at h
    · next r hr =>
      obtain ⟨rfl, rfl⟩ := Prod.mk.inj (Option.some.inj h)
      simpa using after?_eq_some_iff.1 hr
    · split at h
      · obtain ⟨parts, hp, he⟩ := Option.map_eq_some_iff.1 h
        obtain ⟨rfl, rfl⟩ := Prod.mk.inj he
        rw [ih hp]
        rfl
      · cases h

/-- Only allowed characters stand before the marker. -/
theorem allowed_of_upTo? {allowed : Char → Bool} {marker s body rest : List Char}
    (h : upTo? allowed marker s = some (body, rest)) : ∀ c ∈ body, allowed c = true := by
  induction s generalizing body with
  | nil =>
    rw [upTo?, Option.map_eq_some_iff] at h
    obtain ⟨r, -, hp⟩ := h
    obtain ⟨rfl, -⟩ := Prod.mk.inj hp
    simp
  | cons c s ih =>
    rw [upTo?] at h
    split at h
    · obtain ⟨rfl, -⟩ := Prod.mk.inj (Option.some.inj h)
      simp
    · split at h
      · next hc =>
        obtain ⟨parts, hp, he⟩ := Option.map_eq_some_iff.1 h
        obtain ⟨rfl, rfl⟩ := Prod.mk.inj he
        intro d hd
        rcases List.mem_cons.1 hd with rfl | hd
        · exact hc
        · exact ih hp d hd
      · cases h

theorem length_of_upTo? {allowed : Char → Bool} {marker s body rest : List Char}
    (h : upTo? allowed marker s = some (body, rest)) :
    s.length = body.length + marker.length + rest.length := by
  rw [eq_append_of_upTo? h, List.length_append, List.length_append]

end TicketMigration.Text
