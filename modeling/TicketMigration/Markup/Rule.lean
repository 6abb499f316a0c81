import TicketMigration.Text.Scan

/-!
# Conversion rules

A rule recognises one construct at the front of a text and says what to write in its place.
Applied to a text, it is tried at every place from the left; where it matches, reading goes on
after the match, so matches never overlap.

## Main definitions

* `Rule` is a recogniser that always reads something.
* `Rule.apply` converts every match in a text.

## Main statements

* `Rule.apply_of_match` and `Rule.apply_of_no_match` are the two steps of a conversion.
* `Rule.apply_eq_self`: a text in which the rule matches nowhere is unchanged.
-/

namespace TicketMigration.Markup

/-- A rule finds its construct at the front of a text and gives the replacement and the rest of
the text, which is shorter than the text. -/
structure Rule where
  /-- The replacement of the construct at the front of a text, and what follows the construct. -/
  match? : List Char → Option (List Char × List Char)
  /-- A match is never empty. -/
  shorter : ∀ {s out rest}, match? s = some (out, rest) → rest.length < s.length

namespace Rule

/-- Converts every match from the left and keeps all other characters. -/
def apply (rule : Rule) : List Char → List Char
  | [] => []
  | c :: s =>
    match _h : rule.match? (c :: s) with
    | some (out, rest) => out ++ rule.apply rest
    | none => c :: rule.apply s
termination_by s => s.length
decreasing_by
  · exact rule.shorter _h
  · simp

@[simp] theorem apply_nil (rule : Rule) : rule.apply [] = [] := by
  rw [apply]

/-- A match is replaced and reading goes on after it. -/
theorem apply_of_match {rule : Rule} {s out rest : List Char}
    (h : rule.match? s = some (out, rest)) : rule.apply s = out ++ rule.apply rest := by
  cases s with
  | nil => exact absurd (rule.shorter h) (by simp)
  | cons c s =>
    rw [apply]
    split
    · next h' =>
      rw [h] at h'
      obtain ⟨rfl, rfl⟩ := Prod.mk.inj (Option.some.inj h')
      rfl
    · next h' => simp [h] at h'

/-- Where the rule does not match, the character is kept. -/
theorem apply_of_no_match {rule : Rule} {c : Char} {s : List Char}
    (h : rule.match? (c :: s) = none) : rule.apply (c :: s) = c :: rule.apply s := by
  rw [apply]
  split
  · next h' => simp [h] at h'
  · rfl

/-- A text in which the rule matches at no place is unchanged. -/
theorem apply_eq_self {rule : Rule} {s : List Char}
    (h : ∀ t, t <:+ s → rule.match? t = none) : rule.apply s = s := by
  induction s with
  | nil => simp
  | cons c s ih =>
    rw [apply_of_no_match (h _ (List.suffix_refl _)),
      ih fun t ht => h t (ht.trans (List.suffix_cons c s))]

/-- A front in which no match begins is kept, whatever follows it. -/
theorem apply_append_of_no_match {rule : Rule} {a : List Char} (b : List Char)
    (h : ∀ t, t <:+ a → t ≠ [] → rule.match? (t ++ b) = none) :
    rule.apply (a ++ b) = a ++ rule.apply b := by
  induction a with
  | nil => rfl
  | cons c a ih =>
    have here := h (c :: a) (List.suffix_refl _) (by simp)
    rw [List.cons_append] at here ⊢
    rw [apply_of_no_match here,
      ih fun t ht hne => h t (ht.trans (List.suffix_cons c a)) hne, List.cons_append]

end Rule

end TicketMigration.Markup
