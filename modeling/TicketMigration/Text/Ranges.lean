/-!
# Sets of code points

A property of characters is written as the list of the inclusive ranges of code points that have
it.
-/

namespace TicketMigration.Text

/-- Whether a code point lies in one of the inclusive ranges. -/
def within (ranges : List (Nat × Nat)) (code : Nat) : Bool :=
  ranges.any fun range => range.1 ≤ code && code ≤ range.2

@[simp] theorem within_nil (code : Nat) : within [] code = false := rfl

@[simp] theorem within_cons (range : Nat × Nat) (ranges : List (Nat × Nat)) (code : Nat) :
    within (range :: ranges) code
      = ((decide (range.1 ≤ code) && decide (code ≤ range.2)) || within ranges code) := rfl

end TicketMigration.Text
