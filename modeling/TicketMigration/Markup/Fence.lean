import TicketMigration.Markup.Code
import TicketMigration.Text.Lines

/-!
# Fenced regions

A line that begins with three backticks is a fence.  It opens a fenced region, which goes on
through the next fence; a fence that no other one closes reaches to the end of the text.

## Main definitions

* `isFence` recognises the lines.
* `regions` cuts the lines of a text into fenced regions and the open stretches between them.
* `mapUnfenced` converts the open stretches of a text.
-/

namespace TicketMigration.Markup

open Text

/-- Whether a line begins with three backticks. -/
def isFence (line : List Char) : Bool :=
  (after? fence line).isSome

/-- A run of lines that are all in fences or all outside them. -/
inductive Region
  /-- Lines outside all fences. -/
  | plain (lines : List (List Char))
  /-- An opening fence and all lines through its closing fence. -/
  | fenced (lines : List (List Char))
  deriving DecidableEq, Repr

/-- The lines through the first fence and the lines after it; all lines if there is no fence. -/
def throughFence : List (List Char) → List (List Char) × List (List Char)
  | [] => ([], [])
  | line :: rest =>
    if isFence line then ([line], rest)
    else (line :: (throughFence rest).1, (throughFence rest).2)

theorem append_throughFence (ls : List (List Char)) :
    (throughFence ls).1 ++ (throughFence ls).2 = ls := by
  induction ls with
  | nil => rfl
  | cons line rest ih =>
    rw [throughFence]
    split
    · rfl
    · simp [ih]

theorem length_throughFence_le (ls : List (List Char)) :
    (throughFence ls).2.length ≤ ls.length := by
  conv => rhs; rw [← append_throughFence ls]
  simp

/-- Cuts lines into fenced regions and the stretches between them. -/
def regions : List (List Char) → List Region
  | [] => []
  | line :: rest =>
    if isFence line then
      .fenced (line :: (throughFence rest).1) :: regions (throughFence rest).2
    else
      .plain (line :: rest.takeWhile fun l => !isFence l)
        :: regions (rest.dropWhile fun l => !isFence l)
termination_by ls => ls.length
decreasing_by
  · have := length_throughFence_le rest
    simp only [List.length_cons]
    omega
  · have := (List.dropWhile_suffix (l := rest) fun l => !isFence l).length_le
    simp only [List.length_cons]
    omega

/-- The text of a region, converted if it is outside all fences. -/
def Region.convert (f : List Char → List Char) : Region → List Char
  | .plain ls => f (unlines ls)
  | .fenced ls => unlines ls

/-- Converts the parts of a text that are outside all fences. -/
def mapUnfenced (f : List Char → List Char) (s : List Char) : List Char :=
  unlines ((regions (lines s)).map (·.convert f))

end TicketMigration.Markup
