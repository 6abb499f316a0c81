import TicketMigration.Text.Lines

/-!
# Paths

A path is a list of names with slashes between them.  An empty name and a point stand for the place
where they are, and two points for the place above it.

## Main definitions

* `pathNames` are the names along a path, `normalPath` the shortest path to the same place.
-/

namespace TicketMigration.Text

/-- Goes from a place to the one with a name, where a place is given by the names above it, the
nearest first. -/
def enter (place : List (List Char)) (name : List Char) : List (List Char) :=
  if name = [] ∨ name = ['.'] then place
  else if name = ['.', '.'] then
    match place with
    | [] => [name]
    | last :: above => if last = name then name :: place else above
  else name :: place

/-- The names along a path. -/
def pathNames (path : List Char) : List (List Char) :=
  ((splitOn '/' path).foldl enter []).reverse

/-- The shortest path to the place that a path leads to.  The path is taken as it is written: `~` and
names of variables in it stand for themselves. -/
def normalPath (path : String) : String :=
  let names := join ['/'] (pathNames path.toList)
  String.ofList (if path.toList.head? = some '/' then '/' :: names else names)

end TicketMigration.Text
