import TicketMigration.Text.Lines
import TicketMigration.Text.Scan

/-!
# Queries

A query of the tracker is a list of terms with ampersands between them; the values of a term have
bars between them.  A backslash makes the next character a part of a value.

## Main definitions

* `quoteValue` writes a text as one value, `unquoteChars` takes the quoting off again.
* `splitUnquoted` cuts at the separators that are not quoted; `queryTerms` and `termValues` are
  the terms of a query and the values of a term.
* `componentQuery` asks for the open tickets of a component.
* `hasCap` says whether a query limits the number of tickets, `withCap` adds a limit.
-/

namespace TicketMigration

open Text

/-- Whether a character has a meaning of its own in a query. -/
def isQuerySpecial (c : Char) : Bool :=
  c == '\\' || c == '&' || c == '|'

/-- Writes a text so that it is one value of a term. -/
def quoteChars (s : List Char) : List Char :=
  s.flatMap fun c => if isQuerySpecial c then ['\\', c] else [c]

/-- Drops the backslashes that quote the character after them. -/
def unquoteChars : List Char → List Char
  | [] => []
  | [c] => [c]
  | c :: d :: s => if c = '\\' then d :: unquoteChars s else c :: unquoteChars (d :: s)

/-- Cuts a text at a separator wherever no backslash stands before it. -/
def splitUnquoted (separator : Char) : List Char → List (List Char)
  | [] => [[]]
  | [c] => if c = separator then [[], []] else [[c]]
  | c :: d :: s =>
    if c = '\\' then
      match splitUnquoted separator s with
      | [] => [[c, d]]
      | part :: parts => (c :: d :: part) :: parts
    else if c = separator then [] :: splitUnquoted separator (d :: s)
    else
      match splitUnquoted separator (d :: s) with
      | [] => [[c]]
      | part :: parts => (c :: part) :: parts

/-- The terms of a query. -/
def queryTerms (query : List Char) : List (List Char) :=
  splitUnquoted '&' query

/-- The values of a term. -/
def termValues (term : List Char) : List (List Char) :=
  splitUnquoted '|' term

/-- Writes a text so that it is one value of a term. -/
def quoteValue (value : String) : String :=
  String.ofList (quoteChars value.toList)

/-- The query for the open tickets of a component.  The limit is zero if there is none. -/
def componentQuery (component : String) (limit : Option Int) : String :=
  "component=" ++ quoteValue component ++ "&status=!closed&max=" ++ toString (limit.getD 0)

/-- Whether a text stands somewhere in another. -/
def occurs (needle : List Char) : List Char → Bool
  | [] => needle.isEmpty
  | c :: s => (after? needle (c :: s)).isSome || occurs needle s

/-- Whether a limit stands at the beginning of a query or after an ampersand. -/
def hasCap (query : String) : Bool :=
  (after? "max=".toList query.toList).isSome || occurs "&max=".toList query.toList

/-- The query with a limit, unless it has one already or the limit is zero or missing. -/
def withCap (query : String) (limit : Option Int) : String :=
  match limit with
  | none => query
  | some limit =>
    if limit = 0 || hasCap query then query else query ++ "&max=" ++ toString limit

end TicketMigration
