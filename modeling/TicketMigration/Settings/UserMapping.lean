import TicketMigration.Text.Blank
import TicketMigration.Text.Lines

/-!
# User mappings

A user mapping is written as `a=x,b=y`: names of the tracker with names on the issue server.  Blanks
around names do not count, and neither do items that are blank.

## Main definitions

* `readMapping` reads a mapping, `writeMapping` writes one.
* `UserMapping.put` adds an entry; a name that is there keeps its place.
-/

namespace TicketMigration

open Text

/-- Names of the tracker with names on the issue server. -/
abbrev UserMapping := List (List Char × List Char)

namespace UserMapping

/-- Maps a name.  A name that is mapped already keeps its place. -/
def put (name target : List Char) : UserMapping → UserMapping
  | [] => [(name, target)]
  | entry :: rest =>
    if entry.1 = name then (name, target) :: rest else entry :: put name target rest

end UserMapping

/-- The items of a written mapping, without the blanks around them and without blank items. -/
def mappingItems (s : List Char) : List (List Char) :=
  ((splitOn ',' s).map trim).filter fun item => !item.isEmpty

/-- Reads an item: two names with an equals sign between them. -/
def mappingEntry? (item : List Char) : Option (List Char × List Char) :=
  match splitOn '=' item with
  | [name, target] =>
    if isBlankText name || isBlankText target then none else some (trim name, trim target)
  | _ => none

/-- Reads items, starting with a mapping.  The first item that is no entry is the fault. -/
def readItems (mapping : UserMapping) : List (List Char) → Except (List Char) UserMapping
  | [] => .ok mapping
  | item :: rest =>
    match mappingEntry? item with
    | some entry => readItems (mapping.put entry.1 entry.2) rest
    | none => .error item

/-- Reads a mapping.  The fault is the first item that is no entry, or the whole text if it has no
items. -/
def readMapping (s : List Char) : Except (List Char) UserMapping :=
  match mappingItems s with
  | [] => .error s
  | items => readItems [] items

/-- Writes a mapping. -/
def writeMapping (mapping : UserMapping) : List Char :=
  join [','] (mapping.map fun entry => entry.1 ++ '=' :: entry.2)

end TicketMigration
