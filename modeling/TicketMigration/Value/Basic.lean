import TicketMigration.Binary64.Basic

/-!
# Plain data

A setting may hold any plain datum that can be written down: nothing, truth values, numbers, text,
bytes, and lists, tuples, sets and dictionaries of such data.  User records of the issue server
carry data of the same kinds.

Equality looks through the kinds of numbers: one, one point nought and true are the same key of a
dictionary.  Only data that cannot be changed may be keys.

## Main definitions

* `Value` is a datum.
* `Value.same` is equality of keys.
* `Value.isKey` says what may be a key or a member of a set.
* `Entries.put` adds an entry to a dictionary, `Entries.get?` looks one up.
-/

namespace TicketMigration

/-- A plain datum. -/
inductive Value
  /-- No value. -/
  | null
  /-- A truth value. -/
  | bool (b : Bool)
  /-- A whole number. -/
  | int (n : Int)
  /-- A floating-point number. -/
  | float (x : Binary64)
  /-- A complex number. -/
  | complex (re im : Binary64)
  /-- A text, as code points. -/
  | text (codes : List Nat)
  /-- A string of bytes. -/
  | bytes (bytes : List Nat)
  /-- A list. -/
  | list (items : List Value)
  /-- A tuple. -/
  | tuple (items : List Value)
  /-- A set, with its members in the order in which they were added. -/
  | set (members : List Value)
  /-- A dictionary, with its entries in the order in which their keys were added. -/
  | dict (entries : List (Value × Value))
  /-- The ellipsis. -/
  | ellipsis
  deriving Repr, Inhabited

namespace Value

/-- The datum of a text. -/
def ofString (s : String) : Value :=
  text (s.toList.map Char.toNat)

/-- A number of any kind, as a whole number or as the two parts of a complex number. -/
inductive Number
  /-- A whole number. -/
  | whole (n : Int)
  /-- A real and an imaginary part. -/
  | parts (re im : Binary64)

/-- The number that a datum is, where a truth value counts as one or zero. -/
def number? : Value → Option Number
  | bool b => some (.whole (if b then 1 else 0))
  | int n => some (.whole n)
  | float x => some (.parts x .zero)
  | complex re im => some (.parts re im)
  | _ => none

/-- Equality of numbers. -/
def Number.same : Number → Number → Bool
  | whole m, whole n => m == n
  | whole n, parts re im => im.isZero && re.isInteger n
  | parts re im, whole n => im.isZero && re.isInteger n
  | parts re im, parts re' im' => re.same re' && im.same im'

mutual

/-- Whether two keys are equal. -/
def same : Value → Value → Bool
  | tuple xs, tuple ys => sameAll xs ys
  | text a, text b => a == b
  | bytes a, bytes b => a == b
  | null, null => true
  | ellipsis, ellipsis => true
  | a, b =>
    match a.number?, b.number? with
    | some m, some n => m.same n
    | _, _ => false

/-- Whether two lists of keys are equal member by member. -/
def sameAll : List Value → List Value → Bool
  | [], [] => true
  | x :: xs, y :: ys => same x y && sameAll xs ys
  | _, _ => false

end

mutual

/-- Whether the datum may be a key of a dictionary or a member of a set. -/
def isKey : Value → Bool
  | list _ => false
  | set _ => false
  | dict _ => false
  | tuple items => areKeys items
  | _ => true

/-- Whether all data of a list may be keys. -/
def areKeys : List Value → Bool
  | [] => true
  | x :: xs => x.isKey && areKeys xs

end

end Value

/-- The entries of a dictionary, in the order in which their keys were added. -/
abbrev Entries := List (Value × Value)

namespace Entries

/-- Sets the value of a key.  A key that is there keeps its place and its first spelling. -/
def put (key value : Value) : Entries → Entries
  | [] => [(key, value)]
  | entry :: rest =>
    if entry.1.same key then (entry.1, value) :: rest else entry :: put key value rest

/-- The value of a key. -/
def get? (key : Value) : Entries → Option Value
  | [] => none
  | entry :: rest => if entry.1.same key then some entry.2 else get? key rest

/-- Sets the values of all keys of a second dictionary. -/
def update (entries more : Entries) : Entries :=
  more.foldl (fun acc entry => put entry.1 entry.2 acc) entries

end Entries

end TicketMigration
