import TicketMigration.CharacterName.Alias
import TicketMigration.CharacterName.Alphabets
import TicketMigration.CharacterName.EastAsia
import TicketMigration.CharacterName.Formulas
import TicketMigration.CharacterName.Hieroglyphs
import TicketMigration.CharacterName.Pictographs
import TicketMigration.CharacterName.Presentation
import TicketMigration.CharacterName.Punctuation
import TicketMigration.CharacterName.Scripts
import TicketMigration.CharacterName.Signs
import TicketMigration.CharacterName.Syllables
import TicketMigration.Text.Lines
import TicketMigration.Text.Ranges
import TicketMigration.Text.Scan

/-!
# Characters by name

Every assigned character has a name.  Most names are listed in tables.  The names of ideographs and
of some other large sets end with the code of the character, and the name of a Korean syllable is
put together from the names of its letters.

Names are the same in small and in capital letters, but for those of the unified ideographs and of
the Korean syllables, which are written in capitals.

## Main definitions

* `tables` are the names that are listed.
* `codeInTable?`, `numbered?`, `ideograph?`, `syllable?` find the characters of each kind of name.
* `codeOfName?` finds the character of a name.
-/

namespace TicketMigration.CharacterName

open Text

/-- The tables of names. -/
def tables : List String :=
  [alphabets, syllables, punctuation, signs, eastAsia, presentation, scripts, hieroglyphs, formulas,
    pictographs, aliases]

/-- Cuts a text before each character of a kind: what stands before the first one, and the pieces
that begin with one. -/
def cutBefore (begins : Char → Bool) (s : List Char) : List Char × List (List Char) :=
  s.foldr
    (fun c parts =>
      if begins c then ([], (c :: parts.1) :: parts.2) else (c :: parts.1, parts.2))
    ([], [])

/-- The value of a hexadecimal digit in capitals. -/
def hexDigitValue? (c : Char) : Option Nat :=
  if c.isDigit then some (c.toNat - '0'.toNat)
  else if 'A' ≤ c && c ≤ 'F' then some (c.toNat - 'A'.toNat + 10)
  else none

/-- The code that hexadecimal digits in capitals are. -/
def code? (s : List Char) : Option Nat :=
  s.foldlM (fun code c => (hexDigitValue? c).map (code * 16 + ·)) 0

/-! ### Names in tables -/

/-- Finds a name among names, of which the first is that of this code and has its first words in
common with the name before. -/
def codeFrom? (name : List (List Char)) (code : Nat) (before : List (List Char)) :
    List (List Char) → Option Nat
  | (mark :: rest) :: more =>
    let words := before.take (mark.toNat - 'a'.toNat) ++ splitOn ' ' rest
    if words = name then some code else codeFrom? name (code + 1) words more
  | _ => none

/-- Finds a name in a part of a table, which begins with the code of its first name. -/
def codeInRun? (name : List (List Char)) (run : List Char) : Option Nat :=
  let parts := cutBefore Char.isLower (run.drop 1)
  (code? parts.1).bind fun code => codeFrom? name code [] parts.2

/-- Finds a name, given by its words, in a table.  Line ends do not count. -/
def codeInTable? (name : List (List Char)) (table : String) : Option Nat :=
  (cutBefore (· == ':') (table.toList.filter (· != '\n'))).2.findSome? (codeInRun? name)

/-! ### Names with numbers -/

/-- The names that end with the code of their character, and the codes. -/
def numberedNames : List (String × List (Nat × Nat)) :=
  [("CJK COMPATIBILITY IDEOGRAPH-", [(63744, 64109), (64112, 64217), (194560, 195101)]),
    ("NUSHU CHARACTER-", [(110960, 111355)]),
    ("KHITAN SMALL SCRIPT CHARACTER-", [(101120, 101589)])]

/-- Finds a name that ends with the code of its character, in as few digits as there may be. -/
def numbered? (name : List Char) : Option Nat :=
  numberedNames.findSome? fun entry =>
    (after? entry.1.toList name).bind fun digits =>
      (code? digits).filter fun code =>
        within entry.2 code && digits.length == if code < 0x10000 then 4 else 5

/-- The codes of the unified ideographs. -/
def ideographRanges : List (Nat × Nat) :=
  [(13312, 19903), (19968, 40959), (131072, 173791), (173824, 177976), (177984, 178205),
    (178208, 183969), (183984, 191456), (196608, 201546)]

/-- Finds a unified ideograph.  Its code has four or five digits in the name. -/
def ideograph? (name : List Char) : Option Nat :=
  (after? "CJK UNIFIED IDEOGRAPH-".toList name).bind fun digits =>
    (code? digits).filter fun code =>
      within ideographRanges code && (digits.length == 4 || digits.length == 5)

/-- The first code of the selectors behind the first sixteen, which are elsewhere. -/
def selectorCode (number : Nat) : Nat :=
  if number ≤ 16 then 0xFE00 + number - 1 else 0xE0100 + number - 17

/-- Finds a variation selector by its short name. -/
def selector? (name : List Char) : Option Nat :=
  ((List.range' 1 256).find? fun number => name == "VS".toList ++ (toString number).toList).map
    selectorCode

/-! ### Korean syllables -/

/-- The names of the letters at the beginning of a syllable, in order. -/
def leadingLetters : List String :=
  ["G", "GG", "N", "D", "DD", "R", "M", "B", "BB", "S", "SS", "", "J", "JJ", "C", "K", "T", "P",
    "H"]

/-- The names of the vowels. -/
def vowels : List String :=
  ["A", "AE", "YA", "YAE", "EO", "E", "YEO", "YE", "O", "WA", "WAE", "OE", "YO", "U", "WEO", "WE",
    "WI", "YU", "EU", "YI", "I"]

/-- The names of the letters at the end of a syllable. -/
def trailingLetters : List String :=
  ["", "G", "GG", "GS", "N", "NJ", "NH", "D", "L", "LG", "LM", "LB", "LS", "LT", "LP", "LH", "M",
    "B", "BS", "S", "SS", "NG", "J", "C", "K", "T", "P", "H"]

/-- The place of the longest name in a list that a text begins with, and the rest of the text. -/
def longest? (names : List String) (s : List Char) : Option (Nat × List Char) :=
  let found := names.zipIdx.filterMap fun (name, place) => (after? name.toList s).map (place, ·)
  found.foldl
    (fun best next =>
      match best with
      | some old => if next.2.length < old.2.length then some next else some old
      | none => some next)
    none

/-- Finds a Korean syllable, given the names of its letters. -/
def syllable? (s : List Char) : Option Nat :=
  (longest? leadingLetters s).bind fun lead =>
    (longest? vowels lead.2).bind fun vowel =>
      (longest? trailingLetters vowel.2).bind fun trail =>
        if trail.2.isEmpty then
          some (0xAC00 + (lead.1 * vowels.length + vowel.1) * trailingLetters.length + trail.1)
        else none

/-! ### All names -/

/-- The code of the character with a name. -/
def codeOfName? (name : List Char) : Option Nat :=
  match after? "HANGUL SYLLABLE ".toList name with
  | some letters => syllable? letters
  | none =>
    let capitals := name.map Char.toUpper
    (ideograph? name).or <| (numbered? capitals).or <| (selector? capitals).or <|
      tables.findSome? (codeInTable? (splitOn ' ' capitals))

end TicketMigration.CharacterName
