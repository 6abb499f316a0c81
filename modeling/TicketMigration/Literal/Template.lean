import TicketMigration.Literal.Token

/-!
# Texts with parts to be filled in

A template is a text with holes.  A hole is a pair of braces around an expression, behind which
there may be an equals sign, a letter that says how the datum is written, and a colon with a
template of its own that says the same at length.  A brace that is text is doubled, but not in such
an inner template.

## Main definitions

* `templateText` reads up to the next brace that is no text.
* `holeText?` reads the expression of a hole up to the mark that ends it.
* `afterConversion?` drops the short ways to say how the datum is written.
-/

namespace TicketMigration.Literal

open Text

/-- What follows a text in a template. -/
inductive TemplateStop
  /-- A brace that was doubled; it belongs to the text. -/
  | doubled
  /-- A brace that opens a hole. -/
  | hole
  /-- A brace that closes, or nothing. -/
  | finish
  deriving DecidableEq, Repr

/-- Whether the character is a brace. -/
def isBrace (c : Char) : Bool :=
  c == '\x7b' || c == '\x7d'

/-- How many characters at the front of a text of a template belong together: an escape has two, and
the braces around the name of a character belong to it.  A brace is never part of another escape. -/
def unitLength (raw : Bool) (s : List Char) : Nat :=
  if raw then 1
  else
    match s with
    | '\\' :: d :: rest =>
      if d = 'N' && rest.head? = some '\x7b' then
        (rest.takeWhile (· != '\x7d')).length + 3
      else if isBrace d then 1
      else 2
    | _ => 1

/-- Reads up to the next brace: the text, what stops it, and the rest, which begins behind a brace
that was doubled or opens a hole.  Braces are doubled only outside holes. -/
def templateText (raw outside : Bool) : List Char → List Char × TemplateStop × List Char
  | [] => ([], .finish, [])
  | c :: s =>
    if isBrace c then
      if outside && s.head? = some c then ([c], .doubled, s.drop 1)
      else if c = '\x7b' then ([], .hole, s)
      else ([], .finish, c :: s)
    else
      let more := unitLength raw (c :: s) - 1
      let parts := templateText raw outside (s.drop more)
      (c :: s.take more ++ parts.1, parts.2)
termination_by s => s.length
decreasing_by
  simp only [List.length_drop, List.length_cons]
  omega

/-- Whether the escapes of a text in a template can be read.  A backslash at its end, which is
before a brace, is a character. -/
def isTemplateText (raw : Bool) (s : List Char) : Bool :=
  raw || (unescape true s).isSome ||
    (s.getLast? = some '\\' && (unescape true (s ++ ['\\'])).isSome)

/-- The pairs of characters that do not end the expression of a hole. -/
def isComparison (c d : Char) : Bool :=
  d == '=' && (c == '!' || c == '=' || c == '<' || c == '>')

/-- The bracket that closes what a bracket opens. -/
def closingOf (bracket : Char) : Char :=
  if bracket = '(' then ')' else if bracket = '[' then ']' else '\x7d'

/-- Reads the expression of a hole and leaves the mark that ends it.  Given are the closing quotes
of the quotation around the place, if it is in one, and the brackets that are to be closed, the
innermost first. -/
def holeText? (quotes : Option (List Char)) (nest : List Char) :
    List Char → Option (List Char × List Char)
  | [] => none
  | c :: s =>
    let more (length : Nat) (quotes : Option (List Char)) (nest : List Char) :=
      (holeText? quotes nest (s.drop (length - 1))).map fun parts =>
        (c :: s.take (length - 1) ++ parts.1, parts.2)
    if c = '\\' then none
    else
      match quotes with
      | some closing =>
        if (after? closing (c :: s)).isSome then more closing.length none nest
        else more 1 quotes nest
      | none =>
        if c = '#' then none
        else if c = '\'' || c = '"' then
          let closing := if (after? [c, c] s).isSome then [c, c, c] else [c]
          more closing.length (some closing) nest
        else if c = '(' || c = '[' || c = '\x7b' then more 1 none (closingOf c :: nest)
        else if nest.isEmpty && s.head?.any (isComparison c) then more 2 none nest
        else if nest.isEmpty && (c = '!' || c = ':' || c = '\x7d' || c = '=') then
          some ([], c :: s)
        else if c = ')' || c = ']' || c = '\x7d' then
          if nest.head? = some c then more 1 none (nest.drop 1) else none
        else more 1 none nest
termination_by s => s.length
decreasing_by
  simp only [List.length_drop, List.length_cons]
  omega

/-- Whether the expression of a hole in a template is empty. -/
def isBlankHole (s : List Char) : Bool :=
  s.all fun c => isSeparator c || c == '\n'

/-- Whether the character is a blank of our own script. -/
def isPlainBlank (c : Char) : Bool :=
  isSeparator c || c == '\n' || c == '\r' || c == '\x0b'

/-- Drops the equals sign and the letter for the way of writing behind the expression of a hole. -/
def afterConversion? (s : List Char) : Option (List Char) :=
  let s := if s.head? = some '=' then (s.drop 1).dropWhile isPlainBlank else s
  match s with
  | '!' :: c :: rest => if c = 's' || c = 'r' || c = 'a' then some rest else none
  | _ => some s

end TicketMigration.Literal
