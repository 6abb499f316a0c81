import TicketMigration.Literal.Name
import TicketMigration.Literal.Quotation
import TicketMigration.Text.Decimal
import TicketMigration.Value.Basic

/-!
# The words of a literal

A literal is cut into numbers, names, quotations and marks.  Blanks, comments and, inside
brackets, line ends stand between them.  Outside brackets a literal is on one line, before which
and after which there may be lines without words.

All words of expressions are read, also those that no literal has: whether a text can be read and
whether it denotes a datum are different questions.

## Main definitions

* `Token` is a word of an expression.
* `number?` reads a number, `word?` any word.
* `words` cuts a text, `tokens?` a text that consists of words alone.
-/

namespace TicketMigration.Literal

open Text

/-- A word of an expression. -/
inductive Token
  /-- A number. -/
  | number (value : Value)
  /-- A text, as code points. -/
  | text (codes : List Nat)
  /-- A string of bytes. -/
  | bytes (bytes : List Nat)
  /-- A text with parts to be filled in, as it is written; a raw one has no escapes. -/
  | template (raw : Bool) (inside : List Char)
  /-- A name. -/
  | name (s : List Char)
  /-- A word that no name may be. -/
  | keyword (s : String)
  /-- The ellipsis. -/
  | ellipsis
  /-- A plus or a minus sign. -/
  | sign (negative : Bool)
  /-- A comma. -/
  | comma
  /-- A colon. -/
  | colon
  /-- A bracket that opens. -/
  | opening (bracket : Char)
  /-- A bracket that closes. -/
  | closing (bracket : Char)
  /-- Any other mark. -/
  | mark (s : String)
  deriving Repr

/-- Whether a character goes on with a word that a letter began.  Outside our own script only the
whole word tells. -/
def isNameChar (c : Char) : Bool :=
  c.isAlphanum || c == '_' || 128 ≤ c.toNat

/-- Reads digits that may have single underscores between them: their values and the rest.  A text
that does not begin with a digit has none; an underscore without a digit after it is a fault. -/
def digitRun (value? : Char → Option Nat) : List Char → Option (List Nat × List Char)
  | [] => some ([], [])
  | [c] =>
    match value? c with
    | some n => some ([n], [])
    | none => some ([], [c])
  | c :: d :: s =>
    match value? c with
    | none => some ([], c :: d :: s)
    | some n =>
      if d = '_' then
        if (s.head?.bind value?).isSome then
          (digitRun value? s).map fun run => (n :: run.1, run.2)
        else none
      else (digitRun value? (d :: s)).map fun run => (n :: run.1, run.2)

/-- The value of a decimal digit of our own script. -/
def plainDigit? (c : Char) : Option Nat :=
  if c.isDigit then some (c.toNat - '0'.toNat) else none

/-- The value of a binary digit. -/
def binaryDigit? (c : Char) : Option Nat :=
  if c = '0' then some 0 else if c = '1' then some 1 else none

/-- The bases that a letter after a zero stands for, with their digits. -/
def radixes : List (Char × Nat × (Char → Option Nat)) :=
  [('x', 16, hexValue?), ('X', 16, hexValue?), ('o', 8, octalValue?), ('O', 8, octalValue?),
    ('b', 2, binaryDigit?), ('B', 2, binaryDigit?)]

/-- Reads the digits of a number in another base, which an underscore may precede. -/
def radixNumber? (base : Nat) (value? : Char → Option Nat) (s : List Char) :
    Option (Value × List Char) :=
  let s := (after? ['_'] s).getD s
  (digitRun value? s).bind fun run =>
    if run.1.isEmpty then none
    else some (.int (run.1.foldl (fun n d => n * base + d) 0 : Nat), run.2)

/-- Reads the power of ten of a number, if there is one.  Without a sign and a digit the letter
begins a word of its own. -/
def exponent? (s : List Char) : Option (Option Int × List Char) :=
  match s with
  | c :: rest =>
    if c = 'e' || c = 'E' then
      let negative := (after? ['-'] rest).isSome
      let digits := if negative then rest.drop 1 else (after? ['+'] rest).getD rest
      (digitRun plainDigit? digits).bind fun run =>
        if run.1.isEmpty then
          if digits.length = rest.length then some (none, s) else none
        else
          let size : Int := ofDigits run.1
          some (some (if negative then -size else size), run.2)
    else some (none, s)
  | [] => some (none, [])

/-- The digits of a number without the zeros in front. -/
def significant (digits : List Nat) : List Nat :=
  digits.dropWhile (· == 0)

/-- A number with a fraction or a power of ten. -/
def scientific (whole fraction : List Nat) (exponent : Int) : Binary64 :=
  let digits := significant (whole ++ fraction)
  .ofScientific digits.length (ofDigits digits) (exponent - fraction.length)

/-- The datum of a number in base ten from its parts.  A whole number has no zeros in front, and
not too many digits. -/
def decimalValue? (whole : List Nat) (fraction : Option (List Nat)) (exponent : Option Int)
    (imaginary : Bool) : Option Value :=
  if imaginary then
    some (.complex .zero (scientific whole (fraction.getD []) (exponent.getD 0)))
  else
    match fraction, exponent with
    | none, none =>
      let digits := significant whole
      if digits.length = whole.length || digits.isEmpty then
        if whole.length ≤ maxDigits then some (.int (ofDigits whole : Nat)) else none
      else none
    | _, _ => some (.float (scientific whole (fraction.getD []) (exponent.getD 0)))

/-- Reads a number in base ten. -/
def decimalNumber? (s : List Char) : Option (Value × List Char) :=
  (digitRun plainDigit? s).bind fun whole =>
    let fraction? : Option (Option (List Nat) × List Char) :=
      match after? ['.'] whole.2 with
      | some rest => (digitRun plainDigit? rest).map fun run => (some run.1, run.2)
      | none => some (none, whole.2)
    fraction?.bind fun fraction =>
      (exponent? fraction.2).bind fun exponent =>
        let imaginary := exponent.2.head?.any fun c => c == 'j' || c == 'J'
        let rest := if imaginary then exponent.2.drop 1 else exponent.2
        (decimalValue? whole.1 fraction.1 exponent.1 imaginary).map (·, rest)

/-- The words that may follow a number without a blank. -/
def joiningWords : List String :=
  ["and", "else", "for", "if", "in", "is", "not", "or"]

/-- Whether a number may end before a text. -/
def mayFollowNumber (s : List Char) : Bool :=
  !s.head?.any isNameChar || joiningWords.any fun word => (after? word.toList s).isSome

/-- Reads a number at the front of a text. -/
def number? (s : List Char) : Option (Value × List Char) :=
  let read :=
    match s with
    | '0' :: c :: rest =>
      match radixes.lookup c with
      | some (base, value?) => radixNumber? base value? rest
      | none => decimalNumber? s
    | _ => decimalNumber? s
  read.filter fun parts => mayFollowNumber parts.2

/-- How the letters in front of a quotation say it is to be read. -/
structure QuotationKind where
  /-- A backslash is a character. -/
  raw : Bool := false
  /-- The quotation denotes bytes. -/
  bytes : Bool := false
  /-- The quotation has parts to be filled in. -/
  template : Bool := false
  deriving DecidableEq, Repr

/-- The kinds of quotations by the small letters in front of them. -/
def quotationKinds : List (List Char × QuotationKind) :=
  [([], {}), (['u'], {}), (['r'], { raw := true }), (['b'], { bytes := true }),
    (['b', 'r'], { raw := true, bytes := true }), (['r', 'b'], { raw := true, bytes := true }),
    (['f'], { template := true }), (['f', 'r'], { raw := true, template := true }),
    (['r', 'f'], { raw := true, template := true })]

/-- The word that the inside of a quotation is. -/
def quotationToken? (kind : QuotationKind) (inside : List Char) : Option Token :=
  if kind.template then some (.template kind.raw inside)
  else
    let codes := if kind.raw then rawCodes (!kind.bytes) inside else unescape (!kind.bytes) inside
    codes.map fun codes => if kind.bytes then .bytes codes else .text codes

/-- The kind of the quotation at the front of a text, if letters and then a quote stand there. -/
def quotationKind? (s : List Char) : Option QuotationKind :=
  match (s.dropWhile Char.isAlpha).head? with
  | some c =>
    if c = '\'' || c = '"' then
      quotationKinds.lookup ((s.takeWhile Char.isAlpha).map Char.toLower)
    else none
  | none => none

/-- Reads a quotation of a kind with the letters in front of it. -/
def quotationWord? (kind : QuotationKind) (s : List Char) : Option (Token × List Char) :=
  (quotation? (s.dropWhile Char.isAlpha)).bind fun parts =>
    (quotationToken? kind parts.1).map (·, parts.2)

/-- The words that no name may be. -/
def keywords : List String :=
  ["False", "None", "True", "and", "as", "assert", "async", "await", "break", "class", "continue",
    "def", "del", "elif", "else", "except", "finally", "for", "from", "global", "if", "import",
    "in", "is", "lambda", "nonlocal", "not", "or", "pass", "raise", "return", "try", "while",
    "with", "yield"]

/-- Reads a name or a keyword. -/
def nameWord? (s : List Char) : Option (Token × List Char) :=
  let name := s.takeWhile isNameChar
  if isName name then
    let word := if keywords.contains (String.ofList name) then .keyword (String.ofList name)
      else .name name
    some (word, s.dropWhile isNameChar)
  else none

/-- The marks with a part of their own in an expression. -/
def punctuation : List (String × Token) :=
  [("...", .ellipsis), (":=", .mark ":="), (",", .comma), (":", .colon), ("+", .sign false),
    ("-", .sign true), ("(", .opening '('), ("[", .opening '['), ("\x7b", .opening '\x7b'),
    (")", .closing ')'), ("]", .closing ']'), ("\x7d", .closing '\x7d')]

/-- The other marks, long ones before short ones. -/
def marks : List String :=
  ["**", "//", "<<", ">>", "<=", ">=", "==", "!=", "*", "/", "%", "@", "&", "|", "^", "~", "<",
    ">", ".", "="]

/-- Reads a mark. -/
def markWord? (s : List Char) : Option (Token × List Char) :=
  (punctuation ++ marks.map fun m => (m, Token.mark m)).findSome? fun entry =>
    (after? entry.1.toList s).map (entry.2, ·)

/-- Reads one word at the front of a text. -/
def word? (s : List Char) : Option (Token × List Char) :=
  match s with
  | [] => none
  | c :: rest =>
    match quotationKind? s with
    | some kind => quotationWord? kind s
    | none =>
      if c.isDigit || (c = '.' && rest.head?.any Char.isDigit) then
        (number? s).map fun parts => (.number parts.1, parts.2)
      else if isNameChar c then nameWord? s
      else markWord? s

/-- The greatest number of brackets that may be open at once. -/
def maxDepth : Nat := 200

/-- Where the reader of words is. -/
structure Position where
  /-- The number of open brackets. -/
  depth : Nat := 0
  /-- Whether a word has been read. -/
  started : Bool := false
  /-- Whether the line of the literal has come to its end. -/
  ended : Bool := false
  /-- Whether the line begins with blanks that are no part of the literal. -/
  indented : Bool := false
  deriving DecidableEq, Repr

namespace Position

/-- The position after a word, if it may stand here. -/
def afterToken? (p : Position) (token : Token) : Option Position :=
  if p.ended || (p.indented && !p.started) then none
  else
    match token with
    | .opening _ =>
      if p.depth < maxDepth then some { p with depth := p.depth + 1, started := true } else none
    | .closing _ =>
      if 0 < p.depth then some { p with depth := p.depth - 1, started := true } else none
    | _ => some { p with started := true }

/-- The position after a line end; `blanks` says whether the next line begins with blanks. -/
def afterNewline (p : Position) (blanks : Bool) : Position :=
  if p.depth = 0 then { p with ended := p.started, indented := blanks } else p

end Position

/-- Whether the character only separates words. -/
def isSeparator (c : Char) : Bool :=
  c == ' ' || c == '\t' || c == '\x0c'

/-- Cuts a text into words up to one that cannot be read, and says whether all can be read.  A
backslash joins a line with the next one, which must be there.  The number bounds the steps, of
which each reads a character. -/
def wordsFrom : Nat → Position → List Char → List Token × Bool
  | 0, _, _ => ([], false)
  | _ + 1, _, [] => ([], true)
  | fuel + 1, p, c :: s =>
    if isSeparator c then wordsFrom fuel p s
    else if c = '\n' then
      wordsFrom fuel (p.afterNewline (s.head?.any fun c => c == ' ' || c == '\t')) s
    else if c = '#' then wordsFrom fuel p (s.dropWhile onLine)
    else if c = '\\' then
      match after? ['\n'] s with
      | some rest => if rest.isEmpty then ([], false) else wordsFrom fuel p rest
      | none => ([], false)
    else
      match word? (c :: s) with
      | none => ([], false)
      | some (token, s) =>
        match p.afterToken? token with
        | none => ([], false)
        | some p =>
          let (tokens, isWhole) := wordsFrom fuel p s
          (token :: tokens, isWhole)

/-- Cuts a text into words up to one that cannot be read, and says whether all can be read.  A null
character is nowhere allowed. -/
def words (s : List Char) : List Token × Bool :=
  if s.contains '\x00' then ([], false)
  else wordsFrom (s.length + 1) {} (s.dropWhile fun c => c == ' ' || c == '\t')

/-- The words of a text, if all can be read. -/
def tokens? (s : List Char) : Option (List Token) :=
  if (words s).2 then some (words s).1 else none

end TicketMigration.Literal
