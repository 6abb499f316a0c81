/-!
# Texts from bytes

## Main definitions

* `decode` reads bytes as the encoded form of a text.  An encoded text that breaks off in the middle
  of its last character is told from bytes that encode no text at all.
-/

namespace TicketMigration.Text

/-- What bytes stand for. -/
inductive Decoded
  /-- A text. -/
  | text (s : List Char)
  /-- A text and the beginning of one more character. -/
  | brokenOff (s : List Char)
  /-- No text. -/
  | malformed
  deriving DecidableEq, Repr

/-- Reads bytes that are the encoded form of a text. -/
def decode? (bytes : List UInt8) : Option (List Char) :=
  (String.fromUTF8? bytes.toByteArray).map String.toList

/-- Whether bytes are the first two of a code point that is kept for pairs.  It is no character, but
that is only decided by its third byte. -/
def isHalfPair : List UInt8 → Bool
  | [0xED, second] => 0xA0 ≤ second && second ≤ 0xBF
  | _ => false

/-- Whether bytes become the encoded form of a text when more bytes follow.  A first following byte
may have to be a small or a large one; the bytes after it are free. -/
def isUnfinished (bytes : List UInt8) : Bool :=
  isHalfPair bytes || [0x80, 0xBF].any fun next => (List.range 3).any fun more =>
    (decode? (bytes ++ next :: List.replicate more 0x80)).isSome

/-- The largest number of bytes in an unfinished character. -/
def maxUnfinished : Nat := 3

/-- Reads bytes, of which the last may be an unfinished character: as many as a number says. -/
def decodeWithout (bytes : List UInt8) (tail : Nat) : Option (List Char) :=
  let front := bytes.take (bytes.length - tail)
  if tail ≤ bytes.length && isUnfinished (bytes.drop front.length) then decode? front else none

/-- Reads bytes. -/
def decode (bytes : List UInt8) : Decoded :=
  match decode? bytes with
  | some s => .text s
  | none =>
    match (List.range maxUnfinished).findSome? fun n => decodeWithout bytes (n + 1) with
    | some s => .brokenOff s
    | none => .malformed

end TicketMigration.Text
