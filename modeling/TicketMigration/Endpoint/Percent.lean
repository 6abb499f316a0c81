/-!
# Percent encoding

A text becomes a part of an address by way of its bytes: letters, digits and four marks stand for
themselves, every other byte is a percent sign and two hexadecimal digits.

## Main definitions

* `percentEncode` and `percentDecode?` on bytes.
* `encodeComponent` encodes a text.
-/

namespace TicketMigration.Endpoint

/-- Whether a byte stands for itself. -/
def isUnreserved (byte : UInt8) : Bool :=
  let c := Char.ofNat byte.toNat
  c.isAlphanum || c == '_' || c == '.' || c == '-' || c == '~'

/-- The capital hexadecimal digit of a number below sixteen. -/
def capitalHexDigit (n : Nat) : Char :=
  if n < 10 then Char.ofNat ('0'.toNat + n) else Char.ofNat ('A'.toNat + (n - 10))

/-- The value of a capital hexadecimal digit. -/
def capitalHexValue? (c : Char) : Option Nat :=
  if c.isDigit then some (c.toNat - '0'.toNat)
  else if 'A' ≤ c && c ≤ 'F' then some (c.toNat - 'A'.toNat + 10)
  else none

/-- Encodes a byte. -/
def encodeByte (byte : UInt8) : List Char :=
  if isUnreserved byte then [Char.ofNat byte.toNat]
  else ['%', capitalHexDigit (byte.toNat / 16), capitalHexDigit (byte.toNat % 16)]

/-- Encodes bytes. -/
def percentEncode (bytes : List UInt8) : List Char :=
  bytes.flatMap encodeByte

/-- Decodes bytes. -/
def percentDecode? : List Char → Option (List UInt8)
  | [] => some []
  | '%' :: high :: low :: s =>
    (capitalHexValue? high).bind fun h => (capitalHexValue? low).bind fun l =>
      (percentDecode? s).map (UInt8.ofNat (h * 16 + l) :: ·)
  | c :: s => if c = '%' then none else (percentDecode? s).map (UInt8.ofNat c.toNat :: ·)

/-- Encodes a text by way of its bytes. -/
def encodeComponent (s : String) : List Char :=
  percentEncode (s.toList.flatMap String.utf8EncodeChar)

end TicketMigration.Endpoint
