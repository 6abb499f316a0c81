import TicketMigration.Endpoint.Percent
import TicketMigration.Proofs.FileLayout

/-!
# Percent encoding is taken back

An encoded text has none of the characters that divide an address, and it is decoded to the text.

## Main definitions

* `isComponentChar` — letters, digits, four marks and the percent sign.
* `decodeComponent?` — takes the encoding of a text back.

## Main statements

* `isComponentChar_of_mem_encodeComponent` — what an encoded text is made of.
* `decodeComponent?_encodeComponent` — **an encoded text is decoded to the text.**
-/

namespace TicketMigration.Endpoint

open Text

/-- Letters, digits, the four marks that stand for themselves, and the percent sign. -/
def isComponentChar (c : Char) : Bool :=
  c.isAlphanum || c == '_' || c == '.' || c == '-' || c == '~' || c == '%'

/-- Takes the encoding of a text back. -/
def decodeComponent? (s : List Char) : Option (List Char) :=
  (percentDecode? s).bind decode?

/-! ### Digits -/

/-- Every number below sixteen has a capital digit, which is read as that number. -/
theorem capitalHexDigit_spec :
    ∀ n < 16, isComponentChar (capitalHexDigit n) = true ∧
      capitalHexValue? (capitalHexDigit n) = some n := by
  decide

/-! ### Bytes -/

variable {byte : UInt8}

/-- The code of a byte that stands for itself is that byte. -/
theorem toNat_charOfByte (byte : UInt8) : (Char.ofNat byte.toNat).toNat = byte.toNat := by
  have small : byte.toNat < 256 := byte.toNat_lt
  have valid : byte.toNat.isValidChar := .inl (by omega)
  rw [Char.ofNat, dif_pos valid]
  rfl

theorem charOfByte_ne_percent (h : isUnreserved byte = true) : Char.ofNat byte.toNat ≠ '%' := by
  intro percent
  rw [isUnreserved, percent] at h
  revert h
  decide

theorem encodeByte_plain (h : isUnreserved byte = true) :
    encodeByte byte = [Char.ofNat byte.toNat] :=
  if_pos h

theorem encodeByte_escaped (h : ¬isUnreserved byte = true) :
    encodeByte byte
      = ['%', capitalHexDigit (byte.toNat / 16), capitalHexDigit (byte.toNat % 16)] :=
  if_neg h

theorem isComponentChar_of_mem_encodeByte (byte : UInt8) :
    ∀ c ∈ encodeByte byte, isComponentChar c = true := by
  have small : byte.toNat < 256 := byte.toNat_lt
  by_cases h : isUnreserved byte = true
  · rw [encodeByte_plain h, List.forall_mem_singleton]
    exact Bool.or_eq_true_iff.2 (.inl h)
  · rw [encodeByte_escaped h, List.forall_mem_cons, List.forall_mem_cons, List.forall_mem_singleton]
    exact ⟨rfl, (capitalHexDigit_spec _ (by omega)).1, (capitalHexDigit_spec _ (by omega)).1⟩

/-- An encoded byte is decoded to the byte, whatever follows. -/
theorem percentDecode?_encodeByte_append (byte : UInt8) (s : List Char) :
    percentDecode? (encodeByte byte ++ s) = (percentDecode? s).map (byte :: ·) := by
  have small : byte.toNat < 256 := byte.toNat_lt
  by_cases h : isUnreserved byte = true
  · have plain := charOfByte_ne_percent h
    rw [encodeByte_plain h, List.singleton_append, percentDecode?, if_neg plain, toNat_charOfByte,
      UInt8.ofNat_toNat]
    intro _ _ _ percent
    exact absurd percent plain
  · have worth : byte.toNat / 16 * 16 + byte.toNat % 16 = byte.toNat := by omega
    rw [encodeByte_escaped h, List.cons_append, List.cons_append, List.singleton_append,
      percentDecode?, (capitalHexDigit_spec _ (by omega)).2, (capitalHexDigit_spec _ (by omega)).2,
      Option.bind_some, Option.bind_some, worth, UInt8.ofNat_toNat]

theorem percentDecode?_percentEncode (bytes : List UInt8) :
    percentDecode? (percentEncode bytes) = some bytes := by
  induction bytes with
  | nil => rfl
  | cons byte bytes ih =>
    rw [percentEncode, List.flatMap_cons, percentDecode?_encodeByte_append]
    exact congrArg (Option.map (byte :: ·)) ih

/-! ### Texts -/

/-- What an encoded text is made of. -/
theorem isComponentChar_of_mem_encodeComponent (s : String) :
    ∀ c ∈ encodeComponent s, isComponentChar c = true := by
  intro c hc
  obtain ⟨byte, -, hc⟩ := List.mem_flatMap.1 hc
  exact isComponentChar_of_mem_encodeByte byte c hc

/-- **An encoded text is decoded to the text.** -/
theorem decodeComponent?_encodeComponent (s : String) :
    decodeComponent? (encodeComponent s) = some s.toList := by
  have encoded : encodeComponent s = percentEncode (encode s.toList) := rfl
  rw [decodeComponent?, encoded, percentDecode?_percentEncode, Option.bind_some, decode?_encode]

theorem encodeComponent_injective : Function.Injective encodeComponent := by
  intro s t same
  have decoded := decodeComponent?_encodeComponent s
  rw [same, decodeComponent?_encodeComponent] at decoded
  exact String.toList_inj.1 (Option.some.inj decoded).symm

end TicketMigration.Endpoint
