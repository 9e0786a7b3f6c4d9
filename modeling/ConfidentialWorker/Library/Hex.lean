import Mathlib.Data.List.Basic
import Mathlib.Tactic.Common

/-!
# Hexadecimal text

Bytes are written with two lower-case digits each.  Reading accepts digits of
both cases, and gives back what was written.
-/

namespace Hex

def digit (value : ℕ) : Char :=
  if value < 10 then
    Char.ofNat ('0'.toNat + value)
  else
    Char.ofNat ('a'.toNat + (value - 10))

def digitValue (letter : Char) : Option ℕ :=
  if '0' ≤ letter ∧ letter ≤ '9' then
    some (letter.toNat - '0'.toNat)
  else if 'a' ≤ letter ∧ letter ≤ 'f' then
    some (letter.toNat - 'a'.toNat + 10)
  else if 'A' ≤ letter ∧ letter ≤ 'F' then
    some (letter.toNat - 'A'.toNat + 10)
  else
    none

def encodeByte (byte : UInt8) : List Char :=
  [digit (byte.toNat / 16), digit (byte.toNat % 16)]

def encode (bytes : List UInt8) : List Char :=
  bytes.flatMap encodeByte

def decode : List Char → Option (List UInt8)
  | [] => some []
  | [_] => none
  | high :: low :: rest =>
      match digitValue high, digitValue low, decode rest with
      | some highValue, some lowValue, some bytes =>
          some (UInt8.ofNat (16 * highValue + lowValue) :: bytes)
      | _, _, _ => none

theorem digitValue_digit :
    ∀ value < 16, digitValue (digit value) = some value := by
  decide

theorem digit_ne_newline : ∀ value < 16, digit value ≠ '\n' := by
  decide

theorem halves_lt (byte : UInt8) :
    byte.toNat / 16 < 16 ∧ byte.toNat % 16 < 16 := by
  have bound : byte.toNat < 256 := byte.toNat_lt
  omega

theorem halves_eq (byte : UInt8) :
    UInt8.ofNat (16 * (byte.toNat / 16) + byte.toNat % 16) = byte := by
  have whole : 16 * (byte.toNat / 16) + byte.toNat % 16 = byte.toNat := by
    omega
  rw [whole, UInt8.ofNat_toNat]

theorem decode_encode (bytes : List UInt8) :
    decode (encode bytes) = some bytes := by
  induction bytes with
  | nil =>
      rfl
  | cons byte rest inductionHypothesis =>
      obtain ⟨high, low⟩ := halves_lt byte
      have split :
          encode (byte :: rest) =
            digit (byte.toNat / 16) :: digit (byte.toNat % 16) ::
              encode rest :=
        rfl
      rw [split, decode, digitValue_digit _ high, digitValue_digit _ low,
        inductionHypothesis]
      simp only [halves_eq]

/-- No line break is written. -/
theorem newline_not_mem_encodeByte (byte : UInt8) :
    '\n' ∉ encodeByte byte := by
  obtain ⟨high, low⟩ := halves_lt byte
  intro member
  rcases List.mem_cons.mp member with isHigh | rest
  · exact digit_ne_newline _ high isHigh.symm
  · exact digit_ne_newline _ low (List.mem_singleton.mp rest).symm

end Hex
