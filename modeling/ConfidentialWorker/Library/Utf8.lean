import Mathlib.Data.List.Basic

/-!
# Byte strings and their UTF-8 texts

A text is a sequence of Unicode scalar values.  Its encoding is a list of
bytes, and a byte list is well formed exactly when it is the encoding of some
sequence of scalar values; overlong forms, surrogates and truncated sequences
encode none.
-/

/-- A byte string. -/
abbrev Bytes := List UInt8

namespace Utf8

/-- The UTF-8 bytes of a text. -/
def encode (text : String) : Bytes :=
  text.toByteArray.data.toList

/-- The text that a byte string encodes, if it encodes one. -/
def decode (bytes : Bytes) : Option String :=
  String.fromUTF8? bytes.toByteArray

/-- Well-formed UTF-8: the bytes of a sequence of scalar values, one after the
other. -/
def WellFormed (bytes : Bytes) : Prop :=
  ∃ scalars : List Char, scalars.flatMap String.utf8EncodeChar = bytes

private theorem toByteArray_data_toList (bytes : ByteArray) :
    bytes.data.toList.toByteArray = bytes := by
  apply ByteArray.ext
  simp

theorem encode_injective : Function.Injective encode := by
  intro left right equality
  apply String.toByteArray_inj.mp
  rw [← toByteArray_data_toList left.toByteArray,
    ← toByteArray_data_toList right.toByteArray]
  exact congrArg List.toByteArray equality

/-- Decoding answers with the one text whose encoding is the given bytes. -/
theorem decode_eq_some_iff {bytes : Bytes} {text : String} :
    decode bytes = some text ↔ encode text = bytes := by
  unfold decode String.fromUTF8?
  constructor
  · intro decoded
    split at decoded
    · cases decoded
      simp [encode, String.fromUTF8]
    · cases decoded
  · intro encoded
    have sameArray : bytes.toByteArray = text.toByteArray := by
      rw [← encoded]
      exact toByteArray_data_toList text.toByteArray
    have valid : bytes.toByteArray.IsValidUTF8 := by
      rw [sameArray]
      exact text.isValidUTF8
    rw [dif_pos valid]
    apply congrArg some
    apply String.toByteArray_inj.mp
    exact sameArray

@[simp]
theorem decode_encode (text : String) : decode (encode text) = some text :=
  decode_eq_some_iff.mpr rfl

theorem wellFormed_encode (text : String) : WellFormed (encode text) := by
  refine ⟨text.toList, ?_⟩
  have encoded : text.toByteArray = text.toList.utf8Encode := by
    rw [← String.toByteArray_ofList, String.ofList_toList]
  simp [encode, encoded, List.utf8Encode]

theorem wellFormed_iff {bytes : Bytes} :
    WellFormed bytes ↔ ∃ text, encode text = bytes := by
  constructor
  · rintro ⟨scalars, encoded⟩
    refine ⟨String.ofList scalars, ?_⟩
    simpa [encode, List.utf8Encode] using encoded
  · rintro ⟨text, rfl⟩
    exact wellFormed_encode text

/-- Decoding fails exactly on the byte strings that are not well formed. -/
theorem decode_eq_none_iff {bytes : Bytes} :
    decode bytes = none ↔ ¬ WellFormed bytes := by
  rw [wellFormed_iff]
  cases decoded : decode bytes with
  | none =>
      constructor
      · rintro - ⟨text, encoded⟩
        rw [decode_eq_some_iff.mpr encoded] at decoded
        cases decoded
      · intro _
        rfl
  | some text =>
      have encoded : ∃ text, encode text = bytes :=
        ⟨text, decode_eq_some_iff.mp decoded⟩
      simp [encoded]

instance (bytes : Bytes) : Decidable (WellFormed bytes) :=
  decidable_of_iff (decode bytes ≠ none) <| by
    rw [Ne, decode_eq_none_iff, not_not]

example : decode [0xE2, 0x82, 0xAC] = some "€" := by decide

example : ¬ WellFormed [0xC0, 0xAF] := by decide

end Utf8
