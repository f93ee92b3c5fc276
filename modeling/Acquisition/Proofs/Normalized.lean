import Acquisition.Descriptor
import Acquisition.Proofs.Utf8

/-!
# Descriptors that are written and read back

A field keeps the bytes of a text up to its first zero, as far as there is room for them.  Where
they end within a character, that character reads as one replacement, of which the field keeps as
many bytes as it has kept of the character.  So a text that has been read back from a field is
kept by the field in the same way (`Field.read_read`), and a text that fits is kept as it is.

Main statement: `Descriptor.normalized_normalizes`.
-/

namespace Acquisition

namespace Text.Field

open Utf8 (replacement decodeFrom)

variable {room width : Nat} {chars : List Char} {text : String}

/-- What is read of characters that are written into some bytes and a final zero. -/
def read (room : Nat) (chars : List Char) : List Char :=
  decodeFrom none
    (((chars.takeWhile fun char => char ≠ '\x00').flatMap String.utf8EncodeChar).take room)

/-- Reading a field stops at the zero that is written after a text. -/
theorem decode_encode (width : Nat) (text : String) :
    decode (encode width text) = String.ofList (read (width - 1) text.toList) := by
  have zeros (count : Nat) :
      (List.replicate count (0 : UInt8)).takeWhile (fun byte => byte ≠ 0) = [] := by
    rw [List.takeWhile_replicate]
    rfl
  have stops (bytes : List UInt8) (count : Nat) :
      (bytes ++ List.replicate count 0).takeWhile (fun byte => byte ≠ 0) =
        bytes.takeWhile fun byte => byte ≠ 0 := by
    rw [List.takeWhile_append, zeros, List.append_nil]
    split
    · next whole => exact (List.takeWhile_prefix _ |>.eq_of_length whole).symm
    · rfl
  rw [decode, encode, stops, ← List.take_takeWhile, Utf8.encode, Utf8.takeWhile_encoded]
  rfl

/-- Characters without a zero that fit are read as they are. -/
theorem read_of_fits (nonzero : ∀ char ∈ chars, char ≠ '\x00')
    (fits : (chars.flatMap String.utf8EncodeChar).length ≤ room) : read room chars = chars := by
  have whole : chars.takeWhile (fun char => char ≠ '\x00') = chars :=
    List.takeWhile_eq_self_iff.mpr (by simpa using nonzero)
  rw [read, whole, List.take_of_length_le fits, Utf8.decodeFrom_encoded]

theorem read_nil (room : Nat) : read room [] = [] := by
  simp [read, decodeFrom]

/-- Reading goes on character by character up to a zero and while there is room.  A character that
there is no more room for in whole is read as a replacement. -/
theorem read_cons (room : Nat) (char : Char) (rest : List Char) :
    read room (char :: rest) =
      if char = '\x00' ∨ room = 0 then []
      else if room < (String.utf8EncodeChar char).length then [replacement]
      else char :: read (room - (String.utf8EncodeChar char).length) rest := by
  by_cases stops : char = '\x00' ∨ room = 0
  · rw [if_pos stops]
    rcases stops with rfl | rfl <;> simp [read, decodeFrom]
  · obtain ⟨nonzero, begun⟩ := not_or.mp stops
    have first : (char :: rest).takeWhile (fun char => char ≠ '\x00') =
        char :: rest.takeWhile fun char => char ≠ '\x00' :=
      List.takeWhile_cons_of_pos (by simpa using nonzero)
    rw [if_neg stops, read, first, List.flatMap_cons]
    split
    · next short =>
        rw [List.take_append_of_le_length (Nat.le_of_lt short),
          Utf8.decodeFrom_cut (Nat.pos_of_ne_zero begun) short]
    · next fits =>
        rw [List.take_append, List.take_of_length_le (Nat.le_of_not_lt fits),
          Utf8.decodeFrom_char, ← read]

/-- What has been read is read again as it is, also a replacement of which only some bytes are
kept. -/
theorem read_read (room : Nat) (chars : List Char) :
    read room (read room chars) = read room chars := by
  induction chars generalizing room with
  | nil => rw [read_nil, read_nil]
  | cons char rest ih =>
      rw [read_cons]
      split
      · exact read_nil room
      · next going =>
          split
          · rw [read_cons, if_neg (not_or.mpr ⟨by decide, (not_or.mp going).2⟩)]
            split
            · rfl
            · rw [read_nil]
          · next fits => rw [read_cons, if_neg going, if_neg fits, ih]

theorem decode_encode_decode (width : Nat) (text : String) :
    decode (encode width (decode (encode width text))) = decode (encode width text) := by
  simp only [decode_encode, String.toList_ofList, read_read]

/-- A field ends in a zero, whatever is written into it. -/
theorem getLast?_encode (wide : 0 < width) (text : String) :
    (encode width text).getLast? = some 0 := by
  have room : width - ((Utf8.encode text).take (width - 1)).length ≠ 0 := by
    have bound := List.length_take_le (width - 1) (Utf8.encode text)
    omega
  rw [encode, List.getLast?_append, List.getLast?_replicate, if_neg room]
  rfl

/-- A text that fits and has no zero comes back as it is. -/
theorem decode_encode_of_fits (nonzero : '\x00' ∉ text.toList)
    (fits : text.utf8ByteSize ≤ width - 1) : decode (encode width text) = text := by
  rw [← Utf8.length_encode] at fits
  rw [decode_encode, read_of_fits (fun char member same => nonzero (same ▸ member)) fits,
    String.ofList_toList]

end Text.Field

namespace DescriptorRecord

/-- The text fields of a record. -/
def fields (record : DescriptorRecord) : List (List UInt8) :=
  [record.productName, record.deviceText, record.uniqueId]

end DescriptorRecord

namespace Descriptor

/-- The texts of a descriptor. -/
def texts (descriptor : Descriptor) : List String :=
  [descriptor.productName, descriptor.deviceText, descriptor.uniqueId]

/-- What is read back from the record that is written of a descriptor. -/
def normalized (descriptor : Descriptor) : Descriptor :=
  ofRecord descriptor.toRecord

/-- Writing a descriptor and reading it back changes it once and not again.  It keeps the product
number and the transports, and the texts too if they have at most 63 bytes and no zero; every
field that is written has 64 bytes, the last of which is zero. -/
theorem normalized_normalizes (descriptor : Descriptor) :
    descriptor.normalized.normalized = descriptor.normalized ∧
    descriptor.normalized.productId = descriptor.productId ∧
    descriptor.normalized.transport = descriptor.transport ∧
    (∀ field ∈ descriptor.toRecord.fields, field.length = 64 ∧ field.getLast? = some 0) ∧
    ((∀ text ∈ descriptor.texts, text.utf8ByteSize ≤ 63 ∧ '\x00' ∉ text.toList) →
      descriptor.normalized = descriptor) := by
  refine ⟨?_, rfl, rfl, ?_, ?_⟩
  · simp only [normalized, ofRecord, toRecord, Text.Field.decode_encode_decode]
  · have each (text : String) :
        (Text.Field.encode DescriptorRecord.fieldWidth text).length = 64 ∧
          (Text.Field.encode DescriptorRecord.fieldWidth text).getLast? = some 0 :=
      ⟨Text.Field.length_encode _ text, Text.Field.getLast?_encode (by decide) text⟩
    simp only [DescriptorRecord.fields, List.forall_mem_cons]
    exact ⟨each _, each _, each _, List.forall_mem_nil _⟩
  · intro fits
    have kept (text : String) (listed : text ∈ descriptor.texts) :
        Text.Field.decode (Text.Field.encode DescriptorRecord.fieldWidth text) = text :=
      Text.Field.decode_encode_of_fits (fits text listed).2 (fits text listed).1
    simp only [texts, List.forall_mem_cons] at kept
    obtain ⟨product, device, unique, _⟩ := kept
    rw [normalized, ofRecord, toRecord, product, device, unique]

/-- A descriptor whose product name is cut within its last character. -/
def overlong : Descriptor :=
  ⟨String.ofList (List.replicate 62 'x' ++ ['€']), 317, ⟨0x1⟩, "Größe", "01D97CFA"⟩

/-- A descriptor with short texts. -/
def short : Descriptor :=
  ⟨"USB-1808X", 317, ⟨0x1⟩, "Größe", "01D97CFA"⟩

/-- The character that is cut is replaced once, and what fits is kept. -/
theorem normalized_normalizes_overlong :
    overlong.normalized.productName = String.ofList (List.replicate 62 'x' ++ ['\ufffd']) ∧
    overlong.normalized.normalized = overlong.normalized ∧
    (∀ text ∈ short.texts, text.utf8ByteSize ≤ 63 ∧ '\x00' ∉ text.toList) ∧
    short.normalized = short := by
  have fits : ∀ text ∈ short.texts, text.utf8ByteSize ≤ 63 ∧ '\x00' ∉ text.toList := by
    decide +kernel
  exact ⟨by decide +kernel, overlong.normalized_normalizes.1, fits,
    short.normalized_normalizes.2.2.2.2 fits⟩

end Descriptor

end Acquisition
