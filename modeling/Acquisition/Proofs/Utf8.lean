import Acquisition.Text.Utf8
import Mathlib.Algebra.Group.Nat.Defs
import Mathlib.Data.List.TakeWhile

/-!
# Characters in bytes

A character takes up to four bytes: a first one that says how many bytes follow, and those, with
six bits of the character each (`trailing`).  The reader awaits what the first byte has announced
(`Pending.Awaits`).  So it reads a character back from its bytes, and reads one replacement where
the bytes of a character are cut (`decodeFrom_cut`).
-/

namespace Acquisition.Text.Utf8

variable {pending : Pending} {value count : Nat} {char : Char}

/-! ## Bytes -/

/-- A byte that follows the first one of a character: six bits of the value, at a place counted
from the end. -/
def continuation (value place : Nat) : UInt8 :=
  UInt8.ofNat (value / 64 ^ place % 64 + 128)

/-- The last bytes of a character. -/
def trailing (value : Nat) : Nat → List UInt8
  | 0 => []
  | count + 1 => continuation value count :: trailing value count

@[simp]
theorem length_trailing (value count : Nat) : (trailing value count).length = count := by
  induction count with
  | zero => rfl
  | succ count ih => rw [trailing, List.length_cons, ih]

theorem toNat_continuation (value place : Nat) :
    (continuation value place).toNat = value / 64 ^ place % 64 + 128 := by
  rw [continuation, UInt8.toNat_ofNat', Nat.mod_eq_of_lt]
  omega

/-! ## The reader within a character -/

/-- The reader has the beginning of a value and waits for its last bytes. -/
structure Pending.Awaits (pending : Pending) (value count : Nat) : Prop where
  owed : pending.owed = count + 1
  begun : pending.value = value / 64 ^ (count + 1)
  low : pending.low ≤ continuation value count
  high : continuation value count ≤ pending.high

/-- The reader goes on from a byte that it awaits. -/
theorem step_of_awaits (awaits : pending.Awaits value count) :
    step (some pending) (continuation value count) =
      if count = 0 then ([Char.ofNat value], none)
      else ([], some ⟨value / 64 ^ count, count, 0x80, 0xbf⟩) := by
  have joined : pending.value * 64 + (continuation value count).toNat % 64 = value / 64 ^ count := by
    rw [awaits.begun, toNat_continuation, Nat.pow_succ, ← Nat.div_div_eq_div_mul]
    omega
  simp only [step, awaits.low, awaits.high, and_self, if_true, joined, awaits.owed]
  cases count with
  | zero => simp
  | succ count => simp

/-- Within a value every byte that continues it is awaited. -/
theorem awaits_next (value count : Nat) :
    (⟨value / 64 ^ (count + 1), count + 1, 0x80, 0xbf⟩ : Pending).Awaits value count where
  owed := rfl
  begun := rfl
  low := by
    rw [UInt8.le_iff_toNat_le, toNat_continuation]
    exact Nat.le_add_left 128 _
  high := by
    rw [UInt8.le_iff_toNat_le, toNat_continuation]
    change _ ≤ 191
    omega

/-- The last bytes of a value complete it. -/
theorem decodeFrom_trailing (awaits : pending.Awaits value count) (rest : List UInt8) :
    decodeFrom (some pending) (trailing value (count + 1) ++ rest) =
      Char.ofNat value :: decodeFrom none rest := by
  induction count generalizing pending with
  | zero => rw [trailing, List.cons_append, decodeFrom, step_of_awaits awaits]; rfl
  | succ count ih =>
      rw [trailing, List.cons_append, decodeFrom, step_of_awaits awaits]
      exact ih (awaits_next value count)

/-- Where the last bytes of a value are cut there is one replacement. -/
theorem decodeFrom_take_trailing (awaits : pending.Awaits value count) {kept : Nat}
    (cut : kept ≤ count) :
    decodeFrom (some pending) ((trailing value (count + 1)).take kept) = [replacement] := by
  induction kept generalizing pending count with
  | zero => rfl
  | succ kept ih =>
      cases count with
      | zero => contradiction
      | succ count =>
          rw [trailing, List.take_succ_cons, decodeFrom, step_of_awaits awaits]
          exact ih (awaits_next value count) (Nat.le_of_succ_le_succ cut)

/-! ## First bytes -/

/-- A first byte announces that some more bytes make up a value. -/
def Announces (first : UInt8) (value count : Nat) : Prop :=
  ∃ pending, start first = ([], some pending) ∧ pending.Awaits value count

/-- The reader at a first byte, with the bytes told by their numbers. -/
theorem start_ofNat (first : Nat) (small : first < 256) :
    start (UInt8.ofNat first) =
      if first < 128 then ([Char.ofNat first], none)
      else if first < 194 then ([replacement], none)
      else if first < 224 then ([], some ⟨first % 32, 1, 0x80, 0xbf⟩)
      else if first = 224 then ([], some ⟨0, 2, 0xa0, 0xbf⟩)
      else if first = 237 then ([], some ⟨13, 2, 0x80, 0x9f⟩)
      else if first < 240 then ([], some ⟨first % 16, 2, 0x80, 0xbf⟩)
      else if first = 240 then ([], some ⟨0, 3, 0x90, 0xbf⟩)
      else if first < 244 then ([], some ⟨first % 8, 3, 0x80, 0xbf⟩)
      else if first = 244 then ([], some ⟨4, 3, 0x80, 0x8f⟩)
      else ([replacement], none) := by
  simp only [start, UInt8.lt_iff_toNat_lt, ← UInt8.toNat_inj, UInt8.toNat_ofNat',
    Nat.mod_eq_of_lt small, UInt8.reduceToNat]

theorem announces_of_start {first low high : UInt8} {begun : Nat}
    (started : start first = ([], some ⟨begun, count + 1, low, high⟩))
    (same : begun = value / 64 ^ (count + 1)) (least : low.toNat ≤ value / 64 ^ count % 64 + 128)
    (most : value / 64 ^ count % 64 + 128 ≤ high.toNat) : Announces first value count := by
  refine ⟨_, started, rfl, same, ?_, ?_⟩
  · rw [UInt8.le_iff_toNat_le, toNat_continuation]
    exact least
  · rw [UInt8.le_iff_toNat_le, toNat_continuation]
    exact most

theorem announces_one (low : 128 ≤ value) (high : value ≤ 2047) :
    Announces (UInt8.ofNat (value / 64 % 32 + 192)) value 0 := by
  have started := start_ofNat (value / 64 % 32 + 192) (by omega)
  rw [if_neg (by omega), if_neg (by omega), if_pos (by omega)] at started
  exact announces_of_start started (by omega) (by simp) (by simp; omega)

/-- The values from d800 to dfff are no characters, which the second byte shows. -/
theorem announces_two (low : 2048 ≤ value) (high : value ≤ 65535)
    (valid : value < 55296 ∨ 57343 < value) :
    Announces (UInt8.ofNat (value / 4096 % 16 + 224)) value 1 := by
  have started := start_ofNat (value / 4096 % 16 + 224) (by omega)
  rw [if_neg (by omega), if_neg (by omega), if_neg (by omega)] at started
  by_cases least : value / 4096 % 16 + 224 = 224
  · rw [if_pos least] at started
    exact announces_of_start started (by omega) (by simp; omega) (by simp; omega)
  rw [if_neg least] at started
  by_cases before : value / 4096 % 16 + 224 = 237
  · rw [if_pos before] at started
    exact announces_of_start started (by omega) (by simp) (by simp; omega)
  rw [if_neg before, if_pos (by omega)] at started
  exact announces_of_start started (by omega) (by simp) (by simp; omega)

/-- The first values of four bytes and the last ones show in the second byte. -/
theorem announces_three (low : 65536 ≤ value) (high : value < 1114112) :
    Announces (UInt8.ofNat (value / 262144 % 8 + 240)) value 2 := by
  have started := start_ofNat (value / 262144 % 8 + 240) (by omega)
  rw [if_neg (by omega), if_neg (by omega), if_neg (by omega), if_neg (by omega),
    if_neg (by omega), if_neg (by omega)] at started
  by_cases least : value / 262144 % 8 + 240 = 240
  · rw [if_pos least] at started
    exact announces_of_start started (by omega) (by simp; omega) (by simp; omega)
  rw [if_neg least] at started
  by_cases middle : value / 262144 % 8 + 240 < 244
  · rw [if_pos middle] at started
    exact announces_of_start started (by omega) (by simp) (by simp; omega)
  rw [if_neg middle, if_pos (by omega)] at started
  exact announces_of_start started (by omega) (by simp) (by simp; omega)

/-! ## Characters -/

/-- A character is a single byte below 128, or a first byte and the bytes that it announces. -/
theorem utf8EncodeChar_cases (char : Char) :
    char.toNat < 128 ∧ String.utf8EncodeChar char = [UInt8.ofNat char.toNat] ∨
    ∃ first count, count < 3 ∧ 194 ≤ first ∧ first < 256 ∧
      String.utf8EncodeChar char = UInt8.ofNat first :: trailing char.toNat (count + 1) ∧
      Announces (UInt8.ofNat first) char.toNat count := by
  have valid : char.toNat < 55296 ∨ 57343 < char.toNat ∧ char.toNat < 1114112 := char.valid
  simp only [String.utf8EncodeChar, Char.toNat_val]
  generalize char.toNat = value at valid
  by_cases one : value ≤ 127
  · exact .inl ⟨by omega, if_pos one⟩
  rw [if_neg one]
  by_cases two : value ≤ 2047
  · rw [if_pos two]
    exact .inr ⟨_, 0, by omega, by omega, by omega, by simp [trailing, continuation],
      announces_one (by omega) two⟩
  rw [if_neg two]
  by_cases three : value ≤ 65535
  · rw [if_pos three]
    exact .inr ⟨_, 1, by omega, by omega, by omega, by simp [trailing, continuation],
      announces_two (by omega) three (by omega)⟩
  rw [if_neg three]
  exact .inr ⟨_, 2, by omega, by omega, by omega, by simp [trailing, continuation],
    announces_three (by omega) (by omega)⟩

/-- A character is read back from its bytes. -/
theorem decodeFrom_char (char : Char) (rest : List UInt8) :
    decodeFrom none (String.utf8EncodeChar char ++ rest) = char :: decodeFrom none rest := by
  rcases utf8EncodeChar_cases char with ⟨ascii, bytes⟩ |
    ⟨first, count, _, _, _, bytes, pending, started, awaits⟩
  · rw [bytes, List.cons_append, List.nil_append, decodeFrom, step, start_ofNat _ (by omega),
      if_pos ascii, Char.ofNat_toNat]
    rfl
  · rw [bytes, List.cons_append, decodeFrom, step, started]
    refine (decodeFrom_trailing awaits rest).trans ?_
    rw [Char.ofNat_toNat]

/-- Where the bytes of a character are cut there is one replacement. -/
theorem decodeFrom_cut {kept : Nat} (begun : 0 < kept)
    (cut : kept < (String.utf8EncodeChar char).length) :
    decodeFrom none ((String.utf8EncodeChar char).take kept) = [replacement] := by
  obtain ⟨kept, rfl⟩ := Nat.exists_eq_succ_of_ne_zero (Nat.ne_of_gt begun)
  rcases utf8EncodeChar_cases char with ⟨_, bytes⟩ |
    ⟨first, count, _, _, _, bytes, pending, started, awaits⟩
  · rw [bytes, List.length_singleton] at cut
    omega
  · rw [bytes, List.length_cons, length_trailing] at cut
    rw [bytes, List.take_succ_cons, decodeFrom, step, started]
    exact decodeFrom_take_trailing awaits (by omega)

/-- Only the zero character has a zero among its bytes. -/
theorem ne_zero_of_mem_utf8EncodeChar (nonzero : char ≠ '\x00') :
    ∀ byte ∈ String.utf8EncodeChar char, byte ≠ 0 := by
  have others (value count : Nat) : ∀ byte ∈ trailing value count, byte ≠ 0 := by
    induction count with
    | zero => nofun
    | succ count ih =>
        refine List.forall_mem_cons.mpr ⟨?_, ih⟩
        intro zero
        have number := toNat_continuation value count
        rw [zero, UInt8.toNat_zero] at number
        omega
  rcases utf8EncodeChar_cases char with ⟨ascii, bytes⟩ | ⟨first, count, _, low, high, bytes, _⟩
  · rw [bytes, List.forall_mem_singleton]
    intro zero
    apply nonzero
    have number : char.toNat = 0 := by
      have same := congrArg UInt8.toNat zero
      rwa [UInt8.toNat_ofNat', Nat.mod_eq_of_lt (by omega)] at same
    rw [← Char.ofNat_toNat char, number]
  · rw [bytes]
    refine List.forall_mem_cons.mpr ⟨?_, others _ _⟩
    intro zero
    have same := congrArg UInt8.toNat zero
    rw [UInt8.toNat_ofNat', Nat.mod_eq_of_lt high, UInt8.toNat_zero] at same
    omega

/-! ## Texts -/

/-- Characters are read back from their bytes, whatever comes after. -/
theorem decodeFrom_append (chars : List Char) (rest : List UInt8) :
    decodeFrom none (chars.flatMap String.utf8EncodeChar ++ rest) =
      chars ++ decodeFrom none rest := by
  induction chars with
  | nil => rfl
  | cons char chars ih =>
      rw [List.flatMap_cons, List.append_assoc, decodeFrom_char, ih, List.cons_append]

theorem decodeFrom_encoded (chars : List Char) :
    decodeFrom none (chars.flatMap String.utf8EncodeChar) = chars := by
  have whole := decodeFrom_append chars []
  rwa [List.append_nil, decodeFrom, List.append_nil] at whole

/-- A text has as many bytes as it is long in memory. -/
theorem length_encode (text : String) : (encode text).length = text.utf8ByteSize := by
  have same : text.toByteArray = text.toList.utf8Encode := String.utf8Encode_toList.symm
  rw [String.utf8ByteSize, same]
  simp [encode, List.utf8Encode]

/-- The bytes before the first zero are those of the characters before the first zero. -/
theorem takeWhile_encoded (chars : List Char) :
    (chars.flatMap String.utf8EncodeChar).takeWhile (fun byte => byte ≠ 0) =
      (chars.takeWhile fun char => char ≠ '\x00').flatMap String.utf8EncodeChar := by
  induction chars with
  | nil => rfl
  | cons char chars ih =>
      by_cases zero : char = '\x00'
      · subst zero
        rfl
      · rw [List.flatMap_cons, List.takeWhile_append_of_pos, ih, List.takeWhile_cons_of_pos,
          List.flatMap_cons]
        · simpa using zero
        · simpa using ne_zero_of_mem_utf8EncodeChar zero

end Acquisition.Text.Utf8
