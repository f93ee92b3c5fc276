/-!
# UTF-8 with replacement

Text is written as the UTF-8 bytes of its characters.  Any bytes can be read:
each longest beginning of a character that the next byte does not continue, and
each byte that begins no character, reads as one U+FFFD.

The reader looks at one byte at a time.  Between bytes it holds the character it
has begun, if any (`Pending`).
-/

namespace Acquisition.Text.Utf8

/-- The character that stands for bytes that are no text. -/
def replacement : Char :=
  '\ufffd'

/-- A character that has begun: its value so far, how many bytes it still needs,
and the bounds of the next byte. -/
structure Pending where
  value : Nat
  owed : Nat
  low : UInt8
  high : UInt8
  deriving DecidableEq, Repr

/-- The state after a byte that no character precedes, with the characters it completes. -/
def start (byte : UInt8) : List Char × Option Pending :=
  if byte < 0x80 then ([Char.ofNat byte.toNat], none)
  else if byte < 0xc2 then ([replacement], none)
  else if byte < 0xe0 then ([], some ⟨byte.toNat % 32, 1, 0x80, 0xbf⟩)
  else if byte = 0xe0 then ([], some ⟨0, 2, 0xa0, 0xbf⟩)
  else if byte = 0xed then ([], some ⟨13, 2, 0x80, 0x9f⟩)
  else if byte < 0xf0 then ([], some ⟨byte.toNat % 16, 2, 0x80, 0xbf⟩)
  else if byte = 0xf0 then ([], some ⟨0, 3, 0x90, 0xbf⟩)
  else if byte < 0xf4 then ([], some ⟨byte.toNat % 8, 3, 0x80, 0xbf⟩)
  else if byte = 0xf4 then ([], some ⟨4, 3, 0x80, 0x8f⟩)
  else ([replacement], none)

/-- The state after a byte, with the characters it completes.  A byte that does
not continue the character begun breaks it off and starts anew. -/
def step : Option Pending → UInt8 → List Char × Option Pending
  | none, byte => start byte
  | some pending, byte =>
      if pending.low ≤ byte ∧ byte ≤ pending.high then
        let value := pending.value * 64 + byte.toNat % 64
        if pending.owed = 1 then ([Char.ofNat value], none)
        else ([], some ⟨value, pending.owed - 1, 0x80, 0xbf⟩)
      else
        let (chars, next) := start byte
        (replacement :: chars, next)

/-- Read bytes from a state between two of them. -/
def decodeFrom : Option Pending → List UInt8 → List Char
  | none, [] => []
  | some _, [] => [replacement]
  | state, byte :: rest => (step state byte).1 ++ decodeFrom (step state byte).2 rest

/-- The text that bytes read as. -/
def decode (bytes : List UInt8) : String :=
  String.ofList (decodeFrom none bytes)

/-- The bytes of a text. -/
def encode (text : String) : List UInt8 :=
  text.toList.flatMap String.utf8EncodeChar

/-- A broken character reads as one replacement, the text after it as itself. -/
example : decode [0xe2, 0x82, 0x41] = "\ufffdA" := by decide +kernel

/-- Surrogates are no characters: each of their bytes is replaced. -/
example : decode [0xed, 0xa0, 0x80] = "\ufffd\ufffd\ufffd" := by decide +kernel

end Acquisition.Text.Utf8
