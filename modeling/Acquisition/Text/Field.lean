import Acquisition.Text.Utf8

/-!
# Text fields of fixed width

A field of `width` bytes holds the UTF-8 bytes of a text, cut so that a final
zero fits, and zeros after them.  Reading stops at the first zero, so what is
read may end in a replacement where a character was cut.
-/

namespace Acquisition.Text.Field

/-- Write a text into a field. -/
def encode (width : Nat) (text : String) : List UInt8 :=
  let kept := (Utf8.encode text).take (width - 1)
  kept ++ List.replicate (width - kept.length) 0

/-- Read the text of a field. -/
def decode (bytes : List UInt8) : String :=
  Utf8.decode (bytes.takeWhile fun byte => byte ≠ 0)

/-- A field has its width, whatever is written into it. -/
@[simp]
theorem length_encode (width : Nat) (text : String) : (encode width text).length = width := by
  simp only [encode, List.length_append, List.length_take, List.length_replicate]
  omega

end Acquisition.Text.Field
