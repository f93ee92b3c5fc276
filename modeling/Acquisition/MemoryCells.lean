import Acquisition.Table

/-!
# The bytes of a memory region

A region has a fixed number of bytes, and a byte that was never written is zero.
Only the written ones are kept, so that a large region costs nothing.  Main
statements: `size_write` says that writing keeps the size, and `byte_write` what
each byte is afterwards.
-/

namespace Acquisition

/-- The bytes of a memory region. -/
structure MemoryCells where
  /-- How many bytes the region has. -/
  size : Nat
  /-- The bytes written so far, by offset. -/
  written : Table Nat UInt8

namespace MemoryCells

/-- Bytes that are all zero. -/
def blank (size : Nat) : MemoryCells :=
  ⟨size, .empty⟩

/-- The byte at an offset. -/
def byte (cells : MemoryCells) (offset : Nat) : UInt8 :=
  cells.written.getD offset 0

/-- The bytes from an offset on. -/
def read (cells : MemoryCells) (offset length : Nat) : List UInt8 :=
  (List.range' offset length).map cells.byte

/-- Every byte of the region, in order. -/
def toList (cells : MemoryCells) : List UInt8 :=
  cells.read 0 cells.size

/-- Change one byte. -/
def put (cells : MemoryCells) (offset : Nat) (value : UInt8) : MemoryCells :=
  ⟨cells.size, cells.written.set offset value⟩

/-- Change the bytes from an offset on. -/
def write (cells : MemoryCells) (offset : Nat) : List UInt8 → MemoryCells
  | [] => cells
  | value :: rest => (cells.put offset value).write (offset + 1) rest

@[simp]
theorem byte_blank (size offset : Nat) : (blank size).byte offset = 0 :=
  rfl

@[simp]
theorem length_read (cells : MemoryCells) (offset length : Nat) :
    (cells.read offset length).length = length := by
  simp [read]

@[simp]
theorem length_toList (cells : MemoryCells) : cells.toList.length = cells.size :=
  cells.length_read 0 cells.size

theorem byte_put (cells : MemoryCells) (offset other : Nat) (value : UInt8) :
    (cells.put offset value).byte other = if other = offset then value else cells.byte other := by
  by_cases same : other = offset
  · simp [byte, put, Table.getD, same]
  · simp [byte, put, Table.getD, Table.get?_set_of_ne cells.written same value, same]

@[simp]
theorem size_write (cells : MemoryCells) (offset : Nat) (data : List UInt8) :
    (cells.write offset data).size = cells.size := by
  induction data generalizing cells offset with
  | nil => rfl
  | cons value rest ih => exact ih (cells.put offset value) (offset + 1)

/-- A byte in the written stretch is the one written there, and any other is kept. -/
theorem byte_write (cells : MemoryCells) (offset other : Nat) (data : List UInt8) :
    (cells.write offset data).byte other =
      if offset ≤ other then data.getD (other - offset) (cells.byte other)
      else cells.byte other := by
  induction data generalizing cells offset with
  | nil => simp [write]
  | cons value rest ih =>
      rw [write, ih, byte_put]
      rcases Nat.lt_trichotomy other offset with below | rfl | above
      · simp [Nat.not_le.mpr below, Nat.ne_of_lt below, show ¬ offset + 1 ≤ other by omega]
      · simp [show ¬ other + 1 ≤ other by omega]
      · obtain ⟨distance, rfl⟩ : ∃ distance, other = offset + 1 + distance :=
          ⟨other - (offset + 1), by omega⟩
        simp [show ¬ offset + 1 + distance = offset by omega,
          show offset ≤ offset + 1 + distance by omega,
          show offset + 1 + distance - offset = distance + 1 by omega]

end MemoryCells

end Acquisition
