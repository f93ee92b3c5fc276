import Acquisition.Buffer.Samples
import Acquisition.Error

/-!
# Buffers and their storage

A buffer is a handle: it names a storage and reads its cells as rows.  Buffers
that name the same storage share their samples.  The store keeps every storage
that was ever allocated, so a handle never dangles.

Main statements: `cells_write_self` and `cells_write_of_ne` say what a write to
one storage changes, and `size_cells_write` that it keeps its size.
-/

namespace Acquisition

/-- The storages of both kinds of sample. -/
structure Store where
  reals : Array (Array Float)
  words : Array (Array UInt64)

namespace Store

/-- The store before any allocation. -/
def empty : Store :=
  ⟨#[], #[]⟩

instance : Inhabited Store :=
  ⟨empty⟩

end Store

/-- A kind of sample with its part of the store. -/
class Sample (α : Type) where
  /-- What a new storage is filled with. -/
  zero : α
  /-- The storages of this kind. -/
  bank : Store → Array (Array α)
  /-- Put other storages of this kind. -/
  withBank : Store → Array (Array α) → Store
  /-- The storages put are the storages found. -/
  bank_withBank : ∀ store storages, bank (withBank store storages) = storages

instance : Sample Float where
  zero := 0
  bank := Store.reals
  withBank store storages := { store with reals := storages }
  bank_withBank _ _ := rfl

instance : Sample UInt64 where
  zero := 0
  bank := Store.words
  withBank store storages := { store with words := storages }
  bank_withBank _ _ := rfl

/-- A handle on a storage that is read as rows of `channels` samples. -/
structure Buffer (α : Type) where
  storage : Nat
  channels : Nat
  deriving DecidableEq, Repr

namespace Store

variable {α : Type} [Sample α]

/-- The cells of a storage; there are none under a number never allocated. -/
def cells (α : Type) [Sample α] (store : Store) (storage : Nat) : Array α :=
  (Sample.bank store)[storage]?.getD #[]

/-- Put a value into a cell; there is no effect outside the storage. -/
def write (store : Store) (storage index : Nat) (value : α) : Store :=
  Sample.withBank store
    ((Sample.bank store).modify storage fun cells => cells.setIfInBounds index value)

/-- Allocate a storage. -/
def allocate (store : Store) (cells : Array α) : Nat × Store :=
  let storages : Array (Array α) := Sample.bank store
  (storages.size, Sample.withBank store (storages.push cells))

/-! ## What a write changes -/

/-- A write puts the value into its cell. -/
theorem cells_write_self (store : Store) (storage index : Nat) (value : α) :
    cells α (store.write storage index value) storage =
      (cells α store storage).setIfInBounds index value := by
  simp only [cells, write, Sample.bank_withBank, Array.getElem?_modify]
  cases (Sample.bank store : Array (Array α))[storage]? <;> simp

/-- A write leaves the other storages alone. -/
theorem cells_write_of_ne (store : Store) {storage other : Nat} (ne : storage ≠ other)
    (index : Nat) (value : α) :
    cells α (store.write storage index value) other = cells α store other := by
  simp [cells, write, Sample.bank_withBank, Array.getElem?_modify, ne]

/-- A write keeps the size of every storage. -/
theorem size_cells_write (store : Store) (storage index : Nat) (value : α) (other : Nat) :
    (cells α (store.write storage index value) other).size = (cells α store other).size := by
  by_cases same : storage = other
  · subst same
    simp [cells_write_self]
  · rw [cells_write_of_ne store same]

end Store

namespace Buffer

variable {α : Type} [Sample α]

/-- The number of cells that can be addressed. -/
def addressLimit : Nat :=
  UInt64.size

/-- A new buffer of zeros for `channels` channels of `samples` samples each. -/
def create (channels samples : Nat) (store : Store) : Except Error (Buffer α × Store) :=
  if channels = 0 then .error .badBuffer
  else if addressLimit ≤ channels * samples then .error .badBufferSize
  else
    let (storage, store) := store.allocate (Array.replicate (channels * samples) (Sample.zero : α))
    .ok (⟨storage, channels⟩, store)

/-- A new buffer that holds the given samples, a whole number of rows. -/
def ofSamples (channels : Nat) (samples : Array α) (store : Store) :
    Except Error (Buffer α × Store) :=
  if channels = 0 then .error .badBuffer
  else if samples.size % channels ≠ 0 then .error .badBufferSize
  else
    let (storage, store) := store.allocate samples
    .ok (⟨storage, channels⟩, store)

/-- The samples of a buffer. -/
def view (buffer : Buffer α) (store : Store) : Samples α :=
  ⟨store.cells α buffer.storage, buffer.channels⟩

/-- Put a sample; there is no effect outside the buffer. -/
def put (buffer : Buffer α) (index : Nat) (value : α) (store : Store) : Store :=
  store.write buffer.storage index value

/-- Overwrite a buffer from its first cell on, as far as both reach. -/
def fill (buffer : Buffer α) (samples : List α) (store : Store) : Store :=
  let cells := (samples.take (buffer.view store).size).zipIdx
  cells.foldl (fun store cell => buffer.put cell.2 cell.1 store) store

/-- Whether both handles name one storage. -/
def sharesStorage (buffer other : Buffer α) : Bool :=
  buffer.storage = other.storage

end Buffer

/-- A buffer of either kind of sample, as a scan holds it. -/
inductive ScanBuffer where
  | reals (buffer : Buffer Float)
  | words (buffer : Buffer UInt64)
  deriving DecidableEq, Repr

namespace ScanBuffer

/-- The number of channels. -/
def channels : ScanBuffer → Nat
  | .reals buffer => buffer.channels
  | .words buffer => buffer.channels

/-- The number of cells. -/
def size (store : Store) : ScanBuffer → Nat
  | .reals buffer => (buffer.view store).size
  | .words buffer => (buffer.view store).size

/-- The number of rows. -/
def perChannel (store : Store) : ScanBuffer → Nat
  | .reals buffer => (buffer.view store).perChannel
  | .words buffer => (buffer.view store).perChannel

/-- The sample at an index as a real value. -/
def get? (store : Store) (index : Nat) : ScanBuffer → Option Float
  | .reals buffer => (buffer.view store).get? index
  | .words buffer => ((buffer.view store).get? index).map UInt64.toFloat

/-- Put a real value; a buffer of words keeps its integer part, within the range of words. -/
def put (store : Store) (index : Nat) (value : Float) : ScanBuffer → Store
  | .reals buffer => buffer.put index value store
  | .words buffer => buffer.put index value.toUInt64 store

/-- Whether both buffers are of one kind and name one storage. -/
def sharesStorage : ScanBuffer → ScanBuffer → Bool
  | .reals buffer, .reals other => buffer.sharesStorage other
  | .words buffer, .words other => buffer.sharesStorage other
  | _, _ => false

end ScanBuffer

end Acquisition
