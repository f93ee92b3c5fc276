import Acquisition.Scan.Transfer

/-!
# Interleaved samples

Samples of several channels lie row by row in one run of cells, and a scan that
goes on writes the rows in a ring.  `Samples.recent` walks backwards from the
last complete row, modulo the number of cells.
-/

namespace Acquisition

universe u

/-- The cells of a buffer read as rows of `channels` samples. -/
structure Samples (α : Type u) where
  cells : Array α
  channels : Nat

namespace Samples

variable {α : Type u}

/-- The number of cells. -/
def size (samples : Samples α) : Nat :=
  samples.cells.size

/-- Whether there is no cell. -/
def isEmpty (samples : Samples α) : Bool :=
  samples.size = 0

/-- The number of rows. -/
def perChannel (samples : Samples α) : Nat :=
  samples.size / samples.channels

/-- The sample at an index. -/
def get? (samples : Samples α) (index : Nat) : Option α :=
  samples.cells[index]?

/-- The row that starts at a cell, going on at the first cell after the last one. -/
def row (samples : Samples α) (start : Nat) : List α :=
  (List.range samples.channels).filterMap fun channel =>
    samples.get? ((start + channel) % samples.size)

/-- The last complete row. -/
def latest? (samples : Samples α) (transfer : Transfer) : Option (List α) :=
  match transfer.latestIndex? with
  | none => none
  | some start => if samples.isEmpty then none else some (samples.row start)

/-- Where the row lies that is `back` rows before the one at `start`. -/
def rowBefore (samples : Samples α) (start back : Nat) : Nat :=
  (start + samples.size - back * samples.channels % samples.size) % samples.size

/-- How many of `count` rows can be read back. -/
def availableRows (samples : Samples α) (transfer : Transfer) (count : Nat) : Nat :=
  min count (min transfer.scanCount samples.perChannel)

/-- Up to `count` of the last complete rows, the oldest first. -/
def recent (samples : Samples α) (transfer : Transfer) (count : Nat) : List (List α) :=
  match transfer.latestIndex? with
  | none => []
  | some start =>
      if samples.isEmpty then []
      else
        (List.range (samples.availableRows transfer count)).reverse.map fun back =>
          samples.row (samples.rowBefore start back)

/-- The text of the shape of a buffer. -/
def debugText (samples : Samples α) : String :=
  "ScanBuffer \x7b channels: " ++ toString samples.channels ++ ", samples_per_channel: " ++
    toString samples.perChannel ++ " \x7d"

end Samples

end Acquisition
