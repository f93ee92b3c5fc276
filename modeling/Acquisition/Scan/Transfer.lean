/-!
# Transfer status

The progress of a scan: how many samples each channel and all channels together
have transferred, and where in the buffer the last complete row starts.
-/

namespace Acquisition

/-- The progress of a scan. -/
structure Transfer where
  /-- Samples per channel since the start. -/
  scanCount : Nat
  /-- Samples of all channels since the start. -/
  totalCount : Nat
  /-- Buffer index of the last complete row, or -1 before the first one. -/
  index : Int
  deriving DecidableEq, Repr

namespace Transfer

/-- The progress of a scan that has just been started. -/
def initial : Transfer :=
  ⟨0, 0, -1⟩

instance : Inhabited Transfer :=
  ⟨initial⟩

/-- Where the last complete row starts, if there is one. -/
def latestIndex? (transfer : Transfer) : Option Nat :=
  if 0 ≤ transfer.index then some transfer.index.toNat else none

/-- The progress after one more row of `width` samples at `position`. -/
def next (transfer : Transfer) (width position : Nat) : Transfer :=
  ⟨transfer.scanCount + 1, transfer.totalCount + width, position⟩

/-- The three lines a status is shown as. -/
def text (transfer : Transfer) : String :=
  "scan count: " ++ toString transfer.scanCount ++ "\ntotal count: " ++
    toString transfer.totalCount ++ "\nindex: " ++ toString transfer.index

end Transfer

end Acquisition
