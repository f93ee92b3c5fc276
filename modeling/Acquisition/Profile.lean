import Acquisition.Coded.Activity
import Acquisition.MemoryArea
import Acquisition.Number.Rounding
import Acquisition.Number.Word
import Acquisition.Profile.Item
import Acquisition.Table

/-!
# Device profiles

A profile holds what a device reports about itself: integer and real items by
subject, number and index, and the few facts beside them that the device needs
to behave like hardware.  Asking for an item that is absent is an error.
-/

namespace Acquisition

/-- What an item is about. -/
inductive Subject where
  | device
  | analogIn
  | analogOut
  | digital
  | counter
  | timer
  | syncIn
  | syncOut
  deriving DecidableEq, Repr

namespace Subject

/-- Every subject. -/
def all : List Subject :=
  [.device, .analogIn, .analogOut, .digital, .counter, .timer, .syncIn, .syncOut]

/-- The name a subject is shown under. -/
def name : Subject → String
  | .device => "Device"
  | .analogIn => "Ai"
  | .analogOut => "Ao"
  | .digital => "Dio"
  | .counter => "Ctr"
  | .timer => "Tmr"
  | .syncIn => "DaqI"
  | .syncOut => "DaqO"

/-- The subject shown under a name. -/
def ofName? (name : String) : Option Subject :=
  all.find? fun subject => subject.name = name

end Subject

/-- Where an item is found. -/
structure ItemKey where
  subject : Subject
  item : Int
  index : Nat
  deriving DecidableEq, Repr

/-- What a device reports about itself. -/
structure Profile where
  integers : Table ItemKey Int
  reals : Table ItemKey Float
  /-- Version texts by the code of their component. -/
  versions : Table Nat String
  memory : List MemoryArea
  /-- Ticks of the pacer clock per second. -/
  pacerClock : Float
  calibrationDate : Int
  calibrationText : String

namespace Profile

/-- A device that reports nothing. -/
def empty : Profile where
  integers := .empty
  reals := .empty
  versions := .empty
  memory := []
  pacerClock := 64000000
  calibrationDate := 0
  calibrationText := ""

instance : Inhabited Profile :=
  ⟨empty⟩

/-! ## Building a profile -/

/-- Report an integer item. -/
def withInteger (profile : Profile) (subject : Subject) (item : Int) (index : Nat) (value : Int) :
    Profile :=
  { profile with integers := profile.integers.set ⟨subject, item, index⟩ value }

/-- Report a real item. -/
def withReal (profile : Profile) (subject : Subject) (item : Int) (index : Nat) (value : Float) :
    Profile :=
  { profile with reals := profile.reals.set ⟨subject, item, index⟩ value }

/-- Report neither an integer nor a real item at a place. -/
def without (profile : Profile) (subject : Subject) (item : Int) (index : Nat) : Profile :=
  { profile with
    integers := profile.integers.erase ⟨subject, item, index⟩
    reals := profile.reals.erase ⟨subject, item, index⟩ }

/-- Report the version of a component. -/
def withVersion (profile : Profile) (component : Component) (version : String) : Profile :=
  { profile with versions := profile.versions.set (Coded.code component) version }

/-- Have an area of memory, in place of an area of the same region, and report its region. -/
def withMemory (profile : Profile) (area : MemoryArea) : Profile :=
  let key : ItemKey := ⟨.device, Item.Device.memoryRegions, 0⟩
  let regions : Flags .memoryRegion := .ofInt (profile.integers.getD key 0)
  let higher := profile.integers.getD key 0 - regions.bits.toNat
  { profile with
    integers := profile.integers.set key (higher + (regions.union area.region).bits.toNat)
    memory := (profile.memory.filter fun other => other.region ≠ area.region) ++ [area] }

/-- Run the pacer clock at a rate. -/
def withPacerClock (profile : Profile) (rate : Float) : Profile :=
  { profile with pacerClock := rate }

/-- Report the date of the calibration. -/
def withCalibration (profile : Profile) (seconds : Int) (text : String) : Profile :=
  { profile with calibrationDate := seconds, calibrationText := text }

/-! ## Asking a profile -/

/-- An integer item. -/
def integer (profile : Profile) (subject : Subject) (item : Int) (index : Nat) :
    Except Error Int :=
  match profile.integers.get? ⟨subject, item, index⟩ with
  | some value => .ok value
  | none => .error .badInfoItem

/-- A real item. -/
def real (profile : Profile) (subject : Subject) (item : Int) (index : Nat) :
    Except Error Float :=
  match profile.reals.get? ⟨subject, item, index⟩ with
  | some value => .ok value
  | none => .error .badInfoItem

/-- An integer item, or a default where it is absent. -/
def integerD (profile : Profile) (subject : Subject) (item : Int) (index : Nat) (default : Int) :
    Int :=
  profile.integers.getD ⟨subject, item, index⟩ default

/-- A mask item as a set of flags; an absent one is empty. -/
def mask (profile : Profile) {family : Family} (subject : Subject) (item : Int) (index : Nat) :
    Flags family :=
  .ofInt (profile.integerD subject item index 0)

/-- A count item that tells how many indices there are. -/
def indexCount (profile : Profile) (subject : Subject) (item : Int) : Nat :=
  (Number.word (max 0 (profile.integerD subject item 0 0))).toNat

/-- The area of a region of memory. -/
def area (profile : Profile) (region : Flags .memoryRegion) : Except Error MemoryArea :=
  match profile.memory.find? fun area => area.region = region with
  | some area => .ok area
  | none => .error .badMemRegion

/-- The whole number of clock ticks that comes nearest to a period, one at least. -/
def divisor (profile : Profile) (rate : Float) : Float :=
  Number.atLeastOne (Number.round (profile.pacerClock / rate))

/-- The rate that the pacer produces for a requested one, between `low` and `high`. -/
def snapRate (profile : Profile) (rate low high : Float) : Float :=
  Number.clamp (profile.pacerClock / profile.divisor rate) low high

end Profile

end Acquisition
