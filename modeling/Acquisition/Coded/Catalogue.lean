import Acquisition.Coded.Activity
import Acquisition.Coded.Analog
import Acquisition.Coded.Counting
import Acquisition.Coded.Digital
import Acquisition.Coded.Range

/-!
# The closed sets by name

A closed set as a table of the names and codes of its members, for callers that
know a set by its name only.
-/

namespace Acquisition

/-- The members of a closed set. -/
structure CodedSet where
  typeName : String
  /-- The name and the code of each member, in the order they are declared. -/
  members : List (String × Nat)
  deriving DecidableEq, Repr

namespace CodedSet

/-- The table of a closed set. -/
def of (α : Type) [Coded α] : CodedSet :=
  ⟨Coded.typeName α, (Coded.all : List α).map fun value => (Coded.name value, Coded.code value)⟩

/-- The member with a given code, or a refusal that names the set. -/
def ofCode (set : CodedSet) (reading : Int) : Except Error (String × Nat) :=
  match set.members.find? fun member => (member.2 : Int) = reading with
  | some member => .ok member
  | none => .error (.unknownValue set.typeName reading)

/-- Every closed set. -/
def all : List CodedSet :=
  [of InputMode, of Thermocouple, of TemperatureUnit, of TemperatureScale, of AutoZero,
   of ConverterTiming, of Excitation, of Coupling, of PortKind, of PortAccess, of Direction,
   of DebounceTime, of DebounceMode, of Edge, of TickSize, of TimerKind, of IdleLevel,
   of TimerStatus, of ScanStatus, of WaitCondition, of Component, of Range]

/-- The closed set with a given name. -/
def ofTypeName? (name : String) : Option CodedSet :=
  all.find? fun set => set.typeName = name

/-- The table finds the label of the member that the set itself finds. -/
theorem ofCode_of (α : Type) [Coded α] (reading : Int) :
    (of α).ofCode reading =
      (Coded.ofCode reading : Except Error α).map fun value =>
        (Coded.name value, Coded.code value) := by
  simp only [ofCode, of, Coded.ofCode, Coded.ofCode?, List.find?_map, Function.comp_def]
  cases (Coded.all : List α).find? fun value => (Coded.code value : Int) = reading <;> rfl

end CodedSet

end Acquisition
