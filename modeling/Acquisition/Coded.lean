import Acquisition.Error

/-!
# Closed sets of coded values

A value of a closed set is shown by its name and travels as an integer code.
`Coded.ofCode` reads codes back and refuses every other integer.
-/

namespace Acquisition

/-- A closed set whose members have an integer code and a name. -/
class Coded (α : Type) where
  /-- The name of the set. -/
  typeName : String
  /-- The members in the order they are declared. -/
  all : List α
  /-- The code and the name of a member. -/
  label : α → Nat × String

namespace Coded

variable {α : Type} [Coded α]

/-- The integer a member travels as. -/
def code (value : α) : Nat :=
  (label value).1

/-- The name a member is shown under. -/
def name (value : α) : String :=
  (label value).2

/-- The member with a given code. -/
def ofCode? (reading : Int) : Option α :=
  all.find? fun value => (code value : Int) = reading

/-- The member with a given code, or a refusal that names the set. -/
def ofCode (reading : Int) : Except Error α :=
  match ofCode? reading with
  | some value => .ok value
  | none => .error (.unknownValue (typeName α) reading)

/-- A code that is read belongs to the member found. -/
theorem code_eq_of_ofCode? {reading : Int} {value : α} (found : ofCode? reading = some value) :
    (code value : Int) = reading := by
  simpa using List.find?_some found

end Coded

end Acquisition
