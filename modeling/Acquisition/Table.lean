/-!
# Finite tables

A table keeps at most one entry per key when it is built by `set`; a new entry
replaces the old one in place.  Main statements: `get?_set_self`,
`get?_set_of_ne`, `get?_erase_self` and `get?_erase_of_ne` say what a look-up
finds after a change, and `get?_map` what it finds after all entries changed;
`set_of_get?` and `erase_of_get?_eq_none` are the changes that change nothing.
-/

namespace Acquisition

universe u v

/-- A finite map written as its entries. -/
structure Table (κ : Type u) (α : Type v) where
  entries : List (κ × α)
  deriving Repr

namespace Table

variable {κ : Type u} {α : Type v} [DecidableEq κ]

/-- The table without entries. -/
def empty : Table κ α :=
  ⟨[]⟩

instance : EmptyCollection (Table κ α) :=
  ⟨empty⟩

instance : Inhabited (Table κ α) :=
  ⟨empty⟩

/-- The first entry under a key in a list of entries. -/
def lookup (key : κ) : List (κ × α) → Option α
  | [] => none
  | entry :: rest => if entry.1 = key then some entry.2 else lookup key rest

/-- Replace the first entry under a key, or add one at the end. -/
def place (key : κ) (value : α) : List (κ × α) → List (κ × α)
  | [] => [(key, value)]
  | entry :: rest =>
      if entry.1 = key then (key, value) :: rest else entry :: place key value rest

/-- The value under a key. -/
def get? (table : Table κ α) (key : κ) : Option α :=
  lookup key table.entries

/-- The value under a key, or a default. -/
def getD (table : Table κ α) (key : κ) (default : α) : α :=
  (table.get? key).getD default

/-- Whether a key has a value. -/
def contains (table : Table κ α) (key : κ) : Bool :=
  (table.get? key).isSome

/-- Put a value under a key. -/
def set (table : Table κ α) (key : κ) (value : α) : Table κ α :=
  ⟨place key value table.entries⟩

/-- Drop what is under a key. -/
def erase (table : Table κ α) (key : κ) : Table κ α :=
  ⟨table.entries.filter fun entry => entry.1 ≠ key⟩

/-- Change every value. -/
def map (table : Table κ α) (change : α → α) : Table κ α :=
  ⟨table.entries.map fun entry => (entry.1, change entry.2)⟩

/-- The values, in the order of their entries. -/
def values (table : Table κ α) : List α :=
  table.entries.map Prod.snd

/-! ## Looking up after a change -/

@[simp]
theorem get?_empty (key : κ) : (empty : Table κ α).get? key = none :=
  rfl

theorem lookup_place_self (key : κ) (value : α) (entries : List (κ × α)) :
    lookup key (place key value entries) = some value := by
  induction entries with
  | nil => simp [place, lookup]
  | cons entry rest ih =>
      by_cases same : entry.1 = key
      · simp [place, lookup, same]
      · simp [place, lookup, same, ih]

theorem lookup_place_of_ne {key other : κ} (ne : other ≠ key) (value : α)
    (entries : List (κ × α)) :
    lookup other (place key value entries) = lookup other entries := by
  induction entries with
  | nil => simp [place, lookup, ne.symm]
  | cons entry rest ih =>
      by_cases same : entry.1 = key
      · simp [place, lookup, same, ne.symm]
      · simp [place, lookup, same, ih]

/-- What was put under a key is found there. -/
@[simp]
theorem get?_set_self (table : Table κ α) (key : κ) (value : α) :
    (table.set key value).get? key = some value :=
  lookup_place_self key value table.entries

/-- Putting a value under one key leaves the others alone. -/
theorem get?_set_of_ne (table : Table κ α) {key other : κ} (ne : other ≠ key) (value : α) :
    (table.set key value).get? other = table.get? other :=
  lookup_place_of_ne ne value table.entries

theorem lookup_filter_self (key : κ) (entries : List (κ × α)) :
    lookup key (entries.filter fun entry => entry.1 ≠ key) = none := by
  induction entries with
  | nil => rfl
  | cons entry rest ih =>
      by_cases same : entry.1 = key
      · simpa [same] using ih
      · simpa [same, lookup] using ih

theorem lookup_filter_of_ne {key other : κ} (ne : other ≠ key) (entries : List (κ × α)) :
    lookup other (entries.filter fun entry => entry.1 ≠ key) = lookup other entries := by
  induction entries with
  | nil => rfl
  | cons entry rest ih =>
      by_cases same : entry.1 = key
      · simpa [same, lookup, ne.symm] using ih
      · by_cases hit : entry.1 = other
        · simp [hit, ne, lookup]
        · simpa [same, hit, lookup] using ih

/-- Nothing is found under an erased key. -/
@[simp]
theorem get?_erase_self (table : Table κ α) (key : κ) :
    (table.erase key).get? key = none :=
  lookup_filter_self key table.entries

/-- Erasing one key leaves the others alone. -/
theorem get?_erase_of_ne (table : Table κ α) {key other : κ} (ne : other ≠ key) :
    (table.erase key).get? other = table.get? other :=
  lookup_filter_of_ne ne table.entries

theorem place_place (key : κ) (first second : α) (entries : List (κ × α)) :
    place key second (place key first entries) = place key second entries := by
  induction entries with
  | nil => simp [place]
  | cons entry rest ih =>
      by_cases same : entry.1 = key
      · simp [place, same]
      · simp [place, same, ih]

/-- The later of two values put under one key is the one that counts. -/
theorem set_set (table : Table κ α) (key : κ) (first second : α) :
    (table.set key first).set key second = table.set key second :=
  congrArg Table.mk (place_place key first second table.entries)

theorem place_of_lookup {key : κ} {value : α} {entries : List (κ × α)}
    (found : lookup key entries = some value) : place key value entries = entries := by
  induction entries with
  | nil => simp [lookup] at found
  | cons entry rest ih =>
      by_cases same : entry.1 = key
      · obtain rfl : entry.2 = value := by simpa [lookup, same] using found
        simp [place, ← same]
      · simp only [lookup, same, if_false] at found
        simp [place, same, ih found]

/-- Putting what is there already changes nothing. -/
theorem set_of_get? {table : Table κ α} {key : κ} {value : α}
    (found : table.get? key = some value) : table.set key value = table :=
  congrArg mk (place_of_lookup found)

theorem ne_of_lookup_eq_none {key : κ} {entries : List (κ × α)}
    (absent : lookup key entries = none) : ∀ entry ∈ entries, entry.1 ≠ key := by
  induction entries with
  | nil => simp
  | cons entry rest ih =>
      by_cases same : entry.1 = key
      · simp [lookup, same] at absent
      · simp only [lookup, same, if_false] at absent
        simpa [same] using ih absent

/-- Erasing what is not there changes nothing. -/
theorem erase_of_get?_eq_none {table : Table κ α} {key : κ} (absent : table.get? key = none) :
    table.erase key = table := by
  refine congrArg mk (List.filter_eq_self.mpr fun entry member => ?_)
  simpa using ne_of_lookup_eq_none absent entry member

/-- Erasing what has just been put under a key is erasing what was there before. -/
@[simp]
theorem erase_set_self (table : Table κ α) (key : κ) (value : α) :
    (table.set key value).erase key = table.erase key := by
  refine congrArg mk ?_
  show (place key value table.entries).filter _ = table.entries.filter _
  induction table.entries with
  | nil => simp [place]
  | cons entry rest ih =>
      by_cases same : entry.1 = key
      · simp [place, same]
      · simp only [place, same, if_false, List.filter_cons, ih]

/-- Changing every value changes the value found. -/
@[simp]
theorem get?_map (table : Table κ α) (change : α → α) (key : κ) :
    (table.map change).get? key = (table.get? key).map change := by
  obtain ⟨entries⟩ := table
  show lookup key (entries.map fun entry => (entry.1, change entry.2)) =
    (lookup key entries).map change
  induction entries with
  | nil => rfl
  | cons entry rest ih =>
      by_cases same : entry.1 = key
      · simp [lookup, same]
      · simpa [lookup, same] using ih

end Table

end Acquisition
