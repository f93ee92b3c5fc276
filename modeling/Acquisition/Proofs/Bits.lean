import Acquisition.Flags

/-!
# Flags bit by bit

A set of flags is known by the bits that it has (`Flags.ext_has`).  The items that a set expands
into have its bits between them, with or without a name (`Flags.unionAll_toList`).
-/

namespace Acquisition.Flags

variable {family : Family} {flags left right part item : Flags family} {bit : Nat}

/-- Whether a bit is set. -/
def has (flags : Flags family) (bit : Nat) : Bool :=
  flags.bits.toBitVec.getLsbD bit

theorem ext_has (same : ∀ bit, left.has bit = right.has bit) : left = right := by
  rcases left with ⟨left⟩
  rcases right with ⟨right⟩
  congr 1
  rw [← UInt32.toBitVec_inj]
  exact BitVec.eq_of_getLsbD_eq fun bit _ => same bit

/-- A set of flags is read back from its bits. -/
@[simp]
theorem ofInt_toNat (flags : Flags family) : (.ofInt flags.bits.toNat : Flags family) = flags := by
  have small := flags.bits.toNat_lt
  have reading : ((flags.bits.toNat : Int) % 4294967296).toNat = flags.bits.toNat := by omega
  rw [ofInt, Number.word, reading, Nat.toUInt32_eq, UInt32.ofNat_toNat]

/-! ## The bits of a set -/

@[simp]
theorem has_empty : (empty : Flags family).has bit = false := by
  simp [has, empty]

@[simp]
theorem has_union : (left.union right).has bit = (left.has bit || right.has bit) := by
  simp [has, union]

@[simp]
theorem has_remove : (left.remove right).has bit = (left.has bit && !right.has bit) := by
  simp only [has, remove, UInt32.toBitVec_and, UInt32.toBitVec_not, BitVec.getLsbD_and,
    BitVec.getLsbD_not]
  by_cases inside : bit < 32
  · simp [inside]
  · simp [inside, BitVec.getLsbD_of_ge _ _ (Nat.not_lt.mp inside)]

@[simp]
theorem has_and :
    (⟨left.bits &&& right.bits⟩ : Flags family).has bit = (left.has bit && right.has bit) := by
  simp [has]

theorem has_foldl_union (sets : List (Flags family)) (first : Flags family) :
    (sets.foldl union first).has bit = (first.has bit || sets.any fun set => set.has bit) := by
  induction sets generalizing first with
  | nil => simp
  | cons set rest ih => simp [ih, Bool.or_assoc]

/-- A union has the bits of its parts. -/
@[simp]
theorem has_unionAll (sets : List (Flags family)) :
    (unionAll sets).has bit = sets.any fun set => set.has bit := by
  simp [unionAll, has_foldl_union]

/-! ## Comparing sets -/

theorem isEmpty_iff : flags.isEmpty = true ↔ ∀ bit, flags.has bit = false := by
  constructor
  · intro none bit
    have zero : flags.bits = 0 := by simpa [isEmpty] using none
    simp [has, zero]
  · intro none
    have same : flags = empty := ext_has fun bit => by rw [none, has_empty]
    rw [same]
    rfl

theorem isEmpty_eq_false_iff : flags.isEmpty = false ↔ ∃ bit, flags.has bit = true := by
  rw [← Bool.not_eq_true, isEmpty_iff]
  simp

theorem intersects_iff :
    left.intersects right = true ↔ ∃ bit, left.has bit = true ∧ right.has bit = true := by
  have meet : left.intersects right =
      !(⟨left.bits &&& right.bits⟩ : Flags family).isEmpty := by
    simp [intersects, isEmpty]
  rw [meet, Bool.not_eq_true', isEmpty_eq_false_iff]
  simp

theorem contains_iff :
    flags.contains part = true ↔ ∀ bit, part.has bit = true → flags.has bit = true := by
  have whole : flags.contains part = true ↔ (⟨flags.bits &&& part.bits⟩ : Flags family) = part := by
    rcases part with ⟨part⟩
    simp [contains]
  rw [whole]
  constructor
  · intro same bit there
    rw [← same, has_and, Bool.and_eq_true] at there
    exact there.1
  · intro within
    apply ext_has
    intro bit
    rw [has_and]
    cases there : part.has bit with
    | false => exact Bool.and_false _
    | true => rw [within bit there, Bool.and_true]

/-- What is left of a set has a part if the set has it and nothing of it is removed. -/
theorem contains_remove (flags other part : Flags family) :
    (flags.remove other).contains part = (flags.contains part && !other.intersects part) := by
  rw [Bool.eq_iff_iff, Bool.and_eq_true, Bool.not_eq_true', ← Bool.not_eq_true, intersects_iff,
    contains_iff, contains_iff]
  simp only [has_remove, Bool.and_eq_true, Bool.not_eq_true']
  constructor
  · intro left
    refine ⟨fun bit there => (left bit there).1, ?_⟩
    rintro ⟨bit, removed, there⟩
    rw [(left bit there).2] at removed
    contradiction
  · rintro ⟨whole, free⟩ bit there
    refine ⟨whole bit there, ?_⟩
    rw [← Bool.not_eq_true]
    exact fun removed => free ⟨bit, removed, there⟩

/-- Two sets that have a common part which is not empty meet. -/
theorem intersects_of_contains (first : left.contains part = true)
    (second : right.contains part = true) (nonempty : part.isEmpty = false) :
    left.intersects right = true := by
  obtain ⟨bit, there⟩ := isEmpty_eq_false_iff.mp nonempty
  exact intersects_iff.mpr
    ⟨bit, contains_iff.mp first bit there, contains_iff.mp second bit there⟩

/-! ## Items -/

/-- The bits of a set are those of its contained members and those that they leave. -/
theorem unionAll_toList (flags : Flags family) : unionAll flags.toList = flags := by
  apply ext_has
  intro bit
  rw [has_unionAll, toList, List.any_append]
  have rest : (if flags.unnamed.isEmpty then [] else [flags.unnamed]).any (fun item =>
      item.has bit) = flags.unnamed.has bit := by
    cases none : flags.unnamed.isEmpty with
    | false => simp
    | true => simp [isEmpty_iff.mp none bit]
  rw [rest, unnamed, has_remove, has_unionAll]
  cases named : (flags.membersIn.map fun member => (⟨member.2⟩ : Flags family)).any
      fun item => item.has bit with
  | false => simp
  | true =>
      obtain ⟨item, listed, there⟩ := List.any_eq_true.mp named
      obtain ⟨member, contained, rfl⟩ := List.mem_map.mp listed
      have within := contains_iff.mp (List.mem_filter.mp contained).2 bit there
      rw [within, Bool.true_or]

/-- An item of a set is part of it. -/
theorem has_of_mem_toList (listed : item ∈ flags.toList) (there : item.has bit = true) :
    flags.has bit = true := by
  rw [← unionAll_toList flags, has_unionAll]
  exact List.any_eq_true.mpr ⟨item, listed, there⟩

/-- No named bit is missing its bit. -/
theorem member_ne_zero (family : Family) : ∀ member ∈ family.members, member.2 ≠ 0 := by
  cases family <;> decide

/-- Every item of a set has some bit. -/
theorem isEmpty_of_mem_toList (listed : item ∈ flags.toList) : item.isEmpty = false := by
  rcases List.mem_append.mp listed with named | left
  · obtain ⟨member, contained, rfl⟩ := List.mem_map.mp named
    exact decide_eq_false (member_ne_zero family member (List.mem_filter.mp contained).1)
  · cases none : flags.unnamed.isEmpty with
    | true => simp [none] at left
    | false =>
        rw [none, if_neg Bool.false_ne_true, List.mem_singleton] at left
        rw [left, none]

end Acquisition.Flags
