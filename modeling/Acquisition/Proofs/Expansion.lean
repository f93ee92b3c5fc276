import Acquisition.Proofs.Bits
import Mathlib.Data.Int.Bitwise
import Mathlib.Data.List.Perm.Basic

/-!
# Masks of named flags

The named flags of a family are single bits that differ (`has_of_declared`, `declared_nodup`).  So
a mask meets a named flag exactly where it has its bit, and it expands into the named flags that
it has, in the order in which they are declared.  Expanding and taking the union undo each other
between the masks of named flags and the sublists of the declared ones.

Main statement: `Flags.expansion_exact`.
-/

namespace Acquisition

/-- The low bits of a reading are its bits, also where it is negative. -/
theorem Number.testBit_word (reading : Int) {bit : Nat} (inside : bit < 32) :
    (Number.word reading).toNat.testBit bit = reading.testBit bit := by
  have low : (Number.word reading).toNat = (reading % (2 ^ 32 : Nat)).toNat := by
    have bound : (reading % 4294967296).toNat < 2 ^ 32 := by omega
    rw [Number.word, Nat.toUInt32_eq, UInt32.toNat_ofNat', Nat.mod_eq_of_lt bound]
    rfl
  rw [low]
  cases reading with
  | ofNat number =>
      rw [Int.ofNat_eq_natCast, ← Int.natCast_emod, Int.toNat_natCast, Nat.testBit_mod_two_pow]
      simp [inside, Int.testBit]
  | negSucc number =>
      have small : number % 2 ^ 32 < 2 ^ 32 := Nat.mod_lt _ (by decide)
      have complement : (Int.negSucc number % (2 ^ 32 : Nat)).toNat =
          2 ^ 32 - (number % 2 ^ 32 + 1) := by
        rw [Int.negSucc_emod _ (by decide)]
        omega
      rw [complement, Nat.testBit_two_pow_sub_succ small, Nat.testBit_mod_two_pow]
      simp [inside, Int.testBit]

namespace Flags

variable {family : Family} {flags requested flag item other : Flags family} {mask : Int}
  {list : List (Flags family)} {bit : Nat}

/-! ## Single and named flags -/

/-- A set is single if there is a bit that it has, and no other. -/
theorem isSingle_iff :
    flags.isSingle = true ↔ ∃ bit, ∀ other, flags.has other = true ↔ other = bit := by
  have member : ∀ other,
      other ∈ (List.range 32).filter (fun index => flags.bits.toNat.testBit index) ↔
        flags.has other = true := by
    intro other
    rw [List.mem_filter, List.mem_range]
    refine ⟨And.right, fun there => ⟨?_, there⟩⟩
    by_contra beyond
    rw [has, BitVec.getLsbD_of_ge _ _ (Nat.not_lt.mp beyond)] at there
    contradiction
  rw [isSingle, count, decide_eq_true_eq, List.countP_eq_length_filter, List.length_eq_one_iff]
  refine exists_congr fun bit => ?_
  rw [← List.perm_singleton, List.perm_ext_iff_of_nodup (List.nodup_range.filter _)
    (List.pairwise_singleton _ bit)]
  simp only [member, List.mem_singleton]

/-- Sets with the same bit and no other are the same. -/
theorem eq_of_single (first : ∀ place, flag.has place = true ↔ place = bit)
    (second : ∀ place, other.has place = true ↔ place = bit) : flag = other := by
  apply ext_has
  intro place
  rw [Bool.eq_iff_iff, first, second]

/-- A member of a family is a single bit. -/
theorem member_eq_twoPow (family : Family) :
    ∀ member ∈ family.members, ∃ bit : Fin 32, member.2.toBitVec = BitVec.twoPow 32 bit := by
  cases family <;> decide

theorem has_of_declared (listed : flag ∈ declared family) :
    ∃ bit < 32, ∀ other, flag.has other = true ↔ other = bit := by
  obtain ⟨member, named, rfl⟩ := List.mem_map.mp listed
  obtain ⟨bit, single⟩ := member_eq_twoPow family member named
  refine ⟨bit, bit.isLt, fun other => ?_⟩
  rw [has, single, BitVec.getLsbD_twoPow]
  simp [bit.isLt, eq_comm]

/-- A flag is declared if it is a single bit of the named ones. -/
theorem mem_declared_iff :
    flag ∈ declared family ↔
      ∃ bit, (∀ other, flag.has other = true ↔ other = bit) ∧ (all : Flags family).has bit = true := by
  simp only [all, has_unionAll, List.any_eq_true]
  constructor
  · intro named
    obtain ⟨bit, _, single⟩ := has_of_declared named
    exact ⟨bit, single, flag, named, (single bit).mpr rfl⟩
  · rintro ⟨bit, single, item, named, there⟩
    obtain ⟨bit', _, single'⟩ := has_of_declared named
    obtain rfl := (single' bit).mp there
    rwa [eq_of_single single single']

/-- No flag is declared twice. -/
theorem declared_nodup (family : Family) : (declared family).Nodup := by
  cases family <;> decide

/-- A named flag that meets a set is part of it. -/
theorem intersects_iff_contains (listed : flag ∈ declared family) :
    flag.intersects flags = true ↔ flags.contains flag = true := by
  obtain ⟨bit, _, single⟩ := has_of_declared listed
  rw [intersects_iff, contains_iff]
  constructor
  · rintro ⟨other, own, there⟩ another own'
    rwa [(single another).mp own', ← (single other).mp own]
  · intro whole
    have own : flag.has bit = true := (single bit).mpr rfl
    exact ⟨bit, own, whole bit own⟩

/-- Named flags that meet are the same. -/
theorem eq_of_intersects (first : flag ∈ declared family) (second : other ∈ declared family)
    (meet : flag.intersects other = true) : flag = other := by
  obtain ⟨bit, _, single⟩ := has_of_declared first
  obtain ⟨bit', _, single'⟩ := has_of_declared second
  obtain ⟨common, own, own'⟩ := intersects_iff.mp meet
  obtain rfl := ((single common).mp own).symm.trans ((single' common).mp own')
  exact eq_of_single single single'

/-- A mask expands into the named flags that it has. -/
theorem mem_ofMask_iff :
    flag ∈ (ofMask mask : List (Flags family)) ↔
      flag ∈ declared family ∧ (ofInt mask).contains flag = true := by
  rw [ofMask, List.mem_filter]
  exact and_congr_right intersects_iff_contains

/-! ## Expanding and taking the union -/

theorem has_ofInt (inside : bit < 32) : (ofInt mask : Flags family).has bit = mask.testBit bit :=
  Number.testBit_word mask inside

theorem intersects_unionAll :
    flag.intersects (unionAll list) = true ↔ ∃ item ∈ list, flag.intersects item = true := by
  simp only [intersects_iff, has_unionAll, List.any_eq_true]
  constructor
  · rintro ⟨bit, own, item, listed, there⟩
    exact ⟨item, listed, bit, own, there⟩
  · rintro ⟨item, listed, bit, own, there⟩
    exact ⟨bit, own, item, listed, there⟩

/-- The flags that a mask expands into have its named bits between them. -/
theorem unionAll_ofMask (mask : Int) :
    unionAll (ofMask mask) = (ofInt mask : Flags family).truncate := by
  apply ext_has
  intro bit
  rw [truncate, has_and, all, has_unionAll, has_unionAll, Bool.eq_iff_iff, Bool.and_eq_true,
    List.any_eq_true, List.any_eq_true]
  constructor
  · rintro ⟨flag, listed, there⟩
    obtain ⟨named, contained⟩ := mem_ofMask_iff.mp listed
    exact ⟨contains_iff.mp contained bit there, flag, named, there⟩
  · rintro ⟨asked, flag, named, there⟩
    have meets : flag.intersects (ofInt mask) = true := intersects_iff.mpr ⟨bit, there, asked⟩
    exact ⟨flag, List.mem_filter.mpr ⟨named, meets⟩, there⟩

/-- The union of some declared flags expands into those flags. -/
theorem ofMask_unionAll (within : list.Sublist (declared family)) :
    ofMask (unionAll list).bits.toNat = list := by
  have distinct := declared_nodup family
  have expands : (ofMask (unionAll list).bits.toNat : List (Flags family)).Sublist
      (declared family) := List.filter_sublist
  refine (distinct.perm_iff_eq_of_sublist expands within).mp ?_
  rw [List.perm_ext_iff_of_nodup (distinct.sublist expands) (distinct.sublist within)]
  intro flag
  rw [ofMask, List.mem_filter, ofInt_toNat, intersects_unionAll]
  constructor
  · rintro ⟨named, item, listed, meet⟩
    rwa [eq_of_intersects named (within.subset listed) meet]
  · intro listed
    have named := within.subset listed
    obtain ⟨bit, _, single⟩ := has_of_declared named
    have own := (single bit).mpr rfl
    exact ⟨named, flag, listed, intersects_iff.mpr ⟨bit, own, own⟩⟩

/-- A mask expands into a sublist of the declared flags, without repetition: each is a single bit,
and it is there exactly if the mask has that bit among its low 32.  Their union are the low bits
of the mask that have a name, which expand into the same flags; and every sublist of the declared
flags is what its union expands into. -/
theorem expansion_exact (family : Family) (mask : Int) :
    (ofMask mask : List (Flags family)).Sublist (declared family) ∧
    (ofMask mask : List (Flags family)).Nodup ∧
    (∀ flag ∈ declared family, ∃ position < 32,
      (∀ bit, flag.has bit = true ↔ bit = position) ∧
      (flag ∈ (ofMask mask : List (Flags family)) ↔ mask.testBit position = true)) ∧
    unionAll (ofMask mask) = (ofInt mask : Flags family).truncate ∧
    ofMask (unionAll (ofMask mask : List (Flags family))).bits.toNat =
      (ofMask mask : List (Flags family)) ∧
    ∀ list : List (Flags family), list.Sublist (declared family) →
      ofMask (unionAll list).bits.toNat = list := by
  have within : (ofMask mask : List (Flags family)).Sublist (declared family) :=
    List.filter_sublist
  refine ⟨within, (declared_nodup family).sublist within, ?_, unionAll_ofMask mask,
    ofMask_unionAll within, fun list => ofMask_unionAll⟩
  intro flag named
  obtain ⟨position, inside, single⟩ := has_of_declared named
  refine ⟨position, inside, single, ?_⟩
  have low : (ofInt mask : Flags family).has position = mask.testBit position := has_ofInt inside
  rw [mem_ofMask_iff, contains_iff, ← low]
  constructor
  · rintro ⟨_, contained⟩
    exact contained position ((single position).mpr rfl)
  · intro asked
    refine ⟨named, fun bit own => ?_⟩
    rwa [(single bit).mp own]

end Flags

end Acquisition
