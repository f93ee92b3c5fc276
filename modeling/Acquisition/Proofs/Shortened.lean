import Acquisition.Proofs.Normalized
import Mathlib.Data.List.Forall2

/-!
# Texts that a field cuts

Of a text a field keeps the longest beginning that has no zero and whose bytes fit (`fitting`).
Where its end falls within the next character (`cut?`), a replacement of that character is read
after it.  So what is read back is a beginning of the text unless a character is cut that is not
itself a replacement (`read_prefix_iff`).

Main statement: `Descriptor.normalized_shortens_iff`.
-/

namespace Acquisition

namespace Text.Field

open Utf8 (replacement)

variable {room : Nat} {char : Char} {chars rest beginning : List Char}

/-! ## What there is room for -/

/-- The characters that there is room for, up to the first zero. -/
def fitting (room : Nat) : List Char → List Char
  | [] => []
  | char :: rest =>
      let size := (String.utf8EncodeChar char).length
      if char = '\x00' ∨ room < size then [] else char :: fitting (room - size) rest

/-- The character that the end of the room falls within, if it does not fall between two. -/
def cut? (room : Nat) : List Char → Option Char
  | [] => none
  | char :: rest =>
      let size := (String.utf8EncodeChar char).length
      if char = '\x00' ∨ room = 0 then none
      else if room < size then some char
      else cut? (room - size) rest

/-- The longest beginning of some characters that has no zero and that there is room for. -/
structure Longest (room : Nat) (chars beginning : List Char) : Prop where
  within : beginning <+: chars
  nonzero : '\x00' ∉ beginning
  fits : (beginning.flatMap String.utf8EncodeChar).length ≤ room
  longest : ∀ {other : List Char}, other <+: chars → '\x00' ∉ other →
    (other.flatMap String.utf8EncodeChar).length ≤ room → other <+: beginning

/-- Where the first character is a zero or too long, nothing fits. -/
theorem longest_nil (stops : char = '\x00' ∨ room < (String.utf8EncodeChar char).length) :
    Longest room (char :: rest) [] where
  within := List.nil_prefix
  nonzero := List.not_mem_nil
  fits := Nat.zero_le room
  longest := by
    rintro (_ | ⟨first, others⟩) within nonzero fits
    · exact List.nil_prefix
    · obtain ⟨rfl, _⟩ := List.cons_prefix_cons.mp within
      rw [List.flatMap_cons, List.length_append] at fits
      rcases stops with rfl | long
      · exact absurd List.mem_cons_self nonzero
      · omega

/-- A first character that fits comes before what fits of the others. -/
theorem Longest.cons (nonzero : char ≠ '\x00')
    (fits : (String.utf8EncodeChar char).length ≤ room)
    (others : Longest (room - (String.utf8EncodeChar char).length) rest beginning) :
    Longest room (char :: rest) (char :: beginning) where
  within := (List.prefix_cons_inj char).mpr others.within
  nonzero := List.not_mem_cons_of_ne_of_not_mem nonzero.symm others.nonzero
  fits := by
    have left := others.fits
    rw [List.flatMap_cons, List.length_append]
    omega
  longest := by
    rintro (_ | ⟨first, more⟩) within free short
    · exact List.nil_prefix
    · obtain ⟨rfl, behind⟩ := List.cons_prefix_cons.mp within
      rw [List.flatMap_cons, List.length_append] at short
      exact (List.prefix_cons_inj first).mpr
        (others.longest behind (List.not_mem_of_not_mem_cons free) (by omega))

theorem longest_fitting (room : Nat) (chars : List Char) :
    Longest room chars (fitting room chars) := by
  induction chars generalizing room with
  | nil =>
      exact ⟨List.nil_prefix, List.not_mem_nil, Nat.zero_le room, fun within _ _ => within⟩
  | cons char rest ih =>
      by_cases stops : char = '\x00' ∨ room < (String.utf8EncodeChar char).length
      · rw [fitting, if_pos stops]
        exact longest_nil stops
      · rw [fitting, if_neg stops]
        obtain ⟨nonzero, fits⟩ := not_or.mp stops
        exact .cons nonzero (Nat.le_of_not_lt fits) (ih _)

/-! ## What is read back -/

/-- Every character takes some room. -/
theorem ne_zero_of_fits (fits : ¬room < (String.utf8EncodeChar char).length) : room ≠ 0 := by
  have size := String.length_utf8EncodeChar char
  have positive := char.utf8Size_pos
  omega

/-- What is read back is what there was room for, with a replacement for the character that was
cut. -/
theorem read_eq (room : Nat) (chars : List Char) :
    read room chars =
      fitting room chars ++ ((cut? room chars).map fun _ => replacement).toList := by
  induction chars generalizing room with
  | nil => exact read_nil room
  | cons char rest ih =>
      by_cases stops : char = '\x00' ∨ room < (String.utf8EncodeChar char).length
      · rw [read_cons, fitting, if_pos stops, cut?, List.nil_append]
        split
        · rfl
        · next going =>
            have short := stops.resolve_left (not_or.mp going).1
            rw [if_pos short, if_pos short]
            rfl
      · obtain ⟨nonzero, fits⟩ := not_or.mp stops
        have going := not_or.mpr ⟨nonzero, ne_zero_of_fits fits⟩
        rw [read_cons, if_neg going, if_neg fits, ih, fitting, if_neg stops, cut?, if_neg going,
          if_neg fits, List.cons_append]

/-- The character that is cut comes next after what there was room for. -/
theorem fitting_append_cut?_prefix (room : Nat) (chars : List Char) :
    fitting room chars ++ (cut? room chars).toList <+: chars := by
  induction chars generalizing room with
  | nil => exact List.prefix_rfl
  | cons char rest ih =>
      by_cases stops : char = '\x00' ∨ room < (String.utf8EncodeChar char).length
      · rw [fitting, if_pos stops, cut?, List.nil_append]
        split
        · exact List.nil_prefix
        · next going =>
            rw [if_pos (stops.resolve_left (not_or.mp going).1)]
            exact (List.prefix_cons_inj char).mpr List.nil_prefix
      · rw [fitting, if_neg stops, cut?]
        obtain ⟨nonzero, fits⟩ := not_or.mp stops
        rw [if_neg (not_or.mpr ⟨nonzero, ne_zero_of_fits fits⟩), if_neg fits, List.cons_append]
        exact (List.prefix_cons_inj char).mpr (ih _)

/-- What is read back is a beginning of the characters unless one is cut that is not a
replacement. -/
theorem read_prefix_iff :
    read room chars <+: chars ↔ ∀ char ∈ cut? room chars, char = replacement := by
  have next := fitting_append_cut?_prefix room chars
  rw [read_eq]
  cases cut : cut? room chars with
  | none =>
      rw [cut] at next
      exact iff_of_true next nofun
  | some char =>
      rw [cut] at next
      constructor
      · intro within other same
        obtain rfl := Option.some.inj same
        have equal := (List.prefix_of_prefix_length_le within next
          (by simp)).eq_of_length (by simp)
        exact (List.singleton_inj.mp (List.append_cancel_left equal)).symm
      · intro replaced
        obtain rfl := replaced char rfl
        exact next

end Text.Field

namespace Descriptor

open Text.Field (Longest cut?)
open Text.Utf8 (replacement)

/-- What is read back of each text of a descriptor is its longest beginning that has at most 63
bytes and no zero, with one replacement after it where those bytes end within a character.  So it
is a beginning of the text exactly if no character is cut there, or one that is a replacement
itself. -/
theorem normalized_shortens_iff (descriptor : Descriptor) :
    List.Forall₂ (fun text back : String => ∃ beginning, Longest 63 text.toList beginning ∧
        back.toList = beginning ++ ((cut? 63 text.toList).map fun _ => replacement).toList ∧
        (back.toList <+: text.toList ↔ ∀ char ∈ cut? 63 text.toList, char = replacement))
      descriptor.texts descriptor.normalized.texts := by
  have each (text : String) : ∃ beginning, Longest 63 text.toList beginning ∧
      (Text.Field.decode (Text.Field.encode DescriptorRecord.fieldWidth text)).toList =
        beginning ++ ((cut? 63 text.toList).map fun _ => replacement).toList ∧
      ((Text.Field.decode (Text.Field.encode DescriptorRecord.fieldWidth text)).toList <+:
          text.toList ↔ ∀ char ∈ cut? 63 text.toList, char = replacement) := by
    rw [Text.Field.decode_encode, String.toList_ofList]
    exact ⟨_, Text.Field.longest_fitting 63 text.toList, Text.Field.read_eq 63 text.toList,
      Text.Field.read_prefix_iff⟩
  exact .cons (each _) (.cons (each _) (.cons (each _) .nil))

/-- A product name that is cut within a character comes back with a character that it did not
have. -/
theorem not_normalized_shortens_cut :
    ¬∀ descriptor : Descriptor,
      List.Forall₂ (fun text back : String => back.toList <+: text.toList)
        descriptor.texts descriptor.normalized.texts := by
  intro claim
  have product : overlong.normalized.productName.toList <+: overlong.productName.toList :=
    (List.forall₂_cons.mp (claim overlong)).1
  exact absurd product (by decide +kernel)

end Descriptor

end Acquisition
