import Acquisition.Number.Rounding
import Mathlib.Algebra.Group.Nat.Defs

/-!
# Words as reals

A real has 53 significant bits.  A word that is turned into a real and back comes out as it went
in exactly if its bits below the highest 53 are zero, or if it is the largest word, at which
larger reals are cut off (`toUInt64_toFloat_eq_iff`).
-/

namespace Acquisition.Number

open Float.Model Float.Model.UnpackedFloat

/-! ## Shifting -/

theorem shiftRight_succ (extended : ExtendedMantissa) (count : Nat) :
    extended >>> (count + 1) = (extended >>> count).shiftRightOne :=
  rfl

theorem mantissa_shiftRight (extended : ExtendedMantissa) (count : Nat) :
    (extended >>> count).mantissa = extended.mantissa / 2 ^ count := by
  induction count with
  | zero => exact (Nat.div_one _).symm
  | succ count ih =>
      rw [shiftRight_succ, ExtendedMantissa.shiftRightOne, ih, Nat.div_div_eq_div_mul, Nat.pow_succ]

/-- Zeros are shifted out without a trace. -/
theorem shiftRight_mul_two_pow (mantissa count : Nat) :
    (⟨mantissa * 2 ^ count, false, false⟩ : ExtendedMantissa) >>> count =
      ⟨mantissa, false, false⟩ := by
  induction count generalizing mantissa with
  | zero => rw [Nat.pow_zero, Nat.mul_one]; rfl
  | succ count ih =>
      rw [shiftRight_succ, Nat.pow_succ', ← Nat.mul_assoc, ih, ExtendedMantissa.shiftRightOne]
      simp

/-- Rounding goes up by one at most. -/
theorem roundedMantissa_cases (extended : ExtendedMantissa) :
    extended.roundedMantissa = extended.mantissa ∨
      extended.roundedMantissa = extended.mantissa + 1 := by
  rcases extended with ⟨mantissa, round, sticky⟩
  cases round <;> cases sticky <;>
    simp [ExtendedMantissa.roundedMantissa, ExtendedMantissa.accuracy, Accuracy.roundToNearestEven]
  omega

/-! ## Numbers as reals -/

/-- What a real keeps of a number: the 53 highest bits, rounded. -/
def nearest (number : Nat) : Nat :=
  ((⟨number, false, false⟩ : ExtendedMantissa) >>> (number.log2 - 52)).roundedMantissa *
    2 ^ (number.log2 - 52)

/-- What is kept has zeros below the bits that are kept. -/
theorem dvd_nearest (number : Nat) : 2 ^ (number.log2 - 52) ∣ nearest number :=
  Nat.dvd_mul_left _ _

/-- A number with zeros there is kept as it is. -/
theorem nearest_of_dvd {number : Nat} (zeros : 2 ^ (number.log2 - 52) ∣ number) :
    nearest number = number := by
  unfold nearest
  generalize number.log2 - 52 = count at zeros
  obtain ⟨kept, rfl⟩ := zeros
  rw [Nat.mul_comm (2 ^ count) kept, shiftRight_mul_two_pow]
  rfl

theorem log2_eq_of_bounds {number bits : Nat} (low : 2 ^ bits ≤ number)
    (high : number < 2 ^ (bits + 1)) : number.log2 = bits := by
  have pos : number ≠ 0 := Nat.ne_of_gt (Nat.lt_of_lt_of_le (Nat.two_pow_pos bits) low)
  exact (Nat.log2_eq_iff pos).mpr ⟨low, high⟩

theorem log2_mul_two_pow {number : Nat} (pos : number ≠ 0) (count : Nat) :
    (number * 2 ^ count).log2 = number.log2 + count := by
  apply log2_eq_of_bounds
  · rw [Nat.pow_add]
    exact Nat.mul_le_mul_right _ (Nat.log2_self_le pos)
  · rw [Nat.add_right_comm, Nat.pow_add]
    exact Nat.mul_lt_mul_of_pos_right Nat.lt_log2_self (Nat.two_pow_pos count)

/-- The highest bit of a real is 52 places above its exponent, unless the exponent is the lowest
one. -/
theorem targetExponent_eq (total : Int) :
    Format.binary64.targetExponent total = max (total - 53) (-1074) :=
  rfl

/-- A mantissa of at least 53 bits is shifted until it has 53 bits. -/
theorem shiftToTargetExponent_eq {mantissa : Nat} {exponent : Int} (long : 52 ≤ mantissa.log2)
    (least : -1074 ≤ exponent) :
    shiftToTargetExponent .binary64 mantissa exponent .exact =
      ((⟨mantissa, false, false⟩ : ExtendedMantissa) >>> (mantissa.log2 - 52),
        exponent + (mantissa.log2 - 52 : Nat)) := by
  have target : (Format.binary64.targetExponent (totalExponent mantissa exponent) -
      exponent).toNat = mantissa.log2 - 52 := by
    rw [targetExponent_eq, totalExponent]
    omega
  simp only [shiftToTargetExponent, shiftToExponent, target]
  rfl

theorem roundWithAccuracy_eq {mantissa kept : Nat} {exponent middle last : Int}
    {first : ExtendedMantissa} {round sticky : Bool}
    (shifted : shiftToTargetExponent .binary64 mantissa exponent .exact = (first, middle))
    (carried : shiftToTargetExponent .binary64 first.roundedMantissa middle .exact =
      (⟨kept, round, sticky⟩, last)) (pos : 0 < kept) :
    roundWithAccuracy .binary64 .positive mantissa exponent .exact =
      .finite .positive kept last pos := by
  rw [roundWithAccuracy, shifted]
  dsimp only
  rw [carried]
  exact dif_neg (Nat.ne_of_gt pos)

/-- A mantissa of at least 53 bits is rounded to one of 53 or 54 bits. -/
theorem rounded_bounds {mantissa : Nat} (long : 52 ≤ mantissa.log2) :
    2 ^ 52 ≤ ((⟨mantissa, false, false⟩ : ExtendedMantissa) >>>
        (mantissa.log2 - 52)).roundedMantissa ∧
      ((⟨mantissa, false, false⟩ : ExtendedMantissa) >>>
        (mantissa.log2 - 52)).roundedMantissa ≤ 2 ^ 53 := by
  have pos : mantissa ≠ 0 := by
    rintro rfl
    contradiction
  have low : 2 ^ 52 ≤ mantissa / 2 ^ (mantissa.log2 - 52) := by
    rw [Nat.le_div_iff_mul_le (Nat.two_pow_pos _), ← Nat.pow_add, Nat.add_sub_cancel' long]
    exact Nat.log2_self_le pos
  have high : mantissa / 2 ^ (mantissa.log2 - 52) < 2 ^ 53 := by
    rw [Nat.div_lt_iff_lt_mul (Nat.two_pow_pos _), ← Nat.pow_add]
    have bits : 53 + (mantissa.log2 - 52) = mantissa.log2 + 1 := by omega
    rw [bits]
    exact Nat.lt_log2_self
  rcases roundedMantissa_cases ((⟨mantissa, false, false⟩ : ExtendedMantissa) >>>
    (mantissa.log2 - 52)) with same | more
  · rw [same, mantissa_shiftRight]
    exact ⟨low, Nat.le_of_lt high⟩
  · rw [more, mantissa_shiftRight]
    exact ⟨Nat.le_succ_of_le low, high⟩

/-- A mantissa of at least 53 bits is rounded to one of 53 bits.  Rounding may carry, and then
one more zero is shifted out. -/
theorem roundWithAccuracy_of_long {mantissa : Nat} {exponent : Int} (long : 52 ≤ mantissa.log2)
    (least : -1074 ≤ exponent) :
    ∃ (kept carry : Nat) (pos : 0 < kept),
      roundWithAccuracy .binary64 .positive mantissa exponent .exact =
        .finite .positive kept (exponent + (mantissa.log2 - 52 + carry : Nat)) pos ∧
      kept.log2 = 52 ∧ carry ≤ 1 ∧
      kept * 2 ^ (mantissa.log2 - 52 + carry) = nearest mantissa := by
  have shifted := shiftToTargetExponent_eq long least
  obtain ⟨low, high⟩ := rounded_bounds long
  unfold nearest
  generalize (⟨mantissa, false, false⟩ : ExtendedMantissa) >>> (mantissa.log2 - 52) = first at *
  generalize mantissa.log2 - 52 = count at *
  have reached : -1074 ≤ exponent + (count : Int) := by omega
  rcases Nat.lt_or_eq_of_le high with small | carried
  · have bits := log2_eq_of_bounds low small
    have again := shiftToTargetExponent_eq (Nat.le_of_eq bits.symm) reached
    rw [bits, Int.add_assoc, ← Int.natCast_add] at again
    have pos : 0 < first.roundedMantissa := Nat.lt_of_lt_of_le (Nat.two_pow_pos 52) low
    exact ⟨first.roundedMantissa, 0, pos, roundWithAccuracy_eq shifted again pos, bits,
      Nat.zero_le 1, rfl⟩
  · have bits : (2 ^ 53 : Nat).log2 = 53 := Nat.log2_two_pow
    have wide : 52 ≤ (2 ^ 53 : Nat).log2 := by
      rw [bits]
      decide
    have again := shiftToTargetExponent_eq wide reached
    have zero : (⟨2 ^ 53, false, false⟩ : ExtendedMantissa) >>> (53 - 52) = ⟨2 ^ 52, false, false⟩ :=
      shiftRight_mul_two_pow (2 ^ 52) 1
    rw [bits, zero, ← carried, Int.add_assoc, ← Int.natCast_add] at again
    have pos : 0 < 2 ^ 52 := Nat.two_pow_pos 52
    refine ⟨2 ^ 52, 1, pos, roundWithAccuracy_eq shifted again pos, Nat.log2_two_pow,
      Nat.le_refl 1, ?_⟩
    rw [carried, ← Nat.pow_add, ← Nat.pow_add]
    congr 1
    omega

theorem nearest_of_log2_le {number : Nat} (short : number.log2 ≤ 52) : nearest number = number := by
  apply nearest_of_dvd
  rw [Nat.sub_eq_zero_of_le short]
  exact Nat.one_dvd number

/-- A number is kept by its 53 highest bits. -/
theorem ofNat_eq {number : Nat} (pos : 0 < number) :
    ∃ (kept carry : Nat) (keeps : 0 < kept),
      UnpackedFloat.ofNat .binary64 number =
        .finite .positive kept
          (-(52 - number.log2 : Nat) + (number.log2 - 52 + carry : Nat)) keeps ∧
      kept.log2 = 52 ∧ carry ≤ 1 ∧
      kept * 2 ^ (number.log2 - 52 + carry) = nearest number * 2 ^ (52 - number.log2) := by
  have target : Format.binary64.targetExponent (totalExponent number 0) = number.log2 - 52 := by
    rw [targetExponent_eq, totalExponent]
    omega
  have filled : UnpackedFloat.ofNat .binary64 number =
      roundWithAccuracy .binary64 .positive (number * 2 ^ (52 - number.log2))
        (-(52 - number.log2 : Nat)) .exact := by
    have sign : compare (number : Int) 0 = .gt := by
      rw [Int.compare_eq_gt]
      omega
    have missing : (-((number.log2 : Int) - 52)).toNat = 52 - number.log2 := by omega
    simp only [UnpackedFloat.ofNat, UnpackedFloat.ofInt, UnpackedFloat.normalize, sign,
      UnpackedFloat.round, target, decreaseExponent, Nat.shiftLeft_eq, Int.toNat_natCast,
      Int.zero_sub, missing]
  have bits := log2_mul_two_pow (Nat.ne_of_gt pos) (52 - number.log2)
  have same : (number * 2 ^ (52 - number.log2)).log2 - 52 = number.log2 - 52 := by omega
  have kept : nearest (number * 2 ^ (52 - number.log2)) =
      nearest number * 2 ^ (52 - number.log2) := by
    rcases Nat.le_total number.log2 52 with short | long
    · rw [nearest_of_log2_le short, nearest_of_log2_le (by omega)]
    · rw [Nat.sub_eq_zero_of_le long, Nat.pow_zero, Nat.mul_one, Nat.mul_one]
  have long : 52 ≤ (number * 2 ^ (52 - number.log2)).log2 := by omega
  have least : -1074 ≤ -((52 - number.log2 : Nat) : Int) := by omega
  have rounded := roundWithAccuracy_of_long long least
  rw [same, kept, ← filled] at rounded
  exact rounded

/-! ## Packing -/

theorem toNat_implicit (mantissa : BitVec 52) :
    (1#1 ++ mantissa).toNat = 2 ^ 52 + mantissa.toNat := by
  rw [BitVec.toNat_append, ← Nat.shiftLeft_add_eq_or_of_lt mantissa.isLt]
  rfl

/-- The sign is the highest bit of a packed real. -/
theorem sign_of_packed (sign : Sign) (exponent : BitVec 11) (mantissa : BitVec 52) :
    unpackSign (packComponents .binary64 sign exponent mantissa) = sign.toBitVec := by
  change BitVec.extractLsb' 63 1 (sign.toBitVec ++ exponent ++ mantissa) = _
  rw [BitVec.extractLsb'_append_eq_of_le (by decide), BitVec.extractLsb'_append_eq_of_le (by decide)]
  exact BitVec.extractLsb'_eq_self

/-- A packed real with neither the least nor the greatest exponent has an implicit highest bit. -/
theorem unpack_of_normal {bits : BitVec Format.binary64.numBits} {mantissa : Nat}
    {exponent : Int} (pos : 0 < mantissa)
    (finite : unpackExponent bits ≠ -1#11) (nonzero : unpackExponent bits ≠ 0#11)
    (sign : unpackSign bits = Sign.positive.toBitVec)
    (implicit : (1#1 ++ unpackMantissa bits).toNat = mantissa)
    (unbiased : ((unpackExponent bits).toNat : Int) - 1075 = exponent) :
    UnpackedFloat.unpack .binary64 bits = .finite .positive mantissa exponent pos := by
  subst implicit unbiased
  change (if _ then _ else if _ then _ else
    UnpackedFloat.finite (Sign.ofBitVec (unpackSign bits)) _ _ _) = _
  rw [if_neg finite, if_neg nonzero, sign]
  rfl

/-- A real with 53 significant bits is packed without its highest bit, and its exponent is shifted
into the numbers from 1 to 2046. -/
theorem pack_of_normal {mantissa biased : Nat} {exponent : Int} (pos : 0 < mantissa)
    (normal : mantissa.log2 = 52) (shifted : exponent + 1075 = biased) (small : biased < 2047) :
    UnpackedFloat.pack .binary64 (.finite .positive mantissa exponent pos) =
      packComponents .binary64 .positive (BitVec.ofNat 11 biased) (BitVec.ofNat 52 mantissa) := by
  have bias : (exponent + (Format.binary64.exponentBias : Int) + (52 : Nat)).toNat = biased := by
    change (exponent + 1023 + 52).toNat = biased
    omega
  change (if 2 ^ 11 ≤ (exponent + (Format.binary64.exponentBias : Int) + (52 : Nat)).toNat + 1
    then _ else if mantissa.log2 + 1 = 1 + 52 then _ else _) = _
  rw [bias, if_neg (by omega), if_pos (by omega)]

/-- A real with 53 significant bits is packed without a loss. -/
theorem unpack_pack_of_normal {mantissa : Nat} {exponent : Int} (pos : 0 < mantissa)
    (normal : mantissa.log2 = 52) (least : -1074 ≤ exponent) (most : exponent ≤ 971) :
    UnpackedFloat.unpack .binary64 (UnpackedFloat.pack .binary64
      (.finite .positive mantissa exponent pos)) = .finite .positive mantissa exponent pos := by
  have low : 2 ^ 52 ≤ mantissa := normal ▸ Nat.log2_self_le (Nat.ne_of_gt pos)
  have high : mantissa < 2 ^ 53 := (Nat.log2_lt (Nat.ne_of_gt pos)).mp (by omega)
  obtain ⟨biased, shifted, positive, small⟩ : ∃ biased : Nat,
      exponent + 1075 = biased ∧ 0 < biased ∧ biased < 2047 :=
    ⟨(exponent + 1075).toNat, by omega, by omega, by omega⟩
  have kept : (BitVec.ofNat 11 biased).toNat = biased := by
    rw [BitVec.toNat_ofNat, Nat.mod_eq_of_lt (by omega)]
  rw [pack_of_normal pos normal shifted small]
  apply unpack_of_normal
  · rw [unpackExponent_packComponents]
    intro same
    have ones := congrArg BitVec.toNat same
    rw [kept] at ones
    exact absurd ones (Nat.ne_of_lt small)
  · rw [unpackExponent_packComponents]
    intro same
    have zeros := congrArg BitVec.toNat same
    rw [kept] at zeros
    exact absurd zeros (Nat.ne_of_gt positive)
  · exact sign_of_packed ..
  · rw [unpackMantissa_packComponents, toNat_implicit, BitVec.toNat_ofNat]
    omega
  · rw [unpackExponent_packComponents, kept]
    omega

/-! ## There and back -/

/-- What a real is cut off to. -/
theorem toInt_finite {mantissa : Nat} {exponent low high : Int} (pos : 0 < mantissa) :
    UnpackedFloat.toInt low high (.finite .positive mantissa exponent pos) =
      (mantissa * 2 ^ exponent.toNat / 2 ^ (-exponent).toNat : Nat) := by
  have shifted : (0 - (exponent - (exponent.toNat : Int))).toNat = (-exponent).toNat := by omega
  change roundToInt .positive mantissa exponent = _
  simp only [roundToInt, decreaseExponent, shiftToExponent, Int.sub_zero, shifted, Sign.apply,
    mantissa_shiftRight, Nat.shiftLeft_eq]
  rfl

theorem mul_two_pow_div {kept value more fewer : Nat} (same : kept * 2 ^ more = value * 2 ^ fewer) :
    kept * 2 ^ (more - fewer) / 2 ^ (fewer - more) = value := by
  rcases Nat.le_total more fewer with le | le
  · obtain ⟨rest, rfl⟩ := Nat.exists_eq_add_of_le le
    rw [Nat.pow_add, Nat.mul_comm (2 ^ more), ← Nat.mul_assoc] at same
    rw [Nat.sub_eq_zero_of_le le, Nat.pow_zero, Nat.mul_one,
      Nat.eq_of_mul_eq_mul_right (Nat.two_pow_pos more) same, Nat.add_sub_cancel_left,
      Nat.mul_div_cancel _ (Nat.two_pow_pos rest)]
  · obtain ⟨rest, rfl⟩ := Nat.exists_eq_add_of_le le
    rw [Nat.pow_add, Nat.mul_comm (2 ^ fewer), ← Nat.mul_assoc] at same
    rw [Nat.sub_eq_zero_of_le le, Nat.pow_zero, Nat.div_one, Nat.add_sub_cancel_left,
      Nat.eq_of_mul_eq_mul_right (Nat.two_pow_pos fewer) same]

/-- A word that is turned into a real and back is the nearest real, or the largest word if that
is larger. -/
theorem toUInt64_toFloat (word : UInt64) :
    word.toFloat.toUInt64 = .ofNatClamp (nearest word.toNat) := by
  change UInt64.ofNatClamp (UnpackedFloat.toInt 0 (UInt64.size - 1)
    (UnpackedFloat.unpack .binary64 (UnpackedFloat.pack .binary64
      (UnpackedFloat.ofNat .binary64 word.toNat)))).toNat = _
  rcases Nat.eq_zero_or_pos word.toNat with zero | pos
  · rw [zero]
    rfl
  · obtain ⟨kept, carry, keeps, converted, bits, small, same⟩ := ofNat_eq pos
    have narrow : word.toNat.log2 < 64 := (Nat.log2_lt (Nat.ne_of_gt pos)).mpr word.toNat_lt
    rw [converted, unpack_pack_of_normal keeps bits (by omega) (by omega), toInt_finite,
      Int.toNat_natCast]
    have more : (-((52 - word.toNat.log2 : Nat) : Int) +
        ((word.toNat.log2 - 52 + carry : Nat) : Int)).toNat =
        word.toNat.log2 - 52 + carry - (52 - word.toNat.log2) := by omega
    have fewer : (-(-((52 - word.toNat.log2 : Nat) : Int) +
        ((word.toNat.log2 - 52 + carry : Nat) : Int))).toNat =
        52 - word.toNat.log2 - (word.toNat.log2 - 52 + carry) := by omega
    rw [more, fewer, mul_two_pow_div same]

/-- A word that has 53 significant bits at most, or is the largest one. -/
def IsExact (word : UInt64) : Prop :=
  word.toNat + 1 = UInt64.size ∨ 2 ^ (word.toNat.log2 - 52) ∣ word.toNat

instance (word : UInt64) : Decidable (IsExact word) :=
  inferInstanceAs (Decidable (_ ∨ _))

/-- Exactly the words of 53 significant bits and the largest word come back. -/
theorem toUInt64_toFloat_eq_iff (word : UInt64) :
    word.toFloat.toUInt64 = word ↔ IsExact word := by
  constructor
  · intro back
    rw [toUInt64_toFloat, UInt64.ofNatClamp] at back
    split at back
    · next small =>
        have same : nearest word.toNat = word.toNat := congrArg UInt64.toNat back
        have divides := dvd_nearest word.toNat
        rw [same] at divides
        exact .inr divides
    · exact .inl (by rw [← back]; rfl)
  · rintro (largest | zeros)
    · obtain rfl : word = 18446744073709551615 := by
        apply UInt64.toNat_inj.mp
        exact Nat.succ.inj largest
      decide +kernel
    · rw [toUInt64_toFloat, nearest_of_dvd zeros, UInt64.ofNatClamp, dif_pos word.toNat_lt]
      rfl

/-- A word below 2 ^ 53 comes back. -/
theorem isExact_of_lt {word : UInt64} (small : word.toNat < 2 ^ 53) : IsExact word := by
  right
  have short : word.toNat.log2 - 52 = 0 := by
    rcases Nat.eq_zero_or_pos word.toNat with zero | pos
    · rw [zero]
      rfl
    · have bits := (Nat.log2_lt (Nat.ne_of_gt pos)).mpr small
      omega
  rw [short]
  exact Nat.one_dvd _

end Acquisition.Number
