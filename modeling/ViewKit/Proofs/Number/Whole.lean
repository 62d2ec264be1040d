/-
# Whole doubles

A natural number below `2 ^ 53` is the whole part of the double nearest to it
(`wholePart_ofNat`): that double is the number itself.  The number is followed through the
arithmetic of the doubles, where it is shifted to a mantissa of 53 bits, multiplied by the
double one, packed into bits, and taken apart again.
-/
import Mathlib
import ViewKit.Number.Binary64

namespace ViewKit.Number

open Float.Model Float.Model.UnpackedFloat

/-! ## Mantissas of 53 bits -/

lemma pos_of_log2_eq {m : Nat} (hm : m.log2 = 52) : 0 < m := by
  refine Nat.pos_of_ne_zero fun h => ?_
  rw [h] at hm
  exact absurd hm (by decide)

lemma log2_shiftLeft {m : Nat} (hm : 0 < m) (k : Nat) : (m <<< k).log2 = m.log2 + k := by
  induction k with
  | zero => rfl
  | succ k ih =>
    have hpos : m <<< k ≠ 0 := by
      rw [Nat.shiftLeft_eq]
      exact Nat.mul_ne_zero (by omega) (Nat.pos_iff_ne_zero.1 (Nat.two_pow_pos k))
    rw [Nat.shiftLeft_succ, Nat.log2_two_mul hpos, ih]
    omega

/-- Shifting back what was shifted out loses nothing. -/
lemma shiftLeft_shiftRight_exact (m k : Nat) :
    (ExtendedMantissa.mk (m <<< k) false false) >>> k = ⟨m, false, false⟩ := by
  induction k generalizing m with
  | zero => rfl
  | succ k ih =>
    have hshift : m <<< (k + 1) = (2 * m) <<< k := by
      rw [Nat.shiftLeft_succ, Nat.shiftLeft_eq, Nat.shiftLeft_eq, Nat.mul_assoc]
    have hstep : (ExtendedMantissa.mk ((2 * m) <<< k) false false) >>> (k + 1) =
        ((ExtendedMantissa.mk ((2 * m) <<< k) false false) >>> k).shiftRightOne := rfl
    rw [hshift, hstep, ih]
    simp [ExtendedMantissa.shiftRightOne]

/-- A mantissa with `k` zero bits too many comes to its own exponent without a loss. -/
lemma shiftToTargetExponent_exact {m : Nat} (hm : m.log2 = 52) {k : Nat} {e : Int}
    (he : -1074 ≤ e + k) :
    shiftToTargetExponent Format.binary64 (m <<< k) e .exact = (⟨m, false, false⟩, e + k) := by
  have htarget : Format.binary64.targetExponent (totalExponent (m <<< k) e) = e + k := by
    rw [totalExponent, log2_shiftLeft (pos_of_log2_eq hm), hm]
    simp only [Format.targetExponent, Format.mantissaBits, Format.minExponent]
    omega
  have hamount : (e + k - e).toNat = k := by omega
  simp only [shiftToTargetExponent, shiftToExponent, htarget, hamount,
    ExtendedMantissa.ofMantissaAndAccuracy, shiftLeft_shiftRight_exact]

lemma roundWithAccuracy_exact {m : Nat} (hm : m.log2 = 52) {k : Nat} {e : Int}
    (he : -1074 ≤ e + k) (s : Sign) :
    roundWithAccuracy Format.binary64 s (m <<< k) e .exact =
      .finite s m (e + k) (pos_of_log2_eq hm) := by
  have hagain : shiftToTargetExponent Format.binary64 m (e + k) .exact =
      (⟨m, false, false⟩, e + k) := by
    simpa using shiftToTargetExponent_exact hm (k := 0) (e := e + k) (by simpa using he)
  have hpos := pos_of_log2_eq hm
  simp only [roundWithAccuracy, shiftToTargetExponent_exact hm he,
    ExtendedMantissa.roundedMantissa, ExtendedMantissa.accuracy, Accuracy.roundToNearestEven,
    hagain]
  rw [dif_neg (by omega)]

/-! ## Packing -/

/-- A mantissa of 53 bits is its first bit and the 52 bits below. -/
lemma mantissa_eq {m : Nat} (hm : m.log2 = 52) : m = Nat.pow 2 52 + m % Nat.pow 2 52 := by
  have hrange := (Nat.log2_eq_iff (Nat.pos_iff_ne_zero.1 (pos_of_log2_eq hm))).1 hm
  have hpow : Nat.pow 2 52 = 4503599627370496 := by decide
  norm_num at hrange
  rw [hpow]
  omega

lemma pack_finite {m : Nat} (hm : m.log2 = 52) {e : Int} (hlow : -1074 ≤ e) (hhigh : e ≤ 971)
    (s : Sign) : UnpackedFloat.pack Format.binary64 (.finite s m e (pos_of_log2_eq hm)) =
      packComponents Format.binary64 s (BitVec.ofNat 11 (e + 1075).toNat) (BitVec.ofNat 52 m) := by
  have hbias :
      (e + Format.binary64.exponentBias + Format.binary64.mantissaBitsWithoutImplicit).toNat =
      (e + 1075).toNat := by
    simp only [Format.exponentBias]
    omega
  simp only [UnpackedFloat.pack, hbias, hm, Format.mantissaBits]
  rw [if_neg (by norm_num; omega), if_pos trivial]

/-- A double with a mantissa of 53 bits is unpacked as it was packed. -/
lemma unpack_pack {m : Nat} (hm : m.log2 = 52) {e : Int} (hlow : -1074 ≤ e) (hhigh : e ≤ 971)
    (s : Sign) : (Float.Model.pack (.finite s m e (pos_of_log2_eq hm))).unpack =
      .finite s m e (pos_of_log2_eq hm) := by
  have hexponent : (BitVec.ofNat 11 (e + 1075).toNat).toNat = (e + 1075).toNat := by
    rw [BitVec.toNat_ofNat, Nat.mod_eq_of_lt (by norm_num; omega)]
  have hne (b : BitVec 11) (hb : (e + 1075).toNat ≠ b.toNat) :
      BitVec.ofNat 11 (e + 1075).toNat ≠ b := fun h => hb (by rw [← h, hexponent])
  have hnotAll := hne (-1#11) (by norm_num; omega)
  have hnotZero := hne 0#11 (by norm_num; omega)
  have hmantissa : (1#1 ++ BitVec.ofNat 52 m).toNat = m := by
    rw [BitVec.toNat_append, ← Nat.shiftLeft_add_eq_or_of_lt (BitVec.isLt _), BitVec.toNat_ofNat]
    conv_rhs => rw [mantissa_eq hm]
    rfl
  simp only [Float.Model.unpack, Float.Model.pack, pack_finite hm hlow hhigh]
  simp only [UnpackedFloat.unpack, unpackMantissa_packComponents, unpackExponent_packComponents,
    unpackSign_packComponents, Sign.ofBitVec_toBitVec, if_neg hnotAll, if_neg hnotZero, hmantissa,
    hexponent, Format.exponentBias]
  congr 1
  omega

/-- The bit pattern of a packed double: the exponent, and below it the mantissa without its
first bit. -/
lemma toNat_pack {m : Nat} (hm : m.log2 = 52) {e : Int} (hlow : -1074 ≤ e) (hhigh : e ≤ 971) :
    (Float.Model.pack (.finite .positive m e (pos_of_log2_eq hm))).toBits.toNat =
      (e + 1075).toNat * Nat.pow 2 52 + m % Nat.pow 2 52 := by
  have hexponent : (e + 1075).toNat < 2048 := by omega
  simp only [Float.Model.pack, pack_finite hm hlow hhigh, packComponents]
  show (Sign.positive.toBitVec ++ BitVec.ofNat 11 (e + 1075).toNat ++ BitVec.ofNat 52 m).toNat = _
  rw [BitVec.toNat_append, BitVec.toNat_append,
    ← Nat.shiftLeft_add_eq_or_of_lt (BitVec.isLt _),
    ← Nat.shiftLeft_add_eq_or_of_lt (BitVec.isLt _), BitVec.toNat_ofNat, BitVec.toNat_ofNat,
    Nat.shiftLeft_eq, Nat.mod_eq_of_lt (b := Nat.pow 2 11) hexponent]
  exact congrArg (fun x => x * Nat.pow 2 52 + m % Nat.pow 2 52) (Nat.zero_add _)

/-- The parts of a packed double with a mantissa of 53 bits. -/
lemma ofBits_pack {m : Nat} (hm : m.log2 = 52) {e : Int} (hlow : -1074 ≤ e) (hhigh : e ≤ 971) :
    Binary64.ofBits (Float.Model.pack (.finite .positive m e (pos_of_log2_eq hm))).toBits.toNat =
      .finite false m e := by
  have hmantissa := mantissa_eq hm
  have hpow52 : Nat.pow 2 52 = 4503599627370496 := by decide
  have hpow63 : Nat.pow 2 63 = 9223372036854775808 := by decide
  have hpow11 : Nat.pow 2 11 = 2048 := by decide
  rw [toNat_pack hm hlow hhigh]
  simp only [Binary64.ofBits, hpow52, hpow63, hpow11] at hmantissa ⊢
  have hsign : ((e + 1075).toNat * 4503599627370496 + m % 4503599627370496) /
      9223372036854775808 % 2 = 0 := by omega
  have hbiased : ((e + 1075).toNat * 4503599627370496 + m % 4503599627370496) /
      4503599627370496 % 2048 = (e + 1075).toNat := by omega
  have hfraction : ((e + 1075).toNat * 4503599627370496 + m % 4503599627370496) %
      4503599627370496 = m % 4503599627370496 := by omega
  rw [hsign, hbiased, hfraction, if_neg (by omega), if_neg (by omega), ← hmantissa]
  congr 1
  omega

/-! ## Natural numbers -/

/-- A natural number shifted to a mantissa of 53 bits. -/
def mantissa (n : Nat) : Nat := n <<< (52 - n.log2)

lemma log2_le {n : Nat} (hpos : 0 < n) (h : n < Nat.pow 2 53) : n.log2 ≤ 52 :=
  Nat.lt_succ_iff.1 ((Nat.log2_lt (by omega)).2 h)

lemma log2_mantissa {n : Nat} (hpos : 0 < n) (h : n < Nat.pow 2 53) : (mantissa n).log2 = 52 := by
  have := log2_le hpos h
  rw [mantissa, log2_shiftLeft hpos]
  omega

lemma unpacked_ofNat {n : Nat} (hpos : 0 < n) (h : n < Nat.pow 2 53) :
    UnpackedFloat.ofNat Format.binary64 n =
      .finite .positive (mantissa n) (n.log2 - 52) (pos_of_log2_eq (log2_mantissa hpos h)) := by
  have hlog := log2_le hpos h
  have hcompare : compare (n : Int) 0 = .gt := by
    rw [Int.compare_eq_gt]
    omega
  have htarget : Format.binary64.targetExponent (totalExponent n 0) = n.log2 - 52 := by
    simp only [Format.targetExponent, totalExponent, Format.mantissaBits, Format.minExponent]
    omega
  have hamount : (0 - ((n.log2 : Int) - 52)).toNat = 52 - n.log2 := by omega
  have hround := roundWithAccuracy_exact (log2_mantissa hpos h) (k := 0) (e := n.log2 - 52)
    (by omega) .positive
  simp only [UnpackedFloat.ofNat, UnpackedFloat.ofInt, UnpackedFloat.normalize, hcompare,
    Int.toNat_natCast, UnpackedFloat.round, htarget, decreaseExponent, hamount]
  rw [show (0 : Int) - (52 - n.log2 : Nat) = n.log2 - 52 by omega]
  simpa [mantissa] using hround

/-- The double one, by its parts. -/
lemma unpack_one : (Float.Model.ofBits 0x3FF0000000000000).unpack =
    .finite .positive (1 <<< 52) (-52) (by decide) := by
  have hbits : Float.Model.ofBits 0x3FF0000000000000 =
      Float.Model.pack (.finite .positive (1 <<< 52) (-52) (by decide)) := by
    decide +kernel
  rw [hbits]
  exact unpack_pack (by decide +kernel) (by decide) (by decide) .positive

/-- Multiplying by one changes nothing. -/
lemma mul_unpacked_one {m : Nat} (hm : m.log2 = 52) {e : Int} (he : -1074 ≤ e) :
    UnpackedFloat.mul Format.binary64 (.finite .positive m e (pos_of_log2_eq hm))
      (.finite .positive (1 <<< 52) (-52) (by decide)) =
      .finite .positive m e (pos_of_log2_eq hm) := by
  have hproduct : m * (1 <<< 52) = m <<< 52 := by
    rw [Nat.shiftLeft_eq, Nat.shiftLeft_eq, Nat.one_mul]
  have hrounded := roundWithAccuracy_exact hm (k := 52) (e := e + -52) (by omega)
    (.positive * .positive)
  rw [UnpackedFloat.mul, hproduct, hrounded]
  simp only [Nat.cast_ofNat, Int.neg_add_cancel_right]
  rfl

/-- The double nearest to a natural number below `2 ^ 53`, by its parts. -/
lemma ofFloat_ofNat {n : Nat} (hpos : 0 < n) (h : n < Nat.pow 2 53) :
    Binary64.ofFloat (ofNat n) = .finite false (mantissa n) (n.log2 - 52) := by
  have hlog := log2_le hpos h
  have hm := log2_mantissa hpos h
  have hword : n.toUInt64.toNat = n := Nat.mod_eq_of_lt (Nat.lt_trans h (by decide))
  have hfactor : (Float.Model.ofUInt64 n.toUInt64).unpack =
      .finite .positive (mantissa n) (n.log2 - 52) (pos_of_log2_eq hm) := by
    rw [Float.Model.ofUInt64, UnpackedFloat.ofUInt64, hword, unpacked_ofNat hpos h]
    exact unpack_pack hm (by omega) (by omega) .positive
  have hproduct : (ofNat n).toModel =
      Float.Model.ofUInt64 n.toUInt64 * Float.Model.ofBits 0x3FF0000000000000 := by
    have hpath : ofNat n = n.toUInt64.toFloat * Float.ofBits 0x3FF0000000000000 :=
      dif_pos ⟨h, by decide⟩
    rw [hpath]
    rfl
  have hmodel : (ofNat n).toModel =
      Float.Model.pack (.finite .positive (mantissa n) (n.log2 - 52) (pos_of_log2_eq hm)) := by
    rw [hproduct]
    show Float.Model.pack (UnpackedFloat.mul Format.binary64 _ _) = _
    rw [hfactor, unpack_one, mul_unpacked_one hm (by omega)]
  rw [Binary64.ofFloat, Float.toBits, hmodel]
  exact ofBits_pack hm (by omega) (by omega)

lemma wholePart_ofNat {n : Nat} (h : n < Nat.pow 2 53) : wholePart (ofNat n) = n := by
  rcases Nat.eq_zero_or_pos n with rfl | hpos
  · decide +kernel
  · have hlog := log2_le hpos h
    have hup : ((n.log2 : Int) - 52).toNat = 0 := by omega
    have hdown : (-((n.log2 : Int) - 52)).toNat = 52 - n.log2 := by omega
    rw [wholePart, ofFloat_ofNat hpos h, Binary64.wholePart, hup, hdown, mantissa,
      Nat.shiftLeft_eq]
    exact (congrArg (· / _) (Nat.mul_one _)).trans (Nat.mul_div_cancel n (Nat.two_pow_pos _))

end ViewKit.Number
