/-
# Natural numbers as doubles

The double nearest to a natural number has no minus sign, however great the number is
(`isNegative_ofNat`), so it is never minus one.  Below `2 ^ 53` the double is the number, and
its text is that of the number (`display_ofNat`).
-/
import ViewKit.Proofs.Number.Safe

namespace ViewKit.Number

open Float.Model Float.Model.UnpackedFloat

/-! ## The sign -/

/-- An unpacked number without a minus sign. -/
inductive Unsigned : UnpackedFloat → Prop where
  | infinity : Unsigned (.infinity .positive)
  | zero : Unsigned (.zero .positive)
  | finite {m : Nat} {e : Int} (hm : 0 < m) : Unsigned (.finite .positive m e hm)

lemma unsigned_roundWithAccuracy (m : Nat) (e : Int) (a : Accuracy) :
    Unsigned (roundWithAccuracy Format.binary64 .positive m e a) := by
  rw [roundWithAccuracy]
  dsimp only
  split
  · exact .zero
  · exact .finite _

lemma unsigned_ofScientific (n : Nat) (e : Int) (he : 0 ≤ e) :
    Unsigned (UnpackedFloat.ofScientific Format.binary64 n e) := by
  rw [UnpackedFloat.ofScientific]
  split_ifs
  · exact .zero
  · exact .infinity
  · exact .zero
  · exact unsigned_roundWithAccuracy _ _ _

lemma unpackSign_pack {u : UnpackedFloat} (h : Unsigned u) :
    @unpackSign Format.binary64 (UnpackedFloat.pack Format.binary64 u) =
      Sign.positive.toBitVec := by
  cases h with
  | infinity => exact unpackSign_packComponents _ _ _
  | zero => exact unpackSign_packComponents _ _ _
  | finite hm =>
    rw [UnpackedFloat.pack]
    dsimp only
    split_ifs
    · exact unpackSign_packComponents _ _ _
    · exact unpackSign_packComponents _ _ _
    · exact unpackSign_packComponents _ _ _

lemma sign_of_isNegative {bits : Nat} (h : (Binary64.ofBits bits).isNegative = true) :
    bits / Nat.pow 2 63 % 2 = 1 := by
  have hsign : (bits / Nat.pow 2 63 % 2 == 1) = true := by
    rw [Binary64.ofBits] at h
    split at h
    · split at h
      · exact h
      · cases h
    · split at h
      · exact h
      · exact h
  exact beq_iff_eq.1 hsign

/-- The double nearest to a natural number, however great, has no minus sign. -/
lemma isNegative_ofNat (n : Nat) : (Binary64.ofFloat (ofNat n)).isNegative = false := by
  by_cases h : n < Nat.pow 2 53
  · rcases Nat.eq_zero_or_pos n with rfl | hpos
    · decide +kernel
    · rw [ofFloat_ofNat hpos h]
      rfl
  · have hmodel : ofNat n = ⟨.pack (UnpackedFloat.ofScientific Format.binary64 n 0)⟩ :=
      dif_neg fun hsmall => h hsmall.1
    have hunsigned := unsigned_ofScientific n 0 (Int.le_refl 0)
    refine Bool.eq_false_iff.2 fun hnegative => ?_
    have hsign := sign_of_isNegative hnegative
    have hbits : (ofNat n).toBits.toNat =
        (UnpackedFloat.pack Format.binary64
          (UnpackedFloat.ofScientific Format.binary64 n 0)).toNat := by
      rw [hmodel]
      rfl
    rw [hbits, ← toNat_unpackSign, unpackSign_pack hunsigned] at hsign
    cases hsign

/-- No natural number is the same datum as minus one. -/
lemma same_ofNat_minusOne (n : Nat) : same (ofNat n) (ofInt (-1)) = false := by
  refine Bool.eq_false_iff.2 fun hsame => ?_
  have hminus : Binary64.ofFloat (ofInt (-1)) = .finite true (Nat.pow 2 52) (-52) := by
    decide +kernel
  rw [same_iff_content, content_unpack, content_unpack, hminus] at hsame
  have hpositive := isNegative_ofNat n
  cases hn : Binary64.ofFloat (ofNat n) with
  | nan => rw [hn] at hsame; cases hsame
  | infinite s => rw [hn] at hsame; cases hsame
  | finite s m e =>
    rw [hn] at hsame hpositive
    obtain rfl : s = false := hpositive
    rw [Binary64.withoutZeroSign] at hsame
    split at hsame <;> cases hsame

/-! ## The text -/

/-- A natural number that a double holds exactly is shown by its digits. -/
lemma display_ofNat {n : Nat} (h : n < Nat.pow 2 53) : display (ofNat n) = toString n := by
  rcases Nat.eq_zero_or_pos n with rfl | hpos
  · decide +kernel
  · have hlog := log2_le hpos h
    have hmantissa : mantissa n ≠ 0 :=
      Nat.pos_iff_ne_zero.1 (pos_of_log2_eq (log2_mantissa hpos h))
    have hdown : (-((n.log2 : Int) - 52)).toNat = 52 - n.log2 := by omega
    have hwhole : (Binary64.finite false (mantissa n) (n.log2 - 52)).isWhole = true := by
      rw [Binary64.isWhole, hdown, mantissa, Nat.shiftLeft_eq]
      exact beq_iff_eq.2 (Nat.mul_mod_left n _)
    have hpart : (Binary64.finite false (mantissa n) (n.log2 - 52)).wholePart = n := by
      rw [← ofFloat_ofNat hpos h]
      exact wholePart_ofNat h
    have hsmall : n < Nat.pow 10 21 := Nat.lt_trans h (by decide)
    rw [display, ofFloat_ofNat hpos h]
    simp only [hmantissa, hwhole, hpart, hsmall, if_false, decide_true, Bool.and_self, if_true,
      Bool.false_eq_true]
    exact String.empty_append

end ViewKit.Number
