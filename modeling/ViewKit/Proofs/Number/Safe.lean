/-
# Safe integers

A whole double of absolute value below `2 ^ 53` is the double nearest to its integer, up to
the sign of zero (`same_ofInt_toInt`).  Reading the parts off the bit pattern and unpacking a
double come to the same, so the parts of the double and those of the double nearest to the
integer can be compared: the mantissa has 53 bits, and its last bits are zero.
-/
import ViewKit.Number.Text
import ViewKit.Proofs.Number.Equality
import ViewKit.Proofs.Number.Whole

namespace ViewKit

/-- The parts without the sign and the exponent of zero. -/
def Binary64.withoutZeroSign : Binary64 → Binary64
  | finite negative m e => if m = 0 then finite false 0 0 else finite negative m e
  | x => x

namespace Number

open Float.Model Float.Model.UnpackedFloat

/-! ## Two ways to take a double apart -/

lemma toNat_unpackMantissa (b : BitVec 64) :
    (@unpackMantissa Format.binary64 b).toNat = b.toNat % Nat.pow 2 52 := by
  simp [unpackMantissa, BitVec.extractLsb, BitVec.extractLsb'_toNat]

lemma toNat_unpackExponent (b : BitVec 64) :
    (@unpackExponent Format.binary64 b).toNat = b.toNat / Nat.pow 2 52 % Nat.pow 2 11 := by
  simp [unpackExponent, BitVec.extractLsb, BitVec.extractLsb'_toNat, Nat.shiftRight_eq_div_pow]

lemma toNat_unpackSign (b : BitVec 64) :
    (@unpackSign Format.binary64 b).toNat = b.toNat / Nat.pow 2 63 % 2 := by
  simp [unpackSign, BitVec.extractLsb, BitVec.extractLsb'_toNat, Nat.shiftRight_eq_div_pow]

lemma ofBitVec_beq_negative (b : BitVec 1) :
    (Sign.ofBitVec b == .negative) = (b.toNat == 1) := by
  revert b
  decide

/-- A double is unpacked into the parts that its bit pattern has. -/
lemma content_unpack (x : Float) :
    content x.toModel.unpack = (Binary64.ofFloat x).withoutZeroSign := by
  have hbits : x.toBits.toNat = x.toModel.toBits.toBitVec.toNat := rfl
  rw [Binary64.ofFloat, hbits, Float.Model.unpack]
  generalize x.toModel.toBits.toBitVec = b
  have hmantissa := toNat_unpackMantissa b
  have hexponent := toNat_unpackExponent b
  have hsign := ofBitVec_beq_negative (@unpackSign Format.binary64 b)
  rw [toNat_unpackSign] at hsign
  rw [Binary64.ofBits, ← hmantissa, ← hexponent, ← hsign]
  generalize hs : Sign.ofBitVec (@unpackSign Format.binary64 b) = s
  generalize he : @unpackExponent Format.binary64 b = e
  generalize hm : @unpackMantissa Format.binary64 b = m
  simp only [UnpackedFloat.unpack, hs, he, hm]
  have hall : e = -BitVec.ofNat Format.binary64.exponentBits 1 ↔ e.toNat = 2047 :=
    BitVec.toNat_inj.symm
  have hzero : e = BitVec.ofNat Format.binary64.exponentBits 0 ↔ e.toNat = 0 :=
    BitVec.toNat_inj.symm
  have hnone : m = BitVec.ofNat Format.binary64.mantissaBitsWithoutImplicit 0 ↔ m.toNat = 0 :=
    BitVec.toNat_inj.symm
  simp only [hall, hzero, hnone]
  split
  · split <;> rfl
  · split
    · next hsmall =>
      split
      · next hfraction =>
        rw [Binary64.withoutZeroSign, if_pos hfraction]
        rfl
      · next hfraction =>
        rw [Binary64.withoutZeroSign, if_neg hfraction, content, hsmall]
        rfl
    · have hone : (1#1 ++ m).toNat = Nat.pow 2 52 + m.toNat := by
        rw [BitVec.toNat_append, ← Nat.shiftLeft_add_eq_or_of_lt m.isLt]
        rfl
      have hpos : Nat.pow 2 52 + m.toNat ≠ 0 := by
        have := Nat.two_pow_pos 52
        show 2 ^ 52 + m.toNat ≠ 0
        omega
      rw [Binary64.withoutZeroSign, if_neg hpos, content, hone]
      rfl

/-! ## Finite doubles -/

/-- The mantissa of a finite double has 53 bits, or it has fewer and the exponent is the least
one. -/
lemma log2_mantissa_of_ofBits {bits : Nat} {s : Bool} {m : Nat} {e : Int}
    (h : Binary64.ofBits bits = .finite s m e) :
    m.log2 = 52 ∨ m < Nat.pow 2 52 ∧ e = Binary64.leastExponent := by
  have hfraction : bits % Nat.pow 2 52 < Nat.pow 2 52 := Nat.mod_lt _ (Nat.two_pow_pos 52)
  rw [Binary64.ofBits] at h
  split at h
  · split at h <;> cases h
  · split at h
    · cases h
      exact .inr ⟨hfraction, rfl⟩
    · cases h
      have hpow : Nat.pow 2 52 = 2 ^ 52 := rfl
      refine .inl ((Nat.log2_eq_iff (by omega)).2 ?_)
      omega

lemma isFinite_iff_content (u : UnpackedFloat) :
    u.isFinite = true ↔ ∃ s m e, content u = .finite s m e := by
  cases u with
  | notANumber => exact iff_of_false nofun nofun
  | infinity s => exact iff_of_false nofun nofun
  | zero s => exact iff_of_true rfl ⟨_, _, _, rfl⟩
  | finite s m e hm => exact iff_of_true rfl ⟨_, _, _, rfl⟩

lemma isFinite_iff (x : Float) :
    x.isFinite = true ↔ ∃ s m e, Binary64.ofFloat x = .finite s m e := by
  have hmodel : x.isFinite = x.toModel.unpack.isFinite := rfl
  rw [hmodel, isFinite_iff_content, content_unpack]
  cases Binary64.ofFloat x with
  | nan => exact iff_of_false nofun nofun
  | infinite s => exact iff_of_false nofun nofun
  | finite s m e =>
    refine iff_of_true ?_ ⟨s, m, e, rfl⟩
    rw [Binary64.withoutZeroSign]
    split
    · exact ⟨_, _, _, rfl⟩
    · exact ⟨_, _, _, rfl⟩

/-- Only finite numbers have a text in a document. -/
lemma jsonFraction_eq_none_iff (x : Float) : jsonFraction x = none ↔ ¬ x.isFinite = true := by
  rw [isFinite_iff, jsonFraction]
  cases Binary64.ofFloat x with
  | nan => exact iff_of_true rfl nofun
  | infinite s => exact iff_of_true rfl nofun
  | finite s m e =>
    refine iff_of_false ?_ fun h => h ⟨s, m, e, rfl⟩
    simp only
    split_ifs <;> nofun

lemma isFinite_of_isSafeInteger {x : Float} (h : isSafeInteger x = true) : x.isFinite = true := by
  rw [isSafeInteger, Bool.and_eq_true, isWhole] at h
  rw [isFinite_iff]
  cases hx : Binary64.ofFloat x with
  | nan => simp [hx, Binary64.isWhole] at h
  | infinite s => simp [hx, Binary64.isWhole] at h
  | finite s m e => exact ⟨s, m, e, rfl⟩

/-! ## The double of an integer -/

/-- The negative of a double with a mantissa of 53 bits has the other sign. -/
lemma content_neg {x : Float} {m : Nat} {e : Int} (hm : m.log2 = 52) (hlow : -1074 ≤ e)
    (hhigh : e ≤ 971) (h : content x.toModel.unpack = .finite false m e) :
    content x.neg.toModel.unpack = .finite true m e := by
  have hpos := pos_of_log2_eq hm
  have hunpack : x.toModel.unpack = .finite .positive m e hpos := by
    cases hu : x.toModel.unpack with
    | notANumber => rw [hu] at h; cases h
    | infinity s => rw [hu] at h; cases h
    | zero s =>
      rw [hu] at h
      obtain ⟨-, hzero, -⟩ := Binary64.finite.inj h
      omega
    | finite s m' e' hm' =>
      rw [hu] at h
      obtain ⟨hs, rfl, rfl⟩ := Binary64.finite.inj h
      cases s with
      | positive => rfl
      | negative => cases hs
  have hneg : x.neg.toModel.unpack = (Float.Model.pack x.toModel.unpack.neg).unpack := rfl
  rw [hneg, hunpack]
  have hpacked := unpack_pack hm hlow hhigh (-Sign.positive)
  exact congrArg content hpacked

lemma content_ofNat {n : Nat} (hpos : 0 < n) (h : n < Nat.pow 2 53) :
    content (ofNat n).toModel.unpack = .finite false (mantissa n) (n.log2 - 52) := by
  have hm := pos_of_log2_eq (log2_mantissa hpos h)
  rw [content_unpack, ofFloat_ofNat hpos h, Binary64.withoutZeroSign, if_neg (by omega)]

/-- The double nearest to an integer of absolute value below `2 ^ 53`, by its parts. -/
lemma content_ofInt {n : Nat} (hpos : 0 < n) (h : n < Nat.pow 2 53) (negative : Bool) :
    content (ofInt (if negative then -(n : Int) else n)).toModel.unpack =
      .finite negative (mantissa n) (n.log2 - 52) := by
  cases negative with
  | false => exact content_ofNat hpos h
  | true =>
    have hlog := log2_le hpos h
    obtain ⟨k, rfl⟩ : ∃ k, n = k + 1 := ⟨n - 1, by omega⟩
    exact content_neg (log2_mantissa hpos h) (by omega) (by omega) (content_ofNat hpos h)

/-- A whole double below `2 ^ 53` and not zero has the parts of the double nearest to its whole
part: as many last bits of its mantissa are zero as its exponent is below zero. -/
lemma parts_of_isSafeInteger {x : Float} {s : Bool} {m : Nat} {e : Int}
    (hx : Binary64.ofFloat x = .finite s m e) (hm : m ≠ 0) (h : isSafeInteger x = true) :
    0 < wholePart x ∧ wholePart x < Nat.pow 2 53 ∧ mantissa (wholePart x) = m ∧
      (wholePart x).log2 - 52 = e := by
  have hpos : 0 < m := Nat.pos_of_ne_zero hm
  rw [isSafeInteger, Bool.and_eq_true, isWhole, wholePart, hx] at h
  rw [wholePart, hx]
  obtain ⟨hwhole, hlt⟩ := h
  have hdvd : 2 ^ (-e).toNat ∣ m := Nat.dvd_of_mod_eq_zero (beq_iff_eq.1 hwhole)
  have hlt : m * 2 ^ e.toNat / 2 ^ (-e).toNat < 2 ^ 53 := of_decide_eq_true hlt
  rcases log2_mantissa_of_ofBits hx with hlog | ⟨hsmall, he⟩
  · have hrange := (Nat.log2_eq_iff hm).1 hlog
    have he : e ≤ 0 := by
      by_contra hgt
      have hdown : (-e).toNat = 0 := by omega
      have hup : 2 ^ 1 ≤ 2 ^ e.toNat := Nat.pow_le_pow_right (by decide) (by omega)
      rw [hdown, pow_zero, Nat.div_one] at hlt
      have hle := Nat.mul_le_mul hrange.1 hup
      omega
    obtain ⟨n, rfl⟩ := hdvd
    have hup : e.toNat = 0 := by omega
    have hn : 2 ^ (-e).toNat * n * 2 ^ e.toNat / 2 ^ (-e).toNat = n := by
      rw [hup, pow_zero, Nat.mul_one, Nat.mul_div_cancel_left n (Nat.two_pow_pos _)]
    have hnpos : 0 < n := Nat.pos_of_mul_pos_left hpos
    have hshift : 2 ^ (-e).toNat * n = n <<< (-e).toNat := by
      rw [Nat.shiftLeft_eq, Nat.mul_comm]
    have hbits : n.log2 + (-e).toNat = 52 := by
      rw [← log2_shiftLeft hnpos, ← hshift, hlog]
    have hwidth : 52 - n.log2 = (-e).toNat := by omega
    rw [hn] at hlt
    have hpart : (Binary64.finite s (2 ^ (-e).toNat * n) e).wholePart = n := hn
    rw [hpart, mantissa, hwidth, hshift]
    exact ⟨hnpos, hlt, rfl, by omega⟩
  · have hle := Nat.le_of_dvd hpos hdvd
    have hwidth : 2 ^ 52 ≤ 2 ^ (-e).toNat := by
      refine Nat.pow_le_pow_right (by decide) ?_
      rw [he]
      decide
    have hsmall : m < 2 ^ 52 := hsmall
    omega

/-- A safe integer is the double nearest to its integer, up to the sign of zero. -/
lemma same_ofInt_toInt {x : Float} (h : isSafeInteger x = true) :
    same (ofInt (toInt x)) x = true := by
  obtain ⟨s, m, e, hx⟩ := (isFinite_iff x).1 (isFinite_of_isSafeInteger h)
  rw [same_iff_content, content_unpack x, hx, Binary64.withoutZeroSign, toInt, hx]
  by_cases hm : m = 0
  · have hzero : wholePart x = 0 := by
      rw [wholePart, hx, hm, Binary64.wholePart, Nat.zero_mul, Nat.zero_div]
    have hcontent : content (ofInt 0).toModel.unpack = .finite false 0 0 := by decide +kernel
    rw [if_pos hm, hzero, Nat.cast_zero, neg_zero, ite_self, hcontent]
  · obtain ⟨hpos, hlt, hmantissa, hexponent⟩ := parts_of_isSafeInteger hx hm h
    rw [if_neg hm, ← hmantissa, ← hexponent]
    exact content_ofInt hpos hlt s

end Number
end ViewKit
