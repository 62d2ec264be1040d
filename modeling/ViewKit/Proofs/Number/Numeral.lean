/-
# Numerals

The decimal digits of a natural number below `2 ^ 53` read as the double with that value
(`readDigits?_numeral`).
-/
import Mathlib.Data.List.TakeWhile
import ViewKit.Number.Read

namespace ViewKit.Number

/-- The decimal digits of a natural number. -/
def numeral (n : Nat) : List Char := Nat.toDigits 10 n

lemma numeral_ne_nil (n : Nat) : numeral n ≠ [] := Nat.toDigits_ne_nil

lemma isDigit_of_mem_numeral {n : Nat} {c : Char} (h : c ∈ numeral n) : c.isDigit = true :=
  Nat.isDigit_of_mem_toDigits (by decide) (by decide) h

lemma length_numeral_le {n : Nat} (h : n < Nat.pow 2 53) : (numeral n).length ≤ 16 :=
  (Nat.length_toDigits_le_iff (by decide) (by decide)).2 (Nat.lt_trans h (by decide))

lemma digitsValue_numeral (n : Nat) : digitsValue (numeral n) = n :=
  Nat.ofDigitChars_toDigits (by decide) (by decide)

/-- Only zero has a numeral that starts with zero. -/
lemma head?_numeral_ne {n : Nat} (h : 0 < n) : (numeral n).head? ≠ some '0' := by
  induction n using Nat.strongRecOn with
  | ind n ih =>
    rw [numeral, Nat.toDigits_eq_if (by decide)]
    split
    · next hlt =>
      have hdigit : ∀ d < 10, 0 < d → d.digitChar ≠ '0' := by decide
      exact fun hhead => hdigit n hlt h (Option.some.inj hhead)
    · next hle =>
      have hrest := ih (n / 10) (by omega) (by omega)
      rw [numeral] at hrest
      rwa [List.head?_append, Option.or_of_isSome (by simp [Nat.toDigits_ne_nil])]

lemma ofDecimal_numeral {n : Nat} (h : n < Nat.pow 2 53) : ofDecimal (numeral n) 0 = ofNat n := by
  rcases Nat.eq_zero_or_pos n with rfl | hpos
  · rfl
  · have hdrop : (numeral n).dropWhile (· == '0') = numeral n := by
      cases hdigits : numeral n with
      | nil => rfl
      | cons c cs =>
        have hhead := head?_numeral_ne hpos
        rw [hdigits] at hhead
        exact List.dropWhile_cons_of_neg (by simpa using hhead)
    have hlength := length_numeral_le h
    have hnil : (numeral n).isEmpty = false := by simpa using numeral_ne_nil n
    rw [ofDecimal, hdrop, hnil]
    simp only [Bool.false_eq_true, if_false, Int.zero_add]
    rw [if_neg (by omega), if_neg (by omega), if_pos (Int.le_refl 0), digitsValue_numeral]
    rfl

/-- The decimal digits of a number read as that number. -/
lemma readDigits?_numeral {n : Nat} (h : n < Nat.pow 2 53) :
    readDigits? (numeral n) = some (ofNat n) := by
  have hdigits : ∀ c ∈ numeral n, c.isDigit = true := fun c hc => isDigit_of_mem_numeral hc
  have htake : (numeral n).takeWhile Char.isDigit = numeral n :=
    List.takeWhile_eq_self_iff.2 hdigits
  have hdrop : (numeral n).dropWhile Char.isDigit = [] := List.dropWhile_eq_nil_iff.2 hdigits
  have hnil : (numeral n).isEmpty = false := by simpa using numeral_ne_nil n
  rw [readDigits?, htake, hdrop]
  simp only [hnil, Bool.false_and, Bool.false_eq_true, if_false, readExponent?, Option.map_some,
    List.append_nil, List.length_nil]
  exact congrArg some (ofDecimal_numeral h)

end ViewKit.Number
