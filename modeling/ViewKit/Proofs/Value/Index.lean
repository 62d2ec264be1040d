/-
# Indices of texts and lists

The digits of a natural number denote the index of that number, and so does the double nearest
to it as long as it is the number itself.  Behind such an index stands the character of a text
or the item of a list with that place.
-/
import ViewKit.Proofs.Number.Natural
import ViewKit.Proofs.Number.Numeral
import ViewKit.Template.Operation

namespace ViewKit

/-- The digits of a number below `2 ^ 64` denote the index of that number. -/
lemma Path.index?_toString {n : Nat} (h : n < Nat.pow 2 64) : index? (toString n) = some n := by
  have hdigits : (toString n).toList = Number.numeral n := by
    rw [Nat.toString_eq_repr, Nat.toList_repr]
    rfl
  have hall : (Number.numeral n).all Char.isDigit = true :=
    List.all_eq_true.2 fun c hc => Number.isDigit_of_mem_numeral hc
  have hsome : indexOfDigits? (Number.numeral n) = some n := by
    simp [indexOfDigits?, Number.digitsValue_numeral, Number.numeral_ne_nil, hall, h]
  rw [index?, hdigits]
  split
  · next ds hplus =>
    have hdigit := Number.isDigit_of_mem_numeral (hplus ▸ List.mem_cons_self : '+' ∈ _)
    exact absurd hdigit (by decide)
  · exact hsome

namespace Value

lemma toString_ne_length (n : Nat) : toString n ≠ "length" := by
  intro h
  have hdigits : Number.numeral n = "length".toList := by
    rw [← h, Nat.toString_eq_repr, Nat.toList_repr]
    rfl
  have hmem : 'l' ∈ Number.numeral n := by
    rw [hdigits]
    decide
  exact absurd (Number.isDigit_of_mem_numeral hmem) (by decide)

lemma property_text_toString (s : String) {i : Nat} (h : i < Nat.pow 2 64) :
    (text s).property (toString i) = character s i := by
  simp only [property, toString_ne_length, if_false, Path.index?_toString h]

lemma property_list_toString (items : List Value) {i : Nat} (h : i < Nat.pow 2 64) :
    (list items).property (toString i) = (items[i]?).getD null := by
  simp only [property, toString_ne_length, if_false, child?, Path.index?_toString h,
    Option.bind_some]

/-- A number that is the index of a character stands for the character there. -/
lemma atIndex_text_ofNat (s : String) {n : Nat} (h : n < Nat.pow 2 53) :
    (text s).atIndex (ofNat n) = character s n := by
  have hdisplay : (ofNat n).display = toString n := Number.display_ofNat h
  rw [← property_text_toString s (Nat.lt_trans h (by decide)), ← hdisplay]
  rfl

end Value
end ViewKit
