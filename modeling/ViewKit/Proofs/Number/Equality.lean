/-
# Equality of numbers as data

Two doubles are the same datum when they compare as equal or when both are not a number.
The comparison looks at the class, the sign, the exponent and the mantissa of its operands
and at nothing else but the sign of a zero, which it ignores.  So equality as data is
equality of what is left of a double when the sign of zero is forgotten, and therefore it is
an equivalence.
-/
import Mathlib.Tactic.Lemma
import ViewKit.Number.Binary64

namespace ViewKit.Number

open Float.Model (UnpackedFloat)
open Float.Model.UnpackedFloat (Sign)

/-- The parts of an unpacked double without the sign of zero. -/
def content : UnpackedFloat → Binary64
  | .notANumber => .nan
  | .infinity s => .infinite (s == .negative)
  | .zero _ => .finite false 0 0
  | .finite s m e _ => .finite (s == .negative) m e

lemma isNaN_iff_content (u : UnpackedFloat) : u.isNaN = true ↔ content u = .nan := by
  cases u with
  | notANumber => exact iff_of_true rfl rfl
  | _ => exact iff_of_false nofun nofun

/-- What compares as equal has the same parts, and is a number. -/
lemma compare_eq_eq_iff (u v : UnpackedFloat) :
    u.compare v = some .eq ↔ content u = content v ∧ u.isNaN = false := by
  cases u with
  | notANumber => exact iff_of_false nofun fun h => nomatch h.2
  | infinity s =>
    cases v with
    | infinity t => cases s <;> cases t <;> decide
    | _ => cases s <;> exact iff_of_false nofun fun h => nomatch h.1
  | zero s =>
    cases v with
    | notANumber => exact iff_of_false nofun fun h => nomatch h.1
    | infinity t => cases t <;> exact iff_of_false nofun fun h => nomatch h.1
    | zero t => exact iff_of_true rfl ⟨rfl, rfl⟩
    | finite t n p hn =>
      have hne : content (.zero s) ≠ content (.finite t n p hn) := by
        intro h
        obtain ⟨-, hzero, -⟩ := Binary64.finite.inj h
        omega
      cases t <;> exact iff_of_false nofun fun h => hne h.1
  | finite s m e hm =>
    cases v with
    | notANumber => exact iff_of_false nofun fun h => nomatch h.1
    | infinity t => cases s <;> cases t <;> exact iff_of_false nofun fun h => nomatch h.1
    | zero t =>
      have hne : content (.finite s m e hm) ≠ content (.zero t) := by
        intro h
        obtain ⟨-, hzero, -⟩ := Binary64.finite.inj h
        omega
      cases s <;> exact iff_of_false nofun fun h => hne h.1
    | finite t n p hn =>
      have hparts : content (.finite s m e hm) = content (.finite t n p hn) ↔
          (s == .negative) = (t == .negative) ∧ m = n ∧ e = p :=
        Binary64.finite.injEq _ _ _ _ _ _ ▸ Iff.rfl
      have horder : (compare e p).then (compare m n) = .eq ↔ m = n ∧ e = p := by
        rw [Ordering.then_eq_eq, Int.compare_eq_eq, Nat.compare_eq_eq, and_comm]
      have hnan : (UnpackedFloat.finite s m e hm).isNaN = false := rfl
      rw [hparts, hnan]
      cases s <;> cases t
      · show some ((compare e p).then (compare m n)).swap = some .eq ↔ _
        simp [horder]
      · exact iff_of_false nofun fun h => nomatch h.1.1
      · exact iff_of_false nofun fun h => nomatch h.1.1
      · show some ((compare e p).then (compare m n)) = some .eq ↔ _
        simp [horder]

/-- Numbers are the same datum if they agree in all but the sign of zero. -/
lemma same_iff_content (x y : Float) :
    same x y = true ↔ content x.toModel.unpack = content y.toModel.unpack := by
  have heq : (x == y) = true ↔ x.toModel.unpack.compare y.toModel.unpack = some .eq := by
    change (x.toModel.unpack.compare y.toModel.unpack == some .eq) = true ↔ _
    exact beq_iff_eq
  have hx : x.isNaN = x.toModel.unpack.isNaN := rfl
  have hy : y.isNaN = y.toModel.unpack.isNaN := rfl
  rw [same, Bool.or_eq_true, Bool.and_eq_true, heq, compare_eq_eq_iff, hx, hy,
    isNaN_iff_content, isNaN_iff_content]
  constructor
  · rintro (⟨h, -⟩ | ⟨h₁, h₂⟩)
    · exact h
    · rw [h₁, h₂]
  · intro h
    by_cases hnan : content x.toModel.unpack = .nan
    · exact Or.inr ⟨hnan, h ▸ hnan⟩
    · refine Or.inl ⟨h, ?_⟩
      rw [← Bool.not_eq_true, isNaN_iff_content]
      exact hnan

@[simp] lemma same_self (x : Float) : same x x = true :=
  (same_iff_content x x).2 rfl

lemma same_symm {x y : Float} (h : same x y = true) : same y x = true := by
  rw [same_iff_content] at h ⊢
  exact h.symm

lemma same_trans {x y z : Float} (hxy : same x y = true) (hyz : same y z = true) :
    same x z = true := by
  rw [same_iff_content] at hxy hyz ⊢
  exact hxy.trans hyz

end ViewKit.Number
