/-
# Walking down by names

Below a value lie the contents of its fields, and below a change the changes of the fields of
a map.  Either is found by a list of names, one for each level (`Value.at?`, `Diff.at?`).  In
contrast to the segments of a path, names lead through maps only, and they may be any texts.

A tree of changes changes no field twice (`Diff.WellFormed`), as no map has a name twice.
-/
import ViewKit.Proofs.Diff.Fieldwise

namespace ViewKit

namespace Value

/-- What lies below a value under some names. -/
def at? (v : Value) : List String → Option Value
  | [] => some v
  | name :: names => (v.field? name).bind fun child => child.at? names

variable {v w : Value} {name : String}

lemma bind_at?_nil (x : Option Value) : (x.bind fun v => v.at? []) = x := Option.bind_fun_some x

/-- The fields of a value that is no map are none. -/
lemma field?_eq (v : Value) (name : String) :
    v.field? name = Fields.get? name (v.asMap?.getD []) := by
  cases v <;> rfl

lemma WellFormed.distinct (hv : v.WellFormed) : Fields.Distinct (v.asMap?.getD []) := by
  cases v with
  | map fields => exact (wellFormed_map_iff.1 hv).1
  | _ => exact List.nodup_nil

lemma WellFormed.at? (hv : v.WellFormed) {names : List String} (h : v.at? names = some w) :
    w.WellFormed := by
  induction names generalizing v with
  | nil =>
    obtain rfl : v = w := Option.some.inj h
    exact hv
  | cons name names ih =>
    obtain ⟨child, hchild, hrest⟩ := Option.bind_eq_some_iff.1 h
    exact ih (hv.field? hchild) hrest

/-- An empty map may stand for what is not there. -/
lemma wellFormed_getD {x : Option Value} (h : ∀ v, x = some v → v.WellFormed) :
    (x.getD .emptyMap).WellFormed := by
  cases x with
  | none => exact wellFormed_map_iff.2 ⟨List.nodup_nil, nofun⟩
  | some v => exact h v rfl

end Value

namespace Diff

/-- A leaf sets a value or removes a field. -/
def isLeaf : Diff → Bool
  | nested _ => false
  | _ => true

/-- The change of a field. -/
def change? (d : Diff) (name : String) : Option Diff :=
  match d with
  | nested changes => Fields.get? name changes
  | _ => none

/-- What lies below a change under some names. -/
def at? (d : Diff) : List String → Option Diff
  | [] => some d
  | name :: names => (d.change? name).bind fun c => c.at? names

mutual

/-- No field is changed twice, at any depth. -/
def WellFormed : Diff → Prop
  | nested changes => Fields.Distinct changes ∧ WellFormedChanges changes
  | _ => True

/-- Every change of some fields is well formed. -/
def WellFormedChanges : List (String × Diff) → Prop
  | [] => True
  | (_, d) :: changes => WellFormed d ∧ WellFormedChanges changes

end

variable {d c : Diff} {cs : List (String × Diff)} {name : String}

lemma wellFormedChanges_iff :
    WellFormedChanges cs ↔ ∀ name c, (name, c) ∈ cs → WellFormed c := by
  induction cs with
  | nil => simp [WellFormedChanges]
  | cons p cs ih =>
    obtain ⟨n, e⟩ := p
    rw [WellFormedChanges, ih]
    constructor
    · rintro ⟨he, hrest⟩ name c h
      rcases List.mem_cons.1 h with h | h
      · obtain ⟨rfl, rfl⟩ := Prod.mk.inj h
        exact he
      · exact hrest name c h
    · intro h
      exact ⟨h n e List.mem_cons_self, fun name c hc => h name c (List.mem_cons_of_mem _ hc)⟩

lemma wellFormed_nested_iff : WellFormed (nested cs) ↔
    Fields.Distinct cs ∧ ∀ name c, (name, c) ∈ cs → WellFormed c := by
  rw [WellFormed, wellFormedChanges_iff]

lemma WellFormed.change? (hd : d.WellFormed) (h : d.change? name = some c) : c.WellFormed := by
  cases d with
  | nested cs => exact (wellFormed_nested_iff.1 hd).2 name c (Fields.mem_of_get? h)
  | _ => cases h

lemma WellFormed.at? (hd : d.WellFormed) {names : List String} (h : d.at? names = some c) :
    c.WellFormed := by
  induction names generalizing d with
  | nil =>
    obtain rfl : d = c := Option.some.inj h
    exact hd
  | cons name names ih =>
    obtain ⟨e, he, hrest⟩ := Option.bind_eq_some_iff.1 h
    exact ih (hd.change? he) hrest

lemma bind_at?_nil (x : Option Diff) : (x.bind fun d => d.at? []) = x := Option.bind_fun_some x

lemma at?_append (d : Diff) (xs ys : List String) :
    d.at? (xs ++ ys) = (d.at? xs).bind fun c => c.at? ys := by
  induction xs generalizing d with
  | nil => rfl
  | cons x xs ih =>
    rw [List.cons_append, Diff.at?, Diff.at?, Option.bind_assoc]
    exact Option.bind_congr fun c _ => ih c

/-- Induction along a tree of changes: what holds of the leaves, and of a node if it holds of the
changes of its fields, holds of every change. -/
@[elab_as_elim]
theorem inductionOnChanges {motive : Diff → Prop} (set : ∀ v, motive (set v))
    (removed : motive removed)
    (nested : ∀ cs, (∀ name c, (name, c) ∈ cs → motive c) → motive (nested cs)) (d : Diff) :
    motive d :=
  match d with
  | .set v => set v
  | .removed => removed
  | .nested cs => nested cs fun _ c _ => inductionOnChanges set removed nested c
termination_by sizeOf d
decreasing_by
  next h =>
    have hlt := List.sizeOf_lt_of_mem h
    simp only [Diff.nested.sizeOf_spec, Prod.mk.sizeOf_spec] at hlt ⊢
    omega

end Diff
end ViewKit
