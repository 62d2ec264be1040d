/-
# Equality ignores the order of fields

Equality of values as data is an equivalence, and for maps it says that the fields of one can
be put in an order in which they have the names of the other and equal contents.  Whether
there are changes between two values depends on the values only up to equality
(`equality_laws`).
-/
import Mathlib.Data.List.Forall2
import Mathlib.Data.List.Nodup
import ViewKit.Proofs.Diff.Inverse

namespace ViewKit.Value

/-- Two fields have the same name and equal contents. -/
def SameField (p q : String × Value) : Prop := p.1 = q.1 ∧ (p.2 == q.2) = true

variable {fs gs hs : List (String × Value)}

lemma rel_get?_of_sameFields (h : List.Forall₂ SameField fs hs) (name : String) :
    Option.Rel (fun v w => same v w = true) (Fields.get? name fs) (Fields.get? name hs) := by
  induction h with
  | nil => exact .none
  | @cons p q fs hs hpq _ ih =>
    obtain ⟨n, v⟩ := p
    obtain ⟨m, w⟩ := q
    obtain ⟨rfl, hvw⟩ : n = m ∧ same v w = true := hpq
    rw [Fields.get?_cons, Fields.get?_cons]
    split
    · exact .some hvw
    · exact ih

/-- Fields with what stands under their names in others. -/
def filledFrom (gs fs : List (String × Value)) : List (String × Value) :=
  fs.map fun p => (p.1, (Fields.get? p.1 gs).getD .null)

lemma names_filledFrom (gs fs : List (String × Value)) :
    Fields.names (filledFrom gs fs) = Fields.names fs := by
  simp [Fields.names, filledFrom]

/-- For two maps with the same names, the fields of one with the contents of the other are the
fields of the other in another order. -/
lemma filledFrom_perm (hf : Fields.Distinct fs) (hg : Fields.Distinct gs)
    (hnames : ∀ name, name ∈ Fields.names fs ↔ name ∈ Fields.names gs) :
    (filledFrom gs fs).Perm gs := by
  have hfilled : Fields.Distinct (filledFrom gs fs) := by
    rw [Fields.Distinct, names_filledFrom]
    exact hf
  refine (List.perm_ext_iff_of_nodup (List.Nodup.of_map _ hfilled) (List.Nodup.of_map _ hg)).2 ?_
  rintro ⟨name, w⟩
  constructor
  · intro hmem
    obtain ⟨⟨n, v⟩, hv, heq⟩ := List.mem_map.1 hmem
    obtain ⟨rfl, rfl⟩ := Prod.mk.inj heq
    obtain ⟨w, hw⟩ := Fields.mem_names_iff.1 ((hnames n).1 (Fields.mem_names_of_mem hv))
    rw [hw]
    exact Fields.mem_of_get? hw
  · intro hmem
    obtain ⟨v, hv⟩ := Fields.mem_names_iff.1 ((hnames name).2 (Fields.mem_names_of_mem hmem))
    refine List.mem_map.2 ⟨(name, v), Fields.mem_of_get? hv, ?_⟩
    rw [hg.get?_of_mem hmem]
    rfl

/-- Maps are equal exactly if the fields of one, in another order, are those of the other up to
equal contents. -/
theorem same_map_iff_perm (hf : Fields.Distinct fs) (hg : Fields.Distinct gs) :
    same (.map fs) (.map gs) = true ↔ ∃ hs, hs.Perm gs ∧ List.Forall₂ SameField fs hs := by
  rw [same_map_iff hf hg]
  constructor
  · intro h
    refine ⟨filledFrom gs fs, filledFrom_perm hf hg fun name => ?_, ?_⟩
    · have hrel := h name
      rw [Fields.mem_names_iff, Fields.mem_names_iff]
      generalize Fields.get? name fs = x, Fields.get? name gs = y at hrel
      cases hrel <;> simp
    · rw [filledFrom, List.forall₂_map_right_iff, List.forall₂_same]
      rintro ⟨n, v⟩ hv
      have hrel := h n
      rw [hf.get?_of_mem hv] at hrel
      refine ⟨rfl, ?_⟩
      generalize Fields.get? n gs = y at hrel
      cases hrel with
      | some hvw => exact hvw
  · rintro ⟨hs, hperm, hsame⟩ name
    rw [← (hg.perm hperm.symm).get?_perm hperm]
    exact rel_get?_of_sameFields hsame name

/-- Equality of values is reflexive, symmetric and transitive; two maps are equal exactly if
the fields of one are those of the other in another order, up to equal contents; and there
are no changes between two values exactly if there are none between two others that are equal
to them. -/
theorem equality_laws (u v w x : Value) (hu : u.WellFormed) (hv : v.WellFormed)
    (hw : w.WellFormed) (hx : x.WellFormed) :
    (u == u) = true ∧
      ((u == v) = true → (v == u) = true) ∧
      ((u == v) = true → (v == w) = true → (u == w) = true) ∧
      (∀ fs gs, u = .map fs → v = .map gs →
        ((u == v) = true ↔ ∃ hs, hs.Perm gs ∧ List.Forall₂ SameField fs hs)) ∧
      ((u == v) = true → (w == x) = true →
        (Diff.between? u w = none ↔ Diff.between? v x = none)) := by
  refine ⟨same_refl hu, same_symm hu hv, same_trans hu hv hw, ?_, ?_⟩
  · rintro fs gs rfl rfl
    exact same_map_iff_perm (wellFormed_map_iff.1 hu).1 (wellFormed_map_iff.1 hv).1
  · intro huv hwx
    rw [Diff.between?_eq_none_iff hu hw, Diff.between?_eq_none_iff hv hx]
    constructor
    · intro huw
      exact same_trans hv hu hx (same_symm hu hv huv) (same_trans hu hw hx huw hwx)
    · intro hvx
      exact same_trans hu hv hw huv (same_trans hv hx hw hvx (same_symm hw hx hwx))

/-- The laws at maps with their fields in different orders, at both levels, where one has a
nan and the other zero or its negative. -/
theorem equality_laws_reordered :
    let u : Value :=
      .map [("a", .number (0 / 0)), ("b", .list [.map [("y", .number 0), ("x", .null)]])]
    let v : Value :=
      .map [("b", .list [.map [("x", .null), ("y", .number (-0))]]), ("a", .number (0 / 0))]
    let x : Value := .map [("b", .null)]
    (u.WellFormed ∧ v.WellFormed ∧ x.WellFormed ∧ (u == v) = true) ∧ (u == u) = true ∧
      (v == u) = true ∧
      (∃ hs, hs.Perm [("b", .list [.map [("x", .null), ("y", .number (-0))]]),
          ("a", .number (0 / 0))] ∧
        List.Forall₂ SameField
          [("a", .number (0 / 0)), ("b", .list [.map [("y", .number 0), ("x", .null)]])] hs) ∧
      (Diff.between? u x = none ↔ Diff.between? v x = none) := by
  intro u v x
  have hu : u.WellFormed := by
    simp [u, WellFormed, WellFormedFields, WellFormedItems, Fields.Distinct, Fields.names]
  have hv : v.WellFormed := by
    simp [v, WellFormed, WellFormedFields, WellFormedItems, Fields.Distinct, Fields.names]
  have hx : x.WellFormed := by
    simp [x, WellFormed, WellFormedFields, Fields.Distinct, Fields.names]
  have huv : (u == v) = true := by rfl
  have hxx : (x == x) = true := same_refl hx
  obtain ⟨hrefl, hsymm, -, hmaps, hchanges⟩ := equality_laws u v x x hu hv hx hx
  exact ⟨⟨hu, hv, hx, huv⟩, hrefl, hsymm huv, (hmaps _ _ rfl rfl).1 huv, hchanges huv hxx⟩

end ViewKit.Value
