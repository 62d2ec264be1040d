/-
# Equality of values as data

Values are compared part by part, but a list of fields is compared with what stands under
the same names in another list, whatever the order.  For maps with distinct names this is
agreement of the look-ups under every name (`same_map_iff`); that equality is reflexive,
symmetric and transitive follows from it by induction on the parts of a value.
-/
import ViewKit.Proofs.Fields
import ViewKit.Proofs.Number.Equality
import ViewKit.Value.Basic

namespace ViewKit.Value

/-! ## Induction on the parts of a value -/

/-- What holds of a list or map if it holds of its parts, and of everything without parts,
holds of every value. -/
@[elab_as_elim]
theorem inductionOnParts {motive : Value → Prop}
    (leaf : ∀ v, v.isContainer = false → motive v)
    (list : ∀ items, (∀ v ∈ items, motive v) → motive (.list items))
    (map : ∀ fields, (∀ name v, (name, v) ∈ fields → motive v) → motive (.map fields))
    (v : Value) : motive v :=
  match v with
  | .null => leaf _ rfl
  | .bool _ => leaf _ rfl
  | .number _ => leaf _ rfl
  | .text _ => leaf _ rfl
  | .date _ => leaf _ rfl
  | .list items => list items fun w _ => inductionOnParts leaf list map w
  | .map fields => map fields fun _ w _ => inductionOnParts leaf list map w
termination_by sizeOf v
decreasing_by
  · next h =>
    have hlt := List.sizeOf_lt_of_mem h
    simp only [Value.list.sizeOf_spec]
    omega
  · next h =>
    have hlt := List.sizeOf_lt_of_mem h
    simp only [Value.map.sizeOf_spec, Prod.mk.sizeOf_spec] at hlt ⊢
    omega

/-! ## Well-formed parts -/

lemma wellFormedItems_iff {items : List Value} :
    WellFormedItems items ↔ ∀ v ∈ items, WellFormed v := by
  induction items with
  | nil => simp [WellFormedItems]
  | cons v items ih => simp [WellFormedItems, ih]

lemma wellFormedFields_iff {fields : List (String × Value)} :
    WellFormedFields fields ↔ ∀ name v, (name, v) ∈ fields → WellFormed v := by
  induction fields with
  | nil => simp [WellFormedFields]
  | cons p fields ih =>
    obtain ⟨n, w⟩ := p
    simp only [WellFormedFields, ih, List.mem_cons, Prod.mk.injEq]
    constructor
    · rintro ⟨hw, hrest⟩ name v (⟨-, rfl⟩ | h)
      · exact hw
      · exact hrest name v h
    · intro h
      exact ⟨h n w (Or.inl ⟨rfl, rfl⟩), fun name v hv => h name v (Or.inr hv)⟩

lemma wellFormed_list_iff {items : List Value} :
    WellFormed (.list items) ↔ ∀ v ∈ items, WellFormed v := by
  rw [WellFormed, wellFormedItems_iff]

lemma wellFormed_map_iff {fields : List (String × Value)} :
    WellFormed (.map fields) ↔
      Fields.Distinct fields ∧ ∀ name v, (name, v) ∈ fields → WellFormed v := by
  rw [WellFormed, wellFormedFields_iff]

/-- A field of a well-formed value is well formed. -/
lemma WellFormed.field? {v w : Value} {name : String} (hv : v.WellFormed)
    (h : v.field? name = some w) : w.WellFormed := by
  cases v with
  | map fields => exact (wellFormed_map_iff.1 hv).2 name w (Fields.mem_of_get? h)
  | _ => cases h

/-! ## Equality by parts -/

lemma beq_eq_same (v w : Value) : (v == w) = same v w := rfl

lemma sameItems_iff {xs ys : List Value} :
    sameItems xs ys = true ↔ List.Forall₂ (fun v w => same v w = true) xs ys := by
  induction xs generalizing ys with
  | nil => cases ys <;> simp [sameItems]
  | cons x xs ih => cases ys <;> simp [sameItems, ih]

lemma sameFields_cons {n : String} {u : Value} {fs gs : List (String × Value)} :
    sameFields ((n, u) :: fs) gs = true ↔
      (∃ w, Fields.get? n gs = some w ∧ same u w = true) ∧ sameFields fs gs = true := by
  rw [sameFields]
  cases Fields.get? n gs <;> simp

lemma sameFields_iff {fs gs : List (String × Value)} :
    sameFields fs gs = true ↔
      ∀ name v, (name, v) ∈ fs → ∃ w, Fields.get? name gs = some w ∧ same v w = true := by
  induction fs with
  | nil => simp [sameFields]
  | cons p fs ih =>
    obtain ⟨n, u⟩ := p
    rw [sameFields_cons, ih]
    constructor
    · rintro ⟨hu, hrest⟩ name v h
      rcases List.mem_cons.1 h with h | h
      · obtain ⟨rfl, rfl⟩ := Prod.mk.inj h
        exact hu
      · exact hrest name v h
    · intro h
      exact ⟨h n u List.mem_cons_self, fun name v hv => h name v (List.mem_cons_of_mem _ hv)⟩

/-- Maps with distinct names are equal if under every name there is nothing in either or
something equal in both. -/
lemma same_map_iff {fs gs : List (String × Value)} (hf : Fields.Distinct fs)
    (hg : Fields.Distinct gs) :
    same (.map fs) (.map gs) = true ↔
      ∀ name, Option.Rel (fun v w => same v w = true)
        (Fields.get? name fs) (Fields.get? name gs) := by
  rw [same, Bool.and_eq_true, beq_iff_eq, sameFields_iff]
  constructor
  · rintro ⟨hlen, hsame⟩ name
    have hsub : Fields.names fs ⊆ Fields.names gs := by
      intro n hn
      obtain ⟨v, hv⟩ := Fields.mem_names_iff.1 hn
      obtain ⟨w, hw, -⟩ := hsame n v (Fields.mem_of_get? hv)
      exact Fields.mem_names_iff.2 ⟨w, hw⟩
    cases hv : Fields.get? name fs with
    | some v =>
      obtain ⟨w, hw, hvw⟩ := hsame name v (Fields.mem_of_get? hv)
      rw [hw]
      exact .some hvw
    | none =>
      -- the lengths agree, so the other map has no name of its own
      have hsub' := hf.names_subset hsub (Nat.le_of_eq hlen.symm)
      have hnot : name ∉ Fields.names gs := fun h => Fields.get?_eq_none_iff.1 hv (hsub' h)
      rw [Fields.get?_eq_none_iff.2 hnot]
      exact .none
  · intro h
    have hnames : ∀ n, n ∈ Fields.names fs ↔ n ∈ Fields.names gs := by
      intro n
      have hrel := h n
      rw [← Fields.contains_iff, ← Fields.contains_iff, Fields.contains, Fields.contains]
      generalize Fields.get? n fs = x, Fields.get? n gs = y at hrel
      cases hrel <;> rfl
    refine ⟨?_, ?_⟩
    · exact Nat.le_antisymm (hf.length_le fun n hn => (hnames n).1 hn)
        (hg.length_le fun n hn => (hnames n).2 hn)
    · intro name v hv
      have hrel := h name
      rw [hf.get?_of_mem hv] at hrel
      generalize Fields.get? name gs = y at hrel
      cases hrel with
      | some hvw => exact ⟨_, rfl, hvw⟩

/-! ## Equality is an equivalence -/

/-- A value without parts is equal to itself. -/
lemma same_self_of_leaf {v : Value} (h : v.isContainer = false) : same v v = true := by
  cases v <;> simp_all [same, isContainer]

theorem same_refl {v : Value} (hv : v.WellFormed) : same v v = true := by
  induction v using inductionOnParts with
  | leaf v h => exact same_self_of_leaf h
  | list items ih =>
    rw [same, sameItems_iff, List.forall₂_same]
    exact fun v hm => ih v hm (wellFormed_list_iff.1 hv v hm)
  | map fields ih =>
    obtain ⟨hd, hparts⟩ := wellFormed_map_iff.1 hv
    rw [same_map_iff hd hd]
    intro name
    cases hg : Fields.get? name fields with
    | none => exact .none
    | some v =>
      have hm := Fields.mem_of_get? hg
      exact .some (ih name v hm (hparts name v hm))

/-- Only a map equals a map. -/
lemma exists_map_of_same {fs : List (String × Value)} {w : Value}
    (h : same (.map fs) w = true) : ∃ gs, w = .map gs := by
  cases w with
  | map gs => exact ⟨gs, rfl⟩
  | _ => simp [same] at h

/-- Only a list equals a list. -/
lemma exists_list_of_same {xs : List Value} {w : Value} (h : same (.list xs) w = true) :
    ∃ ys, w = .list ys := by
  cases w with
  | list ys => exact ⟨ys, rfl⟩
  | _ => simp [same] at h

lemma forall₂_symm {α : Type} {r : α → α → Prop} {xs ys : List α}
    (h : List.Forall₂ r xs ys) (hsymm : ∀ x ∈ xs, ∀ y ∈ ys, r x y → r y x) :
    List.Forall₂ r ys xs := by
  induction h with
  | nil => exact .nil
  | @cons x y xs ys hxy _ ih =>
    refine .cons (hsymm x List.mem_cons_self y List.mem_cons_self hxy) (ih ?_)
    intro x' hx y' hy
    exact hsymm x' (List.mem_cons_of_mem x hx) y' (List.mem_cons_of_mem y hy)

lemma rel_symm {α : Type} {r : α → α → Prop} {x y : Option α} (h : Option.Rel r x y)
    (hsymm : ∀ a, x = some a → ∀ b, y = some b → r a b → r b a) : Option.Rel r y x := by
  cases h with
  | none => exact .none
  | some hab => exact .some (hsymm _ rfl _ rfl hab)

lemma same_symm_of_leaf {v w : Value} (hleaf : v.isContainer = false)
    (h : same v w = true) : same w v = true := by
  cases v with
  | list _ => exact absurd hleaf (by simp [isContainer])
  | map _ => exact absurd hleaf (by simp [isContainer])
  | number x =>
    cases w with
    | number y => exact Number.same_symm h
    | _ => simp [same] at h
  | _ => cases w <;> simp_all [same]

theorem same_symm {v w : Value} (hv : v.WellFormed) (hw : w.WellFormed)
    (h : same v w = true) : same w v = true := by
  induction v using inductionOnParts generalizing w with
  | leaf v hleaf => exact same_symm_of_leaf hleaf h
  | list xs ih =>
    obtain ⟨ys, rfl⟩ := exists_list_of_same h
    rw [wellFormed_list_iff] at hv hw
    rw [same, sameItems_iff] at h ⊢
    exact forall₂_symm h fun x hx y hy hxy => ih x hx (hv x hx) (hw y hy) hxy
  | map fs ih =>
    obtain ⟨gs, rfl⟩ := exists_map_of_same h
    have hf := (wellFormed_map_iff.1 hv).1
    have hg := (wellFormed_map_iff.1 hw).1
    rw [same_map_iff hf hg] at h
    rw [same_map_iff hg hf]
    intro name
    refine rel_symm (h name) fun x hx y hy hxy => ?_
    exact ih name x (Fields.mem_of_get? hx) (hv.field? hx) (hw.field? hy) hxy

lemma forall₂_trans {α : Type} {r : α → α → Prop} {xs ys zs : List α}
    (hxy : List.Forall₂ r xs ys) (hyz : List.Forall₂ r ys zs)
    (htrans : ∀ x ∈ xs, ∀ y ∈ ys, ∀ z ∈ zs, r x y → r y z → r x z) : List.Forall₂ r xs zs := by
  induction hxy generalizing zs with
  | nil => exact hyz
  | @cons x y xs ys hxy _ ih =>
    cases hyz with
    | @cons _ z _ zs hyz hrest =>
      refine .cons ?_ (ih hrest ?_)
      · exact htrans x List.mem_cons_self y List.mem_cons_self z List.mem_cons_self hxy hyz
      · intro x' hx y' hy z' hz
        exact htrans x' (List.mem_cons_of_mem x hx) y' (List.mem_cons_of_mem y hy) z'
          (List.mem_cons_of_mem z hz)

lemma rel_trans {α : Type} {r : α → α → Prop} {x y z : Option α} (hxy : Option.Rel r x y)
    (hyz : Option.Rel r y z)
    (htrans : ∀ a, x = some a → ∀ b, y = some b → ∀ c, z = some c → r a b → r b c → r a c) :
    Option.Rel r x z := by
  cases hxy with
  | none => exact hyz
  | some hab =>
    cases hyz with
    | some hbc => exact .some (htrans _ rfl _ rfl _ rfl hab hbc)

/-- Of the values without parts only numbers can equal another value. -/
lemma eq_of_same_of_leaf {u v : Value} (hleaf : u.isContainer = false)
    (hnumber : u.asNumber? = none) (h : same u v = true) : u = v := by
  cases u <;> cases v <;> simp_all [same, isContainer, asNumber?]

lemma same_trans_of_leaf {u v w : Value} (hleaf : u.isContainer = false)
    (huv : same u v = true) (hvw : same v w = true) : same u w = true := by
  cases hnumber : u.asNumber? with
  | none =>
    rw [eq_of_same_of_leaf hleaf hnumber huv]
    exact hvw
  | some x =>
    cases u with
    | number x =>
      cases v with
      | number y =>
        cases w with
        | number z => exact Number.same_trans huv hvw
        | _ => simp [same] at hvw
      | _ => simp [same] at huv
    | _ => cases hnumber

theorem same_trans {u v w : Value} (hu : u.WellFormed) (hv : v.WellFormed) (hw : w.WellFormed)
    (huv : same u v = true) (hvw : same v w = true) : same u w = true := by
  induction u using inductionOnParts generalizing v w with
  | leaf u hleaf => exact same_trans_of_leaf hleaf huv hvw
  | list xs ih =>
    obtain ⟨ys, rfl⟩ := exists_list_of_same huv
    obtain ⟨zs, rfl⟩ := exists_list_of_same hvw
    rw [wellFormed_list_iff] at hu hv hw
    rw [same, sameItems_iff] at huv hvw ⊢
    exact forall₂_trans huv hvw fun x hx y hy z hz => ih x hx (hu x hx) (hv y hy) (hw z hz)
  | map fs ih =>
    obtain ⟨gs, rfl⟩ := exists_map_of_same huv
    obtain ⟨hs, rfl⟩ := exists_map_of_same hvw
    have hf := (wellFormed_map_iff.1 hu).1
    have hg := (wellFormed_map_iff.1 hv).1
    have hh := (wellFormed_map_iff.1 hw).1
    rw [same_map_iff hf hg] at huv
    rw [same_map_iff hg hh] at hvw
    rw [same_map_iff hf hh]
    intro name
    refine rel_trans (huv name) (hvw name) fun x hx y hy z hz => ?_
    exact ih name x (Fields.mem_of_get? hx) (hu.field? hx) (hv.field? hy) (hw.field? hz)

end ViewKit.Value
