/-
# The changes between two values lead from one to the other

There are no changes between two values exactly when they are equal, and carrying out the
changes that turn an old value into a new one on the old value gives a value equal to the
new one (`between?_inverse`).  Equality is equality as data, which ignores the order of the
fields of a map.  Both parts are an induction on the old value; for two maps they come down
to one name at a time, where the change is that of what stands under the name.
-/
import ViewKit.Proofs.Diff.Fieldwise
import ViewKit.Proofs.Value.Equality

namespace ViewKit.Diff

open Value (same WellFormed)

variable {new old : Value}

lemma replacement?_eq_none_iff : replacement? new old = none ↔ same new old = true := by
  rw [replacement?, Value.beq_eq_same]
  cases same new old <;> simp

lemma replacement?_eq_some_iff {d : Diff} :
    replacement? new old = some d ↔ (new == old) = false ∧ d = set new := by
  rw [replacement?]
  cases new == old <;> simp [eq_comm]

/-- Under one name there is no change exactly when there is nothing on either side or
something equal on both. -/
lemma fieldChange?_eq_none_iff {x y : Option Value}
    (h : ∀ v o, x = some v → y = some o → (between? v o = none ↔ same v o = true)) :
    fieldChange? x y = none ↔ Option.Rel (fun v o => same v o = true) x y := by
  cases x with
  | none =>
    cases y with
    | none => exact ⟨fun _ => .none, fun _ => rfl⟩
    | some o => exact ⟨nofun, nofun⟩
  | some v =>
    cases y with
    | none => exact ⟨nofun, nofun⟩
    | some o =>
      rw [fieldChange?, h v o rfl rfl]
      exact ⟨fun hvo => .some hvo, fun hrel => by cases hrel with | some hvo => exact hvo⟩

/-- Values without changes between them are the equal ones. -/
theorem between?_eq_none_iff (hn : new.WellFormed) (ho : old.WellFormed) :
    between? new old = none ↔ same new old = true := by
  induction new, old using inductionOnMaps with
  | whole new old hmaps => rw [between?_of_not_maps hmaps, replacement?_eq_none_iff]
  | maps fs gs ih =>
    have hf := (Value.wellFormed_map_iff.1 hn).1
    have hg := (Value.wellFormed_map_iff.1 ho).1
    rw [between?_map_eq_none_iff hf hg, Value.same_map_iff hf hg]
    refine forall_congr' fun name => fieldChange?_eq_none_iff fun v o hx hy => ?_
    exact ih name v o hx hy (hn.field? hx) (ho.field? hy)

/-- What a change of one field makes of the old content equals the new one, if changes of
the contents do so. -/
lemma changeField?_fieldChange? {x y : Option Value}
    (hx : ∀ v, x = some v → v.WellFormed) (hy : ∀ o, y = some o → o.WellFormed)
    (h : ∀ v o d, x = some v → y = some o → between? v o = some d →
      same (apply d o) v = true) :
    Option.Rel (fun v w => same v w = true) (changeField? (fieldChange? x y) y) x := by
  cases x with
  | none => cases y <;> exact .none
  | some v =>
    have hv := hx v rfl
    cases y with
    | none => exact .some (Value.same_refl hv)
    | some o =>
      have ho := hy o rfl
      rw [fieldChange?]
      cases hd : between? v o with
      | none => exact .some (Value.same_symm hv ho ((between?_eq_none_iff hv ho).1 hd))
      | some d =>
        have hsame := h v o d rfl rfl hd
        cases d with
        | removed => exact absurd hd (between?_ne_removed v o)
        | set _ => exact .some hsame
        | nested _ => exact .some hsame

/-- Carrying changes out on the old value gives the new one. -/
theorem same_apply_of_between? {d : Diff} (hn : new.WellFormed) (ho : old.WellFormed)
    (h : between? new old = some d) : same (apply d old) new = true := by
  induction new, old using inductionOnMaps generalizing d with
  | whole new old hmaps =>
    rw [between?_of_not_maps hmaps] at h
    rw [(replacement?_eq_some_iff.1 h).2]
    exact Value.same_refl hn
  | maps fs gs ih =>
    have hf := (Value.wellFormed_map_iff.1 hn).1
    have hg := (Value.wellFormed_map_iff.1 ho).1
    have hnested : apply d (.map gs) = .map (applyAll (fieldChanges fs gs) gs) := by
      rw [eq_nested_of_between?_map h]
      rfl
    rw [hnested, Value.same_map_iff (distinct_applyAll hg) hf]
    -- from here on under one name
    intro name
    rw [get?_applyAll (distinct_fieldChanges hf hg) hg, get?_fieldChanges hf hg]
    refine changeField?_fieldChange? (fun _ hx => hn.field? hx) (fun _ hy => ho.field? hy) ?_
    intro v o d hx hy hd
    exact ih name v o hx hy (hn.field? hx) (ho.field? hy) hd

/-! ## The inverse law -/

/-- There are no changes between two values exactly when they are equal, and changes carried
out on the old value give a value equal to the new one. -/
theorem between?_inverse (new old : Value) (hn : new.WellFormed) (ho : old.WellFormed) :
    (between? new old = none ↔ (new == old) = true) ∧
      ∀ d, between? new old = some d → (d.apply old == new) = true :=
  ⟨between?_eq_none_iff hn ho, fun _ => same_apply_of_between? hn ho⟩

/-- The law at two maps whose fields stand in different orders: one field is changed inside,
one is as it was, and the nan and the zeros count as equal. -/
theorem between?_inverse_reordered :
    let new : Value :=
      .map [("b", .number (0 / 0)), ("a", .map [("y", .number (-0)), ("x", .null)])]
    let old : Value := .map [("a", .map [("z", .null), ("y", .number 0)]), ("b", .number (0 / 0))]
    let d : Diff := nested [("a", nested [("x", set .null), ("z", removed)])]
    new.WellFormed ∧ old.WellFormed ∧ between? new old = some d ∧ (d.apply old == new) = true := by
  intro new old d
  have hn : new.WellFormed := by
    simp [new, Value.WellFormed, Value.WellFormedFields, Fields.Distinct, Fields.names]
  have ho : old.WellFormed := by
    simp [old, Value.WellFormed, Value.WellFormedFields, Fields.Distinct, Fields.names]
  have hd : between? new old = some d := by rfl
  exact ⟨hn, ho, hd, (between?_inverse new old hn ho).2 d hd⟩

end ViewKit.Diff
