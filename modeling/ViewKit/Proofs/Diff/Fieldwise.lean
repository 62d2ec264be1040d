/-
# Changes field by field

The changes between two maps are made in two passes, first over the fields of the new map
and then over those of the old one, and carrying them out is a third pass over the changes.
This file describes all three by what they do under one name: `fieldChange?` says which
change there is, from what stands under the name on either side, and `changeField?` what a
change makes of what stood there.  With distinct names, making the changes of two maps is
`fieldChange?` under every name (`get?_fieldChanges`), and carrying changes out is
`changeField?` under every name (`get?_applyAll`).
-/
import ViewKit.Diff
import ViewKit.Proofs.Fields
import ViewKit.Proofs.Value.Equality

namespace ViewKit.Diff

variable {newFields oldFields fields : List (String × Value)} {cs : List (String × Diff)}

/-! ## Induction on two values -/

/-- Induction along the fields that two values share: what holds of two values that are not
both maps, and of two maps if it holds of what stands under the same names, holds of all. -/
@[elab_as_elim]
theorem inductionOnMaps {motive : Value → Value → Prop}
    (whole : ∀ new old, (∀ fs gs, new = .map fs → old ≠ .map gs) → motive new old)
    (maps : ∀ fs gs, (∀ name v o, Fields.get? name fs = some v → Fields.get? name gs = some o →
      motive v o) → motive (.map fs) (.map gs))
    (new old : Value) : motive new old := by
  -- on the old value; the new one is whatever stands under the same name
  induction old using Value.inductionOnParts generalizing new with
  | leaf old hleaf =>
    refine whole new old fun fs gs _ hold => ?_
    rw [hold] at hleaf
    cases hleaf
  | list items _ => exact whole new _ fun fs gs _ hold => Value.noConfusion hold
  | map gs ih =>
    by_cases hnew : ∃ fs, new = .map fs
    · obtain ⟨fs, rfl⟩ := hnew
      exact maps fs gs fun name v o _ ho => ih name o (Fields.mem_of_get? ho) v
    · exact whole new _ fun fs _ h => absurd ⟨fs, h⟩ hnew

/-! ## The changes between two maps -/

/-- The change of what stands under one name. -/
def fieldChange? : Option Value → Option Value → Option Diff
  | none, none => none
  | some v, none => some (set v)
  | none, some _ => some removed
  | some v, some o => between? v o

/-- The changes of all fields of two maps. -/
def fieldChanges (newFields oldFields : List (String × Value)) : List (String × Diff) :=
  additions oldFields newFields ++ changes newFields oldFields

lemma additions_eq_select (oldFields newFields : List (String × Value)) :
    additions oldFields newFields = Fields.select
      (fun name v => if Fields.contains name oldFields then none else some (set v)) newFields := by
  induction newFields with
  | nil => rfl
  | cons p newFields ih =>
    obtain ⟨name, v⟩ := p
    rw [additions, Fields.select_cons, ih]
    split <;> rfl

lemma changes_eq_select (newFields oldFields : List (String × Value)) :
    changes newFields oldFields = Fields.select
      (fun name o => fieldChange? (Fields.get? name newFields) (some o)) oldFields := by
  induction oldFields with
  | nil => rfl
  | cons p oldFields ih =>
    obtain ⟨name, o⟩ := p
    rw [changes, Fields.select_cons, ih]
    cases hn : Fields.get? name newFields with
    | none => rfl
    | some v =>
      dsimp only [fieldChange?]
      cases between? v o <;> rfl

lemma get?_additions (hn : Fields.Distinct newFields) (name : String) :
    Fields.get? name (additions oldFields newFields) =
      match Fields.get? name oldFields with
      | none => (Fields.get? name newFields).map set
      | some _ => none := by
  rw [additions_eq_select, hn.get?_select, Fields.contains]
  cases Fields.get? name oldFields <;> cases Fields.get? name newFields <;> rfl

lemma get?_changes (ho : Fields.Distinct oldFields) (name : String) :
    Fields.get? name (changes newFields oldFields) =
      (Fields.get? name oldFields).bind fun o =>
        fieldChange? (Fields.get? name newFields) (some o) := by
  rw [changes_eq_select, ho.get?_select]

/-- Between two maps there is under each name the change of what stands there. -/
lemma get?_fieldChanges (hn : Fields.Distinct newFields) (ho : Fields.Distinct oldFields)
    (name : String) :
    Fields.get? name (fieldChanges newFields oldFields) =
      fieldChange? (Fields.get? name newFields) (Fields.get? name oldFields) := by
  rw [fieldChanges, Fields.get?_append, get?_additions hn, get?_changes ho]
  cases Fields.get? name oldFields <;> cases Fields.get? name newFields <;> rfl

/-- No name is changed twice: what is added was not there before, and all else was. -/
lemma distinct_fieldChanges (hn : Fields.Distinct newFields) (ho : Fields.Distinct oldFields) :
    Fields.Distinct (fieldChanges newFields oldFields) := by
  refine Fields.Distinct.append ?_ ?_ ?_
  · rw [additions_eq_select]
    exact hn.select _
  · rw [changes_eq_select]
    exact ho.select _
  · intro name hadd hchg
    obtain ⟨d, hd⟩ := Fields.mem_names_iff.1 hadd
    obtain ⟨e, he⟩ := Fields.mem_names_iff.1 hchg
    rw [get?_additions hn] at hd
    rw [get?_changes ho] at he
    cases hg : Fields.get? name oldFields with
    | none => rw [hg] at he; cases he
    | some o => rw [hg] at hd; cases hd

lemma between?_map (newFields oldFields : List (String × Value)) :
    between? (.map newFields) (.map oldFields) =
      match fieldChanges newFields oldFields with
      | [] => none
      | all => some (nested all) := by
  rw [between?]
  rfl

lemma between?_map_eq_none_iff (hn : Fields.Distinct newFields)
    (ho : Fields.Distinct oldFields) :
    between? (.map newFields) (.map oldFields) = none ↔
      ∀ name, fieldChange? (Fields.get? name newFields) (Fields.get? name oldFields) = none := by
  have hnil : between? (.map newFields) (.map oldFields) = none ↔
      fieldChanges newFields oldFields = [] := by
    rw [between?_map]
    split <;> simp_all
  rw [hnil, Fields.eq_nil_iff]
  simp only [get?_fieldChanges hn ho]

lemma eq_nested_of_between?_map {d : Diff}
    (h : between? (.map newFields) (.map oldFields) = some d) :
    d = nested (fieldChanges newFields oldFields) := by
  rw [between?_map] at h
  split at h
  · cases h
  · exact (Option.some.inj h).symm

/-- Whatever is not a map on both sides is replaced as a whole. -/
lemma between?_of_not_maps {new old : Value}
    (h : ∀ fs gs, new = .map fs → old ≠ .map gs) : between? new old = replacement? new old := by
  cases old with
  | map gs =>
    cases new with
    | map fs => exact absurd rfl (h fs gs rfl)
    | _ => rfl
  | _ => rfl

/-- A change between two values never removes anything at its root. -/
lemma between?_ne_removed (new old : Value) : between? new old ≠ some removed := by
  by_cases h : ∀ fs gs, new = .map fs → old ≠ .map gs
  · rw [between?_of_not_maps h, replacement?]
    split <;> simp
  · push Not at h
    obtain ⟨fs, gs, rfl, rfl⟩ := h
    rw [between?_map]
    split <;> simp

/-! ## Carrying changes out -/

/-- What a change makes of what stands under its name. -/
def changeField? : Option Diff → Option Value → Option Value
  | none, target => target
  | some removed, _ => none
  | some d, target => some (apply d (target.getD .emptyMap))

/-- Carries one change out on the fields of a map. -/
def applyField (name : String) (d : Diff) (fields : List (String × Value)) :
    List (String × Value) :=
  match d with
  | removed => Fields.erase name fields
  | d => Fields.insert name (apply d ((Fields.get? name fields).getD .emptyMap)) fields

lemma applyAll_cons (name : String) (d : Diff) (cs : List (String × Diff))
    (fields : List (String × Value)) :
    applyAll ((name, d) :: cs) fields = applyAll cs (applyField name d fields) := by
  cases d with
  | set v => rw [applyAll]; rfl
  | removed => rw [applyAll]; rfl
  | nested inner => rw [applyAll]; rfl

lemma distinct_applyField (hf : Fields.Distinct fields) (name : String) (d : Diff) :
    Fields.Distinct (applyField name d fields) := by
  cases d with
  | removed => exact hf.erase name
  | _ => exact hf.insert name _

lemma get?_applyField (hf : Fields.Distinct fields) (name other : String) (d : Diff) :
    Fields.get? other (applyField name d fields) =
      if other = name then changeField? (some d) (Fields.get? name fields)
      else Fields.get? other fields := by
  cases d with
  | removed => exact hf.get?_erase name other
  | set v => exact Fields.get?_insert name other _ fields
  | nested inner => exact Fields.get?_insert name other _ fields

lemma get?_applyField_of_ne {name other : String} (h : other ≠ name) (d : Diff)
    (fields : List (String × Value)) :
    Fields.get? other (applyField name d fields) = Fields.get? other fields := by
  cases d with
  | removed => exact Fields.get?_erase_of_ne h fields
  | _ => exact Fields.get?_insert_of_ne h _ fields

lemma distinct_applyAll (hf : Fields.Distinct fields) : Fields.Distinct (applyAll cs fields) := by
  induction cs generalizing fields with
  | nil => exact hf
  | cons p cs ih =>
    obtain ⟨name, d⟩ := p
    rw [applyAll_cons]
    exact ih (distinct_applyField hf name d)

/-- Carrying changes out does under each name what the change of that name does. -/
lemma get?_applyAll (hc : Fields.Distinct cs) (hf : Fields.Distinct fields) (name : String) :
    Fields.get? name (applyAll cs fields) =
      changeField? (Fields.get? name cs) (Fields.get? name fields) := by
  induction cs generalizing fields with
  | nil => rfl
  | cons p cs ih =>
    obtain ⟨n, d⟩ := p
    obtain ⟨hn, hc⟩ := List.nodup_cons.1 hc
    rw [applyAll_cons, ih hc (distinct_applyField hf n d), get?_applyField hf, Fields.get?_cons]
    by_cases h : n = name
    · -- no later change is under this name, so what this one made stays
      subst h
      have hnone : Fields.get? n cs = none := Fields.get?_eq_none_iff.2 hn
      rw [if_pos rfl, if_pos rfl, hnone, changeField?]
    · rw [if_neg h, if_neg (Ne.symm h)]

end ViewKit.Diff
