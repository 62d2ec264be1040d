/-
# The entries of changes

The leaves of a tree of changes are listed with their paths.  Paths are texts with dots
between names, so the path of a leaf leads to it only if no name contains a dot, and an empty
name at the top would be the path of the whole value.  Beyond that the changes have to fit
the value they are carried out on: where they are nested there is a map (`Fits`).  Changes
between two values fit the old one (`fits_of_between?`), and the paths of two entries part at
some map into two different names (`exists_segments_of_mem_entriesOf`).
-/
import ViewKit.Path.Index
import ViewKit.Proofs.Diff.Inverse

namespace ViewKit

/-! ## The names in a value -/

namespace Value

mutual

/-- The names of the fields of all maps in a value, at any depth. -/
def allNames : Value → List String
  | list items => allNamesOfItems items
  | map fields => allNamesOfFields fields
  | _ => []

/-- The names in the values of a list. -/
def allNamesOfItems : List Value → List String
  | [] => []
  | v :: vs => allNames v ++ allNamesOfItems vs

/-- The names of some fields and those in their values. -/
def allNamesOfFields : List (String × Value) → List String
  | [] => []
  | (name, v) :: fields => name :: allNames v ++ allNamesOfFields fields

end

/-- No name in the value contains the dot that separates the names of a path. -/
def Undotted (v : Value) : Prop := ∀ name ∈ v.allNames, '.' ∉ name.toList

instance (v : Value) : Decidable v.Undotted :=
  inferInstanceAs (Decidable (∀ name ∈ v.allNames, '.' ∉ name.toList))

variable {fields : List (String × Value)}

lemma mem_allNamesOfFields {n name : String} {v : Value} (h : (name, v) ∈ fields)
    (hn : n = name ∨ n ∈ v.allNames) : n ∈ allNamesOfFields fields := by
  induction fields with
  | nil => cases h
  | cons p fields ih =>
    obtain ⟨name', v'⟩ := p
    rw [allNamesOfFields, List.cons_append, List.mem_cons, List.mem_append]
    rcases List.mem_cons.1 h with heq | h
    · obtain ⟨rfl, rfl⟩ := Prod.mk.inj heq
      exact hn.imp_right Or.inl
    · exact Or.inr (Or.inr (ih h))

lemma Undotted.name (h : (map fields).Undotted) {name : String} {v : Value}
    (hv : Fields.get? name fields = some v) : '.' ∉ name.toList := by
  have hmem := mem_allNamesOfFields (Fields.mem_of_get? hv) (Or.inl rfl)
  exact h name (by rwa [allNames])

lemma Undotted.field (h : (map fields).Undotted) {name : String} {v : Value}
    (hv : Fields.get? name fields = some v) : v.Undotted := by
  intro n hn
  have hmem := mem_allNamesOfFields (Fields.mem_of_get? hv) (Or.inr hn)
  exact h n (by rwa [allNames])

end Value

namespace Diff

/-! ## Changes that fit a value -/

mutual

/-- A change fits what stands under its name: nested changes need a map that they fit. -/
inductive Fits : Diff → Option Value → Prop where
  | set (v : Value) (x : Option Value) : Fits (set v) x
  | removed (x : Option Value) : Fits removed x
  | nested {changes : List (String × Diff)} {fields : List (String × Value)}
      (h : FitsAll changes fields) : Fits (nested changes) (some (.map fields))

/-- Changes fit the fields of a map: none of their names contains a dot or is changed twice,
and each change fits what stands under its name. -/
inductive FitsAll : List (String × Diff) → List (String × Value) → Prop where
  | nil (fields : List (String × Value)) : FitsAll [] fields
  | cons {name : String} {d : Diff} {cs : List (String × Diff)} {fields : List (String × Value)}
      (hdot : '.' ∉ name.toList) (hname : name ∉ Fields.names cs)
      (h : Fits d (Fields.get? name fields)) (hcs : FitsAll cs fields) :
      FitsAll ((name, d) :: cs) fields

end

variable {cs : List (String × Diff)} {fields newFields oldFields : List (String × Value)}

lemma fitsAll_of_distinct (hc : Fields.Distinct cs)
    (h : ∀ name d, (name, d) ∈ cs → '.' ∉ name.toList ∧ Fits d (Fields.get? name fields)) :
    FitsAll cs fields := by
  induction cs with
  | nil => exact .nil fields
  | cons p cs ih =>
    obtain ⟨name, d⟩ := p
    obtain ⟨hname, hc⟩ := List.nodup_cons.1 hc
    obtain ⟨hdot, hfits⟩ := h name d List.mem_cons_self
    exact .cons hdot hname hfits (ih hc fun n e he => h n e (List.mem_cons_of_mem _ he))

/-- What is changed has its name on one of the two sides. -/
lemma exists_side_of_fieldChange? {x y : Option Value} {d : Diff}
    (h : fieldChange? x y = some d) : x.isSome = true ∨ y.isSome = true := by
  cases x with
  | some v => exact Or.inl rfl
  | none =>
    cases y with
    | some o => exact Or.inr rfl
    | none => cases h

lemma fits_fieldChange? {x y : Option Value} {d : Diff} (h : fieldChange? x y = some d)
    (hboth : ∀ v o, x = some v → y = some o → between? v o = some d → Fits d (some o)) :
    Fits d y := by
  cases x with
  | none =>
    cases y with
    | none => cases h
    | some o =>
      obtain rfl : removed = d := Option.some.inj h
      exact .removed _
  | some v =>
    cases y with
    | none =>
      obtain rfl : Diff.set v = d := Option.some.inj h
      exact .set v _
    | some o => exact hboth v o rfl rfl h

/-- The changes between two values fit the old one. -/
theorem fits_of_between? {new old : Value} {d : Diff} (hn : new.WellFormed) (ho : old.WellFormed)
    (hnew : new.Undotted) (hold : old.Undotted) (h : between? new old = some d) :
    Fits d (some old) := by
  induction new, old using inductionOnMaps generalizing d with
  | whole new old hmaps =>
    rw [between?_of_not_maps hmaps] at h
    rw [(replacement?_eq_some_iff.1 h).2]
    exact .set new _
  | maps fs gs ih =>
    have hf := (Value.wellFormed_map_iff.1 hn).1
    have hg := (Value.wellFormed_map_iff.1 ho).1
    rw [eq_nested_of_between?_map h]
    refine .nested (fitsAll_of_distinct (distinct_fieldChanges hf hg) fun name change hmem => ?_)
    have hchange := (distinct_fieldChanges hf hg).get?_of_mem hmem
    rw [get?_fieldChanges hf hg] at hchange
    refine ⟨?_, fits_fieldChange? hchange fun v o hx hy hd => ?_⟩
    · rcases exists_side_of_fieldChange? hchange with hx | hy
      · obtain ⟨v, hv⟩ := Option.isSome_iff_exists.1 hx
        exact hnew.name hv
      · obtain ⟨o, ho⟩ := Option.isSome_iff_exists.1 hy
        exact hold.name ho
    · exact ih name v o hx hy (hn.field? hx) (ho.field? hy) (hnew.field hx) (hold.field hy) hd

lemma mem_names_of_fieldChanges (hn : Fields.Distinct newFields) (ho : Fields.Distinct oldFields)
    {name : String} (h : name ∈ Fields.names (fieldChanges newFields oldFields)) :
    name ∈ Fields.names newFields ∨ name ∈ Fields.names oldFields := by
  obtain ⟨d, hd⟩ := Fields.mem_names_iff.1 h
  rw [get?_fieldChanges hn ho] at hd
  rw [← Fields.contains_iff, ← Fields.contains_iff]
  exact exists_side_of_fieldChange? hd

/-! ## The paths of entries -/

/-- The path of a field leads one name further. -/
lemma segments_joinPath {path name : String} (hdot : '.' ∉ name.toList)
    (hname : path = "" → name ≠ "") :
    Path.segments (joinPath path name) = Path.segments path ++ [name] := by
  by_cases hpath : path = ""
  · have hne : name.isEmpty = false := by simpa using hname hpath
    have hjoin : joinPath path name = name := by rw [hpath]; rfl
    rw [hjoin, hpath, Path.segments, hne]
    simp [Text.splitAt_of_not_mem hdot, Path.segments]
  · have hne : path.isEmpty = false := by simpa using hpath
    have hjoin : joinPath path name = path ++ "." ++ name := by rw [joinPath, hne]; rfl
    have hlist : (path ++ "." ++ name).toList = path.toList ++ '.' :: name.toList := by simp
    have hempty : (path ++ "." ++ name).isEmpty = false := by simp
    rw [hjoin, Path.segments, hempty, hlist, Text.splitAt_append, Text.splitAt_of_not_mem hdot,
      Path.segments, hne]
    simp

lemma joinPath_ne_empty {path name : String} (hname : path = "" → name ≠ "") :
    joinPath path name ≠ "" := by
  by_cases hpath : path = ""
  · rw [hpath]
    exact hname hpath
  · simp [joinPath, hpath]

mutual

/-- The entries of a change lie at its path or below it. -/
lemma exists_segments_of_mem_entriesAt {path p : String} {d : Diff} {x y : Option Value}
    (hfits : Fits d y) (hpath : path ≠ "") (h : (p, x) ∈ entriesAt path d) :
    ∃ more, Path.segments p = Path.segments path ++ more := by
  cases hfits with
  | set v =>
    obtain ⟨rfl, -⟩ := Prod.mk.inj (List.mem_singleton.1 h)
    exact ⟨[], (List.append_nil _).symm⟩
  | removed =>
    obtain ⟨rfl, -⟩ := Prod.mk.inj (List.mem_singleton.1 h)
    exact ⟨[], (List.append_nil _).symm⟩
  | nested hall =>
    obtain ⟨name, -, more, hmore⟩ :=
      exists_segments_of_mem_entriesOf hall (fun hempty => absurd hempty hpath) h
    exact ⟨name :: more, hmore⟩

/-- The entries of the changes of some fields lie below one of the changed names. -/
lemma exists_segments_of_mem_entriesOf {path p : String} {cs : List (String × Diff)}
    {fields : List (String × Value)} {x : Option Value} (hfits : FitsAll cs fields)
    (hempty : path = "" → "" ∉ Fields.names cs) (h : (p, x) ∈ entriesOf path cs) :
    ∃ name ∈ Fields.names cs, ∃ more,
      Path.segments p = Path.segments path ++ name :: more := by
  cases hfits with
  | nil => cases h
  | @cons name d cs _ hdot hname hd hcs =>
    have hne : path = "" → name ≠ "" := fun hp hn => hempty hp (hn ▸ List.mem_cons_self)
    rcases List.mem_append.1 h with h | h
    · obtain ⟨more, hmore⟩ := exists_segments_of_mem_entriesAt hd (joinPath_ne_empty hne) h
      refine ⟨name, List.mem_cons_self, more, ?_⟩
      rw [hmore, segments_joinPath hdot hne, List.append_assoc]
      rfl
    · obtain ⟨other, hmem, hmore⟩ := exists_segments_of_mem_entriesOf hcs
        (fun hp hn => hempty hp (List.mem_cons_of_mem _ hn)) h
      exact ⟨other, List.mem_cons_of_mem _ hmem, hmore⟩

end

end Diff
end ViewKit
