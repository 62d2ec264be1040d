/-
# The leaves of the changes between two values

The changes between two values record exactly where they differ.  Two maps are compared
field by field, so a place that some names lead to is looked at as long as there is a map on
both sides in front of it; it is a leaf if what stands there differs as a whole
(`Differ`).  `between?_exact` says this of every list of names, and that the nodes above the
leaves are never empty and list the added fields before the changed and removed ones.

The proof goes down the names with what stands on either side, if anything: one name further
the change is that of the field under this name (`at?_fieldChange?_cons`).
-/
import ViewKit.Proofs.Diff.Inverse
import ViewKit.Proofs.Diff.Tree

namespace ViewKit.Diff

variable {x y : Option Value} {name : String} {names : List String} {d leaf : Diff}

/-! ## One place -/

/-- On both sides stands a map. -/
def BothMaps (x y : Option Value) : Prop := ∃ fs gs, x = some (.map fs) ∧ y = some (.map gs)

/-- What stands in one place on the new and on the old side differs as a whole, and the leaf
that says so. -/
inductive Differ : Option Value → Option Value → Diff → Prop where
  | added (v : Value) : Differ (some v) none (set v)
  | removed (o : Value) : Differ none (some o) removed
  | changed {v o : Value} (hmaps : ¬ BothMaps (some v) (some o)) (h : (v == o) = false) :
      Differ (some v) (some o) (set v)

lemma between?_of_not_bothMaps {new old : Value} (h : ¬ BothMaps (some new) (some old)) :
    between? new old = replacement? new old := by
  refine between?_of_not_maps fun fs gs hnew hold => h ?_
  exact ⟨fs, gs, congrArg some hnew, congrArg some hold⟩

/-- A place is a leaf if what stands there differs as a whole. -/
lemma fieldChange?_eq_leaf_iff :
    fieldChange? x y = some leaf ∧ leaf.isLeaf = true ↔ Differ x y leaf := by
  constructor
  · rintro ⟨h, hleaf⟩
    cases x with
    | none =>
      cases y with
      | none => cases h
      | some o =>
        obtain rfl : removed = leaf := Option.some.inj h
        exact .removed o
    | some v =>
      cases y with
      | none =>
        obtain rfl : set v = leaf := Option.some.inj h
        exact .added v
      | some o =>
        rw [fieldChange?] at h
        by_cases hmaps : BothMaps (some v) (some o)
        · obtain ⟨fs, gs, hv, ho⟩ := hmaps
          obtain rfl := Option.some.inj hv
          obtain rfl := Option.some.inj ho
          rw [eq_nested_of_between?_map h] at hleaf
          cases hleaf
        · rw [between?_of_not_bothMaps hmaps, replacement?_eq_some_iff] at h
          obtain ⟨hne, rfl⟩ := h
          exact .changed hmaps hne
  · intro h
    cases h with
    | added v => exact ⟨rfl, rfl⟩
    | removed o => exact ⟨rfl, rfl⟩
    | changed hmaps hne =>
      rw [fieldChange?, between?_of_not_bothMaps hmaps, replacement?_eq_some_iff]
      exact ⟨⟨hne, rfl⟩, rfl⟩

/-- A place is a node if there are maps with changes of their fields. -/
lemma fieldChange?_eq_nested {cs : List (String × Diff)} (h : fieldChange? x y = some (nested cs)) :
    ∃ fs gs, x = some (.map fs) ∧ y = some (.map gs) ∧ cs = fieldChanges fs gs ∧ cs ≠ [] := by
  by_cases hmaps : BothMaps x y
  · obtain ⟨fs, gs, rfl, rfl⟩ := hmaps
    rw [fieldChange?, between?_map] at h
    refine ⟨fs, gs, rfl, rfl, ?_⟩
    split at h
    · cases h
    · next hne =>
      obtain rfl := nested.inj (Option.some.inj h)
      exact ⟨rfl, hne⟩
  · cases x with
    | none => cases y <;> cases h
    | some v =>
      cases y with
      | none => cases h
      | some o =>
        rw [fieldChange?, between?_of_not_bothMaps hmaps, replacement?_eq_some_iff] at h
        cases h.2

/-! ## One name further -/

/-- Both sides of a place are well formed. -/
def WellFormedSides (x y : Option Value) : Prop :=
  (∀ v, x = some v → v.WellFormed) ∧ ∀ o, y = some o → o.WellFormed

lemma WellFormedSides.field {fs gs : List (String × Value)}
    (h : WellFormedSides (some (.map fs)) (some (.map gs))) (name : String) :
    WellFormedSides (Fields.get? name fs) (Fields.get? name gs) :=
  ⟨fun _ hv => (h.1 _ rfl).field? hv, fun _ ho => (h.2 _ rfl).field? ho⟩

/-- A name leads further where there is a map on both sides, to the change of its field. -/
lemma at?_fieldChange?_cons (h : WellFormedSides x y) :
    ((fieldChange? x y).bind fun c => c.at? (name :: names)) = some d ↔
      ∃ fs gs, x = some (.map fs) ∧ y = some (.map gs) ∧
        ((fieldChange? (Fields.get? name fs) (Fields.get? name gs)).bind fun c => c.at? names) =
          some d := by
  by_cases hmaps : BothMaps x y
  · obtain ⟨fs, gs, rfl, rfl⟩ := hmaps
    have hf := (Value.wellFormed_map_iff.1 (h.1 _ rfl)).1
    have hg := (Value.wellFormed_map_iff.1 (h.2 _ rfl)).1
    have hbelow : ((between? (.map fs) (.map gs)).bind fun c => c.at? (name :: names)) =
        (Fields.get? name (fieldChanges fs gs)).bind fun c => c.at? names := by
      rw [between?_map]
      split
      · next hnil => rw [hnil]; rfl
      · rfl
    rw [fieldChange?, hbelow, get?_fieldChanges hf hg]
    simp
  · -- everything else is a leaf, below which there is nothing
    have hleaf : ∀ c, fieldChange? x y = some c → c.change? name = none := by
      intro c hc
      cases c with
      | nested cs =>
        obtain ⟨fs, gs, hx, hy, -⟩ := fieldChange?_eq_nested hc
        exact absurd ⟨fs, gs, hx, hy⟩ hmaps
      | _ => rfl
    constructor
    · intro hd
      obtain ⟨c, hc, hat⟩ := Option.bind_eq_some_iff.1 hd
      rw [Diff.at?, hleaf c hc] at hat
      cases hat
    · rintro ⟨fs, gs, hx, hy, -⟩
      exact absurd ⟨fs, gs, hx, hy⟩ hmaps

/-- There are maps on both sides in front of what some names lead to. -/
def MapsBefore (x y : Option Value) (names : List String) : Prop :=
  ∀ front, front <+: names → front ≠ names →
    BothMaps (x.bind fun v => v.at? front) (y.bind fun o => o.at? front)

lemma mapsBefore_cons {fs gs : List (String × Value)} :
    MapsBefore (some (.map fs)) (some (.map gs)) (name :: names) ↔
      MapsBefore (Fields.get? name fs) (Fields.get? name gs) names := by
  constructor
  · intro h front hfront hne
    exact h (name :: front) ((List.prefix_cons_inj name).2 hfront) fun e => hne (List.cons.inj e).2
  · intro h front hfront hne
    rcases List.prefix_cons_iff.1 hfront with rfl | ⟨rest, rfl, hrest⟩
    · exact ⟨fs, gs, rfl, rfl⟩
    · exact h rest hrest fun e => hne (congrArg (name :: ·) e)

lemma bothMaps_of_mapsBefore (h : MapsBefore x y (name :: names)) : BothMaps x y := by
  have hroot := h [] List.nil_prefix (List.cons_ne_nil name names).symm
  rwa [Value.bind_at?_nil, Value.bind_at?_nil] at hroot

/-! ## Leaves and nodes -/

lemma at?_fieldChange?_eq_leaf_iff (h : WellFormedSides x y) :
    ((fieldChange? x y).bind fun c => c.at? names) = some leaf ∧ leaf.isLeaf = true ↔
      MapsBefore x y names ∧
        Differ (x.bind fun v => v.at? names) (y.bind fun o => o.at? names) leaf := by
  induction names generalizing x y with
  | nil =>
    have hfront : MapsBefore x y [] := fun front hf hne => absurd (List.prefix_nil.1 hf) hne
    rw [Value.bind_at?_nil, Value.bind_at?_nil, bind_at?_nil, fieldChange?_eq_leaf_iff]
    exact ⟨fun hd => ⟨hfront, hd⟩, fun hd => hd.2⟩
  | cons name names ih =>
    rw [at?_fieldChange?_cons h]
    constructor
    · rintro ⟨⟨fs, gs, rfl, rfl, hat⟩, hleaf⟩
      rw [mapsBefore_cons]
      exact (ih (h.field name)).1 ⟨hat, hleaf⟩
    · rintro ⟨hmaps, hdiffer⟩
      obtain ⟨fs, gs, rfl, rfl⟩ := bothMaps_of_mapsBefore hmaps
      obtain ⟨hat, hleaf⟩ := (ih (h.field name)).2 ⟨mapsBefore_cons.1 hmaps, hdiffer⟩
      exact ⟨⟨fs, gs, rfl, rfl, hat⟩, hleaf⟩

lemma at?_fieldChange?_eq_nested {cs : List (String × Diff)} (h : WellFormedSides x y)
    (hcs : ((fieldChange? x y).bind fun c => c.at? names) = some (nested cs)) :
    ∃ fs gs, (x.bind fun v => v.at? names) = some (.map fs) ∧
      (y.bind fun o => o.at? names) = some (.map gs) ∧
      WellFormedSides (some (.map fs)) (some (.map gs)) ∧ cs = fieldChanges fs gs ∧ cs ≠ [] := by
  induction names generalizing x y with
  | nil =>
    rw [bind_at?_nil] at hcs
    obtain ⟨fs, gs, rfl, rfl, hnode⟩ := fieldChange?_eq_nested hcs
    exact ⟨fs, gs, rfl, rfl, h, hnode⟩
  | cons name names ih =>
    obtain ⟨fs, gs, rfl, rfl, hat⟩ := (at?_fieldChange?_cons h).1 hcs
    exact ih (h.field name) hat

/-! ## The order of a node -/

/-- The names under which two maps differ: first those that are only in the new one, in its
order, then those of the old one with something else in the new one, or nothing. -/
def changedNames (newFields oldFields : List (String × Value)) : List String :=
  (Fields.names newFields).filter (fun name => !Fields.contains name oldFields) ++
    (Fields.names oldFields).filter
      fun name => Fields.get? name newFields != Fields.get? name oldFields

lemma names_fieldChanges {fs gs : List (String × Value)}
    (h : WellFormedSides (some (.map fs)) (some (.map gs))) :
    Fields.names (fieldChanges fs gs) = changedNames fs gs := by
  have hg := (Value.wellFormed_map_iff.1 (h.2 _ rfl)).1
  have hadded : Fields.names (additions gs fs) =
      (Fields.names fs).filter fun name => !Fields.contains name gs := by
    rw [additions_eq_select]
    refine Fields.names_select _ fun name v _ => ?_
    cases Fields.contains name gs <;> rfl
  have hchanged : Fields.names (changes fs gs) = (Fields.names gs).filter
      fun name => Fields.get? name fs != Fields.get? name gs := by
    rw [changes_eq_select]
    refine Fields.names_select _ fun name o ho => ?_
    have hget := hg.get?_of_mem ho
    rw [hget]
    cases hf : Fields.get? name fs with
    | none => rfl
    | some v =>
      have hv := (h.1 _ rfl).field? hf
      have ho := (h.2 _ rfl).field? hget
      have hnone := between?_eq_none_iff hv ho
      have hne : (some v != some o) = !Value.same v o := rfl
      rw [fieldChange?, hne]
      cases hd : between? v o with
      | none => simp [hnone.1 hd]
      | some d =>
        have hsame : Value.same v o = false := by
          rw [← Bool.not_eq_true, ← hnone, hd]
          exact Option.some_ne_none d
        simp [hsame]
  rw [fieldChanges, Fields.names, List.map_append, changedNames]
  exact congrArg₂ (· ++ ·) hadded hchanged

/-- Changes without an empty node have entries. -/
lemma entriesAt_ne_nil (d : Diff) (h : ∀ names cs, d.at? names = some (nested cs) → cs ≠ [])
    (path : String) : entriesAt path d ≠ [] := by
  induction d using inductionOnChanges generalizing path with
  | set v => exact List.cons_ne_nil _ _
  | removed => exact List.cons_ne_nil _ _
  | nested cs ih =>
    cases cs with
    | nil => exact absurd rfl (h [] [] rfl)
    | cons p cs =>
      obtain ⟨name, c⟩ := p
      have hc : ∀ names cs, c.at? names = some (nested cs) → cs ≠ [] := by
        intro names cs' hcs'
        refine h (name :: names) cs' ?_
        rw [Diff.at?, change?, Fields.get?_cons, if_pos rfl]
        exact hcs'
      exact List.append_ne_nil_of_left_ne_nil (ih name c List.mem_cons_self hc _) _

/-! ## The changes are exact -/

/-- Changes between two values record exactly where they differ: the whole value if it is
not a map on both sides and differs; below that, those places in front of which there are maps
on both sides and which differ as a whole.  The nodes in between are never empty, so there are
entries, and they name the added fields first. -/
theorem between?_exact (new old : Value) (hn : new.WellFormed) (ho : old.WellFormed) :
    (between? new old = some (set new) ↔
        ¬ BothMaps (some new) (some old) ∧ (new == old) = false) ∧
      (∀ names leaf,
        ((between? new old).bind fun d => d.at? names) = some leaf ∧ leaf.isLeaf = true ↔
          (∀ front, front <+: names → front ≠ names → BothMaps (new.at? front) (old.at? front)) ∧
            Differ (new.at? names) (old.at? names) leaf) ∧
      (∀ names cs, ((between? new old).bind fun d => d.at? names) = some (nested cs) →
        cs ≠ [] ∧ ∃ fs gs, new.at? names = some (.map fs) ∧ old.at? names = some (.map gs) ∧
          Fields.names cs = changedNames fs gs) ∧
      ∀ d, between? new old = some d → d.entries ≠ [] := by
  have hsides : WellFormedSides (some new) (some old) :=
    ⟨fun _ h => Option.some.inj h ▸ hn, fun _ h => Option.some.inj h ▸ ho⟩
  have hnodes : ∀ names cs, ((between? new old).bind fun d => d.at? names) = some (nested cs) →
      cs ≠ [] ∧ ∃ fs gs, new.at? names = some (.map fs) ∧ old.at? names = some (.map gs) ∧
        Fields.names cs = changedNames fs gs := by
    intro names cs hcs
    obtain ⟨fs, gs, hfs, hgs, hwf, rfl, hne⟩ := at?_fieldChange?_eq_nested hsides hcs
    exact ⟨hne, fs, gs, hfs, hgs, names_fieldChanges hwf⟩
  refine ⟨?_, ?_, hnodes, ?_⟩
  · have hroot : fieldChange? (some new) (some old) = some (set new) ∧ (set new).isLeaf = true ↔
        Differ (some new) (some old) (set new) := fieldChange?_eq_leaf_iff
    constructor
    · intro h
      cases hroot.1 ⟨h, rfl⟩ with
      | changed hmaps hne => exact ⟨hmaps, hne⟩
    · exact fun h => (hroot.2 (.changed h.1 h.2)).1
  · exact fun names leaf => at?_fieldChange?_eq_leaf_iff hsides
  · intro d hd
    refine entriesAt_ne_nil d (fun names cs hcs => (hnodes names cs ?_).1) ""
    rw [hd]
    exact hcs

/-- The record of two maps with a new field, one that is gone, and a map that differs inside,
where a text replaces a list, one field is gone and another one is the same. -/
theorem between?_exact_nested :
    let new : Value := .map [("c", .null), ("a", .map [("x", .text "new"), ("k", .null)])]
    let old : Value :=
      .map [("b", .null), ("a", .map [("z", .null), ("k", .null), ("x", .list [])])]
    let inner := [("z", removed), ("x", set (.text "new"))]
    let d := nested [("c", set .null), ("b", removed), ("a", nested inner)]
    (new.WellFormed ∧ old.WellFormed ∧ between? new old = some d) ∧
      between? new old ≠ some (set new) ∧
      Differ (new.at? ["a", "x"]) (old.at? ["a", "x"]) (set (.text "new")) ∧
      Differ (new.at? ["a", "z"]) (old.at? ["a", "z"]) removed ∧
      Fields.names inner = changedNames [("x", .text "new"), ("k", .null)]
        [("z", .null), ("k", .null), ("x", .list [])] ∧
      d.entries ≠ [] := by
  intro new old inner d
  have hn : new.WellFormed := by
    simp [new, Value.WellFormed, Value.WellFormedFields, Fields.Distinct, Fields.names]
  have ho : old.WellFormed := by
    simp [old, Value.WellFormed, Value.WellFormedFields, Value.WellFormedItems, Fields.Distinct,
      Fields.names]
  have hd : between? new old = some d := by rfl
  obtain ⟨hwhole, hleaf, hnode, hentries⟩ := between?_exact new old hn ho
  obtain ⟨-, fs, gs, hfs, hgs, hnames⟩ := hnode ["a"] inner (by rw [hd]; rfl)
  obtain rfl := Value.map.inj (Option.some.inj hfs)
  obtain rfl := Value.map.inj (Option.some.inj hgs)
  rw [hd] at hleaf
  refine ⟨⟨hn, ho, hd⟩, fun h => ?_, ((hleaf _ _).1 ⟨rfl, rfl⟩).2, ((hleaf _ _).1 ⟨rfl, rfl⟩).2,
    hnames, hentries d hd⟩
  exact (hwhole.1 h).1 ⟨_, _, rfl, rfl⟩

end ViewKit.Diff
