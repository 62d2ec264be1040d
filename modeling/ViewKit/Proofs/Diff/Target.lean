/-
# Changes carried out on any target

Changes need not be carried out on the value they were taken from: at a place that they lead
through anything can stand, or nothing.  What they make of it is said place by place.  Below
some names the change that lies there is carried out on what stands there (`at?_apply`), so a
leaf leaves its own value, or no field; a node leaves the fields it does not name as they
were, and where no map stands it builds one (`builtFields`).  Nothing that a change makes is
of interest to the same change a second time (`apply_apply`).
-/
import ViewKit.Proofs.Diff.Tree

namespace ViewKit.Diff

variable {d c : Diff} {t : Value} {cs : List (String × Diff)} {fields : List (String × Value)}
  {name : String} {names : List String}

/-! ## The place below some names -/

lemma changeField?_of_ne_removed (hc : c ≠ removed) (x : Option Value) :
    changeField? (some c) x = some (c.apply (x.getD .emptyMap)) := by
  cases c with
  | removed => exact absurd rfl hc
  | _ => rfl

/-- What changes leave under a name is what the change of that name makes of what was there. -/
lemma field?_apply_nested (hd : (nested cs).WellFormed) (ht : t.WellFormed) (name : String) :
    ((nested cs).apply t).field? name = changeField? (Fields.get? name cs) (t.field? name) := by
  rw [t.field?_eq]
  exact get?_applyAll (wellFormed_nested_iff.1 hd).1 ht.distinct name

/-- Below some names the change that lies there is carried out on what stands there. -/
theorem at?_apply (hd : d.WellFormed) (ht : t.WellFormed) (h : d.at? names = some c)
    (hc : c ≠ removed) :
    (d.apply t).at? names = some (c.apply ((t.at? names).getD .emptyMap)) := by
  induction names generalizing d t with
  | nil =>
    obtain rfl : d = c := Option.some.inj h
    rfl
  | cons name names ih =>
    obtain ⟨e, he, hrest⟩ := Option.bind_eq_some_iff.1 h
    cases d with
    | nested cs =>
      have hremoved : e ≠ removed := by
        rintro rfl
        cases names with
        | nil => exact hc (Option.some.inj hrest).symm
        | cons => cases hrest
      have hfield : Fields.get? name cs = some e := he
      have hchild : ((t.field? name).getD .emptyMap).WellFormed :=
        Value.wellFormed_getD fun _ => ht.field?
      rw [Value.at?, field?_apply_nested hd ht, hfield, changeField?_of_ne_removed hremoved,
        Option.bind_some, ih (hd.change? he) hchild hrest, Value.at?]
      -- below a field that is not there stands nothing, and below an empty map nothing either
      cases t.field? name with
      | some w => rfl
      | none => cases names <;> rfl
    | _ => cases he

/-! ## The fields that are not named -/

lemma filter_applyField {p : String → Bool} (hp : p name = false) (d : Diff) :
    (applyField name d fields).filter (fun f => p f.1) = fields.filter fun f => p f.1 := by
  cases d with
  | removed => exact Fields.filter_erase hp fields
  | _ => exact Fields.filter_insert hp _ fields

lemma filter_applyAll {p : String → Bool} (hp : ∀ name ∈ Fields.names cs, p name = false) :
    (applyAll cs fields).filter (fun f => p f.1) = fields.filter fun f => p f.1 := by
  induction cs generalizing fields with
  | nil => rfl
  | cons q cs ih =>
    obtain ⟨n, d⟩ := q
    rw [applyAll_cons, ih fun name hname => hp name (List.mem_cons_of_mem n hname),
      filter_applyField (hp n List.mem_cons_self)]

/-! ## Where there is no map -/

mutual

/-- What a change puts where there is nothing. -/
def built? : Diff → Option Value
  | set v => some v
  | removed => none
  | nested changes => some (.map (builtFields changes))

/-- The fields that changes put where there is no map. -/
def builtFields : List (String × Diff) → List (String × Value)
  | [] => []
  | (name, d) :: changes =>
    match built? d with
    | none => builtFields changes
    | some v => (name, v) :: builtFields changes

end

lemma builtFields_cons (name : String) (d : Diff) (cs : List (String × Diff)) :
    builtFields ((name, d) :: cs) = builtFields [(name, d)] ++ builtFields cs := by
  rw [builtFields, builtFields]
  cases built? d <;> rfl

lemma names_builtFields_subset (name : String) (d : Diff) :
    Fields.names (builtFields [(name, d)]) ⊆ [name] := by
  rw [builtFields]
  cases built? d with
  | none => exact List.nil_subset _
  | some v => exact List.Subset.refl _

/-- A change under a new name puts what it builds behind the other fields. -/
lemma applyField_of_not_mem (hname : name ∉ Fields.names fields)
    (hinner : ∀ inner, d = nested inner → applyAll inner [] = builtFields inner) :
    applyField name d fields = fields ++ builtFields [(name, d)] := by
  cases d with
  | set v => exact Fields.insert_of_not_mem hname v
  | removed =>
    rw [applyField, Fields.erase_of_get?_eq_none (Fields.get?_eq_none_iff.2 hname)]
    exact (List.append_nil fields).symm
  | nested inner =>
    have hnew : apply (nested inner) ((Fields.get? name fields).getD .emptyMap) =
        .map (builtFields inner) := by
      rw [Fields.get?_eq_none_iff.2 hname]
      exact congrArg Value.map (hinner inner rfl)
    have hfield : applyField name (nested inner) fields = Fields.insert name
        (apply (nested inner) ((Fields.get? name fields).getD .emptyMap)) fields := rfl
    rw [hfield, hnew, Fields.insert_of_not_mem hname]
    rfl

/-- Changes under new names put what they build behind the other fields. -/
lemma applyAll_of_not_mem (hd : Fields.Distinct cs)
    (hnames : ∀ name ∈ Fields.names cs, name ∉ Fields.names fields)
    (hinner : ∀ name inner, (name, nested inner) ∈ cs → applyAll inner [] = builtFields inner) :
    applyAll cs fields = fields ++ builtFields cs := by
  induction cs generalizing fields with
  | nil => exact (List.append_nil fields).symm
  | cons p cs ih =>
    obtain ⟨n, d⟩ := p
    obtain ⟨hn, hd⟩ := List.nodup_cons.1 hd
    have hfirst : applyField n d fields = fields ++ builtFields [(n, d)] :=
      applyField_of_not_mem (hnames n List.mem_cons_self)
        fun inner hd => hinner n inner (hd ▸ List.mem_cons_self)
    have hrest : ∀ name ∈ Fields.names cs,
        name ∉ Fields.names (fields ++ builtFields [(n, d)]) := by
      intro name hname hmem
      rw [Fields.names, List.map_append, List.mem_append] at hmem
      rcases hmem with hmem | hmem
      · exact hnames name (List.mem_cons_of_mem n hname) hmem
      · obtain rfl := List.mem_singleton.1 (names_builtFields_subset n d hmem)
        exact hn hname
    rw [applyAll_cons, hfirst, ih hd hrest fun name inner h => hinner name inner
      (List.mem_cons_of_mem _ h), builtFields_cons n d cs, List.append_assoc]

lemma applyAll_nil (h : (nested cs).WellFormed) : applyAll cs [] = builtFields cs := by
  generalize hd : nested cs = d at h
  induction d using inductionOnChanges generalizing cs with
  | set v => cases hd
  | removed => cases hd
  | nested cs' ih =>
    obtain rfl := nested.inj hd
    obtain ⟨hcs, hinner⟩ := wellFormed_nested_iff.1 h
    have happend : applyAll cs [] = [] ++ builtFields cs :=
      applyAll_of_not_mem hcs (fun name _ => List.not_mem_nil) fun name inner hmem =>
        ih name _ hmem rfl (hinner name _ hmem)
    exact happend

/-! ## Once more -/

lemma applyField_of_ne_removed (hd : d ≠ removed) (name : String)
    (fields : List (String × Value)) : applyField name d fields =
      Fields.insert name (d.apply ((Fields.get? name fields).getD .emptyMap)) fields := by
  cases d with
  | removed => exact absurd rfl hd
  | _ => rfl

lemma applyAll_of_fixed (h : ∀ name d, (name, d) ∈ cs → applyField name d fields = fields) :
    applyAll cs fields = fields := by
  induction cs with
  | nil => rfl
  | cons p cs ih =>
    obtain ⟨n, d⟩ := p
    rw [applyAll_cons, h n d List.mem_cons_self]
    exact ih fun name d hmem => h name d (List.mem_cons_of_mem _ hmem)

/-- Changes that have been carried out change nothing when they are carried out again. -/
theorem apply_apply (hd : d.WellFormed) (ht : t.WellFormed) : d.apply (d.apply t) = d.apply t := by
  induction d using inductionOnChanges generalizing t with
  | set v => rfl
  | removed => rfl
  | nested cs ih =>
    obtain ⟨hcs, hchanges⟩ := wellFormed_nested_iff.1 hd
    refine congrArg Value.map (applyAll_of_fixed fun name e he => ?_)
    -- what this change has left under its name is what it makes of it again
    have hleft := get?_applyAll hcs ht.distinct name
    rw [hcs.get?_of_mem he] at hleft
    by_cases hremoved : e = removed
    · subst hremoved
      exact Fields.erase_of_get?_eq_none hleft
    · rw [changeField?_of_ne_removed hremoved, ← t.field?_eq] at hleft
      have hfield : ((t.field? name).getD .emptyMap).WellFormed :=
        Value.wellFormed_getD fun _ => ht.field?
      have hagain := ih name e he (hchanges name e he) hfield
      have hsame : (applyField name e (applyAll cs (t.asMap?.getD []))) = _ :=
        applyField_of_ne_removed hremoved name _
      refine hsame.trans ?_
      rw [hleft, Option.getD_some, hagain]
      exact Fields.insert_of_get? hleft

/-! ## Changes are local -/

/-- Changes carried out on any target are local, and carried out again they change nothing.
Where they set a value it stands afterwards, and where they remove a field there is none.  The
fields of a map that they go through without naming them stay as they are and in their order,
and where they meet no map they leave one that holds what they put there. -/
theorem apply_local (d : Diff) (t : Value) (hd : d.WellFormed) (ht : t.WellFormed) :
    (∀ names v, d.at? names = some (set v) → (d.apply t).at? names = some v) ∧
      (∀ names name, d.at? (names ++ [name]) = some removed →
        ∃ after, (d.apply t).at? names = some (.map after) ∧ Fields.get? name after = none) ∧
      (∀ names cs fields, d.at? names = some (nested cs) → t.at? names = some (.map fields) →
        ∃ after, (d.apply t).at? names = some (.map after) ∧
          (∀ name, name ∉ Fields.names cs → Fields.get? name after = Fields.get? name fields) ∧
          after.filter (fun f => f.1 ∉ Fields.names cs) =
            fields.filter (fun f => f.1 ∉ Fields.names cs)) ∧
      (∀ names cs, d.at? names = some (nested cs) →
        (∀ fields, t.at? names ≠ some (.map fields)) →
        (d.apply t).at? names = some (.map (builtFields cs))) ∧
      d.apply (d.apply t) = d.apply t := by
  refine ⟨fun names v h => ?_, fun names name h => ?_, fun names cs fields h hmap => ?_,
    fun names cs h hmap => ?_, apply_apply hd ht⟩
  · exact at?_apply hd ht h (by simp)
  · rw [at?_append] at h
    obtain ⟨c, hc, hname⟩ := Option.bind_eq_some_iff.1 h
    obtain ⟨e, he, rfl⟩ : ∃ e, c.change? name = some e ∧ e = removed := by
      simpa [Diff.at?] using hname
    cases c with
    | nested cs =>
      have hnode : ((t.at? names).getD .emptyMap).WellFormed :=
        Value.wellFormed_getD fun _ => ht.at?
      have hfield := field?_apply_nested (hd.at? hc) hnode name
      have hname : Fields.get? name cs = some removed := he
      rw [hname] at hfield
      exact ⟨_, at?_apply hd ht hc (by simp), hfield⟩
    | _ => cases he
  · have hnode := at?_apply hd ht h (by simp)
    rw [hmap] at hnode
    have hkept : ∀ name ∈ Fields.names cs, decide (name ∉ Fields.names cs) = false :=
      fun name hname => by simpa using hname
    refine ⟨_, hnode, fun name hname => ?_, filter_applyAll hkept⟩
    have hcs := (wellFormed_nested_iff.1 (hd.at? h)).1
    have hfields := (Value.wellFormed_map_iff.1 (ht.at? hmap)).1
    have hget := get?_applyAll hcs hfields name
    rw [Fields.get?_eq_none_iff.2 hname] at hget
    exact hget
  · have hnode := at?_apply hd ht h (by simp)
    have hnone : ((t.at? names).getD .emptyMap).asMap?.getD [] = [] := by
      cases hat : t.at? names with
      | none => rfl
      | some v =>
        cases v with
        | map fields => exact absurd hat (hmap fields)
        | _ => rfl
    have hbuilt : (nested cs).apply ((t.at? names).getD .emptyMap) = .map (builtFields cs) := by
      rw [apply, hnone, applyAll_nil (hd.at? h)]
    rw [hnode, hbuilt]

/-- Locality on a target in which a text stands where changes of fields are, and from which a
field is removed in front of others. -/
theorem apply_local_on_text :
    let inner := [("b", set .null), ("c", removed)]
    let d := nested [("new", set .null), ("gone", removed), ("a", nested inner)]
    let t : Value := .map [("gone", .null), ("a", .text "x"), ("keep", .null)]
    let after : Value := .map [("a", .map [("b", .null)]), ("keep", .null), ("new", .null)]
    (d.WellFormed ∧ t.WellFormed ∧ d.apply t = after) ∧
      after.at? ["a", "b"] = some .null ∧
      after.at? ["a"] = some (.map (builtFields inner)) ∧
      (∃ fields, after.at? [] = some (.map fields) ∧ Fields.get? "gone" fields = none) ∧
      (∃ fields, after.at? [] = some (.map fields) ∧ Fields.get? "keep" fields = some .null) ∧
      d.apply after = after := by
  intro inner d t after
  have hd : d.WellFormed := by
    simp [d, inner, WellFormed, WellFormedChanges, Fields.Distinct, Fields.names]
  have ht : t.WellFormed := by
    simp [t, Value.WellFormed, Value.WellFormedFields, Fields.Distinct, Fields.names]
  have happly : d.apply t = after := by rfl
  obtain ⟨hset, hremoved, hpassed, hbuilt, hagain⟩ := apply_local d t hd ht
  rw [happly] at hset hremoved hpassed hbuilt hagain
  obtain ⟨fields, hfields, hkept, -⟩ := hpassed [] _ _ rfl rfl
  have htext : ∀ fields, t.at? ["a"] ≠ some (.map fields) := by
    intro fields h
    cases h
  refine ⟨⟨hd, ht, happly⟩, hset _ _ rfl, hbuilt _ _ rfl htext, hremoved [] _ rfl, ?_, hagain⟩
  exact ⟨fields, hfields, hkept "keep" (by decide)⟩

end ViewKit.Diff
