/-
# What a write leaves as it is

A write passes the levels of its path and replaces one child at each of them, so the root
keeps its kind whatever is done at the end of the path (`kind_atSlot`).  A write that
succeeds leaves at every node on its path the old node, or an empty map where there was none,
with one child stored in it (`descend?_changeAt`).  All that such a write leaves alone follows
from this one level (`writes_local`): what paths read that part from its own, the order of
the fields of the maps on it, and the places of the items of the lists on it.
-/
import ViewKit.Proofs.Path.Lens

namespace ViewKit.Path

/-! ## The kind of the root -/

lemma kind_store (segment : String) (child v : Value) : (store segment child v).kind = v.kind := by
  cases v with
  | list items =>
    cases hi : index? segment with
    | none => rw [store, hi]
    | some i => rw [store_list_of_index? hi]; rfl
  | _ => rfl

lemma kind_slotSet (w : Value) (s : Slot) : (s.set w).2.kind = s.container.kind := by
  obtain ⟨v, segment, path⟩ := s
  rw [slotSet_eq]
  split
  · exact kind_store segment w v
  · rfl

lemma kind_slotAppend (w : Value) (s : Slot) : (s.append w).2.kind = s.container.kind := by
  obtain ⟨v, segment, path⟩ := s
  rw [slotAppend_eq]
  split
  · exact kind_store segment _ v
  · rfl

lemma kind_slotRemove (s : Slot) : s.remove.2.kind = s.container.kind := by
  obtain ⟨v, segment, path⟩ := s
  cases v with
  | list items =>
    rw [Slot.remove]
    cases index? segment <;> rfl
  | _ => rfl

/-- Whatever is done at the place of a path, the root keeps its kind if the container of that
place does. -/
lemma kind_atSlot {α : Type} {action : Slot → Except PathError α × Value}
    (h : ∀ s, (action s).2.kind = s.container.kind) (root : Value) (path : String) :
    (atSlot root path action).2.kind = root.kind := by
  rw [atSlot]
  split
  · rfl
  · next parents last _ =>
    cases parents with
    | nil =>
      -- the root is the container itself
      rw [modifyAt]
      split
      · exact h _
      · rfl
    | cons segment parents =>
      rw [modifyAt]
      split
      · rfl
      · exact kind_store segment _ root

theorem kind_set (root : Value) (path : String) (v : Value) :
    (set root path v).2.kind = root.kind := kind_atSlot (kind_slotSet v) root path

theorem kind_append (root : Value) (path : String) (v : Value) :
    (append root path v).2.kind = root.kind := kind_atSlot (kind_slotAppend v) root path

theorem kind_remove (root : Value) (path : String) : (remove root path).2.kind = root.kind :=
  kind_atSlot kind_slotRemove root path

/-! ## The other children of one level -/

/-- Two segments denote different children of a node: in a list they are not the same index,
and elsewhere they differ. -/
def Apart (a b : String) : Option Value → Prop
  | some (.list _) => ∀ i, index? a = some i → index? b ≠ some i
  | _ => a ≠ b

variable {a b : String} {v : Value}

/-- Storing an item leaves the others where they are. -/
lemma getElem?_stored {items : List Value} {i j : Nat} (hj : j ≠ i) (c : Value) :
    (if i = items.length then items ++ [c] else items.set i c)[j]? = items[j]? := by
  split
  · next hlen =>
    rcases Nat.lt_or_gt_of_ne hj with hlt | hgt
    · exact List.getElem?_append_left (by omega)
    · rw [List.getElem?_eq_none (by simp; omega), List.getElem?_eq_none (by omega)]
  · exact List.getElem?_set_ne (Ne.symm hj)

lemma child?_store_of_apart (h : accepts a v = true) (hapart : Apart a b (some v)) (c : Value) :
    (store a c v).child? b = v.child? b := by
  cases v with
  | map fields => exact Fields.get?_insert_of_ne (Ne.symm hapart) c fields
  | list items =>
    obtain ⟨i, hi, -⟩ := accepts_list_iff.1 h
    rw [store_list_of_index? hi, Value.child?, Value.child?]
    cases hj : index? b with
    | none => rfl
    | some j =>
      have hne : j ≠ i := fun e => hapart i hi (e ▸ hj)
      exact getElem?_stored hne c
  | _ => cases h

/-! ## The nodes on the path -/

variable {path : String} {rule : Option Value → Value} {common ps : List String}
  {x old : Option Value}

lemma bind_descend?_cons (x : Option Value) (segment : String) (ss : List String) :
    (x.bind fun v => v.descend? (segment :: ss)) =
      ((x.getD .emptyMap).child? segment).bind fun c => c.descend? ss := by
  rw [child?_getD, Option.bind_assoc]
  simp only [descend?_cons]

/-- A change that succeeds leaves at every node on its way the old node, or an empty map where
there was none, with one child stored in it. -/
theorem descend?_changeAt (h : (changeAt path rule (common ++ a :: ps) x).1 = .ok old) :
    accepts a ((x.bind fun v => v.descend? common).getD .emptyMap) = true ∧
      ∃ child, (changeAt path rule (common ++ a :: ps) x).2.descend? common =
        some (store a child ((x.bind fun v => v.descend? common).getD .emptyMap)) := by
  induction common generalizing x with
  | nil =>
    have hnode : (x.bind fun v => v.descend? []) = x := Option.bind_fun_some x
    rw [List.nil_append] at h ⊢
    by_cases hacc : accepts a (x.getD .emptyMap) = true
    · rw [changeAt_cons_of_accepts path rule _ hacc, hnode]
      exact ⟨hacc, _, rfl⟩
    · rw [changeAt_cons_of_not_accepts path rule _ hacc] at h
      cases h
  | cons segment common ih =>
    rw [List.cons_append] at h ⊢
    by_cases hacc : accepts segment (x.getD .emptyMap) = true
    · rw [changeAt_cons_of_accepts path rule _ hacc] at h ⊢
      rw [bind_descend?_cons, descend?_cons, child?_store hacc]
      exact ih h
    · rw [changeAt_cons_of_not_accepts path rule _ hacc] at h
      cases h

/-- Behind a node in which one child was stored, a path that goes on with another child reads
what it read. -/
lemma descend?_of_stored {root after child : Value}
    (h : accepts a ((root.descend? common).getD .emptyMap) = true)
    (hchild : after.descend? common =
      some (store a child ((root.descend? common).getD .emptyMap)))
    (hab : a ≠ b) (hapart : Apart a b (root.descend? common)) (qs : List String) :
    after.descend? (common ++ b :: qs) = root.descend? (common ++ b :: qs) := by
  have hsame : Apart a b (some ((root.descend? common).getD .emptyMap)) := by
    cases hroot : root.descend? common with
    | none => exact hab
    | some v => rwa [hroot] at hapart
  rw [Value.descend?_append, Value.descend?_append, hchild, Option.bind_some,
    bind_descend?_cons, descend?_cons, child?_store_of_apart h hsame]

/-! ## Writes are local -/

/-- A write at a path that took one root to another is local: it has an effect on the path and
below it, and nowhere else. -/
structure IsLocal (path : String) (root after : Value) : Prop where
  /-- A path that parts from this one reads what it read, unless both go through the same
  item of a list where they part. -/
  elsewhere : ∀ other, ¬ segments path <+: segments other → ¬ segments other <+: segments path →
    ∃ common a b ps qs, segments path = common ++ a :: ps ∧ segments other = common ++ b :: qs ∧
      a ≠ b ∧ (Apart a b (root.descend? common) → get? after other = get? root other)
  /-- The fields of a map on the path keep their order, and a new one comes last. -/
  fields : ∀ common a ps fs, segments path = common ++ a :: ps →
    root.descend? common = some (.map fs) →
    ∃ gs, after.descend? common = some (.map gs) ∧
      (Fields.names gs = Fields.names fs ∨
        a ∉ Fields.names fs ∧ Fields.names gs = Fields.names fs ++ [a])
  /-- The items of a list on the path keep their places but for the one on the path. -/
  items : ∀ common a ps xs, segments path = common ++ a :: ps →
    root.descend? common = some (.list xs) →
    ∃ i ys, index? a = some i ∧ after.descend? common = some (.list ys) ∧
      xs.length ≤ ys.length ∧ ∀ j, j ≠ i → ys[j]? = xs[j]?

/-- Two lists of segments of which neither begins with the other part somewhere. -/
lemma exists_fork {xs ys : List String} (h : ¬ xs <+: ys) (h' : ¬ ys <+: xs) :
    ∃ common a b ps qs, xs = common ++ a :: ps ∧ ys = common ++ b :: qs ∧ a ≠ b := by
  induction xs generalizing ys with
  | nil => exact absurd List.nil_prefix h
  | cons x xs ih =>
    cases ys with
    | nil => exact absurd List.nil_prefix h'
    | cons y ys =>
      by_cases hxy : x = y
      · subst hxy
        rw [List.prefix_cons_inj] at h h'
        obtain ⟨common, a, b, ps, qs, rfl, rfl, hab⟩ := ih h h'
        exact ⟨x :: common, a, b, ps, qs, rfl, rfl, hab⟩
      · exact ⟨[], x, y, xs, ys, rfl, rfl, hxy⟩

/-- A change along the segments of a path is local if it succeeds. -/
lemma isLocal_of_changeAt {root : Value}
    (h : (changeAt path rule (segments path) (some root)).1 = .ok old) :
    IsLocal path root (changeAt path rule (segments path) (some root)).2 := by
  generalize hafter : (changeAt path rule (segments path) (some root)).2 = after
  -- the nodes on the path, before and after
  have hnode : ∀ common a ps, segments path = common ++ a :: ps →
      accepts a ((root.descend? common).getD .emptyMap) = true ∧
        ∃ child, after.descend? common =
          some (store a child ((root.descend? common).getD .emptyMap)) := by
    intro common a ps hsegments
    rw [hsegments] at h hafter
    rw [← hafter]
    exact descend?_changeAt h
  refine ⟨?_, ?_, ?_⟩
  · intro other hprefix hprefix'
    obtain ⟨common, a, b, ps, qs, hpath, hother, hab⟩ := exists_fork hprefix hprefix'
    refine ⟨common, a, b, ps, qs, hpath, hother, hab, fun hapart => ?_⟩
    obtain ⟨hacc, child, hchild⟩ := hnode common a ps hpath
    rw [get?, get?, hother]
    exact descend?_of_stored hacc hchild hab hapart qs
  · intro common a ps fs hpath hmap
    obtain ⟨-, child, hchild⟩ := hnode common a ps hpath
    rw [hmap, Option.getD_some] at hchild
    refine ⟨Fields.insert a child fs, hchild, ?_⟩
    rw [Fields.names_insert]
    by_cases hmem : a ∈ Fields.names fs
    · exact .inl (if_pos hmem)
    · exact .inr ⟨hmem, if_neg hmem⟩
  · intro common a ps xs hpath hlist
    obtain ⟨hacc, child, hchild⟩ := hnode common a ps hpath
    rw [hlist, Option.getD_some] at hacc hchild
    obtain ⟨i, hi, -⟩ := accepts_list_iff.1 hacc
    rw [store_list_of_index? hi] at hchild
    refine ⟨i, _, hi, hchild, ?_, fun j hj => getElem?_stored hj child⟩
    split <;> simp

/-- Setting and appending are local when they succeed, and an item that is appended to a list
comes behind the others. -/
theorem writes_local (root v : Value) (path : String) :
    (∀ old after, set root path v = (.ok old, after) → IsLocal path root after) ∧
      ∀ after, append root path v = (.ok (), after) → IsLocal path root after ∧
        ∀ items, get? root path = some (.list items) →
          get? after path = some (.list (items ++ [v])) := by
  refine ⟨fun old after h => ?_, fun after h => ?_⟩
  · have hpath : path ≠ "" := by
      rintro rfl
      cases h
    rw [set_eq_changeAt root v hpath] at h
    have hlocal := isLocal_of_changeAt (congrArg Prod.fst h)
    rwa [h] at hlocal
  · have hpath : path ≠ "" := by
      rintro rfl
      cases h
    rw [append_eq_changeAt root v hpath] at h
    obtain ⟨hresult, rfl⟩ := Prod.mk.inj h
    cases hold : (changeAt path (appended v) (segments path) (some root)).1 with
    | error e =>
      rw [hold] at hresult
      cases hresult
    | ok old =>
      refine ⟨isLocal_of_changeAt hold, fun items hitems => ?_⟩
      obtain ⟨hread, hafter⟩ := changeAt_ok hold
      have hold : old = some (.list items) := hread.trans hitems
      rw [get?, hafter, hold]
      rfl

/-- Locality of a setting that goes on behind the last item of a list, where another path goes
through an item in front of it, and of an addition to that list. -/
theorem writes_local_behind_item :
    let root : Value := .map [("l", .list [.text "x"]), ("m", .null)]
    let after : Value := .map [("l", .list [.text "x", .map [("k", .null)]]), ("m", .null)]
    let longer : Value := .map [("l", .list [.text "x", .null]), ("m", .null)]
    set root "l.1.k" .null = (.ok none, after) ∧ IsLocal "l.1.k" root after ∧
      get? after "l.+0" = get? root "l.+0" ∧
      append root "l" .null = (.ok (), longer) ∧ IsLocal "l" root longer ∧
      get? longer "l" = some (.list [.text "x", .null]) := by
  intro root after longer
  have hset : set root "l.1.k" .null = (.ok none, after) := by rfl
  have happend : append root "l" .null = (.ok (), longer) := by rfl
  obtain ⟨hlocal, -⟩ := writes_local root .null "l.1.k"
  obtain ⟨-, hadded⟩ := writes_local root .null "l"
  refine ⟨hset, hlocal _ _ hset, ?_, happend, (hadded _ happend).1, (hadded _ happend).2 _ rfl⟩
  obtain ⟨common, a, b, ps, qs, hpath, hother, hab, helse⟩ :=
    (hlocal _ _ hset).elsewhere "l.+0" (by decide) (by decide)
  have hpath : ["l", "1", "k"] = common ++ a :: ps := hpath
  have hother : ["l", "+0"] = common ++ b :: qs := hother
  -- the two paths part behind the list
  rcases common with _ | ⟨c, _ | ⟨d, common⟩⟩
  · exact absurd ((List.cons.inj hpath).1.symm.trans (List.cons.inj hother).1) hab
  · simp only [List.cons_append, List.nil_append, List.cons.injEq] at hpath hother
    obtain ⟨rfl, rfl, -⟩ := hpath
    obtain ⟨-, rfl, -⟩ := hother
    refine helse fun i hi hj => ?_
    obtain rfl : 1 = i := Option.some.inj hi
    exact absurd hj (by decide)
  · simp at hother

end ViewKit.Path
