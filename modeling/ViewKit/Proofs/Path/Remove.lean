/-
# Existence and removal

A path exists when reading along it finds something (`contains_eq`), and taking out what is
at a path that exists succeeds and reports what reading found (`remove_of_contains`).
-/
import ViewKit.Proofs.Path.Put

namespace ViewKit.Path

variable {root : Value} {path : String}

lemma hasChild_eq (v : Value) (segment : String) :
    v.hasChild segment = (v.child? segment).isSome := by
  cases v with
  | list items =>
    rw [Value.hasChild, Value.child?]
    cases index? segment with
    | none => rfl
    | some i => by_cases hlt : i < items.length <;> simp [hlt]
  | _ => rfl

/-- A path that is not empty exists when reading along it finds something. -/
theorem contains_eq (hpath : path ≠ "") : contains root path = (get? root path).isSome := by
  obtain ⟨parents, last, hsegments⟩ := exists_segments_eq hpath
  rw [contains, hsegments, splitLast?_append, get?_eq_of_segments hsegments]
  dsimp only
  cases root.descend? parents with
  | none => rfl
  | some v => exact hasChild_eq v last

lemma slotRemove_fst (path segment : String) (v : Value) :
    (Slot.remove ⟨v, segment, path⟩).1 = v.child? segment := by
  cases v with
  | list items =>
    rw [Slot.remove, Value.child?]
    cases index? segment <;> rfl
  | _ => rfl

/-- Taking out what is at a path changes the container that it leads to. -/
lemma remove_of_segments {parents : List String} {last : String} {w c : Value}
    (hsegments : segments path = parents ++ [last])
    (hcontainer : root.descend? parents = some w) (hchild : w.child? last = some c) :
    remove root path = (.ok (some c), putAt parents (Slot.remove ⟨w, last, path⟩).2 root) := by
  have hw := isContainer_of_accepts (accepts_of_child? hchild)
  rw [remove, atSlot_of_descend? hsegments hcontainer hw, ← hchild, ← slotRemove_fst path last w]

/-- What is at a path that exists can be taken out. -/
theorem remove_of_contains (hpath : path ≠ "") (h : contains root path = true) :
    (remove root path).1 = .ok (get? root path) := by
  obtain ⟨parents, last, hsegments⟩ := exists_segments_eq hpath
  rw [contains_eq hpath, get?_eq_of_segments hsegments] at h
  obtain ⟨c, hc⟩ := Option.isSome_iff_exists.1 h
  obtain ⟨v, hv, hchild⟩ := Option.bind_eq_some_iff.1 hc
  rw [remove_of_segments hsegments hv hchild, get?_eq_of_segments hsegments, hc]

end ViewKit.Path
