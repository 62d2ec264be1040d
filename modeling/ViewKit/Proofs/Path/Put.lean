/-
# Putting a value where some segments lead

Where segments lead to something, every walk that writes leaves the root with what it made of
it in the same place (`modifyAt_of_descend?`).  This file gives that root a name, `putAt`,
with its laws: what was put is found, of two values put in one place the later one counts, and
putting below a place is putting there what putting below makes of it.  For a field of a map
the writes come down to the operations on fields (`set_field`, `remove_field`).
-/
import ViewKit.Proofs.Path.Level

namespace ViewKit.Path

/-- The value with another one where some segments lead. -/
def putAt : List String → Value → Value → Value
  | [], new, _ => new
  | segment :: ss, new, v => store segment (putAt ss new ((v.child? segment).getD .emptyMap)) v

variable {segment : String} {ss : List String} {v w : Value}

lemma descend?_cons_eq_some_iff : v.descend? (segment :: ss) = some w ↔
    ∃ child, v.child? segment = some child ∧ child.descend? ss = some w := by
  rw [descend?_cons, Option.bind_eq_some_iff]

lemma putAt_cons_of_child? {child : Value} (h : v.child? segment = some child)
    (ss : List String) (new : Value) :
    putAt (segment :: ss) new v = store segment (putAt ss new child) v := by
  rw [putAt, h, Option.getD_some]

/-- Where the segments lead somewhere, an action is done there. -/
lemma modifyAt_of_descend? {α : Type} {path : String}
    {action : Value → Except PathError α × Value} (h : v.descend? ss = some w) :
    modifyAt path ss action v = ((action w).1, putAt ss (action w).2 v) := by
  induction ss generalizing v with
  | nil =>
    obtain rfl : v = w := Option.some.inj h
    rfl
  | cons segment ss ih =>
    obtain ⟨child, hchild, hrest⟩ := descend?_cons_eq_some_iff.1 h
    rw [modifyAt, enter_eq, if_pos (accepts_of_child? hchild), hchild,
      putAt_cons_of_child? hchild]
    simp only [Option.getD_some, ih hrest]

lemma descend?_putAt (h : v.descend? ss = some w) (new : Value) :
    (putAt ss new v).descend? ss = some new := by
  induction ss generalizing v with
  | nil => rfl
  | cons segment ss ih =>
    obtain ⟨child, hchild, hrest⟩ := descend?_cons_eq_some_iff.1 h
    rw [putAt_cons_of_child? hchild, descend?_cons, child?_store (accepts_of_child? hchild),
      Option.bind_some, ih hrest]

/-- Of two values put in one place the later one counts. -/
lemma putAt_putAt (h : v.descend? ss = some w) (first second : Value) :
    putAt ss second (putAt ss first v) = putAt ss second v := by
  induction ss generalizing v with
  | nil => rfl
  | cons segment ss ih =>
    obtain ⟨child, hchild, hrest⟩ := descend?_cons_eq_some_iff.1 h
    have hacc := accepts_of_child? hchild
    rw [putAt_cons_of_child? hchild, putAt_cons_of_child? hchild,
      putAt_cons_of_child? (child?_store hacc _), ih hrest, store_store hacc]

/-- Putting back what is there changes nothing. -/
lemma putAt_self (h : v.descend? ss = some w) : putAt ss w v = v := by
  induction ss generalizing v with
  | nil => exact (Option.some.inj h).symm
  | cons segment ss ih =>
    obtain ⟨child, hchild, hrest⟩ := descend?_cons_eq_some_iff.1 h
    rw [putAt_cons_of_child? hchild, ih hrest, store_of_child? hchild]

/-- Putting below a place is putting there what comes of putting below. -/
lemma putAt_append (h : v.descend? ss = some w) (ts : List String) (new : Value) :
    putAt (ss ++ ts) new v = putAt ss (putAt ts new w) v := by
  induction ss generalizing v with
  | nil =>
    obtain rfl : v = w := Option.some.inj h
    rfl
  | cons segment ss ih =>
    obtain ⟨child, hchild, hrest⟩ := descend?_cons_eq_some_iff.1 h
    rw [List.cons_append, putAt_cons_of_child? hchild, putAt_cons_of_child? hchild, ih hrest]

/-- Where the segments in front of the last one lead to a container, an action at the path is
done there. -/
lemma atSlot_of_descend? {α : Type} {root : Value} {path last : String} {parents : List String}
    (hpath : segments path = parents ++ [last]) (h : root.descend? parents = some w)
    (hw : w.isContainer = true) (action : Slot → Except PathError α × Value) :
    atSlot root path action =
      ((action ⟨w, last, path⟩).1, putAt parents (action ⟨w, last, path⟩).2 root) := by
  rw [atSlot, hpath, splitLast?_append]
  dsimp only
  rw [modifyAt_of_descend? h, if_pos hw]

/-! ## The fields of a map -/

section Field

variable {root : Value} {path name : String} {parents : List String}
  {fields : List (String × Value)}

lemma descend?_field {v : Value} (h : root.descend? parents = some (.map fields))
    (hv : Fields.get? name fields = some v) : root.descend? (parents ++ [name]) = some v := by
  rw [Value.descend?_append, h, Option.bind_some, descend?_cons_eq_some_iff]
  exact ⟨v, hv, rfl⟩

/-- What a path reads that leads through a map depends only on what stands there under one
name. -/
lemma get?_congr_field {root' : Value} {fields' : List (String × Value)} {more : List String}
    (hpath : segments path = parents ++ name :: more)
    (h : root.descend? parents = some (.map fields))
    (h' : root'.descend? parents = some (.map fields'))
    (hname : Fields.get? name fields' = Fields.get? name fields) :
    get? root' path = get? root path := by
  have hchild : (Value.map fields').child? name = (Value.map fields).child? name := hname
  rw [get?, get?, hpath, Value.descend?_append, Value.descend?_append, h, h', Option.bind_some,
    Option.bind_some, descend?_cons, descend?_cons, hchild]

lemma isEmpty_of_segments (h : segments path = parents ++ [name]) : path.isEmpty = false := by
  rw [Bool.eq_false_iff]
  intro hempty
  rw [segments, if_pos hempty] at h
  exact absurd h.symm (List.append_ne_nil_of_right_ne_nil parents (List.cons_ne_nil name []))

lemma get?_eq_of_segments (h : segments path = parents ++ [name]) :
    get? root path = (root.descend? parents).bind fun v => v.child? name := by
  rw [get?, h, Value.descend?_append]
  simp only [descend?_cons, Value.descend?_nil, Option.bind_fun_some]

variable (hpath : segments path = parents ++ [name])
  (hmap : root.descend? parents = some (.map fields))
include hpath hmap

lemma get?_field : get? root path = Fields.get? name fields := by
  rw [get?_eq_of_segments hpath, hmap]
  rfl

lemma contains_field : contains root path = Fields.contains name fields := by
  rw [contains, hpath, splitLast?_append]
  dsimp only
  rw [hmap]
  rfl

lemma set_field (v : Value) : set root path v =
    (.ok (Fields.get? name fields), putAt parents (.map (Fields.insert name v fields)) root) := by
  exact atSlot_of_descend? hpath hmap rfl (Slot.set v)

lemma remove_field : remove root path =
    (.ok (Fields.get? name fields), putAt parents (.map (Fields.erase name fields)) root) := by
  exact atSlot_of_descend? hpath hmap rfl _

end Field

end ViewKit.Path
