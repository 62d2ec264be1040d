/-
# Deletions

A deletion succeeds on every path.  Where the path leads to nothing, it leaves the root alone
and announces no old value; where it leads to something, that is announced, and its container
loses this one entry (`Loses`), while everything beside the container stays as it is
(`ReplacedAt`).  Both relations say what stands in front of the place and behind it, so that
they fix the new root completely (`delete_exact`).
-/
import ViewKit.Proofs.State.Write
import ViewKit.Proofs.Value.Equality

namespace ViewKit

/-! ## Splitting fields and items at a place -/

lemma Fields.exists_split {α : Type} {name : String} {a : α} {fields : List (String × α)}
    (h : get? name fields = some a) :
    ∃ front back, fields = front ++ (name, a) :: back ∧ name ∉ names front ∧
      erase name fields = front ++ back ∧
      ∀ b, insert name b fields = front ++ (name, b) :: back := by
  induction fields with
  | nil => cases h
  | cons p fields ih =>
    obtain ⟨n, c⟩ := p
    rw [get?_cons] at h
    by_cases hn : n = name
    · rw [if_pos hn] at h
      obtain rfl : c = a := Option.some.inj h
      refine ⟨[], fields, by rw [hn, List.nil_append], List.not_mem_nil, ?_, fun b => ?_⟩
      · rw [erase, if_pos hn, List.nil_append]
      · rw [insert, if_pos hn, hn, List.nil_append]
    · rw [if_neg hn] at h
      obtain ⟨front, back, rfl, hnot, herase, hinsert⟩ := ih h
      refine ⟨(n, c) :: front, back, rfl, ?_, ?_, fun b => ?_⟩
      · exact List.not_mem_cons_of_ne_of_not_mem (Ne.symm hn) hnot
      · rw [erase, if_neg hn, herase, List.cons_append]
      · rw [insert, if_neg hn, hinsert, List.cons_append]

lemma exists_split_item {items : List Value} {i : Nat} {c : Value} (h : items[i]? = some c) :
    ∃ front back, items = front ++ c :: back ∧ front.length = i := by
  obtain ⟨hlt, rfl⟩ := List.getElem?_eq_some_iff.1 h
  refine ⟨items.take i, items.drop (i + 1), ?_, List.length_take_of_le (Nat.le_of_lt hlt)⟩
  rw [List.getElem_cons_drop, List.take_append_drop]

namespace Path

variable {v w c : Value} {last : String} {ss : List String}

/-! ## One place -/

/-- A value stands where some segments lead and is replaced by another one, and everything
beside it stays. -/
inductive ReplacedAt (old new : Value) : List String → Value → Value → Prop where
  | here : ReplacedAt old new [] old new
  | field {name : String} {ss : List String} {child child' : Value}
      {front back : List (String × Value)} :
      name ∉ Fields.names front → ReplacedAt old new ss child child' →
      ReplacedAt old new (name :: ss) (.map (front ++ (name, child) :: back))
        (.map (front ++ (name, child') :: back))
  | item {segment : String} {ss : List String} {child child' : Value} {front back : List Value} :
      index? segment = some front.length → ReplacedAt old new ss child child' →
      ReplacedAt old new (segment :: ss) (.list (front ++ child :: back))
        (.list (front ++ child' :: back))

/-- A container loses its child under a segment.  The fields of a map and the items of a list
keep their order, so that the items behind the lost one move down by one place. -/
inductive Loses (segment : String) (child : Value) : Value → Value → Prop where
  | field {front back : List (String × Value)} : segment ∉ Fields.names front →
      Loses segment child (.map (front ++ (segment, child) :: back)) (.map (front ++ back))
  | item {front back : List Value} : index? segment = some front.length →
      Loses segment child (.list (front ++ child :: back)) (.list (front ++ back))

/-- Putting a value where some segments lead replaces what stands there. -/
lemma replacedAt_putAt (h : v.descend? ss = some w) (new : Value) :
    ReplacedAt w new ss v (putAt ss new v) := by
  induction ss generalizing v with
  | nil =>
    obtain rfl : v = w := Option.some.inj h
    exact .here
  | cons segment ss ih =>
    obtain ⟨child, hchild, hrest⟩ := descend?_cons_eq_some_iff.1 h
    have hbelow := ih hrest
    rw [putAt_cons_of_child? hchild]
    cases v with
    | map fields =>
      obtain ⟨front, back, hfields, hnot, -, hinsert⟩ := Fields.exists_split hchild
      rw [store, hinsert, hfields]
      exact .field hnot hbelow
    | list items =>
      obtain ⟨i, hi, hitem⟩ := Option.bind_eq_some_iff.1 hchild
      obtain ⟨front, back, rfl, rfl⟩ := exists_split_item hitem
      rw [store_list_of_index? hi, if_neg (by simp), List.set_append_right _ _ (Nat.le_refl _),
        Nat.sub_self, List.set_cons_zero]
      exact .item hi hbelow
    | _ => cases hchild

lemma loses_slotRemove (h : v.child? last = some c) (path : String) :
    Loses last c v (Slot.remove ⟨v, last, path⟩).2 := by
  cases v with
  | map fields =>
    obtain ⟨front, back, hfields, hnot, herase, -⟩ := Fields.exists_split h
    have hrest : (Slot.remove ⟨.map fields, last, path⟩).2 = .map (Fields.erase last fields) := rfl
    rw [hrest, herase, hfields]
    exact .field hnot
  | list items =>
    obtain ⟨i, hi, hitem⟩ := Option.bind_eq_some_iff.1 h
    obtain ⟨front, back, rfl, rfl⟩ := exists_split_item hitem
    have hrest : (front ++ c :: back).eraseIdx front.length = front ++ back := by
      rw [List.eraseIdx_append_of_length_le (Nat.le_refl _), Nat.sub_self, List.eraseIdx_cons_zero]
    simp only [Slot.remove, hi, hrest]
    exact .item hi
  | _ => cases h

/-- With distinct names nothing is left under the name of the lost field. -/
lemma Loses.field?_eq_none {container rest : Value} (h : Loses last c container rest)
    (hw : container.WellFormed) : rest.field? last = none := by
  cases h with
  | @field front back hnot =>
    have hd := (Value.wellFormed_map_iff.1 hw).1
    rw [Fields.Distinct, Fields.names, List.map_append, List.nodup_append] at hd
    have hback : last ∉ Fields.names back := (List.nodup_cons.1 hd.2.1).1
    refine Fields.get?_eq_none_iff.2 fun hmem => ?_
    rw [Fields.names, List.map_append] at hmem
    exact (List.mem_append.1 hmem).elim hnot hback
  | item => rfl

end Path

namespace Value

lemma WellFormed.child? {v w : Value} {segment : String} (hv : v.WellFormed)
    (h : v.child? segment = some w) : w.WellFormed := by
  cases v with
  | map fields => exact hv.field? h
  | list items =>
    obtain ⟨i, -, hitem⟩ := Option.bind_eq_some_iff.1 h
    exact wellFormed_list_iff.1 hv w (List.mem_of_getElem? hitem)
  | _ => cases h

lemma WellFormed.descend? {v w : Value} {ss : List String} (hv : v.WellFormed)
    (h : v.descend? ss = some w) : w.WellFormed := by
  induction ss generalizing v with
  | nil =>
    obtain rfl : v = w := Option.some.inj h
    exact hv
  | cons segment ss ih =>
    obtain ⟨child, hchild, hrest⟩ := Path.descend?_cons_eq_some_iff.1 h
    exact ih (hv.child? hchild) hrest

end Value

namespace State

open ViewKit.Path

variable (handlers : Handlers StateEvent) {s : State} {path : String}

lemma delete_of_get?_eq_none (hpath : path ≠ "") (h : s.get? path = none) :
    s.delete handlers path = announce handlers (.deleted path none) s := by
  have hcontains : s.contains path = (s.get? path).isSome := contains_eq hpath
  rw [h] at hcontains
  rw [delete, Write.isEmpty_eq_false hpath, if_neg Bool.false_ne_true, hcontains]
  exact if_neg Bool.false_ne_true

lemma delete_of_segments {parents : List String} {last : String} {w v : Value}
    (hpath : path ≠ "") (hsegments : segments path = parents ++ [last])
    (hcontainer : s.root.descend? parents = some w) (hchild : w.child? last = some v) :
    s.delete handlers path = announce handlers (.deleted path (some v))
      { s with root := putAt parents (Slot.remove ⟨w, last, path⟩).2 s.root } := by
  have hread : s.get? path = some v := by
    rw [get?, get?_eq_of_segments hsegments, hcontainer, Option.bind_some, hchild]
  have hcontains : s.contains path = (s.get? path).isSome := contains_eq hpath
  rw [hread] at hcontains
  rw [delete, Write.isEmpty_eq_false hpath, if_neg Bool.false_ne_true, hcontains,
    if_pos Option.isSome_some, remove_of_segments hsegments hcontainer hchild]

/-- A deletion at a path that is not empty succeeds and is announced with what was read there.
If that was nothing the root is as before.  Otherwise the container loses this entry, under
whose name a well-formed map has none then, and everything beside the container stays. -/
theorem delete_exact (handlers : Handlers StateEvent) (s : State) (path : String)
    (hpath : path ≠ "") :
    ∃ after, s.delete handlers path =
        announce handlers (.deleted path (s.get? path)) { s with root := after } ∧
      (∃ d, (s.delete handlers path).result = .ok d) ∧
      (s.get? path = none → after = s.root) ∧
      ∀ v, s.get? path = some v → ∃ parents last container rest,
        segments path = parents ++ [last] ∧ ReplacedAt container rest parents s.root after ∧
        Loses last v container rest ∧ (s.root.WellFormed → rest.field? last = none) := by
  cases h : s.get? path with
  | none =>
    have hdelete := delete_of_get?_eq_none handlers hpath h
    refine ⟨s.root, hdelete, ⟨_, by rw [hdelete]; rfl⟩, fun _ => rfl, nofun⟩
  | some v =>
    obtain ⟨parents, last, hsegments⟩ := exists_segments_eq hpath
    have hread : (s.root.descend? parents).bind (fun w => w.child? last) = some v :=
      (get?_eq_of_segments hsegments).symm.trans h
    obtain ⟨w, hcontainer, hchild⟩ := Option.bind_eq_some_iff.1 hread
    have hdelete := delete_of_segments handlers hpath hsegments hcontainer hchild
    refine ⟨_, hdelete, ⟨_, by rw [hdelete]; rfl⟩, nofun, fun u hu => ?_⟩
    obtain rfl : v = u := Option.some.inj hu
    have hloses := loses_slotRemove hchild path
    exact ⟨parents, last, w, _, hsegments, replacedAt_putAt hcontainer _, hloses,
      fun hroot => hloses.field?_eq_none (hroot.descend? hcontainer)⟩

/-- A field is deleted from a map inside a list. -/
theorem delete_exact_inside_list :
    let root : Value := .map [("l", .list [.null, .map [("k", .text "x"), ("m", .null)]])]
    let s : State := ⟨root, .emptyMap, Hub.empty⟩
    s.get? "l.+1.k" = some (.text "x") ∧ s.root.WellFormed ∧
      (∃ d, (s.delete .silent "l.+1.k").result = .ok d) ∧
      ∃ parents last container rest, segments "l.+1.k" = parents ++ [last] ∧
        ReplacedAt container rest parents s.root (s.delete .silent "l.+1.k").state.root ∧
        Loses last (.text "x") container rest ∧ rest.field? last = none := by
  intro root s
  have hread : s.get? "l.+1.k" = some (.text "x") := by rfl
  have hroot : s.root.WellFormed := by
    simp [s, root, Value.WellFormed, Value.WellFormedFields, Value.WellFormedItems,
      Fields.Distinct, Fields.names]
  obtain ⟨after, hdelete, hok, -, hlost⟩ := delete_exact .silent s "l.+1.k" (by decide)
  have hafter : (s.delete .silent "l.+1.k").state.root = after := by rw [hdelete]; rfl
  obtain ⟨parents, last, container, rest, hsegments, hplace, hloses, hgone⟩ := hlost _ hread
  rw [hafter]
  exact ⟨hread, hroot, hok, parents, last, container, rest, hsegments, hplace, hloses, hgone hroot⟩

end State
end ViewKit
