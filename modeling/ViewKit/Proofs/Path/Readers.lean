/-
# The readers agree

A path is read in several ways: by following its segments, by a resolution that enters only
containers, by asking whether the last segment is a child of what the others lead to, and by
the walk that writes, when it is made to write nothing (`openSlot`).  They all find the same
(`readers_agree`).  The resolution says more than the others where nothing is found: how far
it came (`IsNearest`).
-/
import ViewKit.Proofs.Path.Remove

namespace ViewKit.Path

variable {v w : Value} {ss : List String} {last : String}

/-! ## Values without parts -/

lemma descend?_of_not_isContainer (h : v.isContainer = false) (hss : ss ≠ []) :
    v.descend? ss = none := by
  cases ss with
  | nil => exact absurd rfl hss
  | cons segment ss =>
    have hchild : v.child? segment = none := by
      cases v <;> first | rfl | cases h
    rw [descend?_cons, hchild, Option.bind_none]

/-- What leads to a container leads through containers. -/
lemma isContainer_of_descend? (h : v.descend? ss = some w) (hw : w.isContainer = true) :
    v.isContainer = true := by
  cases ss with
  | nil =>
    obtain rfl : v = w := Option.some.inj h
    exact hw
  | cons segment ss =>
    obtain ⟨c, hc, -⟩ := descend?_cons_eq_some_iff.1 h
    exact isContainer_of_accepts (accepts_of_child? hc)

/-! ## The resolution -/

/-- No container is the child of a value under the segment. -/
def Blocks (segment : String) (v : Value) : Prop :=
  ∀ c, v.child? segment = some c → c.isContainer = false

lemma enters_or_blocks (segment : String) (v : Value) :
    (∃ c, v.child? segment = some c ∧ c.isContainer = true) ∨ Blocks segment v := by
  by_cases h : ∃ c, v.child? segment = some c ∧ c.isContainer = true
  · exact .inl h
  · exact .inr fun c hc => Bool.eq_false_iff.2 fun hcontainer => h ⟨c, hc, hcontainer⟩

section Step

variable {segment : String} {c : Value}

lemma lastContainer_of_enters (hc : v.child? segment = some c) (h : c.isContainer = true)
    (ss : List String) : lastContainer v (segment :: ss) = lastContainer c ss := by
  rw [lastContainer, hc]
  exact if_pos h

lemma lastContainer_of_blocks (h : Blocks segment v) (ss : List String) :
    lastContainer v (segment :: ss) = (v, false) := by
  rw [lastContainer]
  split
  · next c hc => rw [h c hc, if_neg Bool.false_ne_true]
  · rfl

end Step

/-- A node is the last one that some segments reach through containers. -/
def IsNearest (root : Value) (parents : List String) (node : Value) : Prop :=
  ∃ passed rest, parents = passed ++ rest ∧ root.descend? passed = some node ∧
    (∀ mid, mid <+: passed → mid ≠ [] → ∃ c, root.descend? mid = some c ∧ c.isContainer = true) ∧
    ∀ segment ∈ rest.head?, Blocks segment node

/-- Where no container follows, the node itself is the nearest one. -/
lemma IsNearest.here (h : ∀ segment ∈ ss.head?, Blocks segment v) : IsNearest v ss v := by
  refine ⟨[], ss, rfl, rfl, fun mid hmid hne => ?_, h⟩
  exact absurd (List.prefix_nil.1 hmid) hne

/-- Through a container the nearest one is that of the rest of the segments. -/
lemma IsNearest.through {segment : String} {c node : Value} (hc : v.child? segment = some c)
    (hcontainer : c.isContainer = true) (h : IsNearest c ss node) :
    IsNearest v (segment :: ss) node := by
  obtain ⟨passed, rest, rfl, hnode, hthrough, hrest⟩ := h
  refine ⟨segment :: passed, rest, rfl, ?_, fun mid hmid hne => ?_, hrest⟩
  · rw [descend?_cons, hc, Option.bind_some, hnode]
  · cases mid with
    | nil => exact absurd rfl hne
    | cons other mid =>
      obtain ⟨rfl, hpassed⟩ := List.cons_prefix_cons.1 hmid
      rw [descend?_cons, hc, Option.bind_some]
      by_cases hnil : mid = []
      · subst hnil
        exact ⟨c, rfl, hcontainer⟩
      · exact hthrough mid hpassed hnil

lemma isNearest_lastContainer (v : Value) (ss : List String) :
    IsNearest v ss (lastContainer v ss).1 := by
  induction ss generalizing v with
  | nil => exact .here nofun
  | cons segment ss ih =>
    rcases enters_or_blocks segment v with ⟨c, hc, hcontainer⟩ | hblocks
    · rw [lastContainer_of_enters hc hcontainer]
      exact .through hc hcontainer (ih c)
    · rw [lastContainer_of_blocks hblocks]
      refine .here fun other hother => ?_
      obtain rfl : segment = other := Option.some.inj hother
      exact hblocks

/-- Behind a node whose next child is no container nothing is found. -/
lemma descend?_of_blocks {segment : String} (h : Blocks segment v) (hss : ss ≠ []) :
    v.descend? (segment :: ss) = none := by
  rw [descend?_cons, Option.bind_eq_none_iff]
  exact fun c hc => descend?_of_not_isContainer (h c hc) hss

/-- A resolution that comes to its end finds what the segments lead to, and where it comes to no
end they lead nowhere. -/
lemma value_lastContainer (v : Value) (ss : List String) (last : String) :
    (if (lastContainer v ss).2 then (lastContainer v ss).1.child? last else none) =
      v.descend? (ss ++ [last]) := by
  induction ss generalizing v with
  | nil =>
    rw [List.nil_append, descend?_cons]
    exact (Option.bind_fun_some _).symm
  | cons segment ss ih =>
    rcases enters_or_blocks segment v with ⟨c, hc, hcontainer⟩ | hblocks
    · rw [lastContainer_of_enters hc hcontainer, ih c, List.cons_append, descend?_cons, hc,
        Option.bind_some]
    · rw [lastContainer_of_blocks hblocks, List.cons_append,
        descend?_of_blocks hblocks (List.append_ne_nil_of_right_ne_nil ss (List.cons_ne_nil _ _))]
      rfl

/-- A resolution comes to its end where the segments lead to a container. -/
lemma lastContainer_of_descend? (h : v.descend? ss = some w) (hw : w.isContainer = true) :
    lastContainer v ss = (w, true) := by
  induction ss generalizing v with
  | nil =>
    obtain rfl : v = w := Option.some.inj h
    rfl
  | cons segment ss ih =>
    obtain ⟨c, hc, hrest⟩ := descend?_cons_eq_some_iff.1 h
    rw [lastContainer_of_enters hc (isContainer_of_descend? hrest hw), ih hrest]

variable {root : Value} {path : String} {parents : List String}

lemma resolve_of_segments (h : segments path = parents ++ [last]) :
    resolve root path =
      ⟨get? root path, some last, some (lastContainer root parents).1⟩ := by
  rw [resolve, h, splitLast?_append, get?, h, ← value_lastContainer]

/-! ## The walk that writes -/

/-- The place of a path as the walk that writes finds it, when nothing is written there. -/
def openSlot (root : Value) (path : String) : Except PathError Slot × Value :=
  atSlot root path fun slot => (.ok slot, slot.container)

/-- Where a path leads to something, opening its place changes nothing. -/
lemma openSlot_of_child? (h : segments path = parents ++ [last])
    (hcontainer : root.descend? parents = some w) (hchild : w.child? last = some v) :
    openSlot root path = (.ok ⟨w, last, path⟩, root) := by
  have hw := isContainer_of_accepts (accepts_of_child? hchild)
  rw [openSlot, atSlot_of_descend? h hcontainer hw, putAt_self hcontainer]

/-! ## All readers -/

lemma contains_empty (root : Value) : contains root "" = false := rfl

/-- A resolution and a copy have the value that is read, and a path exists if it is not empty
and something is read.  At a path that is not empty the resolution names the last segment and
the nearest container, and where something is read, that is its child there, and the walk that
writes opens this very place and changes nothing. -/
theorem readers_agree (root : Value) (path : String) :
    (resolve root path).value = get? root path ∧ cloneAt? root path = get? root path ∧
      (contains root path = true ↔ path ≠ "" ∧ ∃ v, get? root path = some v) ∧
      (path ≠ "" → ∃ parents last container, segments path = parents ++ [last] ∧
        (resolve root path).key = some last ∧
        (resolve root path).container = some container ∧ IsNearest root parents container ∧
        ∀ v, get? root path = some v → container.child? last = some v ∧
          ∃ slot, openSlot root path = (.ok slot, root) ∧ slot.key = last ∧
            slot.container = container ∧ slot.get? = some v ∧ slot.contains = true) := by
  by_cases hpath : path = ""
  · subst hpath
    refine ⟨rfl, rfl, ⟨?_, fun h => absurd rfl h.1⟩, fun h => absurd rfl h⟩
    rw [contains_empty]
    nofun
  obtain ⟨parents, last, hsegments⟩ := exists_segments_eq hpath
  have hresolve : resolve root path =
      ⟨get? root path, some last, some (lastContainer root parents).1⟩ :=
    resolve_of_segments hsegments
  refine ⟨congrArg Resolved.value hresolve, rfl, ?_, fun _ => ?_⟩
  · rw [contains_eq hpath, Option.isSome_iff_exists]
    exact ⟨fun h => ⟨hpath, h⟩, And.right⟩
  · refine ⟨parents, last, _, hsegments, congrArg Resolved.key hresolve,
      congrArg Resolved.container hresolve, isNearest_lastContainer root parents, fun v hv => ?_⟩
    rw [get?_eq_of_segments hsegments] at hv
    obtain ⟨w, hw, hchild⟩ := Option.bind_eq_some_iff.1 hv
    have hnearest := lastContainer_of_descend? hw
      (isContainer_of_accepts (accepts_of_child? hchild))
    rw [hnearest]
    refine ⟨hchild, ⟨w, last, path⟩, openSlot_of_child? hsegments hw hchild, rfl, rfl, hchild, ?_⟩
    rw [Slot.contains, hasChild_eq, hchild, Option.isSome_some]

/-- All readers find an item by an index with a sign, below a field with an empty name. -/
theorem readers_agree_on_item :
    let root : Value := .map [("", .list [.null, .text "x"]), ("t", .text "y")]
    (resolve root ".+1").value = some (.text "x") ∧ contains root ".+1" = true ∧
      ∃ slot, openSlot root ".+1" = (.ok slot, root) ∧ slot.key = "+1" ∧
        slot.get? = some (.text "x") ∧ slot.contains = true := by
  intro root
  obtain ⟨hvalue, -, hcontains, hslot⟩ := readers_agree root ".+1"
  have hread : get? root ".+1" = some (.text "x") := by rfl
  obtain ⟨parents, last, container, hsegments, -, -, -, hfound⟩ := hslot (by decide)
  obtain ⟨-, slot, hopen, hkey, -, hget, hin⟩ := hfound _ hread
  have hlast : last = "+1" := by
    have hsame : ["", "+1"] = parents ++ [last] := hsegments
    have hend : some "+1" = some last := (congrArg List.getLast? hsame).trans List.getLast?_concat
    exact (Option.some.inj hend).symm
  exact ⟨hvalue.trans hread, hcontains.2 ⟨by decide, _, hread⟩, slot, hopen, hkey.trans hlast, hget,
    hin⟩

end ViewKit.Path
