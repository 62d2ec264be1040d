/-
# Where a write is refused

Whether a write at a path succeeds is decided at one node: the one that is reached just before
the first segment without a child (`StopsAt`).  A map takes any new child, a list only the one
behind its last item, and nothing else takes a child (`Verdict`).  Behind that node there are
only levels that the write creates itself, and those refuse nothing.  So setting and appending
succeed on the same paths and fail with the same reasons, and so do an update of a state and
an addition to it (`writes_decided_at_stop`).
-/
import ViewKit.Proofs.State.Write

namespace ViewKit.Path

variable {root v node : Value} {path segment : String} {ss : List String}

/-! ## The first segment without a child -/

/-- Following a path stops at a node that has no child under the segment it has come to. -/
def StopsAt (root : Value) (path : String) (node : Value) (segment : String) : Prop :=
  ∃ before after, segments path = before ++ segment :: after ∧
    root.descend? before = some node ∧ node.child? segment = none

/-- Segments that lead nowhere stop at a node that they reach. -/
lemma exists_stop (h : v.descend? ss = none) :
    ∃ before segment after node, ss = before ++ segment :: after ∧
      v.descend? before = some node ∧ node.child? segment = none := by
  induction ss generalizing v with
  | nil => cases h
  | cons segment ss ih =>
    cases hchild : v.child? segment with
    | none => exact ⟨[], segment, ss, v, rfl, rfl, hchild⟩
    | some c =>
      rw [descend?_cons, hchild, Option.bind_some] at h
      obtain ⟨before, last, after, node, rfl, hnode, hnone⟩ := ih h
      refine ⟨segment :: before, last, after, node, rfl, ?_, hnone⟩
      rw [descend?_cons, hchild, Option.bind_some, hnode]

lemma stops_or_leads (root : Value) (path : String) :
    (∃ v, get? root path = some v) ∨ ∃ node segment, StopsAt root path node segment := by
  cases h : get? root path with
  | some v => exact .inl ⟨v, rfl⟩
  | none =>
    obtain ⟨before, segment, after, node, hsegments, hnode, hnone⟩ := exists_stop h
    exact .inr ⟨node, segment, before, after, hsegments, hnode, hnone⟩

/-! ## What is decided there -/

/-- The result of a write that stops at a node under a segment, where `success` is what it
reports if it succeeds. -/
structure Verdict {α : Type} (path segment : String) (node : Value) (success : α)
    (result : Except PathError α) : Prop where
  /-- A map takes a child under any name. -/
  map : ∀ fields, node = .map fields → result = .ok success
  /-- A list takes an item behind its last one. -/
  listEnd : ∀ items, node = .list items → index? segment = some items.length →
    result = .ok success
  notIndex : ∀ items, node = .list items → index? segment = none →
    result = .error (.invalidIndex path segment)
  /-- There may be no gap between the items of a list. -/
  behindEnd : ∀ items i, node = .list items → index? segment = some i → items.length < i →
    result = .error (.indexOutOfRange path i items.length)
  /-- Nothing else has children. -/
  scalar : node.isContainer = false → result = .error (.notAContainer path segment node.kind)

lemma verdict_ite {α : Type} (path segment : String) (node : Value) (success : α) :
    Verdict path segment node success
      (if accepts segment node then .ok success else .error (refusal path segment node)) where
  map := by
    rintro fields rfl
    rfl
  listEnd := by
    rintro items rfl hi
    exact if_pos (accepts_list_iff.2 ⟨_, hi, Nat.le_refl _⟩)
  notIndex := by
    rintro items rfl hi
    simp [accepts, refusal, hi]
  behindEnd := by
    rintro items i rfl hi hlt
    simp [accepts, refusal, hi, hlt]
  scalar := by
    intro hnode
    cases node <;> first | rfl | cases hnode

variable {rule : Option Value → Value}

/-- Where nothing is a change finds nothing, and it cannot fail. -/
lemma changeAt_none (path : String) (rule : Option Value → Value) (ss : List String) :
    (changeAt path rule ss none).1 = .ok none := by
  cases h : (changeAt path rule ss none).1 with
  | error e => cases changeAt_error h
  | ok old => rw [(changeAt_ok h).1, Option.bind_none]

/-- The result of a change is decided where the first of its segments lead. -/
lemma changeAt_append (h : v.descend? ss = some node) (ts : List String) :
    (changeAt path rule (ss ++ ts) (some v)).1 = (changeAt path rule ts (some node)).1 := by
  induction ss generalizing v with
  | nil =>
    obtain rfl : v = node := Option.some.inj h
    rfl
  | cons segment ss ih =>
    rw [descend?_cons] at h
    obtain ⟨c, hc, hrest⟩ := Option.bind_eq_some_iff.1 h
    rw [List.cons_append, changeAt_cons_of_accepts path rule _ (x := some v) (accepts_of_child? hc),
      Option.getD_some, hc, ih hrest]

/-- A change that stops at a node has the result that is decided there. -/
lemma changeAt_of_stop (h : StopsAt root path node segment) :
    (changeAt path rule (segments path) (some root)).1 =
      if accepts segment node then .ok none else .error (refusal path segment node) := by
  obtain ⟨before, after, hsegments, hnode, hnone⟩ := h
  rw [hsegments, changeAt_append hnode]
  by_cases hacc : accepts segment node = true
  · -- What follows is a change of nothing, which creates its levels and refuses none.
    rw [changeAt_cons_of_accepts path rule _ (x := some node) hacc, Option.getD_some, hnone,
      changeAt_none, if_pos hacc]
  · rw [changeAt_cons_of_not_accepts path rule _ (x := some node) hacc, Option.getD_some,
      if_neg hacc]

/-- A change of something that is there succeeds. -/
lemma changeAt_of_lead (h : get? root path = some v) :
    (changeAt path rule (segments path) (some root)).1 = .ok (some v) := by
  have hresult : (changeAt path rule (segments path ++ []) (some root)).1 =
      (changeAt path rule [] (some v)).1 := changeAt_append h []
  rwa [List.append_nil] at hresult

/-! ## Setting and appending -/

/-- Whether a change fails, and why, does not depend on what it puts at its end. -/
lemma changeAt_error_iff (rule rule' : Option Value → Value) (root : Value) (path : String)
    (e : PathError) :
    (changeAt path rule (segments path) (some root)).1 = .error e ↔
      (changeAt path rule' (segments path) (some root)).1 = .error e := by
  rcases stops_or_leads root path with ⟨v, hv⟩ | ⟨node, segment, hstop⟩
  · rw [changeAt_of_lead hv, changeAt_of_lead hv]
  · rw [changeAt_of_stop hstop, changeAt_of_stop hstop]

variable (hpath : path ≠ "")
include hpath

lemma set_of_stop (h : StopsAt root path node segment) (v : Value) :
    Verdict path segment node none (set root path v).1 := by
  rw [set_eq_changeAt root v hpath, changeAt_of_stop h]
  exact verdict_ite path segment node none

lemma append_of_stop (h : StopsAt root path node segment) (v : Value) :
    Verdict path segment node () (append root path v).1 := by
  have hresult : (append root path v).1 =
      if accepts segment node then .ok () else .error (refusal path segment node) := by
    rw [append_eq_changeAt root v hpath, changeAt_of_stop h]
    cases accepts segment node <;> rfl
  rw [hresult]
  exact verdict_ite path segment node ()

lemma set_of_lead (h : get? root path = some v) (w : Value) :
    (set root path w).1 = .ok (some v) := by
  rw [set_eq_changeAt root w hpath, changeAt_of_lead h]

lemma append_of_lead (h : get? root path = some v) (w : Value) :
    (append root path w).1 = .ok () := by
  rw [append_eq_changeAt root w hpath, changeAt_of_lead h]
  rfl

lemma append_error_iff (root v w : Value) (e : PathError) :
    (append root path w).1 = .error e ↔ (set root path v).1 = .error e := by
  rw [append_eq_changeAt root w hpath, set_eq_changeAt root v hpath,
    changeAt_error_iff (fun _ => v) (appended w)]
  cases (changeAt path (appended w) (segments path) (some root)).1 <;> simp [Except.map]

end ViewKit.Path

namespace ViewKit.State

open ViewKit.Path

/-! ## Updates and additions -/

variable (handlers : Handlers StateEvent) (s : State) {path : String}

lemma update_error_iff (hpath : path ≠ "") (v : Value) (e : PathError) :
    (s.update handlers path v).result = .error e ↔ (Path.set s.root path v).1 = .error e := by
  rw [update, Write.isEmpty_eq_false hpath, if_neg Bool.false_ne_true]
  rcases Path.set s.root path v with ⟨_ | _, _⟩ <;> simp [announce]

lemma add_error_iff (hpath : path ≠ "") (v : Value) (e : PathError) :
    (s.add handlers path v).result = .error e ↔ (Path.append s.root path v).1 = .error e := by
  rw [add, Write.isEmpty_eq_false hpath, if_neg Bool.false_ne_true]
  rcases Path.append s.root path v with ⟨_ | _, _⟩ <;> simp [announce]

/-- An addition fails where an update does, and at the empty path neither of them does. -/
lemma add_error_iff_update (path : String) (v w : Value) (e : PathError) :
    (s.add handlers path w).result = .error e ↔ (s.update handlers path v).result = .error e := by
  by_cases hpath : path = ""
  · subst hpath
    exact ⟨nofun, nofun⟩
  · rw [add_error_iff handlers s hpath, update_error_iff handlers s hpath,
      append_error_iff hpath s.root v w]

/-- A write at a path that leads somewhere succeeds.  Any other path stops at a node, and there
it is decided whether setting and appending succeed and, if not, why.  Appending and setting
fail alike, whatever the values, and so do additions to a state and updates of it.  At the
empty path there is nothing to write to. -/
theorem writes_decided_at_stop (handlers : Handlers StateEvent) (s : State) (root v w : Value)
    (path : String) (hpath : path ≠ "") :
    ((∃ u, Path.get? root path = some u) ∨ ∃ node segment, StopsAt root path node segment) ∧
      (∀ u, Path.get? root path = some u →
        (Path.set root path v).1 = .ok (some u) ∧ (Path.append root path w).1 = .ok ()) ∧
      (∀ node segment, StopsAt root path node segment →
        Verdict path segment node none (Path.set root path v).1 ∧
          Verdict path segment node () (Path.append root path w).1) ∧
      (∀ e, (Path.append root path w).1 = .error e ↔ (Path.set root path v).1 = .error e) ∧
      (∀ path e, (s.add handlers path w).result = .error e ↔
        (s.update handlers path v).result = .error e) ∧
      ∀ {α : Type} (action : Slot → Except PathError α × Value),
        atSlot root "" action = (.error .emptyPath, root) := by
  refine ⟨stops_or_leads root path, fun u hu => ?_, fun node segment hstop => ?_, fun e => ?_,
    fun path e => ?_, fun action => rfl⟩
  · exact ⟨set_of_lead hpath hu v, append_of_lead hpath hu w⟩
  · exact ⟨set_of_stop hpath hstop v, append_of_stop hpath hstop w⟩
  · exact append_error_iff hpath root v w e
  · exact add_error_iff_update handlers s path v w e

/-- A list is met by a name in the middle of the path, by an index behind its end, and by the
index that is free, and a text is met by any segment. -/
theorem writes_decided_at_stop_of_list :
    let root : Value := .map [("l", .list [.null, .text "x"])]
    let s : State := ⟨root, .emptyMap, Hub.empty⟩
    (Path.set root "l.x.k" .null).1 = .error (.invalidIndex "l.x.k" "x") ∧
      (Path.append root "l.+3" .null).1 = .error (.indexOutOfRange "l.+3" 3 2) ∧
      (Path.set root "l.2.k" .null).1 = .ok none ∧
      (s.add .silent "l.1.k.k" .null).result = .error (.notAContainer "l.1.k.k" "k" "string") := by
  intro root s
  have hitems : root.descend? ["l"] = some (.list [.null, .text "x"]) := rfl
  obtain ⟨-, -, hname, -⟩ := writes_decided_at_stop .silent s root .null .null "l.x.k" (by decide)
  obtain ⟨-, -, hbehind, -⟩ := writes_decided_at_stop .silent s root .null .null "l.+3" (by decide)
  obtain ⟨-, -, hfree, -⟩ := writes_decided_at_stop .silent s root .null .null "l.2.k" (by decide)
  obtain ⟨-, -, htext, -, hadd, -⟩ :=
    writes_decided_at_stop .silent s root .null .null "l.1.k.k" (by decide)
  refine ⟨?_, ?_, ?_, ?_⟩
  · exact (hname _ "x" ⟨["l"], ["k"], by decide, hitems, rfl⟩).1.notIndex _ rfl (by decide)
  · exact (hbehind _ "+3" ⟨["l"], [], by decide, hitems, rfl⟩).2.behindEnd _ 3 rfl (by decide)
      (by decide)
  · exact (hfree _ "2" ⟨["l"], ["k"], by decide, hitems, rfl⟩).1.listEnd _ rfl (by decide)
  · have hstop : StopsAt root "l.1.k.k" (.text "x") "k" :=
      ⟨["l", "1"], ["k"], by decide, rfl, rfl⟩
    exact (hadd _ _).2 ((update_error_iff .silent s (by decide) .null _).2
      ((htext _ "k" hstop).1.scalar rfl))

end ViewKit.State
