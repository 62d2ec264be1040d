/-
# Changing what a path leads to

Setting and appending differ only in what they put in the place of what is there.  Both are
`changeAt`, which follows a list of segments through what is there, if anything, and puts at
its end what a rule makes of what it finds (`set_eq_changeAt`, `append_eq_changeAt`).  In
contrast to the walk that writes, its recursion treats a missing level like any other, so
that the laws of writing are inductions on the segments:

* a change that fails has changed nothing (`changeAt_error`), because behind the first
  missing level there are only empty maps, where nothing can fail;
* a change that succeeds reports what reading found and leaves what the rule made of it
  (`changeAt_ok`);
* a change that puts back what is there changes nothing (`changeAt_of_descend?`);
* of two changes at one place the second sees what the first left and replaces it
  (`changeAt_changeAt`).
-/
import ViewKit.Proofs.Path.Level

namespace ViewKit.Path

/-- Puts at the end of some segments what a rule makes of what is there, if anything.  The
result is what was there. -/
def changeAt (path : String) (rule : Option Value → Value) :
    List String → Option Value → Except PathError (Option Value) × Value
  | [], x => (.ok x, rule x)
  | segment :: ss, x =>
    let v := x.getD .emptyMap
    if accepts segment v then
      let (result, child) := changeAt path rule ss (v.child? segment)
      (result, store segment child v)
    else (.error (refusal path segment v), v)

variable (path : String) (rule : Option Value → Value) {segment : String}
  (ss : List String) {x : Option Value}

lemma changeAt_cons_of_accepts (h : accepts segment (x.getD .emptyMap) = true) :
    changeAt path rule (segment :: ss) x =
      ((changeAt path rule ss ((x.getD .emptyMap).child? segment)).1,
        store segment (changeAt path rule ss ((x.getD .emptyMap).child? segment)).2
          (x.getD .emptyMap)) := by
  rw [changeAt, if_pos h]

lemma changeAt_cons_of_not_accepts (h : accepts segment (x.getD .emptyMap) ≠ true) :
    changeAt path rule (segment :: ss) x =
      (.error (refusal path segment (x.getD .emptyMap)), x.getD .emptyMap) := by
  rw [changeAt, if_neg h]

variable {path rule ss}

/-! ## The writes as changes -/

/-- The walk that writes is a change, if what it does at its end is one. -/
lemma modifyAt_eq {α : Type} (f : Option Value → α) {last : String}
    {action : Value → Except PathError α × Value}
    (haction : ∀ v, action v =
      ((changeAt path rule [last] (some v)).1.map f, (changeAt path rule [last] (some v)).2))
    (parents : List String) (v : Value) :
    modifyAt path parents action v =
      ((changeAt path rule (parents ++ [last]) (some v)).1.map f,
        (changeAt path rule (parents ++ [last]) (some v)).2) := by
  induction parents generalizing v with
  | nil => exact haction v
  | cons segment parents ih =>
    -- an empty map in a free place is changed as nothing is
    have hfresh : ∀ x : Option Value, changeAt path rule (parents ++ [last])
        (some (x.getD .emptyMap)) = changeAt path rule (parents ++ [last]) x := by
      intro x
      cases parents <;> rfl
    rw [modifyAt, enter_eq, List.cons_append]
    by_cases h : accepts segment v = true
    · rw [changeAt_cons_of_accepts path rule _ (x := some v) h, if_pos h]
      dsimp only
      rw [ih, hfresh]
      rfl
    · rw [changeAt_cons_of_not_accepts path rule _ (x := some v) h, if_neg h]
      rfl

lemma changeAt_singleton (last : String) (v : Value) :
    changeAt path rule [last] (some v) =
      if accepts last v then (.ok (v.child? last), store last (rule (v.child? last)) v)
      else (.error (refusal path last v), v) := by
  cases h : accepts last v <;> simp [changeAt, h]

/-- At a container the slot decides, and elsewhere the write is refused. -/
lemma atSlot_eq {α : Type} (f : Option Value → α) {root : Value}
    {action : Slot → Except PathError α × Value} (hpath : path ≠ "")
    (haction : ∀ v segment, action ⟨v, segment, path⟩ =
      if accepts segment v then
        (.ok (f (v.child? segment)), store segment (rule (v.child? segment)) v)
      else (.error (refusal path segment v), v)) :
    atSlot root path action =
      ((changeAt path rule (segments path) (some root)).1.map f,
        (changeAt path rule (segments path) (some root)).2) := by
  obtain ⟨parents, last, hsegments⟩ := exists_segments_eq hpath
  rw [atSlot, hsegments, splitLast?_append]
  refine modifyAt_eq f (fun v => ?_) parents root
  rw [changeAt_singleton, haction]
  -- a value without parts is refused before the slot is tried, with the same reason
  cases v with
  | list items => cases accepts last (.list items) <;> rfl
  | _ => rfl

theorem set_eq_changeAt (root w : Value) (hpath : path ≠ "") :
    set root path w = changeAt path (fun _ => w) (segments path) (some root) := by
  have h : atSlot root path (Slot.set w) =
      ((changeAt path (fun _ => w) (segments path) (some root)).1.map id,
        (changeAt path (fun _ => w) (segments path) (some root)).2) :=
    atSlot_eq id hpath fun v segment => slotSet_eq path segment v w
  rw [set, h]
  generalize changeAt path (fun _ => w) (segments path) (some root) = out
  obtain ⟨result, r⟩ := out
  cases result <;> rfl

theorem append_eq_changeAt (root w : Value) (hpath : path ≠ "") :
    append root path w =
      ((changeAt path (appended w) (segments path) (some root)).1.map fun _ => (),
        (changeAt path (appended w) (segments path) (some root)).2) :=
  atSlot_eq (fun _ => ()) hpath fun v segment => slotAppend_eq path segment v w

/-! ## A change that fails -/

/-- A change that fails has changed nothing, and where nothing is it cannot fail. -/
theorem changeAt_error {e : PathError}
    (h : (changeAt path rule ss x).1 = .error e) :
    x = some (changeAt path rule ss x).2 := by
  induction ss generalizing x with
  | nil => cases h
  | cons segment ss ih =>
    by_cases hacc : accepts segment (x.getD .emptyMap) = true
    · rw [changeAt_cons_of_accepts path rule _ hacc] at h ⊢
      have hchild := ih h
      cases x with
      -- below a level that is not there nothing fails, so this level was there
      | none => cases hchild
      | some v => exact congrArg some (store_of_child? hchild).symm
    · rw [changeAt_cons_of_not_accepts path rule _ hacc]
      cases x with
      | none => exact absurd rfl hacc
      | some v => rfl

/-- Setting that fails leaves the root as it is. -/
theorem set_of_error {root r v : Value} {e : PathError}
    (h : set root path v = (.error e, r)) : r = root := by
  by_cases hpath : path = ""
  · subst hpath
    exact (congrArg Prod.snd h).symm
  · rw [set_eq_changeAt root v hpath] at h
    have hroot := changeAt_error (congrArg Prod.fst h)
    rw [h] at hroot
    exact (Option.some.inj hroot).symm

/-- Appending that fails leaves the root as it is. -/
theorem append_of_error {root r v : Value} {e : PathError}
    (h : append root path v = (.error e, r)) : r = root := by
  by_cases hpath : path = ""
  · subst hpath
    exact (congrArg Prod.snd h).symm
  · rw [append_eq_changeAt root v hpath] at h
    have hroot := congrArg Prod.snd h
    cases hresult : (changeAt path (appended v) (segments path) (some root)).1 with
    | error e =>
      have hsame := changeAt_error hresult
      exact hroot.symm.trans (Option.some.inj hsame).symm
    | ok old =>
      rw [hresult] at h
      cases h

/-! ## A change that succeeds -/

lemma child?_getD (x : Option Value) (segment : String) :
    (x.getD .emptyMap).child? segment = x.bind fun v => v.child? segment := by
  cases x <;> rfl

/-- A change reports what reading found, and reading then finds what the rule made of it. -/
theorem changeAt_ok {old : Option Value}
    (h : (changeAt path rule ss x).1 = .ok old) :
    old = x.bind (fun v => v.descend? ss) ∧
      (changeAt path rule ss x).2.descend? ss = some (rule old) := by
  induction ss generalizing x with
  | nil =>
    obtain rfl : x = old := Except.ok.inj h
    exact ⟨(Option.bind_fun_some x).symm, rfl⟩
  | cons segment ss ih =>
    by_cases hacc : accepts segment (x.getD .emptyMap) = true
    · rw [changeAt_cons_of_accepts path rule _ hacc] at h ⊢
      obtain ⟨hold, hnew⟩ := ih h
      refine ⟨?_, ?_⟩
      · rw [hold, child?_getD, Option.bind_assoc]
        simp only [descend?_cons]
      · rw [descend?_cons, child?_store hacc, Option.bind_some, hnew]
    · rw [changeAt_cons_of_not_accepts path rule _ hacc] at h
      cases h

/-- A change that puts back what is there changes nothing. -/
theorem changeAt_of_descend? {v w : Value}
    (h : v.descend? ss = some w) (hrule : rule (some w) = w) :
    changeAt path rule ss (some v) = (.ok (some w), v) := by
  induction ss generalizing v with
  | nil =>
    obtain rfl : v = w := Option.some.inj h
    rw [changeAt, hrule]
  | cons segment ss ih =>
    rw [descend?_cons] at h
    obtain ⟨c, hc, hw⟩ := Option.bind_eq_some_iff.1 h
    have hacc := accepts_of_child? hc
    rw [changeAt_cons_of_accepts path rule _ (x := some v) hacc, Option.getD_some, hc, ih hw,
      store_of_child? hc]

/-- Of two changes in one place the second sees what the first one left, and both come to
what one change by both rules comes to. -/
theorem changeAt_changeAt {rule' : Option Value → Value} {old : Option Value}
    (h : (changeAt path rule ss x).1 = .ok old) :
    ∃ r, changeAt path rule' ss (some (changeAt path rule ss x).2) = (.ok (some (rule old)), r) ∧
      changeAt path (fun o => rule' (some (rule o))) ss x = (.ok old, r) := by
  induction ss generalizing x with
  | nil =>
    obtain rfl : x = old := Except.ok.inj h
    exact ⟨_, rfl, rfl⟩
  | cons segment ss ih =>
    by_cases hacc : accepts segment (x.getD .emptyMap) = true
    · rw [changeAt_cons_of_accepts path rule _ hacc] at h ⊢
      obtain ⟨r, hagain, hboth⟩ := ih h
      -- the first change has stored `c` here, and the second one finds it again
      generalize (changeAt path rule ss ((x.getD .emptyMap).child? segment)).2 = c at hagain
      have hacc' : accepts segment ((some (store segment c (x.getD .emptyMap))).getD .emptyMap)
          = true := accepts_store hacc c
      refine ⟨store segment r (x.getD .emptyMap), ?_, ?_⟩
      · rw [changeAt_cons_of_accepts path rule' _ hacc', Option.getD_some, child?_store hacc,
          hagain, store_store hacc]
      · rw [changeAt_cons_of_accepts path _ _ hacc, hboth]
    · rw [changeAt_cons_of_not_accepts path rule _ hacc] at h
      cases h

end ViewKit.Path
