/-
# One level of a path

A write passes through a value by one segment: it enters the child there, or an empty map in
a free place, and stores what has become of it.  Whether that is possible depends only on
the segment and the value (`accepts`), and where it is possible, entering, storing and
setting a slot all come down to reading the child and storing one (`enter_eq`,
`slotSet_eq`, `slotAppend_eq`).  Storing a child obeys the laws of a lens.
-/
import ViewKit.Path.Write
import ViewKit.Proofs.Fields

namespace ViewKit.Path

/-! ## Segments -/

lemma splitLast?_append (parents : List String) (last : String) :
    splitLast? (parents ++ [last]) = some (parents, last) := by
  induction parents with
  | nil => rfl
  | cons segment parents ih =>
    cases parents with
    | nil => rfl
    | cons next parents =>
      have hcons : splitLast? (segment :: (next :: parents ++ [last])) =
          (splitLast? (next :: parents ++ [last])).map fun p => (segment :: p.1, p.2) := rfl
      rw [List.cons_append, hcons, ih]
      rfl

lemma segments_ne_nil {path : String} (h : path ≠ "") : segments path ≠ [] := by
  have hne : path.isEmpty = false := by simpa using h
  rw [segments, hne]
  simpa using Text.splitAt_ne_nil '.' path.toList

/-- A path that is not empty has a last segment. -/
lemma exists_segments_eq {path : String} (h : path ≠ "") :
    ∃ parents last, segments path = parents ++ [last] :=
  ⟨_, _, (List.dropLast_append_getLast (segments_ne_nil h)).symm⟩

lemma descend?_cons (v : Value) (segment : String) (ss : List String) :
    v.descend? (segment :: ss) = (v.child? segment).bind fun c => c.descend? ss := by
  rw [Value.descend?]
  cases v.child? segment <;> rfl

/-! ## Whether a value takes a child -/

/-- Whether a child can be put under a segment: any name in a map, and in a list the index of
an item or the one behind the last item. -/
def accepts (segment : String) : Value → Bool
  | .map _ => true
  | .list items => (index? segment).any (· ≤ items.length)
  | _ => false

/-- Why no child can be put under a segment. -/
def refusal (path segment : String) : Value → PathError
  | .list items =>
    match index? segment with
    | none => .invalidIndex path segment
    | some i => .indexOutOfRange path i items.length
  | v => .notAContainer path segment v.kind

variable {segment : String} {v c : Value}

lemma accepts_list_iff {items : List Value} :
    accepts segment (.list items) = true ↔
      ∃ i, index? segment = some i ∧ i ≤ items.length := by
  cases h : index? segment <;> simp [accepts, h]

/-- Where there is a child another one can be put. -/
lemma accepts_of_child? (h : v.child? segment = some c) : accepts segment v = true := by
  cases v with
  | map fields => rfl
  | list items =>
    obtain ⟨i, hi, hc⟩ := Option.bind_eq_some_iff.1 h
    obtain ⟨hlt, -⟩ := List.getElem?_eq_some_iff.1 hc
    exact accepts_list_iff.2 ⟨i, hi, by omega⟩
  | _ => cases h

lemma isContainer_of_accepts (h : accepts segment v = true) : v.isContainer = true := by
  cases v <;> first | rfl | cases h

/-! ## Storing a child -/

lemma store_list_of_index? {items : List Value} {i : Nat} (hi : index? segment = some i) :
    store segment c (.list items) =
      .list (if i = items.length then items ++ [c] else items.set i c) := by
  simp only [store, hi]
  split <;> rfl

@[simp] lemma child?_store (h : accepts segment v = true) (c : Value) :
    (store segment c v).child? segment = some c := by
  cases v with
  | map fields => exact Fields.get?_insert_self segment c fields
  | list items =>
    obtain ⟨i, hi, hle⟩ := accepts_list_iff.1 h
    rw [store_list_of_index? hi]
    simp only [Value.child?, hi, Option.bind_some]
    split
    · next hlen => simp [hlen]
    · next hlen =>
      have hlt : i < items.length := by omega
      simp [hlt]
  | _ => cases h

lemma accepts_store (h : accepts segment v = true) (c : Value) :
    accepts segment (store segment c v) = true :=
  accepts_of_child? (child?_store h c)

/-- Of two children stored in one place the later one counts. -/
lemma store_store (h : accepts segment v = true) (c d : Value) :
    store segment d (store segment c v) = store segment d v := by
  cases v with
  | map fields => exact congrArg Value.map (Fields.insert_insert segment d c fields)
  | list items =>
    obtain ⟨i, hi, hle⟩ := accepts_list_iff.1 h
    rw [store_list_of_index? hi, store_list_of_index? hi, store_list_of_index? hi]
    by_cases hlen : i = items.length
    · simp [hlen, List.set_append_right]
    · simp [hlen]
  | _ => cases h

/-- Storing the child that is there changes nothing. -/
lemma store_of_child? (h : v.child? segment = some c) : store segment c v = v := by
  cases v with
  | map fields => exact congrArg Value.map (Fields.insert_of_get? h)
  | list items =>
    obtain ⟨i, hi, hc⟩ := Option.bind_eq_some_iff.1 h
    obtain ⟨hlt, rfl⟩ := List.getElem?_eq_some_iff.1 hc
    rw [store_list_of_index? hi, if_neg (by omega), List.set_getElem_self]
  | _ => cases h

/-! ## The operations of one level -/

/-- Entering leads to the child, or to an empty map in a free place. -/
lemma enter_eq (path segment : String) (v : Value) :
    enter path segment v =
      if accepts segment v then .ok ((v.child? segment).getD .emptyMap)
      else .error (refusal path segment v) := by
  cases v with
  | map fields => rfl
  | list items =>
    cases hi : index? segment with
    | none => simp [enter, accepts, refusal, hi]
    | some i =>
      simp only [enter, accepts, refusal, Value.child?, hi, Option.any_some, Option.bind_some]
      rcases Nat.lt_trichotomy i items.length with h | h | h
      · simp [h, Nat.le_of_lt h]
      · simp [h]
      · have hne : i ≠ items.length := by omega
        have hnot : ¬ i ≤ items.length := by omega
        simp [hne, hnot, List.getElem?_eq_none (Nat.le_of_lt h)]
  | _ => rfl

/-- Setting reads the child that is there and stores another one. -/
lemma slotSet_eq (path segment : String) (v w : Value) :
    Slot.set w ⟨v, segment, path⟩ =
      if accepts segment v then (.ok (v.child? segment), store segment w v)
      else (.error (refusal path segment v), v) := by
  cases v with
  | map fields => rfl
  | list items =>
    cases hi : index? segment with
    | none => simp [Slot.set, accepts, refusal, hi]
    | some i =>
      simp only [Slot.set, accepts, refusal, Value.child?, store, hi, Option.any_some,
        Option.bind_some]
      rcases Nat.lt_trichotomy i items.length with h | h | h
      · simp [h, Nat.le_of_lt h, Nat.ne_of_lt h]
      · simp [h]
      · have hne : i ≠ items.length := by omega
        have hnot : ¬ i ≤ items.length := by omega
        simp [hne, hnot, List.getElem?_eq_none (Nat.le_of_lt h)]
  | _ => rfl

/-- What appending puts in the place of what is there, if anything: a list with one more
item, or the value itself where there is no list. -/
def appended (w : Value) : Option Value → Value
  | some (.list items) => .list (items ++ [w])
  | _ => w

lemma slotAppend_eq (path segment : String) (v w : Value) :
    Slot.append w ⟨v, segment, path⟩ =
      if accepts segment v then (.ok (), store segment (appended w (v.child? segment)) v)
      else (.error (refusal path segment v), v) := by
  have hget : (Slot.mk v segment path).get? = v.child? segment := rfl
  rw [Slot.append, hget, slotSet_eq]
  cases hc : v.child? segment with
  | none => cases accepts segment v <;> rfl
  | some c =>
    -- appending to a list stores the longer list, and anything else is set
    have h := accepts_of_child? hc
    rw [if_pos h, if_pos h]
    cases c <;> rfl

end ViewKit.Path
