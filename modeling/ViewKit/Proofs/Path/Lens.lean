/-
# Reading and setting at a path form a lens

Reading follows the children of a value; setting enters, creates and stores.  At every path
but the empty one they fit together (`get?_set_laws`): what was set is read, setting what was
read changes nothing, and of two settings the later one counts.  The laws hold through
freshly created levels and for every spelling of an index, because setting is a change
whose rule forgets what it finds.
-/
import ViewKit.Proofs.Path.Change

namespace ViewKit.Path

variable {root r v : Value} {path : String} {old : Option Value}

/-- What was set is read, and what setting reports was read before. -/
lemma get?_of_set (hpath : path ≠ "") (h : set root path v = (.ok old, r)) :
    get? r path = some v ∧ old = get? root path := by
  rw [set_eq_changeAt root v hpath] at h
  have hok := changeAt_ok (congrArg Prod.fst h)
  rw [h] at hok
  exact ⟨hok.2, hok.1⟩

/-- Setting what was read changes nothing. -/
lemma set_of_get? (hpath : path ≠ "") (h : get? root path = some v) :
    set root path v = (.ok (some v), root) := by
  rw [set_eq_changeAt root v hpath]
  exact changeAt_of_descend? h rfl

/-- Setting once more is like setting only the second time, but for what it reports. -/
lemma set_of_set (hpath : path ≠ "") (h : set root path v = (.ok old, r)) (w : Value) :
    ∃ r', set root path w = (.ok old, r') ∧ set r path w = (.ok (some v), r') := by
  rw [set_eq_changeAt root v hpath] at h
  rw [set_eq_changeAt root w hpath, set_eq_changeAt r w hpath]
  have hr : (changeAt path (fun _ => v) (segments path) (some root)).2 = r :=
    congrArg Prod.snd h
  obtain ⟨r', hagain, hboth⟩ := changeAt_changeAt (congrArg Prod.fst h)
  rw [hr] at hagain
  exact ⟨r', hboth, hagain⟩

/-- The laws of a lens: what was set is read and what is reported was there before; setting
what is there changes nothing; of two settings in one place the later one counts. -/
theorem get?_set_laws (root v w : Value) (path : String) (hpath : path ≠ "") :
    (∀ old r, set root path v = (.ok old, r) → get? r path = some v ∧ old = get? root path) ∧
      (get? root path = some v → set root path v = (.ok (some v), root)) ∧
      ∀ old r, set root path v = (.ok old, r) →
        ∃ r', set root path w = (.ok old, r') ∧ set r path w = (.ok (some v), r') :=
  ⟨fun _ _ => get?_of_set hpath, set_of_get? hpath, fun _ _ h => set_of_set hpath h w⟩

/-- The laws at a path that leads through a list, by an index with a sign, into a level that
setting creates. -/
theorem get?_set_laws_created :
    let root : Value := .map [("a", .list [.null])]
    let r : Value := .map [("a", .list [.null, .map [("b", .bool true)]])]
    let path := "a.+1.b"
    path ≠ "" ∧ set root path (.bool true) = (.ok none, r) ∧
      (get? r path = some (.bool true) ∧ none = get? root path) ∧
      set r path (.bool true) = (.ok (some (.bool true)), r) ∧
      ∃ r', set root path .null = (.ok none, r') ∧
        set r path .null = (.ok (some (.bool true)), r') := by
  intro root r path
  have hpath : path ≠ "" := by decide
  have hset : set root path (.bool true) = (.ok none, r) := by
    unfold path
    rfl
  obtain ⟨hget, -, htwice⟩ := get?_set_laws root (.bool true) .null path hpath
  obtain ⟨-, hput, -⟩ := get?_set_laws r (.bool true) .null path hpath
  exact ⟨hpath, hset, hget _ _ hset, hput (hget _ _ hset).1, htwice _ _ hset⟩

end ViewKit.Path
