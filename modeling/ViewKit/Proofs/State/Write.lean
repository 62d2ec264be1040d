/-
# The writes of a state

A write is one of the operations that change a state in one place or as a whole.  What a
write can come to is said once (`perform_outcome`): at the empty path nothing happens; a
write that fails leaves the state as it is, and no handler runs; any other write is announced
by one event, which says what was written where and what was there before, and the root and
the parameters are afterwards what somebody makes of them who only sees that event.
-/
import ViewKit.Proofs.Path.Lens
import ViewKit.Proofs.Path.Remove
import ViewKit.State

namespace ViewKit.State

/-! ## Following a state by its events -/

/-- What somebody knows who follows a state by its events: its root and its parameters. -/
structure Replica where
  root : Value
  params : Value

/-- What a state is known by. -/
def replica (s : State) : Replica := ⟨s.root, s.params⟩

/-- Does again what an event announces. -/
def Replica.replay (r : Replica) : StateEvent → Replica
  | .updated path new _ =>
    if path = "" then { r with root := new } else { r with root := (Path.set r.root path new).2 }
  | .added path new => { r with root := (Path.append r.root path new).2 }
  | .deleted path _ =>
    if Path.contains r.root path then { r with root := (Path.remove r.root path).2 } else r
  | .changed new _ => { r with params := new }

/-! ## Writes at a field of a map -/

section Field

variable (handlers : Handlers StateEvent) {s : State} {path name : String} {parents : List String}
  {fields : List (String × Value)} (hpath : Path.segments path = parents ++ [name])
  (hmap : s.root.descend? parents = some (.map fields))
include hpath hmap

/-- An update of a field of a map puts the value there. -/
lemma update_field (v : Value) : s.update handlers path v =
    announce handlers (.updated path v (Fields.get? name fields))
      { s with root := Path.putAt parents (.map (Fields.insert name v fields)) s.root } := by
  rw [update, Path.isEmpty_of_segments hpath, if_neg Bool.false_ne_true,
    Path.set_field hpath hmap]

/-- A deletion of a field of a map takes it out, if it is there. -/
lemma delete_field : s.delete handlers path =
    announce handlers (.deleted path (Fields.get? name fields))
      { s with root := Path.putAt parents (.map (Fields.erase name fields)) s.root } := by
  rw [delete, Path.isEmpty_of_segments hpath, if_neg Bool.false_ne_true, State.contains,
    Path.contains_field hpath hmap, Path.remove_field hpath hmap, Fields.contains]
  cases hget : Fields.get? name fields with
  | some v => rfl
  | none =>
    rw [Fields.erase_of_get?_eq_none hget, Path.putAt_self hmap]
    rfl

end Field

/-! ## Writes -/

/-- An operation that writes once. -/
inductive Write where
  | update (path : String) (v : Value)
  | add (path : String) (v : Value)
  | delete (path : String)
  | setRoot (v : Value)
  | setParams (v : Value)

namespace Write

/-- The path of a write, if it concerns one place. -/
def path? : Write → Option String
  | update path _ => some path
  | add path _ => some path
  | delete path => some path
  | setRoot _ => none
  | setParams _ => none

/-- The event that announces a write to a state, from the state before it. -/
def event (s : State) : Write → StateEvent
  | update path v => .updated path v (s.get? path)
  | add path v => .added path v
  | delete path => .deleted path (s.get? path)
  | setRoot v => .updated "" (nonNull v) (some s.root)
  | setParams v => .changed v s.params

variable (handlers : Handlers StateEvent)

/-- Carries a write out. -/
def perform (s : State) : Write → Step State StateEvent
  | update path v => s.update handlers path v
  | add path v => s.add handlers path v
  | delete path => s.delete handlers path
  | setRoot v => s.setRoot handlers v
  | setParams v => s.setParams handlers v

/-- What a write to a state can come to. -/
inductive Outcome (s : State) (w : Write) : Step State StateEvent → Prop where
  /-- The empty path is no place, and nothing happens. -/
  | ignored (hpath : w.path? = some "") : Outcome s w (unchanged s)
  /-- The write at a place fails, and everything is as before. -/
  | failed (e : PathError) (hplace : w.path? ≠ none) : Outcome s w ⟨s, [], .error e⟩
  /-- The write is announced, and its event tells the new root and parameters. -/
  | announced (after : State) (hpath : w.path? ≠ some "") (hhub : after.hub = s.hub)
      (hreplica : after.replica = s.replica.replay (w.event s)) :
      Outcome s w (announce handlers (w.event s) after)

lemma isEmpty_eq_false {path : String} (hpath : path ≠ "") : path.isEmpty = false := by
  simpa using hpath

lemma update_outcome (s : State) (path : String) (v : Value) :
    Outcome handlers s (.update path v) (s.update handlers path v) := by
  by_cases hpath : path = ""
  · subst hpath
    exact .ignored rfl
  rw [State.update, isEmpty_eq_false hpath, if_neg Bool.false_ne_true]
  split
  · next e root h =>
    obtain rfl : root = s.root := Path.set_of_error h
    exact .failed e nofun
  · next old root h =>
    obtain ⟨-, rfl⟩ := Path.get?_of_set hpath h
    refine .announced { s with root } (fun hp => hpath (Option.some.inj hp)) rfl ?_
    rw [event, Replica.replay, if_neg hpath, replica, replica, h]

lemma add_outcome (s : State) (path : String) (v : Value) :
    Outcome handlers s (.add path v) (s.add handlers path v) := by
  by_cases hpath : path = ""
  · subst hpath
    exact .ignored rfl
  rw [State.add, isEmpty_eq_false hpath, if_neg Bool.false_ne_true]
  split
  · next e root h =>
    obtain rfl : root = s.root := Path.append_of_error h
    exact .failed e nofun
  · next root h =>
    refine .announced { s with root } (fun hp => hpath (Option.some.inj hp)) rfl ?_
    rw [event, Replica.replay, replica, replica, h]

lemma delete_outcome (s : State) (path : String) :
    Outcome handlers s (.delete path) (s.delete handlers path) := by
  by_cases hpath : path = ""
  · subst hpath
    exact .ignored rfl
  rw [State.delete, isEmpty_eq_false hpath, if_neg Bool.false_ne_true]
  have hw : (Write.delete path).path? ≠ some "" := fun hp => hpath (Option.some.inj hp)
  by_cases hin : s.contains path = true
  · -- the walk that removes cannot fail where the path exists
    have hresult := Path.remove_of_contains hpath hin
    rw [if_pos hin]
    split
    · next e root h =>
      rw [h] at hresult
      cases hresult
    · next old root h =>
      rw [h] at hresult
      obtain rfl : old = s.get? path := Except.ok.inj hresult
      refine .announced { s with root } hw rfl ?_
      have hreplay : s.replica.replay (.deleted path (s.get? path)) =
          { s.replica with root := (Path.remove s.root path).2 } := if_pos hin
      rw [event, hreplay, h]
      rfl
  · -- a path that does not exist is announced too, with nothing as its old value
    have hnone : s.get? path = none := by
      have hcontains : s.contains path = (s.get? path).isSome := Path.contains_eq hpath
      rw [← Option.not_isSome_iff_eq_none]
      exact fun h => hin (hcontains.trans h)
    have hreplay : s.replica.replay (.deleted path (s.get? path)) = s.replica := if_neg hin
    rw [if_neg hin, ← hnone]
    exact .announced s hw rfl hreplay.symm

theorem perform_outcome (s : State) (w : Write) : Outcome handlers s w (perform handlers s w) := by
  cases w with
  | update path v => exact update_outcome handlers s path v
  | add path v => exact add_outcome handlers s path v
  | delete path => exact delete_outcome handlers s path
  | setRoot v => exact .announced { s with root := nonNull v } nofun rfl rfl
  | setParams v => exact .announced { s with params := v } nofun rfl rfl

end Write
end ViewKit.State
