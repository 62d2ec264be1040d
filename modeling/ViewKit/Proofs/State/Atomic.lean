/-
# Writes that fail

A write walks down its path, creates missing levels on the way and can fail at a later
segment or at its end.  Still it leaves nothing behind when it fails
(`failed_write_changes_nothing`): below a level that was created there are only empty maps,
which refuse nothing, so whatever can fail does so before anything is created.  A state on
which a write fails is the same as before, and no handler has run.
-/
import ViewKit.Proofs.State.Write

namespace ViewKit.State

variable {handlers : Handlers StateEvent} {s : State} {e : PathError}

lemma Write.Outcome.of_error {w : Write} {step : Step State StateEvent}
    (h : Write.Outcome handlers s w step) (he : step.result = .error e) :
    step.state = s ∧ step.entries = [] := by
  cases h with
  | ignored => cases he
  | failed => exact ⟨rfl, rfl⟩
  | announced => cases he

/-- Setting and appending at a path leave the root as it is when they fail; an update of a
state and an addition to it that fail leave the state as it is, and no handler has run. -/
theorem failed_write_changes_nothing (handlers : Handlers StateEvent) (s : State) (root v : Value)
    (path : String) (e : PathError) :
    ((Path.set root path v).1 = .error e → (Path.set root path v).2 = root) ∧
      ((Path.append root path v).1 = .error e → (Path.append root path v).2 = root) ∧
      ((s.update handlers path v).result = .error e →
        (s.update handlers path v).state = s ∧ (s.update handlers path v).entries = []) ∧
      ((s.add handlers path v).result = .error e →
        (s.add handlers path v).state = s ∧ (s.add handlers path v).entries = []) := by
  refine ⟨?_, ?_, ?_, ?_⟩
  · exact fun h => Path.set_of_error (Prod.ext h rfl)
  · exact fun h => Path.append_of_error (Prod.ext h rfl)
  · exact (Write.update_outcome handlers s path v).of_error
  · exact (Write.add_outcome handlers s path v).of_error

/-- A write that passes a list and a map and ends at a null fails in all four ways. -/
theorem failed_write_changes_nothing_at_null :
    let root : Value := .map [("a", .list [.map [("b", .null)]])]
    let s : State := ⟨root, .emptyMap, Hub.empty.on ["updated", "added"] "h"⟩
    let path := "a.0.b.c"
    let e : PathError := .notAContainer path "c" "null"
    ((Path.set root path .null).1 = .error e ∧ (Path.set root path .null).2 = root) ∧
      ((Path.append root path .null).1 = .error e ∧ (Path.append root path .null).2 = root) ∧
      ((s.update .silent path .null).result = .error e ∧
        (s.update .silent path .null).state = s ∧ (s.update .silent path .null).entries = []) ∧
      (s.add .silent path .null).result = .error e ∧
        (s.add .silent path .null).state = s ∧ (s.add .silent path .null).entries = [] := by
  intro root s path e
  obtain ⟨hset, happend, hupdate, hadd⟩ :=
    failed_write_changes_nothing .silent s root .null path e
  unfold path at *
  exact ⟨⟨rfl, hset rfl⟩, ⟨rfl, happend rfl⟩, ⟨rfl, hupdate rfl⟩, rfl, hadd rfl⟩

end ViewKit.State
