/-
# The root of a state

The root of a state is never null: a null becomes an empty map wherever a root comes from
outside, when the state is built and when the root is replaced.  No write at a path replaces
the root itself, so its kind changes only with a new root, and the parameters only with new
parameters.  What one operation keeps is read off its outcome (`keeps_perform`), and
`frame_of_run` says it of every operation in every run.
-/
import ViewKit.Proofs.Path.Frame
import ViewKit.Proofs.State.Journal

namespace ViewKit.State

/-! ## What an operation keeps -/

/-- Between two states the root has kept its kind, and the parameters are the same. -/
structure Keeps (s after : State) : Prop where
  kind : after.root.kind = s.root.kind
  params : after.params = s.params

lemma Keeps.refl (s : State) : Keeps s s := ⟨rfl, rfl⟩

lemma Keeps.trans {s middle after : State} (h : Keeps s middle) (h' : Keeps middle after) :
    Keeps s after := ⟨h'.kind.trans h.kind, h'.params.trans h.params⟩

/-- The event of a write at a path tells neither a root of another kind nor other parameters. -/
lemma kind_replay (r : Replica) (s : State) {w : Write} (hplace : w.path? ≠ none)
    (hpath : w.path? ≠ some "") :
    (r.replay (w.event s)).root.kind = r.root.kind ∧ (r.replay (w.event s)).params = r.params := by
  cases w with
  | update path v =>
    have hne : path ≠ "" := fun e => hpath (congrArg some e)
    rw [Write.event, Replica.replay, if_neg hne]
    exact ⟨Path.kind_set r.root path v, rfl⟩
  | add path v => exact ⟨Path.kind_append r.root path v, rfl⟩
  | delete path =>
    rw [Write.event, Replica.replay]
    split
    · exact ⟨Path.kind_remove r.root path, rfl⟩
    · exact ⟨rfl, rfl⟩
  | setRoot v => exact absurd rfl hplace
  | setParams v => exact absurd rfl hplace

variable (handlers : Handlers StateEvent) {s : State}

/-- A write at a path keeps the kind of the root and the parameters, whatever it comes to. -/
lemma keeps_perform {w : Write} (hplace : w.path? ≠ none) :
    Keeps s (w.perform handlers s).state := by
  have houtcome := Write.perform_outcome handlers s w
  generalize w.perform handlers s = step at houtcome
  cases houtcome with
  | ignored => exact .refl s
  | failed => exact .refl s
  | announced after hpath _ hreplica =>
    have hkeeps := kind_replay s.replica s hplace hpath
    rw [← hreplica] at hkeeps
    exact ⟨hkeeps.1, hkeeps.2⟩

/-- So do values put at many paths, however far they come. -/
lemma keeps_updateEach (updates : List (String × Value)) :
    Keeps s (updateEach handlers updates s).1 := by
  induction updates generalizing s with
  | nil => exact .refl s
  | cons update updates ih =>
    obtain ⟨path, v⟩ := update
    have hfirst : Keeps s (s.update handlers path v).state :=
      keeps_perform handlers (w := .update path v) nofun
    rw [updateEach]
    cases (s.update handlers path v).result with
    | error e => exact hfirst
    | ok d => exact hfirst.trans ih

/-! ## The root is not null -/

lemma ne_null_of_kind {v w : Value} (h : w.kind = v.kind) (hv : v ≠ .null) : w ≠ .null := by
  rintro rfl
  cases v <;> simp [Value.kind] at h hv

lemma nonNull_ne_null (v : Value) : nonNull v ≠ .null := by
  cases v <;> simp [nonNull, Value.isNull, Value.emptyMap]

lemma perform_root_ne_null (op : Operation) (h : s.root ≠ .null) :
    (op.perform handlers s).state.root ≠ .null := by
  cases op with
  | write w =>
    by_cases hplace : w.path? = none
    · cases w with
      | setRoot v => exact nonNull_ne_null v
      | setParams v => exact h
      | _ => cases hplace
    · exact ne_null_of_kind (keeps_perform handlers hplace).kind h
  | updateMany updates => exact ne_null_of_kind (keeps_updateEach handlers updates).kind h

lemma run_root_ne_null (ops : List Operation) (h : s.root ≠ .null) :
    (run handlers ops s).1.root ≠ .null := by
  induction ops generalizing s with
  | nil => exact h
  | cons op ops ih => exact ih (perform_root_ne_null handlers op h)

/-- After any run of a state as it was built, the root is not null.  From there, a write at a
path and values put at many paths keep the kind of the root and the parameters, and new
parameters keep the root. -/
theorem frame_of_run (handlers : Handlers StateEvent) (params : Value)
    (initialize? : Option (Value → Value)) (subscriptions : List (List String × HandlerId))
    (ops : List Operation) :
    let s := (run handlers ops (build params initialize? subscriptions)).1
    s.root ≠ .null ∧
      (∀ path v, Keeps s (s.update handlers path v).state) ∧
      (∀ path v, Keeps s (s.add handlers path v).state) ∧
      (∀ path, Keeps s (s.delete handlers path).state) ∧
      (∀ updates, Keeps s (s.updateMany handlers updates).state) ∧
      ∀ v, (s.setParams handlers v).state.root = s.root := by
  intro s
  refine ⟨?_, fun path v => ?_, fun path v => ?_, fun path => ?_, fun updates => ?_, fun v => ?_⟩
  · exact run_root_ne_null handlers ops (nonNull_ne_null _)
  · exact keeps_perform handlers (w := .update path v) nofun
  · exact keeps_perform handlers (w := .add path v) nofun
  · exact keeps_perform handlers (w := .delete path) nofun
  · exact keeps_updateEach handlers updates
  · rfl

end ViewKit.State
