/-
# A dispatch works on a snapshot

Handlers may change the hub that they are dispatched from and dispatch further events on it,
to any depth.  Whatever they do, a dispatch runs the handlers that were registered at the
moment of the call, and the subscriptions afterwards are those before it with all changes made
one after the other (`dispatch_snapshot`).

What one handler does is followed through its script (`perform_outcome`), the handlers of one
dispatch through their list (`runAll_outcome`), and dispatches inside dispatches through the
depth of their nesting (`run_outcome`).  Where the handlers leave the hub alone a dispatch is an
announcement (`dispatch_ofReplies`).
-/
import Mathlib.Tactic.Lemma
import ViewKit.Event.Hub

namespace ViewKit

/-! ## What a log tells -/

namespace Happening

variable {ε : Type}

/-- What happens deeper down changes the subscriptions all the same. -/
@[simp] lemma change?_deeper (x : Happening ε) : x.deeper.change? = x.change? := by
  cases x <;> rfl

/-- What happens deeper down is no run of a handler of the outer event. -/
@[simp] lemma own?_deeper (x : Happening ε) : x.deeper.own? = none := by
  cases x <;> rfl

end Happening

namespace Course

variable {σ ε : Type} (earlier : List (Happening ε)) (course : Course σ ε)

@[simp] lemma changes_preceded :
    (course.preceded earlier).changes = earlier.filterMap Happening.change? ++ course.changes :=
  List.filterMap_append

@[simp] lemma invocations_preceded :
    (course.preceded earlier).invocations =
      earlier.filterMap Happening.own? ++ course.invocations :=
  List.filterMap_append

lemma changes_deeper :
    (course.log.map Happening.deeper).filterMap Happening.change? = course.changes := by
  rw [List.filterMap_map, changes]
  congr 1
  funext x
  exact x.change?_deeper

lemma own_deeper : (course.log.map Happening.deeper).filterMap Happening.own? = [] := by
  rw [List.filterMap_map]
  exact List.filterMap_eq_nil_iff.2 fun x _ => x.own?_deeper

lemma own_own (is : List (Invocation ε)) :
    (is.map (Happening.ran 0)).filterMap Happening.own? = is := by
  rw [List.filterMap_map]
  exact List.filterMap_some

lemma entry_own (is : List (Invocation ε)) :
    (is.map (Happening.ran 0)).filterMap Happening.entry? =
      is.map fun i => .ran i.handler i.event := by
  rw [List.filterMap_map]
  exact congrFun List.filterMap_eq_map is

/-- The hub afterwards is the hub before with the changes of the course made in order. -/
def Accounts (hub : Hub) : Prop := course.hub = course.changes.foldl Hub.change hub

end Course

namespace Hub

variable {σ ε : Type} {script : HandlerId → ε → Script σ ε} {nameOf : ε → String}
  {dispatch : ε → Hub → σ → Option (Course σ ε)} {event : ε} {hub : Hub} {memory : σ}
  {course : Course σ ε}

/-! ## The course of a dispatch -/

/-- What one handler does is accounted for, and runs no handler of the event that it runs for. -/
lemma perform_outcome
    (hdispatch : ∀ event hub memory course, dispatch event hub memory = some course →
      course.Accounts hub)
    {s : Script σ ε} {r : Reply} (h : perform dispatch s hub memory = some (course, r)) :
    course.Accounts hub ∧ course.invocations = [] := by
  induction s generalizing hub memory course with
  | reply _ =>
    cases h
    exact ⟨rfl, rfl⟩
  | change c next ih =>
    obtain ⟨⟨rest, _⟩, hrest, heq⟩ := Option.bind_eq_some_iff.1 h
    cases heq
    obtain ⟨haccounts, hown⟩ := ih hrest
    exact ⟨haccounts, hown⟩
  | dispatch inner next ih =>
    obtain ⟨first, hfirst, h⟩ := Option.bind_eq_some_iff.1 h
    obtain ⟨⟨rest, _⟩, hrest, heq⟩ := Option.bind_eq_some_iff.1 h
    cases heq
    obtain ⟨haccounts, hown⟩ := ih first.dispatch hrest
    -- the runs of the inner dispatch stand one level deeper, its changes count like any other
    constructor
    · rw [Course.Accounts, Course.changes_preceded, Course.changes_deeper, List.foldl_append,
        ← hdispatch _ _ _ _ hfirst]
      exact haccounts
    · rw [Course.invocations_preceded, Course.own_deeper, hown]
      rfl
  | consult renew next ih => exact ih hub memory h

/-- Of the handlers of an event each one runs, in order, whatever the others do and reply. -/
lemma runAll_outcome
    (hdispatch : ∀ event hub memory course, dispatch event hub memory = some course →
      course.Accounts hub)
    {hs : List HandlerId} (h : runAll script dispatch event hs hub memory = some course) :
    course.Accounts hub ∧ course.invocations.map (·.handler) = hs ∧
      ∀ i ∈ course.invocations, i.event = event := by
  induction hs generalizing hub memory course with
  | nil =>
    cases h
    exact ⟨rfl, rfl, nofun⟩
  | cons handler hs ih =>
    obtain ⟨⟨first, r⟩, hfirst, h⟩ := Option.bind_eq_some_iff.1 h
    obtain ⟨rest, hrest, heq⟩ := Option.bind_eq_some_iff.1 h
    cases heq
    obtain ⟨hchanges, hown⟩ := perform_outcome hdispatch hfirst
    obtain ⟨haccounts, hhandlers, hevents⟩ := ih hrest
    have hinvocations : (rest.preceded (.ran 0 ⟨handler, event, r⟩ :: first.log)).invocations =
        ⟨handler, event, r⟩ :: rest.invocations := by
      rw [Course.invocations_preceded, List.filterMap_cons]
      exact congrArg (⟨handler, event, r⟩ :: · ++ rest.invocations) hown
    refine ⟨?_, ?_, ?_⟩
    · rw [Course.Accounts, Course.changes_preceded, List.foldl_append]
      exact haccounts.trans (congrArg (rest.changes.foldl Hub.change ·) hchanges)
    · rw [hinvocations, List.map_cons, hhandlers]
    · rw [hinvocations]
      exact List.forall_mem_cons.2 ⟨rfl, hevents⟩

lemma run_outcome {depth : Nat} (h : run script nameOf depth event hub memory = some course) :
    course.Accounts hub ∧ course.invocations.map (·.handler) = hub.handlers (nameOf event) ∧
      ∀ i ∈ course.invocations, i.event = event := by
  induction depth generalizing event hub memory course with
  | zero => cases h
  -- the dispatches that a handler starts nest one less deep
  | succ depth ih => exact runAll_outcome (fun _ _ _ _ hinner => (ih hinner).1) h

/-! ## The bound on the nesting -/

variable {inner inner' : ε → Hub → σ → Option (Course σ ε)}

lemma perform_mono (hinner : ∀ event hub memory course, inner event hub memory = some course →
      inner' event hub memory = some course)
    {s : Script σ ε} {outcome : Course σ ε × Reply}
    (h : perform inner s hub memory = some outcome) :
    perform inner' s hub memory = some outcome := by
  induction s generalizing hub memory outcome with
  | reply _ => exact h
  | change c next ih =>
    obtain ⟨rest, hrest, heq⟩ := Option.bind_eq_some_iff.1 h
    exact Option.bind_eq_some_iff.2 ⟨rest, ih hrest, heq⟩
  | dispatch event next ih =>
    obtain ⟨first, hfirst, h⟩ := Option.bind_eq_some_iff.1 h
    obtain ⟨rest, hrest, heq⟩ := Option.bind_eq_some_iff.1 h
    refine Option.bind_eq_some_iff.2 ⟨first, hinner _ _ _ _ hfirst, ?_⟩
    exact Option.bind_eq_some_iff.2 ⟨rest, ih first.dispatch hrest, heq⟩
  | consult renew next ih => exact ih hub memory h

lemma runAll_mono (hinner : ∀ event hub memory course, inner event hub memory = some course →
      inner' event hub memory = some course)
    {hs : List HandlerId} (h : runAll script inner event hs hub memory = some course) :
    runAll script inner' event hs hub memory = some course := by
  induction hs generalizing hub memory course with
  | nil => exact h
  | cons handler hs ih =>
    obtain ⟨first, hfirst, h⟩ := Option.bind_eq_some_iff.1 h
    obtain ⟨rest, hrest, heq⟩ := Option.bind_eq_some_iff.1 h
    refine Option.bind_eq_some_iff.2 ⟨first, perform_mono hinner hfirst, ?_⟩
    exact Option.bind_eq_some_iff.2 ⟨rest, ih hrest, heq⟩

lemma run_succ {depth : Nat} (h : run script nameOf depth event hub memory = some course) :
    run script nameOf (depth + 1) event hub memory = some course := by
  induction depth generalizing event hub memory course with
  | zero => cases h
  | succ depth ih => exact runAll_mono (fun _ _ _ _ hinner => ih hinner) h

lemma run_of_le {depth more : Nat} (hle : depth ≤ more)
    (h : run script nameOf depth event hub memory = some course) :
    run script nameOf more event hub memory = some course := by
  induction hle with
  | refl => exact h
  | step _ ih => exact run_succ ih

/-- A dispatch terminates with a course if some bound on the nesting is enough for it. -/
def Terminates (script : HandlerId → ε → Script σ ε) (nameOf : ε → String) (event : ε)
    (hub : Hub) (memory : σ) (course : Course σ ε) : Prop :=
  ∃ depth, run script nameOf depth event hub memory = some course

/-- The course does not depend on the bound. -/
lemma Terminates.unique {course' : Course σ ε}
    (h : Terminates script nameOf event hub memory course)
    (h' : Terminates script nameOf event hub memory course') : course = course' := by
  obtain ⟨depth, h⟩ := h
  obtain ⟨depth', h'⟩ := h'
  have hmax := run_of_le (Nat.le_max_left depth depth') h
  rw [run_of_le (Nat.le_max_right depth depth') h'] at hmax
  exact (Option.some.inj hmax).symm

/-! ## Handlers that leave the hub alone -/

lemma runAll_ofReplies (reply : HandlerId → ε → Reply)
    (dispatch : ε → Hub → Unit → Option (Course Unit ε)) (event : ε) (hs : List HandlerId)
    (hub : Hub) :
    runAll (Handlers.ofReplies reply).script dispatch event hs hub () =
      some ⟨hub, (), (hs.map fun h => ⟨h, event, reply h event⟩).map (Happening.ran 0)⟩ := by
  induction hs with
  | nil => rfl
  | cons h hs ih =>
    have hscript : (Handlers.ofReplies reply).script h event = .reply (reply h event) := rfl
    simp only [runAll, hscript, perform, Option.bind_eq_bind, Option.bind_some, ih]
    rfl

/-- Dispatching an event to such handlers is announcing it. -/
theorem dispatch_ofReplies (reply : HandlerId → ε → Reply) (nameOf : ε → String) (depth : Nat)
    (event : ε) (hub : Hub) :
    hub.dispatch (.ofReplies reply) nameOf (depth + 1) event =
      some (hub, hub.announce (.ofReplies reply) nameOf event) := by
  rw [dispatch, run, runAll_ofReplies, Option.map_some, Course.entries, Course.entry_own,
    Course.dispatch, Course.invocations, Course.own_own, announce]
  simp only [List.map_map]
  rfl

/-! ## The snapshot -/

/-- A dispatch that terminates runs the handlers that were registered under the name of the
event at the moment of the call, once for each registration and in order, all with the event,
whatever they reply and whatever is changed meanwhile; and the hub afterwards is the hub
before with all changes made in the order in which they were made. -/
theorem dispatch_snapshot (script : HandlerId → ε → Script σ ε) (nameOf : ε → String)
    (event : ε) (hub : Hub) (memory : σ) (course : Course σ ε)
    (h : Terminates script nameOf event hub memory course) :
    course.invocations.map (·.handler) = hub.handlers (nameOf event) ∧
      (∀ i ∈ course.invocations, i.event = event) ∧
      course.hub = course.changes.foldl Hub.change hub := by
  obtain ⟨depth, h⟩ := h
  obtain ⟨haccounts, hhandlers, hevents⟩ := run_outcome h
  exact ⟨hhandlers, hevents, haccounts⟩

/-- Handlers that get in each other's way: one takes itself out, adds another one and fails,
one dispatches the same event again the first time it runs, and one drops everybody. -/
def unruly : HandlerId → String → Script Nat String
  | "once", _ => .change (.off ["a"] (some "once")) <| .change (.on ["a", "b"] "late") <|
      .dispatch "b" fun _ => .reply (.failed "no")
  | "again", _ => .consult (fun _ runs => runs + 1) fun _ runs =>
      if runs = 0 then .dispatch "a" fun _ => .reply .done else .reply .done
  | "clear", _ => .change (.off ["a"] none) <| .change (.on ["a"] "again") <| .reply .done
  | _, _ => .reply .done

theorem dispatch_snapshot_unruly :
    let hub := ((((empty.on ["a"] "once").on ["a", "a"] "again").on ["b"] "clear").on ["a"] "once")
    ∃ course, Terminates unruly id "a" hub 0 course ∧
      course.invocations.map (·.handler) = ["once", "again", "again", "once"] ∧
      course.hub = course.changes.foldl Hub.change hub ∧
      course.hub.subscriptions = [("b", ["clear", "late", "late"]), ("a", ["again"])] := by
  intro hub
  obtain ⟨course, hcourse⟩ : ∃ course, run unruly id 3 "a" hub 0 = some course :=
    Option.isSome_iff_exists.1 (by decide +kernel)
  have hsubscriptions : (run unruly id 3 "a" hub 0).map (·.hub.subscriptions) =
      some [("b", ["clear", "late", "late"]), ("a", ["again"])] := by decide +kernel
  have h : Terminates unruly id "a" hub 0 course := ⟨3, hcourse⟩
  obtain ⟨hhandlers, -, hhub⟩ := dispatch_snapshot unruly id "a" hub 0 course h
  rw [hcourse] at hsubscriptions
  exact ⟨course, h, hhandlers, hhub, Option.some.inj hsubscriptions⟩

end Hub
end ViewKit
