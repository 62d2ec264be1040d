/-
# The events of a state as its journal

An observer that is subscribed once under each of the four names receives, over any run of
operations, one event for every write that comes to something and no other event
(`journal_faithful`).  Replaying what it received from the first root and parameters gives
the root and the parameters at the end of the run, and an event tells what was at its path
immediately before its write.

A run is taken apart into the writes that were attempted in it.  What has to be shown of a
run can then be shown of one write (`write_journals`) and put together (`Journals.append`);
an operation that puts values at many paths stops at the first write that fails, and what
was written before it stays and has been announced.
-/
import ViewKit.Proofs.State.Write

namespace ViewKit.State

/-! ## Observers -/

/-- The names under which the events of a state are dispatched. -/
def eventNames : List String := ["updated", "added", "deleted", "changed"]

/-- A handler is subscribed once under each name of an event. -/
def Observes (observer : HandlerId) (hub : Hub) : Prop :=
  ∀ name ∈ eventNames, (hub.handlers name).count observer = 1

instance (observer : HandlerId) (hub : Hub) : Decidable (Observes observer hub) :=
  inferInstanceAs (Decidable (∀ name ∈ eventNames, (hub.handlers name).count observer = 1))

/-- The event of an observation, if the observer is the handler that ran. -/
def receivedAt (observer : HandlerId) : Entry StateEvent → Option StateEvent
  | .ran h event => if h = observer then some event else none
  | .finished _ => none

/-- The events that an observer receives, in order. -/
def received (observer : HandlerId) (entries : List (Entry StateEvent)) : List StateEvent :=
  entries.filterMap (receivedAt observer)

lemma name_mem_eventNames (event : StateEvent) : event.name ∈ eventNames := by
  cases event <;> simp [eventNames, StateEvent.name]

lemma received_append (observer : HandlerId) (xs ys : List (Entry StateEvent)) :
    received observer (xs ++ ys) = received observer xs ++ received observer ys :=
  List.filterMap_append

/-- An observer receives an event as often as it is among the handlers that run. -/
lemma received_ran (observer : HandlerId) (event : StateEvent) (hs : List HandlerId) :
    received observer (hs.map fun h => .ran h event) =
      List.replicate (hs.count observer) event := by
  induction hs with
  | nil => rfl
  | cons h hs ih =>
    rw [List.map_cons, ← List.singleton_append, received_append, ih]
    by_cases heq : h = observer
    · subst heq
      rw [List.count_cons_self, List.replicate_succ]
      simp [received, receivedAt]
    · rw [List.count_cons_of_ne heq]
      simp [received, receivedAt, heq]

lemma received_announce (handlers : Handlers StateEvent) {observer : HandlerId} {s : State}
    (h : Observes observer s.hub) (event : StateEvent) :
    received observer (announce handlers event s).entries = [event] := by
  have hcount := h event.name (name_mem_eventNames event)
  rw [announce, Hub.announce]
  rw [received_ran, hcount]
  rfl

/-! ## Runs -/

/-- An operation on a state. -/
inductive Operation where
  | write (w : Write)
  | updateMany (updates : List (String × Value))

/-- A write as it was attempted: the state before it and what was to be written. -/
structure Attempt where
  before : State
  write : Write

variable (handlers : Handlers StateEvent)

/-- Carries an operation out. -/
def Operation.perform (s : State) : Operation → Step State StateEvent
  | write w => w.perform handlers s
  | updateMany updates => s.updateMany handlers updates

/-- Carries operations out one after the other, whatever they come to: the state afterwards
and what was observed. -/
def run : List Operation → State → State × List (Entry StateEvent)
  | [], s => (s, [])
  | op :: ops, s =>
    let step := op.perform handlers s
    let (after, entries) := run ops step.state
    (after, step.entries ++ entries)

namespace Attempt

/-- What a write came to. -/
def step (a : Attempt) : Step State StateEvent := a.write.perform handlers a.before

/-- The event that announces a write. -/
def event (a : Attempt) : StateEvent := a.write.event a.before

/-- Whether a write counts.  A new root and new parameters do; a write at a path does if the
path is not empty and the write succeeded. -/
def counts (a : Attempt) : Bool :=
  match a.write.path? with
  | none => true
  | some path => !path.isEmpty && (a.step handlers).result.isOk

end Attempt

/-- The writes that are attempted when values are put at many paths: all of them up to the
first that fails. -/
def updateAttempts : List (String × Value) → State → List Attempt
  | [], _ => []
  | (path, v) :: updates, s =>
    let a : Attempt := ⟨s, .update path v⟩
    match (a.step handlers).result with
    | .error _ => [a]
    | .ok _ => a :: updateAttempts updates (a.step handlers).state

/-- The writes that an operation attempts. -/
def Operation.attempts (s : State) : Operation → List Attempt
  | write w => [⟨s, w⟩]
  | updateMany updates => updateAttempts handlers updates s

/-- The writes that are attempted in a run. -/
def attempts : List Operation → State → List Attempt
  | [], _ => []
  | op :: ops, s => op.attempts handlers s ++ attempts ops (op.perform handlers s).state

/-- The events of the writes that count. -/
def announced (as : List Attempt) : List StateEvent :=
  (as.filter (Attempt.counts handlers)).map Attempt.event

lemma announced_append (as bs : List Attempt) :
    announced handlers (as ++ bs) = announced handlers as ++ announced handlers bs := by
  rw [announced, List.filter_append, List.map_append]
  rfl

/-! ## Journals -/

/-- What was observed while some writes took a state to another is a journal of them: the
subscriptions are the same, the observer received the events of the writes that count, and
replaying these events gives what the other state is known by. -/
structure Journals (observer : HandlerId) (s : State) (as : List Attempt) (after : State)
    (entries : List (Entry StateEvent)) : Prop where
  hub : after.hub = s.hub
  received : received observer entries = announced handlers as
  replay : (announced handlers as).foldl Replica.replay s.replica = after.replica

variable {observer : HandlerId} {s : State}

lemma Journals.nil : Journals handlers observer s [] s [] := ⟨rfl, rfl, rfl⟩

variable {handlers}

lemma Journals.append {middle after : State} {as bs : List Attempt}
    {xs ys : List (Entry StateEvent)} (h : Journals handlers observer s as middle xs)
    (h' : Journals handlers observer middle bs after ys) :
    Journals handlers observer s (as ++ bs) after (xs ++ ys) where
  hub := h'.hub.trans h.hub
  received := by rw [received_append, h.received, h'.received, announced_append]
  replay := by rw [announced_append, List.foldl_append, h.replay, h'.replay]

/-- A write that does not count leaves everything as it is, without an event. -/
lemma Journals.of_not_counts {w : Write} (h : ¬ Attempt.counts handlers ⟨s, w⟩ = true) :
    Journals handlers observer s [⟨s, w⟩] s [] := by
  have hnone : announced handlers [⟨s, w⟩] = [] := by
    rw [announced, List.filter_cons_of_neg h]
    rfl
  refine ⟨rfl, ?_, ?_⟩
  · rw [hnone]
    rfl
  · rw [hnone]
    rfl

/-- A write that counts has its one event, which tells the new root and parameters. -/
lemma Journals.of_counts {w : Write} {after : State} {entries : List (Entry StateEvent)}
    (h : Attempt.counts handlers ⟨s, w⟩ = true) (hhub : after.hub = s.hub)
    (hreceived : State.received observer entries = [w.event s])
    (hreplica : after.replica = s.replica.replay (w.event s)) :
    Journals handlers observer s [⟨s, w⟩] after entries := by
  have hone : announced handlers [⟨s, w⟩] = [w.event s] := by
    rw [announced, List.filter_cons_of_pos h]
    rfl
  refine ⟨hhub, hreceived.trans hone.symm, ?_⟩
  rw [hone]
  exact hreplica.symm

variable (handlers)

/-- One write is journalled, whatever it comes to. -/
lemma write_journals (h : Observes observer s.hub) (w : Write) :
    Journals handlers observer s [⟨s, w⟩] (w.perform handlers s).state
      (w.perform handlers s).entries := by
  have hcounts : Attempt.counts handlers ⟨s, w⟩ = match w.path? with
      | none => true
      | some path => !path.isEmpty && (w.perform handlers s).result.isOk := rfl
  have houtcome := Write.perform_outcome handlers s w
  -- from here on only the outcome of the write matters, not how it is carried out
  generalize w.perform handlers s = step at houtcome hcounts
  cases houtcome with
  | ignored hpath =>
    refine Journals.of_not_counts ?_
    simp [hcounts, hpath]
  | failed e hplace =>
    obtain ⟨path, hpath⟩ := Option.ne_none_iff_exists'.1 hplace
    refine Journals.of_not_counts ?_
    simp [hcounts, hpath, Except.isOk, Except.toBool]
  | announced after hpath hhub hreplica =>
    have hobserves : Observes observer after.hub := by rwa [hhub]
    refine Journals.of_counts ?_ hhub (received_announce handlers hobserves _) hreplica
    rw [hcounts]
    cases hw : w.path? with
    | none => rfl
    | some path =>
      have hne : path ≠ "" := fun he => hpath (by rw [hw, he])
      simp [hne, announce, Except.isOk, Except.toBool]

/-- Values put at many paths are journalled up to the first write that fails. -/
lemma updateEach_journals (updates : List (String × Value)) (h : Observes observer s.hub) :
    Journals handlers observer s (updateAttempts handlers updates s)
      (updateEach handlers updates s).1 (updateEach handlers updates s).2.1 := by
  induction updates generalizing s with
  | nil => exact Journals.nil handlers
  | cons update updates ih =>
    obtain ⟨path, v⟩ := update
    have hfirst := write_journals handlers h (.update path v)
    have hstep : Attempt.step handlers ⟨s, .update path v⟩ = s.update handlers path v := rfl
    rw [updateAttempts, updateEach, hstep]
    cases (s.update handlers path v).result with
    -- the first write that fails is the last one that is attempted
    | error e => exact hfirst
    | ok d =>
      have hrest := ih (s := (s.update handlers path v).state) (hfirst.hub ▸ h)
      exact hfirst.append hrest

lemma perform_journals (op : Operation) (h : Observes observer s.hub) :
    Journals handlers observer s (op.attempts handlers s) (op.perform handlers s).state
      (op.perform handlers s).entries := by
  cases op with
  | write w => exact write_journals handlers h w
  | updateMany updates => exact updateEach_journals handlers updates h

lemma run_journals (ops : List Operation) (h : Observes observer s.hub) :
    Journals handlers observer s (attempts handlers ops s) (run handlers ops s).1
      (run handlers ops s).2 := by
  induction ops generalizing s with
  | nil => exact Journals.nil handlers
  | cons op ops ih =>
    have hfirst := perform_journals handlers op h
    have hrest := ih (s := (op.perform handlers s).state) (hfirst.hub ▸ h)
    exact hfirst.append hrest

/-- The events that an observer receives over any run are a complete and faithful journal.
Replayed from the first root and parameters they give the last ones, and they are the events
of the writes that count, each with what was there immediately before. -/
theorem journal_faithful (handlers : Handlers StateEvent) (observer : HandlerId)
    (ops : List Operation) (s : State) (h : Observes observer s.hub) :
    (received observer (run handlers ops s).2).foldl Replica.replay s.replica =
        (run handlers ops s).1.replica ∧
      received observer (run handlers ops s).2 =
        ((attempts handlers ops s).filter (Attempt.counts handlers)).map Attempt.event := by
  have hrun := run_journals handlers ops h
  refine ⟨?_, hrun.received⟩
  rw [hrun.received]
  exact hrun.replay

/-- A run in which puts at many paths stop midway, and writes at the empty path, at a missing
path and through a text are among the others. -/
theorem journal_faithful_stopped_midway :
    let s : State := ⟨.emptyMap, .emptyMap, Hub.empty.on (eventNames ++ ["other"]) "log"⟩
    let text : Value := .text "x"
    let ops : List Operation :=
      [.updateMany [("a.b", text), ("", text), ("a.b.c", text), ("d", text)],
        .write (.add "" text), .write (.add "a.b" .null), .write (.delete "d"),
        .write (.delete "a.b"), .write (.setParams text), .write (.setRoot .null)]
    let log := received "log" (run .silent ops s).2
    Observes "log" s.hub ∧
      log.foldl Replica.replay s.replica = (run .silent ops s).1.replica ∧
      log = [.updated "a.b" text none, .added "a.b" .null, .deleted "d" none,
        .deleted "a.b" (some .null), .changed text .emptyMap,
        .updated "" .emptyMap (some (.map [("a", .emptyMap)]))] := by
  intro s text ops log
  have hobserves : Observes "log" s.hub := by decide
  obtain ⟨hreplay, hlog⟩ := journal_faithful .silent "log" ops s hobserves
  refine ⟨hobserves, hreplay, hlog.trans ?_⟩
  rfl

end ViewKit.State
