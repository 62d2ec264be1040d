/-
# Which handlers an operation runs

An operation that succeeds runs the handlers of its events, one event after the other and
those of one event in the order of their registration, and its dispatch joins their replies
(`Announces`).  The events are told from the root before the operation: one for a write at a
path that is not empty, and for values put at many paths one for each of those
(`updateEvents`).  What they announce is also what became of the root and the parameters.
-/
import ViewKit.Proofs.Event.Merging
import ViewKit.Proofs.State.Write

namespace ViewKit

/-! ## The handlers of one event -/

section Handlers

variable {ε φ : Type}

/-- The runs of the handlers of an event, as they are observed. -/
def Hub.runs (nameOf : ε → String) (hub : Hub) (event : ε) : List (Entry ε) :=
  (hub.handlers (nameOf event)).map fun h => .ran h event

/-- The reply of a handler that was seen to run. -/
def Entry.reply? (reply : HandlerId → ε → Reply) : Entry ε → Option Reply
  | ran h event => some (reply h event)
  | finished _ => none

/-- The replies of the handlers that were seen to run, in order. -/
def Entry.replies (reply : HandlerId → ε → Reply) (entries : List (Entry ε)) : List Reply :=
  entries.filterMap (Entry.reply? reply)

lemma Entry.replies_append (reply : HandlerId → ε → Reply) (xs ys : List (Entry ε)) :
    Entry.replies reply (xs ++ ys) = Entry.replies reply xs ++ Entry.replies reply ys :=
  List.filterMap_append

lemma Entry.replies_map (reply : HandlerId → φ → Reply) (f : ε → φ) (entries : List (Entry ε)) :
    Entry.replies reply (entries.map (Entry.map f)) =
      Entry.replies (fun h event => reply h (f event)) entries := by
  rw [Entry.replies, List.filterMap_map]
  refine List.filterMap_congr fun entry _ => ?_
  cases entry <;> rfl

/-- Only runs of handlers are observed while an event is announced. -/
lemma Entry.length_replies_runs (reply : HandlerId → ε → Reply) (nameOf : ε → String) (hub : Hub)
    (events : List ε) :
    (Entry.replies reply (events.flatMap (hub.runs nameOf))).length =
      (events.flatMap (hub.runs nameOf)).length := by
  induction events with
  | nil => rfl
  | cons event events ih =>
    have hone : Entry.replies reply (hub.runs nameOf event) =
        (hub.handlers (nameOf event)).map fun h => reply h event := by
      simp [Entry.replies, Hub.runs, List.filterMap_map, Function.comp_def, Entry.reply?]
    rw [List.flatMap_cons, Entry.replies_append, List.length_append, List.length_append, ih, hone,
      List.length_map, Hub.runs, List.length_map]

/-- The dispatch of an event joins the replies of its handlers. -/
lemma Hub.leaves_announce (handlers : Handlers ε) (nameOf : ε → String) (event : ε) (hub : Hub) :
    (hub.announce handlers nameOf event).2.leaves =
      (Entry.replies handlers.reply (hub.runs nameOf event)).map .reply := by
  rw [announce, Dispatch.ofReplies, Dispatch.leaves, Dispatch.leavesOf_replies]
  simp [Entry.replies, runs, List.filterMap_map, Function.comp_def, Entry.reply?]

end Handlers

namespace State

/-! ## Events -/

/-- The events of a write: none at the empty path. -/
def Write.events (s : State) (w : Write) : List StateEvent :=
  if w.path? = some "" then [] else [w.event s]

/-- The events of values that are put at paths one after the other, from the root before
them. -/
def updateEvents : Value → List (String × Value) → List StateEvent
  | _, [] => []
  | root, (path, v) :: updates =>
    if path = "" then updateEvents root updates
    else .updated path v (Path.get? root path) :: updateEvents (Path.set root path v).2 updates

lemma Write.events_of_path {s : State} {w : Write} {path : String} (h : w.path? = some path) :
    w.events s = if path = "" then [] else [w.event s] := by
  simp only [events, h, Option.some.injEq]

/-! ## Announcements -/

variable (handlers : Handlers StateEvent)

/-- While some events took a state to another, the handlers of each of them ran in turn, and
the dispatch joins their replies. -/
structure Announces (s : State) (events : List StateEvent) (after : State)
    (entries : List (Entry StateEvent)) (d : Dispatch) : Prop where
  hub : after.hub = s.hub
  replica : after.replica = events.foldl Replica.replay s.replica
  ran : entries = events.flatMap (s.hub.runs StateEvent.name)
  leaves : d.leaves = (Entry.replies handlers.reply entries).map .reply

variable {handlers} {s : State}

lemma Announces.nothing : Announces handlers s [] s [] Dispatch.none := ⟨rfl, rfl, rfl, rfl⟩

/-- One event is announced to the handlers under its name. -/
lemma Announces.single {event : StateEvent} {after : State} {d : Dispatch}
    (hhub : after.hub = s.hub) (hreplica : after.replica = s.replica.replay event)
    (h : (announce handlers event after).result = .ok d) :
    Announces handlers s [event] after (announce handlers event after).entries d := by
  have hentries : (announce handlers event after).entries = s.hub.runs StateEvent.name event := by
    rw [← hhub]
    rfl
  have hdispatch : (s.hub.announce handlers StateEvent.name event).2 = d := by
    rw [← hhub]
    exact Except.ok.inj h
  refine ⟨hhub, hreplica, ?_, ?_⟩
  · rw [hentries, List.flatMap_singleton]
  · rw [hentries, ← hdispatch, Hub.leaves_announce]

/-- What follows on some announcements adds its own behind them. -/
lemma Announces.cons {middle after : State} {xs ys : List StateEvent}
    {entries entries' : List (Entry StateEvent)} {d : Dispatch} {ds : List Dispatch}
    (h : Announces handlers s xs middle entries d)
    (h' : Announces handlers middle ys after entries' (.all ds)) :
    Announces handlers s (xs ++ ys) after (entries ++ entries') (.all (d :: ds)) where
  hub := h'.hub.trans h.hub
  replica := by rw [h'.replica, h.replica, List.foldl_append]
  ran := by rw [h.ran, h'.ran, h.hub, List.flatMap_append]
  leaves := by
    have hds : Dispatch.leavesOf ds = (Entry.replies handlers.reply entries').map .reply :=
      h'.leaves
    rw [Dispatch.all, Dispatch.leaves, Dispatch.leavesOf, h.leaves, hds, Entry.replies_append,
      List.map_append]

variable (handlers)

/-- A write that succeeds announces its events. -/
lemma announces_write (w : Write) {d : Dispatch} (h : (w.perform handlers s).result = .ok d) :
    Announces handlers s (w.events s) (w.perform handlers s).state
      (w.perform handlers s).entries d := by
  have houtcome := Write.perform_outcome handlers s w
  generalize w.perform handlers s = step at houtcome h
  cases houtcome with
  | ignored hpath =>
    obtain rfl : Dispatch.none = d := Except.ok.inj h
    rw [Write.events, if_pos hpath]
    exact .nothing
  | failed e => cases h
  | announced after hpath hhub hreplica =>
    rw [Write.events, if_neg hpath]
    exact .single hhub hreplica h

/-- A write at a path that is not empty announces one event. -/
lemma announces_write_at {w : Write} {path : String} (hpath : w.path? = some path) {d : Dispatch}
    (h : (w.perform handlers s).result = .ok d) :
    Announces handlers s (if path = "" then [] else [w.event s]) (w.perform handlers s).state
      (w.perform handlers s).entries d := by
  rw [← Write.events_of_path hpath]
  exact announces_write handlers w h

lemma update_root (path : String) (v : Value) :
    (s.update handlers path v).state.root =
      if path = "" then s.root else (Path.set s.root path v).2 := by
  by_cases hpath : path = ""
  · subst hpath
    rfl
  · rw [update, Write.isEmpty_eq_false hpath, if_neg Bool.false_ne_true, if_neg hpath]
    split
    · next h => rw [h]
    · next h => rw [h]; rfl

/-- Values put at many paths announce their events if none of the paths fails. -/
lemma announces_updateEach (updates : List (String × Value)) {ds : List Dispatch}
    (h : (updateEach handlers updates s).2.2 = .ok ds) :
    Announces handlers s (updateEvents s.root updates) (updateEach handlers updates s).1
      (updateEach handlers updates s).2.1 (.all ds) := by
  induction updates generalizing s ds with
  | nil =>
    obtain rfl : [] = ds := Except.ok.inj h
    exact .nothing
  | cons update updates ih =>
    obtain ⟨path, v⟩ := update
    have hevents : updateEvents s.root ((path, v) :: updates) =
        (if path = "" then [] else [.updated path v (s.get? path)]) ++
          updateEvents (s.update handlers path v).state.root updates := by
      rw [updateEvents, update_root]
      split <;> rfl
    rw [updateEach] at h ⊢
    cases hresult : (s.update handlers path v).result with
    | error e => simp [hresult] at h
    | ok d =>
      have hfirst := announces_write_at handlers (w := .update path v) rfl hresult
      simp only [hresult] at h ⊢
      cases hrest : (updateEach handlers updates (s.update handlers path v).state).2.2 with
      | error e =>
        rw [hrest] at h
        cases h
      | ok rest =>
        rw [hrest] at h
        obtain rfl : d :: rest = ds := Except.ok.inj h
        rw [hevents]
        exact hfirst.cons (ih hrest)

lemma announces_updateMany (updates : List (String × Value)) {d : Dispatch}
    (h : (updateMany handlers updates s).result = .ok d) :
    Announces handlers s (updateEvents s.root updates) (updateMany handlers updates s).state
      (updateMany handlers updates s).entries d := by
  have hresult : (updateEach handlers updates s).2.2.map Dispatch.all = .ok d := h
  cases hds : (updateEach handlers updates s).2.2 with
  | error e =>
    rw [hds] at hresult
    cases hresult
  | ok ds =>
    rw [hds] at hresult
    obtain rfl : Dispatch.all ds = d := Except.ok.inj hresult
    exact announces_updateEach handlers updates hds

end State
end ViewKit
