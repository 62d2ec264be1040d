/-
# What a change of a component announces

A change made through a component runs handlers on two hubs.  The handlers of the events of
the change come first, and those of one rendering of the default template follow, if there is
such a template.  The markup that is announced is the markup of the component afterwards and
what the template makes of the new state, and the dispatch that is returned waits for all of
these handlers (`change_announced`).  A single write that fails leaves the whole component as
it is, and no handler of either hub runs.
-/
import ViewKit.Proofs.Component.Markup
import ViewKit.Proofs.State.Announcement

namespace ViewKit.Component

/-- A change that can be made to the state through a component. -/
inductive Mutation where
  | update (path : String) (v : Value)
  | add (path : String) (v : Value)
  | delete (path : String)
  | updateMany (updates : List (String × Value))
  | setState (v : Value)

/-- The renderings that are announced behind a change, with the markup that it leads to. -/
def renderings (c : Component) (html : String) : List Rendered :=
  if Fields.contains defaultTemplate c.templates then [⟨defaultTemplate, html⟩] else []

/-- What a handler of either hub replies. -/
def Behaviour.reply (behaviour : Behaviour) (h : HandlerId) : ComponentEvent → Reply
  | .state event => behaviour.state.reply h event
  | .rendered event => behaviour.rendered.reply h event

namespace Mutation

/-- The events of a change that succeeds, from the state before it: one for each value that
is put, added or taken out at a path, none for the empty path. -/
def events (s : State) : Mutation → List StateEvent
  | update path v => if path = "" then [] else [.updated path v (s.get? path)]
  | add path v => if path = "" then [] else [.added path v]
  | delete path => if path = "" then [] else [.deleted path (s.get? path)]
  | updateMany updates => State.updateEvents s.root updates
  | setState v => [.updated "" (State.nonNull v) (some s.root)]

/-- The change of the state alone. -/
def onState (handlers : Handlers StateEvent) : Mutation → State → Step State StateEvent
  | update path v => State.update handlers path v
  | add path v => State.add handlers path v
  | delete path => State.delete handlers path
  | updateMany updates => State.updateMany handlers updates
  | setState v => State.setRoot handlers v

/-- Carries a change out. -/
def perform (behaviour : Behaviour) (c : Component) : Mutation → Step Component ComponentEvent
  | update path v => c.update behaviour path v
  | add path v => c.add behaviour path v
  | delete path => c.delete behaviour path
  | updateMany updates => c.updateMany behaviour updates
  | setState v => c.setState behaviour v

end Mutation

variable (behaviour : Behaviour)

lemma Mutation.perform_eq (m : Mutation) (c : Component) :
    m.perform behaviour c = change behaviour (m.onState behaviour.state) c := by
  cases m <;> rfl

/-! ## The two hubs -/

/-- A change of the state that succeeds announces its events. -/
lemma announces_onState (m : Mutation) {s : State} {d : Dispatch}
    (h : (m.onState behaviour.state s).result = .ok d) :
    s.Announces behaviour.state (m.events s) (m.onState behaviour.state s).state
      (m.onState behaviour.state s).entries d := by
  cases m with
  | update path v => exact State.announces_write_at behaviour.state (w := .update path v) rfl h
  | add path v => exact State.announces_write_at behaviour.state (w := .add path v) rfl h
  | delete path => exact State.announces_write_at behaviour.state (w := .delete path) rfl h
  | updateMany updates => exact State.announces_updateMany behaviour.state updates h
  | setState v => exact State.announces_write behaviour.state (.setRoot v) h

/-- A single write that fails leaves the state as it is. -/
lemma onState_of_error {m : Mutation} {s : State} {e : PathError}
    (h : (m.onState behaviour.state s).result = .error e)
    (hm : ∀ updates, m ≠ .updateMany updates) :
    (m.onState behaviour.state s).state = s ∧ (m.onState behaviour.state s).entries = [] := by
  cases m with
  | update path v =>
    exact (State.Write.perform_outcome behaviour.state s (.update path v)).of_error h
  | add path v =>
    exact (State.Write.perform_outcome behaviour.state s (.add path v)).of_error h
  | delete path =>
    exact (State.Write.perform_outcome behaviour.state s (.delete path)).of_error h
  | updateMany updates => exact absurd rfl (hm updates)
  | setState v => cases h

/-- A rendering of the default template was announced with the markup that it led to. -/
structure Renders (c : Component) (rendering : Component × List (Entry ComponentEvent) × Dispatch) :
    Prop where
  state : rendering.1.state = c.state
  html : ∀ t, Fields.get? defaultTemplate c.templates = some t →
    rendering.1.html = t.renderWith c.state.root c.owner
  ran : rendering.2.1 = ((c.renderings rendering.1.html).flatMap
    (c.hub.runs Rendered.name)).map (Entry.map .rendered)
  leaves : rendering.2.2.leaves =
    (Entry.replies behaviour.reply rendering.2.1).map .reply

lemma renders_render (c : Component) : Renders behaviour c (render behaviour c) := by
  cases htemplate : Fields.get? defaultTemplate c.templates with
  | none =>
    have hrender : render behaviour c = (c, [], Dispatch.none) := by
      simp [render, renderTemplate?, htemplate]
    have hnone : c.renderings c.html = [] := by simp [renderings, Fields.contains, htemplate]
    rw [hrender]
    refine ⟨rfl, fun t ht => ?_, ?_, rfl⟩
    · rw [htemplate] at ht
      cases ht
    · rw [hnone]
      rfl
  | some t =>
    let html := t.renderWith c.state.root c.owner
    let announced := c.hub.announce behaviour.rendered Rendered.name ⟨defaultTemplate, html⟩
    have hrender : render behaviour c =
        ({ c with html }, announced.1.map (Entry.map .rendered), announced.2) := by
      simp [render, renderTemplate?, htemplate, html, announced]
    have hone : c.renderings html = [⟨defaultTemplate, html⟩] := by
      simp [renderings, Fields.contains, htemplate]
    rw [hrender]
    refine ⟨rfl, fun u hu => ?_, ?_, ?_⟩
    · rw [htemplate] at hu
      cases hu
      rfl
    · rw [hone, List.flatMap_singleton]
      rfl
    · rw [Entry.replies_map]
      exact c.hub.leaves_announce behaviour.rendered Rendered.name ⟨defaultTemplate, html⟩

/-! ## A change and its rendering -/

/-- The component with its state changed, before it is rendered again. -/
def Mutation.written (m : Mutation) (c : Component) : Component :=
  { c with state := (m.onState behaviour.state c.state).state }

lemma perform_of_error {m : Mutation} {c : Component} {e : PathError}
    (h : (m.onState behaviour.state c.state).result = .error e) :
    m.perform behaviour c = ⟨m.written behaviour c,
      (m.onState behaviour.state c.state).entries.map (Entry.map .state), .error e⟩ := by
  rw [Mutation.perform_eq, change, h]
  rfl

lemma perform_of_ok {m : Mutation} {c : Component} {changed : Dispatch}
    (h : (m.onState behaviour.state c.state).result = .ok changed) :
    let rendering := render behaviour (m.written behaviour c)
    m.perform behaviour c = ⟨rendering.1,
      (m.onState behaviour.state c.state).entries.map (Entry.map .state) ++ rendering.2.1,
      .ok (Dispatch.all [changed, rendering.2.2])⟩ := by
  rw [Mutation.perform_eq, change, h]
  rfl

/-- While some events took a component to another, the handlers of each event ran in turn and
then those of one rendering, which shows the new state. -/
structure Announced (c : Component) (events : List StateEvent) (after : Component)
    (entries : List (Entry ComponentEvent)) (d : Dispatch) : Prop where
  ran : entries = (events.flatMap (c.state.hub.runs StateEvent.name)).map (Entry.map .state) ++
    ((c.renderings after.html).flatMap (c.hub.runs Rendered.name)).map (Entry.map .rendered)
  replica : after.state.replica = events.foldl State.Replica.replay c.state.replica
  html : ∀ t, Fields.get? defaultTemplate c.templates = some t →
    after.html = t.renderWith after.state.root after.owner
  leaves : d.leaves = (Entry.replies behaviour.reply entries).map .reply

lemma announced_perform {m : Mutation} {c : Component} {changed : Dispatch}
    (h : (m.onState behaviour.state c.state).result = .ok changed) :
    let rendering := render behaviour (m.written behaviour c)
    Announced behaviour c (m.events c.state) rendering.1
      ((m.onState behaviour.state c.state).entries.map (Entry.map .state) ++ rendering.2.1)
      (Dispatch.all [changed, rendering.2.2]) := by
  intro rendering
  have hchange := announces_onState behaviour m h
  have hrenders : Renders behaviour (m.written behaviour c) rendering := renders_render behaviour _
  refine ⟨?_, ?_, fun t ht => ?_, ?_⟩
  · rw [hchange.ran, hrenders.ran]
    rfl
  · rw [hrenders.state]
    exact hchange.replica
  · rw [owner, hrenders.state]
    exact hrenders.html t ht
  · rw [Dispatch.all, Dispatch.leaves, Dispatch.leavesOf, Dispatch.leavesOf, Dispatch.leavesOf,
      hchange.leaves, hrenders.leaves, List.append_nil, Entry.replies_append, Entry.replies_map,
      List.map_append]
    rfl

/-- Where all of the handlers are done at once, the dispatch resolves to their number. -/
lemma Announced.complete {c after : Component} {events : List StateEvent}
    {entries : List (Entry ComponentEvent)} {d : Dispatch}
    (h : Announced behaviour c events after entries d)
    (hdone : ∀ r ∈ Entry.replies behaviour.reply entries, r = .done) :
    d.complete = ⟨.resolved entries.length, 1, []⟩ := by
  have hlength : (Entry.replies behaviour.reply entries).length = entries.length := by
    rw [h.ran, Entry.replies_append, List.length_append, List.length_append, Entry.replies_map,
      Entry.replies_map, Entry.length_replies_runs, Entry.length_replies_runs, List.length_map,
      List.length_map]
  rw [Dispatch.complete_of_done h.leaves hdone, hlength]

/-- A change that succeeds is announced by its events and by one rendering of the new state,
and its dispatch resolves to the number of all the handlers if they are done at once.  A single
write that fails leaves the component as it is, and no handler has run. -/
theorem change_announced (behaviour : Behaviour) (c : Component) (m : Mutation) :
    let step := m.perform behaviour c
    (∀ d, step.result = .ok d →
      Announced behaviour c (m.events c.state) step.state step.entries d ∧
        ((∀ r ∈ Entry.replies behaviour.reply step.entries, r = .done) →
          d.complete = ⟨.resolved step.entries.length, 1, []⟩)) ∧
    (∀ e, step.result = .error e → (∀ updates, m ≠ .updateMany updates) →
      step.state = c ∧ step.entries = []) := by
  intro step
  cases hresult : (m.onState behaviour.state c.state).result with
  | error e =>
    have hstep : step = _ := perform_of_error behaviour hresult
    refine ⟨fun d hd => ?_, fun _ _ hm => ?_⟩
    · rw [hstep] at hd
      cases hd
    · obtain ⟨hstate, hentries⟩ := onState_of_error behaviour hresult hm
      rw [hstep, Mutation.written, hstate, hentries]
      exact ⟨rfl, rfl⟩
  | ok changed =>
    have hstep : step = _ := perform_of_ok behaviour hresult
    have hannounced := announced_perform behaviour hresult
    rw [hstep]
    refine ⟨fun d hd => ?_, fun e he => ?_⟩
    · obtain rfl := Except.ok.inj hd
      exact ⟨hannounced, hannounced.complete⟩
    · cases he

/-- A component with handlers on both hubs, one of them registered twice, whose template shows
the fields `a` and `b`. -/
def listened : Component where
  state :=
    ⟨.map [("a", .text "0")], .emptyMap, (Hub.empty.on ["updated"] "log").on ["updated"] "log"⟩
  templates :=
    [("default", ⟨[.expression (.call (.name "print") [.name "a", .name "b"])], "", "state", []⟩)]
  hub := Hub.empty.on ["rendered"] "view"
  html := "0"

/-- Of two values and an empty path each value is announced to both registrations before the
new markup is; below a text nothing can be put. -/
theorem change_announced_batch :
    let behaviour : Behaviour := ⟨.silent, .silent⟩
    let batch : Mutation := .updateMany [("a", .text "1"), ("", .null), ("b", .text "2")]
    let step := batch.perform behaviour listened
    let failed := (Mutation.update "a.b" .null).perform behaviour listened
    (∃ d, step.result = .ok d ∧ Announced behaviour listened (batch.events listened.state)
        step.state step.entries d ∧ step.state.html = "12" ∧ step.entries.length = 5 ∧
        d.complete = ⟨.resolved 5, 1, []⟩) ∧
      failed.result = .error (.notAContainer "a.b" "b" "string") ∧
      failed.state = listened ∧ failed.entries = [] := by
  intro behaviour batch step failed
  obtain ⟨hok, -⟩ := change_announced behaviour listened batch
  obtain ⟨-, herror⟩ := change_announced behaviour listened (.update "a.b" .null)
  obtain ⟨hannounced, hcomplete⟩ := hok _ rfl
  have hlength : step.entries.length = 5 := rfl
  have hhtml : step.state.html = "12" := by decide +kernel
  have hdone : ∀ r ∈ Entry.replies behaviour.reply step.entries, r = .done := by decide +kernel
  have hfailed : failed.result = .error (.notAContainer "a.b" "b" "string") := rfl
  exact ⟨⟨_, rfl, hannounced, hhtml, hlength, hcomplete hdone⟩, hfailed, herror _ hfailed nofun⟩

end ViewKit.Component
