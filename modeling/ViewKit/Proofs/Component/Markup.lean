/-
# The markup of a component and its state

A component renders its default template again whenever one of its operations comes to
something, so its markup is what the template makes of the current state
(`upToDate_of_run`).  There is one way to fall behind: putting values at many paths stops at
the first path that fails, and what was put before it stays although nothing is rendered
(`markup_behind_stopped_batch`).  The next operation that renders makes up for it.

What an operation can come to is said once (`perform_outcome`): it renders, or it keeps the
root and the markup, or it is a batch that stopped midway.
-/
import ViewKit.Component
import ViewKit.Proofs.State.Atomic
import ViewKit.Proofs.State.Root

namespace ViewKit.Component

/-- The markup that a component would have if it were rendered now. -/
def currentMarkup (c : Component) : String :=
  match Fields.get? defaultTemplate c.templates with
  | some t => t.renderWith c.state.root c.owner
  | none => ""

/-- The markup is that of the current state; without a default template it is empty. -/
def UpToDate (c : Component) : Prop := c.html = c.currentMarkup

/-- An operation on a component. -/
inductive Operation where
  | update (path : String) (v : Value)
  | add (path : String) (v : Value)
  | delete (path : String)
  | updateMany (updates : List (String × Value))
  | setState (v : Value)
  | render
  | renderTemplate (name : String)

variable (behaviour : Behaviour)

namespace Operation

/-- Carries an operation out.  A template that does not exist leaves everything as it is. -/
def perform (c : Component) : Operation → Step Component ComponentEvent
  | update path v => c.update behaviour path v
  | add path v => c.add behaviour path v
  | delete path => c.delete behaviour path
  | updateMany updates => c.updateMany behaviour updates
  | setState v => c.setState behaviour v
  | render =>
    let (after, entries, rendered) := Component.render behaviour c
    ⟨after, entries, .ok rendered⟩
  | renderTemplate name =>
    match renderTemplate? behaviour name c with
    | some (_, entries, rendered) => ⟨c, entries, .ok rendered⟩
    | none => ⟨c, [], .ok Dispatch.none⟩

/-- The operation renders the default template into the markup: it succeeds, and it does more
than render one template for its own sake. -/
def Renders (c : Component) (op : Operation) : Prop :=
  (op.perform behaviour c).result.isOk = true ∧ ∀ name, op ≠ renderTemplate name

/-- Values are put at many paths, and a path fails after the root has changed. -/
def StopsMidway (c : Component) (op : Operation) : Prop :=
  (∃ updates, op = updateMany updates) ∧ (op.perform behaviour c).result.isOk = false ∧
    (op.perform behaviour c).state.state.root ≠ c.state.root

end Operation

/-- A component after some operations, whatever they come to. -/
def run : List Operation → Component → Component
  | [], c => c
  | op :: ops, c => run ops (op.perform behaviour c).state

/-- Whether after some operations a batch has stopped midway and nothing has been rendered
since; `lagging` says whether that was so before them. -/
def Lags (lagging : Prop) : List Operation → Component → Prop
  | [], _ => lagging
  | op :: ops, c =>
    Lags (op.StopsMidway behaviour c ∨ lagging ∧ ¬ op.Renders behaviour c) ops
      (op.perform behaviour c).state

/-! ## Rendering -/

variable {behaviour}
variable {c : Component}

/-- Without a default template there is no markup. -/
def HasMarkup (c : Component) : Prop :=
  Fields.get? defaultTemplate c.templates = none → c.html = ""

lemma currentMarkup_html (c : Component) (html : String) :
    ({ c with html } : Component).currentMarkup = c.currentMarkup := rfl

lemma hasMarkup_of_upToDate (h : c.UpToDate) : c.HasMarkup := by
  intro hnone
  rw [h, currentMarkup, hnone]

lemma upToDate_render (h : c.HasMarkup) : (render behaviour c).1.UpToDate := by
  cases htemplate : Fields.get? defaultTemplate c.templates with
  | none =>
    have hrender : (render behaviour c).1 = c := by
      simp [render, renderTemplate?, htemplate]
    rw [hrender, UpToDate, currentMarkup, htemplate]
    exact h htemplate
  | some t =>
    have hrender :
        (render behaviour c).1 = { c with html := t.renderWith c.state.root c.owner } := by
      simp [render, renderTemplate?, htemplate]
    rw [hrender, UpToDate, currentMarkup_html, currentMarkup, htemplate]

/-! ## Operations -/

section Outcomes

variable (behaviour)

/-- What an operation can come to. -/
inductive Outcome (c : Component) (op : Operation) : Step Component ComponentEvent → Prop where
  /-- The state may have changed, and the default template is rendered. -/
  | rendered (state : State) (entries : List (Entry ComponentEvent)) (dispatch : Dispatch)
      (hop : ∀ name, op ≠ .renderTemplate name) :
      Outcome c op ⟨(render behaviour { c with state }).1, entries, .ok dispatch⟩
  /-- A template is rendered for its own sake, and the component stays as it is. -/
  | looked (name : String) (entries : List (Entry ComponentEvent)) (dispatch : Dispatch)
      (hop : op = .renderTemplate name) : Outcome c op ⟨c, entries, .ok dispatch⟩
  /-- The operation fails, and the component stays as it is. -/
  | failed (entries : List (Entry ComponentEvent)) (e : PathError) :
      Outcome c op ⟨c, entries, .error e⟩
  /-- A batch fails at one of its paths, and what was put before it stays. -/
  | stopped (state : State) (entries : List (Entry ComponentEvent)) (e : PathError)
      (hop : ∃ updates, op = .updateMany updates) (hparams : state.params = c.state.params) :
      Outcome c op ⟨{ c with state }, entries, .error e⟩

/-- An operation on the state either succeeds and is followed by a rendering, or fails. -/
lemma change_cases (operation : State → Step State StateEvent) (c : Component) :
    (∃ entries dispatch, change behaviour operation c =
        ⟨(render behaviour { c with state := (operation c.state).state }).1, entries,
          .ok dispatch⟩) ∨
      ∃ entries e, (operation c.state).result = .error e ∧ change behaviour operation c =
        ⟨{ c with state := (operation c.state).state }, entries, .error e⟩ := by
  cases hresult : (operation c.state).result with
  | error e =>
    refine Or.inr ⟨(operation c.state).entries.map (Entry.map .state), e, rfl, ?_⟩
    rw [change, hresult]
  | ok changed =>
    let rendering := render behaviour { c with state := (operation c.state).state }
    refine Or.inl ⟨(operation c.state).entries.map (Entry.map .state) ++ rendering.2.1,
      Dispatch.all [changed, rendering.2.2], ?_⟩
    rw [change, hresult]

/-- A single write that fails leaves the component as it is. -/
lemma write_outcome (w : State.Write) (c : Component) {op : Operation}
    (hop : ∀ name, op ≠ .renderTemplate name) :
    Outcome behaviour c op
      (change behaviour (fun s => w.perform behaviour.state s) c) := by
  rcases change_cases behaviour (fun s => w.perform behaviour.state s) c with
    ⟨entries, dispatch, h⟩ | ⟨entries, e, he, h⟩
  · rw [h]
    exact .rendered _ entries dispatch hop
  · have hstate := ((State.Write.perform_outcome behaviour.state c.state w).of_error he).1
    rw [h, hstate]
    exact .failed entries e

lemma batch_outcome (updates : List (String × Value)) (c : Component) :
    Outcome behaviour c (.updateMany updates)
      (c.updateMany behaviour updates) := by
  rcases change_cases behaviour (State.updateMany behaviour.state updates) c with
    ⟨entries, dispatch, h⟩ | ⟨entries, e, -, h⟩
  · rw [updateMany, h]
    exact .rendered _ entries dispatch nofun
  · rw [updateMany, h]
    exact .stopped _ entries e ⟨updates, rfl⟩ (State.keeps_updateEach behaviour.state updates).params

theorem perform_outcome (op : Operation) (c : Component) :
    Outcome behaviour c op (op.perform behaviour c) := by
  cases op with
  | update path v => exact write_outcome behaviour (.update path v) c nofun
  | add path v => exact write_outcome behaviour (.add path v) c nofun
  | delete path => exact write_outcome behaviour (.delete path) c nofun
  | updateMany updates => exact batch_outcome behaviour updates c
  | setState v => exact write_outcome behaviour (.setRoot v) c nofun
  | render => exact .rendered c.state _ _ nofun
  | renderTemplate name =>
    rw [Operation.perform]
    split
    · exact .looked name _ _ rfl
    · exact .looked name _ _ rfl

end Outcomes

/-! ## Runs -/

lemma hasMarkup_perform (h : c.HasMarkup) (op : Operation) :
    (op.perform behaviour c).state.HasMarkup := by
  have houtcome := perform_outcome behaviour op c
  generalize op.perform behaviour c = step at houtcome
  cases houtcome with
  | rendered state =>
    have hchanged : HasMarkup { c with state } := h
    exact hasMarkup_of_upToDate (upToDate_render hchanged)
  | looked => exact h
  | failed => exact h
  | stopped => exact h

/-- One operation brings the markup up to date if it renders, and keeps it so unless it is a
batch that stops midway. -/
lemma upToDate_perform (h : c.HasMarkup) (op : Operation) (hmid : ¬ op.StopsMidway behaviour c)
    (hup : c.UpToDate ∨ op.Renders behaviour c) : (op.perform behaviour c).state.UpToDate := by
  have houtcome := perform_outcome behaviour op c
  rw [Operation.StopsMidway] at hmid
  rw [Operation.Renders] at hup
  generalize op.perform behaviour c = step at houtcome hmid hup
  cases houtcome with
  | rendered state =>
    have hchanged : HasMarkup { c with state } := h
    exact upToDate_render hchanged
  | looked name _ _ hop => exact hup.resolve_right fun hr => hr.2 name hop
  | failed => exact hup.resolve_right fun hr => nomatch hr.1
  | stopped state _ _ hop hparams =>
    have hroot : state.root = c.state.root := by
      by_contra hne
      exact hmid ⟨hop, rfl, hne⟩
    have hold : c.html = c.currentMarkup := hup.resolve_right fun hr => nomatch hr.1
    rw [UpToDate, currentMarkup, owner, hroot, hparams]
    exact hold

lemma upToDate_of_not_lags {lagging : Prop} (ops : List Operation) (h : c.HasMarkup)
    (hup : ¬ lagging → c.UpToDate) (hlags : ¬ Lags behaviour lagging ops c) :
    (run behaviour ops c).UpToDate := by
  induction ops generalizing c lagging with
  | nil => exact hup hlags
  | cons op ops ih =>
    refine ih (hasMarkup_perform h op) ?_ hlags
    intro hnot
    rw [not_or, not_and_or, not_not] at hnot
    exact upToDate_perform h op hnot.1 (hnot.2.imp_left hup)

lemma upToDate_build {state : State} {templates : List (String × String)}
    {helpers : List (String × Helper)} {subscriptions : List (List String × HandlerId)}
    {entries : List (Entry ComponentEvent)}
    (h : build behaviour state templates helpers subscriptions = .ok (c, entries)) :
    c.UpToDate := by
  rw [build] at h
  split at h
  · cases h
  · obtain ⟨rfl, -⟩ := Prod.mk.inj (Except.ok.inj h)
    exact upToDate_render fun _ => rfl

/-- In every run of a component that was built, failing operations included, the markup is
that of the current state after each operation, unless a batch has stopped midway and nothing
has been rendered since. -/
theorem upToDate_of_run (behaviour : Behaviour) (state : State)
    (templates : List (String × String)) (helpers : List (String × Helper))
    (subscriptions : List (List String × HandlerId)) (c : Component)
    (entries : List (Entry ComponentEvent))
    (h : build behaviour state templates helpers subscriptions = .ok (c, entries))
    (ops : List Operation) (hlags : ¬ Lags behaviour False ops c) :
    (run behaviour ops c).UpToDate :=
  upToDate_of_not_lags ops (hasMarkup_of_upToDate (upToDate_build h))
    (fun _ => upToDate_build h) hlags

/-! ## A batch that stops midway -/

/-- A component that shows the field `a` of its state. -/
def fieldView : Except CompileError (Component × List (Entry ComponentEvent)) :=
  build ⟨.silent, .silent⟩ ⟨.map [("a", .text "0")], .emptyMap, Hub.empty⟩
    [("default", "<%= a %>")] [] []

/-- A batch whose first path is written and whose second path leads into a text. -/
def stoppedBatch : Operation := .updateMany [("a", .text "1"), ("a.b", .null)]

lemma exists_fieldView : ∃ c entries, fieldView = .ok (c, entries) := by
  have hok : fieldView.isOk = true := by decide +kernel
  cases h : fieldView with
  | error e => rw [h] at hok; cases hok
  | ok built => exact ⟨built.1, built.2, rfl⟩

/-- A batch that stops midway leaves the markup of the state before it. -/
theorem markup_behind_stopped_batch :
    ∃ c entries, fieldView = .ok (c, entries) ∧
      let after := run ⟨.silent, .silent⟩ [stoppedBatch] c
      after.html = "0" ∧ after.currentMarkup = "1" ∧ ¬ after.UpToDate := by
  obtain ⟨c, entries, h⟩ := exists_fieldView
  have hafter : (fieldView.toOption.any fun built =>
      let after := run ⟨.silent, .silent⟩ [stoppedBatch] built.1
      after.html == "0" && after.currentMarkup == "1") = true := by decide +kernel
  rw [h] at hafter
  obtain ⟨hhtml, hmarkup⟩ := Bool.and_eq_true_iff.1 hafter
  rw [beq_iff_eq] at hhtml hmarkup
  refine ⟨c, entries, h, hhtml, hmarkup, ?_⟩
  intro hup
  rw [UpToDate, hhtml, hmarkup] at hup
  exact absurd hup (by decide)

/-- Rendering again after a batch that stopped midway brings the markup up to date. -/
theorem upToDate_of_render_after_stopped_batch :
    ∃ c entries, fieldView = .ok (c, entries) ∧
      ¬ Lags ⟨.silent, .silent⟩ False [stoppedBatch, .render] c ∧
      (run ⟨.silent, .silent⟩ [stoppedBatch, .render] c).UpToDate := by
  obtain ⟨c, entries, h⟩ := exists_fieldView
  have hlags : ¬ Lags ⟨.silent, .silent⟩ False [stoppedBatch, .render] c := by
    rintro (⟨⟨updates, hop⟩, -⟩ | ⟨-, hrenders⟩)
    · cases hop
    · exact hrenders ⟨rfl, nofun⟩
  exact ⟨c, entries, h, hlags, upToDate_of_run _ _ _ _ _ c entries h _ hlags⟩

end ViewKit.Component
