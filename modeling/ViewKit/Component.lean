/-
# Components

A component joins a state with compiled templates.  Each change of the state that is made
through the component renders the default template again and announces the new markup.
-/
import ViewKit.State
import ViewKit.Template.Basic

namespace ViewKit

/-- A template of a component was rendered. -/
structure Rendered where
  template : String
  html : String
deriving DecidableEq

/-- The name under which a rendering is announced. -/
def Rendered.name (_ : Rendered) : String := "rendered"

/-- What happens in a component: a change of its state, or a rendering. -/
inductive ComponentEvent where
  | state (event : StateEvent)
  | rendered (event : Rendered)

/-- A component. -/
structure Component where
  state : State
  templates : List (String × Template)
  hub : Hub
  /-- The markup of the last rendering of the default template. -/
  html : String

namespace Component

/-- The name of the template that is rendered after each change. -/
def defaultTemplate : String := "default"

/-- The name under which the templates of a component reach its state. -/
def stateVariable : String := "state"

/-- The owner of the templates: the root of the state and the parameters. -/
def owner (c : Component) : Value :=
  .map [("state", c.state.root), ("params", c.state.params)]

/-- How the handlers of a component behave. -/
structure Behaviour where
  state : Handlers StateEvent
  rendered : Handlers Rendered

variable (behaviour : Behaviour)

/-- Renders a template of a component and announces the result; the markup of the component
stays as it is. -/
def renderTemplate? (name : String) (c : Component) :
    Option (String × List (Entry ComponentEvent) × Dispatch) :=
  (Fields.get? name c.templates).map fun t =>
    let html := t.renderWith c.state.root c.owner
    let (entries, dispatch) := c.hub.announce behaviour.rendered Rendered.name ⟨name, html⟩
    (html, entries.map (Entry.map .rendered), dispatch)

/-- Renders the default template, if there is one. -/
def render (c : Component) : Component × List (Entry ComponentEvent) × Dispatch :=
  match renderTemplate? behaviour defaultTemplate c with
  | some (html, entries, dispatch) => ({ c with html }, entries, dispatch)
  | none => (c, [], Dispatch.none)

/-- Compiles templates one after the other up to the first error. -/
def compileAll (settings : Settings) (helpers : List (String × Helper)) :
    List (String × String) → Except CompileError (List (String × Template))
  | [] => .ok []
  | (name, text) :: texts =>
    match Template.compile text settings helpers with
    | .error e => .error e
    | .ok t => (compileAll settings helpers texts).map ((name, t) :: ·)

/-- Builds a component: compiles its templates, of which a later one replaces an earlier one
of the same name, and renders the default one. -/
def build (state : State) (templates : List (String × String))
    (helpers : List (String × Helper)) (subscriptions : List (List String × HandlerId)) :
    Except CompileError (Component × List (Entry ComponentEvent)) :=
  match compileAll { variableName := stateVariable } helpers (Fields.ofList templates) with
  | .error e => .error e
  | .ok templates =>
    let hub := subscriptions.foldl (fun hub (names, h) => hub.on names h) Hub.empty
    let (c, entries, _) := render behaviour ⟨state, templates, hub, ""⟩
    .ok (c, entries)

/-- Changes the state of a component and, unless that fails, renders it again. -/
def change (operation : State → Step State StateEvent) (c : Component) :
    Step Component ComponentEvent :=
  let step := operation c.state
  let c := { c with state := step.state }
  let entries := step.entries.map (Entry.map .state)
  match step.result with
  | .error e => ⟨c, entries, .error e⟩
  | .ok changed =>
    let (c, more, rendered) := render behaviour c
    ⟨c, entries ++ more, .ok (Dispatch.all [changed, rendered])⟩

/-- Puts a value at a path of the state. -/
def update (path : String) (v : Value) : Component → Step Component ComponentEvent :=
  change behaviour (State.update behaviour.state path v)

/-- Adds a value at a path of the state. -/
def add (path : String) (v : Value) : Component → Step Component ComponentEvent :=
  change behaviour (State.add behaviour.state path v)

/-- Takes out what is at a path of the state. -/
def delete (path : String) : Component → Step Component ComponentEvent :=
  change behaviour (State.delete behaviour.state path)

/-- Puts values at paths of the state. -/
def updateMany (updates : List (String × Value)) :
    Component → Step Component ComponentEvent :=
  change behaviour (State.updateMany behaviour.state updates)

/-- Replaces the root of the state. -/
def setState (v : Value) : Component → Step Component ComponentEvent :=
  change behaviour (State.setRoot behaviour.state v)

end Component
end ViewKit
