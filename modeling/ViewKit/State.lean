/-
# States

A state owns a root value and parameters.  Every change goes through the operations of this
file and is announced on the hub of the state with its path and the values before and after.
-/
import ViewKit.Diff
import ViewKit.Event.Hub
import ViewKit.Json.Basic
import ViewKit.Path.Write

namespace ViewKit

/-- A change of a state. -/
inductive StateEvent where
  /-- The value at a path was replaced; the empty path stands for the whole root. -/
  | updated (path : String) (new : Value) (old : Option Value)
  /-- A value was added at a path. -/
  | added (path : String) (new : Value)
  /-- What was at a path, if anything, is gone. -/
  | deleted (path : String) (old : Option Value)
  /-- The parameters were replaced. -/
  | changed (new old : Value)

namespace StateEvent

/-- The name under which an event is dispatched. -/
def name : StateEvent → String
  | updated _ _ _ => "updated"
  | added _ _ => "added"
  | deleted _ _ => "deleted"
  | changed _ _ => "changed"

/-- The path of an event; a change of the parameters has none. -/
def path? : StateEvent → Option String
  | updated path _ _ => some path
  | added path _ => some path
  | deleted path _ => some path
  | changed _ _ => none

def new? : StateEvent → Option Value
  | updated _ new _ => some new
  | added _ new => some new
  | deleted _ _ => none
  | changed new _ => some new

def old? : StateEvent → Option Value
  | updated _ _ old => old
  | added _ _ => none
  | deleted _ old => old
  | changed _ old => some old

end StateEvent

/-- A state: its root, its parameters and the subscriptions to its events. -/
structure State where
  root : Value
  params : Value
  hub : Hub

/-- What an operation comes to: the state afterwards, what was observed at once, and the
completion of the handlers, or an error. -/
structure Step (σ ε : Type) where
  state : σ
  entries : List (Entry ε)
  result : Except PathError Dispatch

namespace State

/-- A null becomes an empty map. -/
def nonNull (v : Value) : Value := if v.isNull then .emptyMap else v

/-- The root that parameters describe: their field `state`, if it is not null. -/
def defaultRoot (params : Value) : Value :=
  match params.field? "state" with
  | some v => nonNull v
  | none => .emptyMap

/-- Builds a state from parameters, a rule for the first root, and subscriptions. -/
def build (params : Value) (initialize? : Option (Value → Value))
    (subscriptions : List (List String × HandlerId)) : State :=
  let params := nonNull params
  let root := (initialize?.getD defaultRoot) params
  let hub := subscriptions.foldl (fun hub (names, h) => hub.on names h) Hub.empty
  ⟨nonNull root, params, hub⟩

/-! ## Reading -/

/-- The value at a path. -/
def get? (s : State) (path : String) : Option Value := Path.get? s.root path

/-- A copy of the value at a path. -/
def snapshot? (s : State) (path : String) : Option Value := Path.cloneAt? s.root path

/-- Whether a path exists. -/
def contains (s : State) (path : String) : Bool := Path.contains s.root path

/-- Whether one of some paths exists. -/
def containsAny (s : State) (paths : List String) : Bool := paths.any s.contains

/-- The changes that would turn the root into another value. -/
def diff? (s : State) (new : Value) : Option Diff := Diff.between? new s.root

/-- The JSON text of the root. -/
def serialize (s : State) : String := s.root.serialize

/-! ## Changing -/

variable (handlers : Handlers StateEvent)

/-- Announces an event of a state. -/
def announce (event : StateEvent) (s : State) : Step State StateEvent :=
  let (entries, dispatch) := s.hub.announce handlers StateEvent.name event
  ⟨s, entries, .ok dispatch⟩

/-- Nothing happened. -/
def unchanged (s : State) : Step State StateEvent := ⟨s, [], .ok Dispatch.none⟩

/-- Replaces the root. -/
def setRoot (v : Value) (s : State) : Step State StateEvent :=
  let new := nonNull v
  announce handlers (.updated "" new (some s.root)) { s with root := new }

/-- Replaces the parameters. -/
def setParams (v : Value) (s : State) : Step State StateEvent :=
  announce handlers (.changed v s.params) { s with params := v }

/-- Adds a value to the list at a path, or puts it there if there is no list. -/
def add (path : String) (v : Value) (s : State) : Step State StateEvent :=
  if path.isEmpty then unchanged s
  else
    match Path.append s.root path v with
    | (.error e, root) => ⟨{ s with root }, [], .error e⟩
    | (.ok (), root) => announce handlers (.added path v) { s with root }

/-- Takes out what is at a path.  A path that does not exist is announced as well. -/
def delete (path : String) (s : State) : Step State StateEvent :=
  if path.isEmpty then unchanged s
  else if s.contains path then
    match Path.remove s.root path with
    | (.error e, root) => ⟨{ s with root }, [], .error e⟩
    | (.ok old, root) => announce handlers (.deleted path old) { s with root }
  else announce handlers (.deleted path none) s

/-- Puts a value at a path. -/
def update (path : String) (v : Value) (s : State) : Step State StateEvent :=
  if path.isEmpty then unchanged s
  else
    match Path.set s.root path v with
    | (.error e, root) => ⟨{ s with root }, [], .error e⟩
    | (.ok old, root) => announce handlers (.updated path v old) { s with root }

/-- Puts values at paths one after the other up to the first error; what was done before it
stays. -/
def updateEach : List (String × Value) → State →
    State × List (Entry StateEvent) × Except PathError (List Dispatch)
  | [], s => (s, [], .ok [])
  | (path, v) :: updates, s =>
    let step := update handlers path v s
    match step.result with
    | .error e => (step.state, step.entries, .error e)
    | .ok d =>
      let (s, entries, result) := updateEach updates step.state
      (s, step.entries ++ entries, result.map (d :: ·))

/-- Puts values at paths, with one event each. -/
def updateMany (updates : List (String × Value)) (s : State) : Step State StateEvent :=
  let (s, entries, result) := updateEach handlers updates s
  ⟨s, entries, result.map Dispatch.all⟩

end State
end ViewKit
