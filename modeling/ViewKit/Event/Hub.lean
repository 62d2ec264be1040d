/-
# Event hubs

A hub keeps, for each event name, the handlers that are subscribed to it, in the order of
their registration.  Dispatching an event runs the handlers registered at that moment, each
as often as it was registered, whatever they reply and whatever they do to the hub while
they run.
-/
import ViewKit.Event.Dispatch
import ViewKit.Text.Quoted
import ViewKit.Text.Split

namespace ViewKit

/-- The handlers under each event name; the names stand in the order of subscription. -/
structure Hub where
  subscriptions : List (String × List HandlerId)

namespace Hub

/-- The hub without any subscription. -/
def empty : Hub := ⟨[]⟩

/-- The handlers under a name. -/
def handlers (hub : Hub) (name : String) : List HandlerId :=
  (Fields.get? name hub.subscriptions).getD []

/-- The number of registrations under a name. -/
def handlerCount (hub : Hub) (name : String) : Nat := (hub.handlers name).length

/-- Registers a handler under one name. -/
def subscribe (handler : HandlerId) (hub : Hub) (name : String) : Hub :=
  ⟨Fields.insert name (hub.handlers name ++ [handler]) hub.subscriptions⟩

/-- Registers a handler under every one of some names; twice means that it runs twice. -/
def on (names : List String) (handler : HandlerId) (hub : Hub) : Hub :=
  names.foldl (subscribe handler) hub

/-- Drops the first registration of a handler under one name, or without a handler the name
with all its registrations.  A name whose last handler is dropped alone stays. -/
def unsubscribe (handler : Option HandlerId) (hub : Hub) (name : String) : Hub :=
  match handler with
  | none => ⟨Fields.erase name hub.subscriptions⟩
  | some h =>
    match Fields.get? name hub.subscriptions with
    | none => hub
    | some hs => ⟨Fields.insert name (hs.erase h) hub.subscriptions⟩

/-- Drops registrations under every one of some names. -/
def off (names : List String) (handler : Option HandlerId) (hub : Hub) : Hub :=
  names.foldl (unsubscribe handler) hub

/-- The names in order of subscription. -/
def names (hub : Hub) : List String := Fields.names hub.subscriptions

/-- A summary of a hub: the names with their numbers of registrations. -/
def summary (hub : Hub) : String :=
  "\x7b" ++ Text.join ", " (hub.subscriptions.map fun (name, hs) =>
    Text.quoted name ++ ": " ++ toString hs.length) ++ "\x7d"

end Hub

/-! ## Changes -/

/-- A change of the subscriptions of a hub. -/
inductive Change where
  | on (names : List String) (handler : HandlerId)
  | off (names : List String) (handler : Option HandlerId)
deriving DecidableEq

/-- Makes a change. -/
def Hub.change (hub : Hub) : Change → Hub
  | .on names h => hub.on names h
  | .off names h => hub.off names h

/-! ## What happens -/

/-- What was observed, in order: a handler ran, or its pending work was finished. -/
inductive Entry (ε : Type) where
  | ran (handler : HandlerId) (event : ε)
  | finished (handler : HandlerId)
deriving DecidableEq

/-- The same observation with the event in another form. -/
def Entry.map {ε φ : Type} (f : ε → φ) : Entry ε → Entry φ
  | ran handler event => ran handler (f event)
  | finished handler => finished handler

/-- A run of a handler. -/
structure Invocation (ε : Type) where
  handler : HandlerId
  event : ε
  reply : Reply
deriving DecidableEq

/-- What happens while an event is dispatched. -/
inductive Happening (ε : Type) where
  /-- A handler runs; the level counts the dispatches by other handlers that it is inside of. -/
  | ran (level : Nat) (invocation : Invocation ε)
  | changed (change : Change)
deriving DecidableEq

namespace Happening

variable {ε : Type}

/-- The same, seen from outside of the handler that dispatched the event. -/
def deeper : Happening ε → Happening ε
  | ran level invocation => ran (level + 1) invocation
  | changed change => changed change

/-- The run of a handler of the dispatched event itself. -/
def own? : Happening ε → Option (Invocation ε)
  | ran 0 invocation => some invocation
  | _ => none

def change? : Happening ε → Option Change
  | changed change => some change
  | _ => none

/-- What can be observed of it. -/
def entry? : Happening ε → Option (Entry ε)
  | ran _ invocation => some (.ran invocation.handler invocation.event)
  | changed _ => none

end Happening

/-- The course of a dispatch: the hub and the memory of the handlers afterwards, and what
happened, in order. -/
structure Course (σ ε : Type) where
  hub : Hub
  memory : σ
  log : List (Happening ε)

namespace Course

variable {σ ε : Type}

/-- The same course after something else had happened. -/
def preceded (earlier : List (Happening ε)) (course : Course σ ε) : Course σ ε :=
  { course with log := earlier ++ course.log }

/-- The runs of the handlers of the dispatched event itself. -/
def invocations (course : Course σ ε) : List (Invocation ε) :=
  course.log.filterMap Happening.own?

/-- The changes of the subscriptions, whichever handler made them. -/
def changes (course : Course σ ε) : List Change := course.log.filterMap Happening.change?

/-- What was observed. -/
def entries (course : Course σ ε) : List (Entry ε) := course.log.filterMap Happening.entry?

/-- The completion of the handlers of the dispatched event. -/
def dispatch (course : Course σ ε) : Dispatch :=
  Dispatch.ofReplies (course.invocations.map (·.reply))

end Course

/-! ## Handlers -/

/-- What a handler does from some moment on until it replies.  Handlers have a memory in
common, and what a handler does next can depend on it and on the hub. -/
inductive Script (σ ε : Type) where
  | reply (r : Reply)
  | change (c : Change) (next : Script σ ε)
  /-- Dispatches another event, whose completion is then at hand. -/
  | dispatch (event : ε) (next : Dispatch → Script σ ε)
  /-- Looks at the hub and the memory, and renews the memory. -/
  | consult (renew : Hub → σ → σ) (next : Hub → σ → Script σ ε)

/-- What a handler may do to the hub while it runs. -/
inductive Act (ε : Type) where
  | on (names : List String) (handler : HandlerId)
  | off (names : List String) (handler : Option HandlerId)
  /-- Dispatches another event and does not wait for its completion. -/
  | dispatch (event : ε)

/-- Does an act first. -/
def Act.andThen {σ ε : Type} (next : Script σ ε) : Act ε → Script σ ε
  | on names h => .change (.on names h) next
  | off names h => .change (.off names h) next
  | dispatch event => .dispatch event fun _ => next

/-- How handlers without a memory behave: what they do to the hub and what they reply. -/
structure Handlers (ε : Type) where
  acts : HandlerId → ε → List (Act ε)
  reply : HandlerId → ε → Reply

/-- Handlers that leave the hub alone. -/
def Handlers.ofReplies {ε : Type} (reply : HandlerId → ε → Reply) : Handlers ε :=
  ⟨fun _ _ => [], reply⟩

/-- Handlers that do nothing and are done at once. -/
def Handlers.silent {ε : Type} : Handlers ε := Handlers.ofReplies fun _ _ => .done

/-- What a handler without a memory does: one act after the other, and then it replies. -/
def Handlers.script {ε : Type} (handlers : Handlers ε) (h : HandlerId) (event : ε) :
    Script Unit ε :=
  (handlers.acts h event).foldr (fun act next => act.andThen next)
    (.reply (handlers.reply h event))

/-! ## Dispatching -/

namespace Hub

variable {σ ε : Type}

/-- What an event comes to if the handlers leave the hub alone: what is observed at once, and
the completion. -/
def announce (handlers : Handlers ε) (nameOf : ε → String) (event : ε) (hub : Hub) :
    List (Entry ε) × Dispatch :=
  let hs := hub.handlers (nameOf event)
  (hs.map fun h => .ran h event, Dispatch.ofReplies (hs.map fun h => handlers.reply h event))

/-- Carries out what a handler does; `dispatch` tells what dispatching an event comes to. -/
def perform (dispatch : ε → Hub → σ → Option (Course σ ε)) :
    Script σ ε → Hub → σ → Option (Course σ ε × Reply)
  | .reply r, hub, memory => some (⟨hub, memory, []⟩, r)
  | .change c next, hub, memory => do
    let (course, r) ← perform dispatch next (hub.change c) memory
    return (course.preceded [.changed c], r)
  | .dispatch event next, hub, memory => do
    let inner ← dispatch event hub memory
    let (course, r) ← perform dispatch (next inner.dispatch) inner.hub inner.memory
    return (course.preceded (inner.log.map Happening.deeper), r)
  | .consult renew next, hub, memory =>
    perform dispatch (next hub memory) hub (renew hub memory)

/-- Runs one handler after the other. -/
def runAll (script : HandlerId → ε → Script σ ε)
    (dispatch : ε → Hub → σ → Option (Course σ ε)) (event : ε) :
    List HandlerId → Hub → σ → Option (Course σ ε)
  | [], hub, memory => some ⟨hub, memory, []⟩
  | h :: hs, hub, memory => do
    let (first, r) ← perform dispatch (script h event) hub memory
    let rest ← runAll script dispatch event hs first.hub first.memory
    return rest.preceded (.ran 0 ⟨h, event, r⟩ :: first.log)

/-- Runs the handlers of an event that are registered at this moment, where dispatches inside
dispatches nest less than `depth` deep; deeper ones have no result. -/
def run (script : HandlerId → ε → Script σ ε) (nameOf : ε → String) :
    Nat → ε → Hub → σ → Option (Course σ ε)
  | 0, _, _, _ => none
  | depth + 1, event, hub, memory =>
    runAll script (run script nameOf depth) event (hub.handlers (nameOf event)) hub memory

/-- Dispatches an event: the hub afterwards, what was observed, and the completion of the
handlers that were registered at the moment of the call. -/
def dispatch (handlers : Handlers ε) (nameOf : ε → String) (depth : Nat) (event : ε)
    (hub : Hub) : Option (Hub × List (Entry ε) × Dispatch) :=
  (run handlers.script nameOf depth event hub ()).map fun course =>
    (course.hub, course.entries, course.dispatch)

end Hub
end ViewKit
