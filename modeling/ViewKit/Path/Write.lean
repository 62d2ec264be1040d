/-
# Writing along a path

A path is followed down to the container of its last segment, and what stands there is
changed in place.  On the way missing levels of maps are created, and in a list the place
behind the last item; scalars, dates and nulls are never replaced on the way.

Each operation returns its result together with the value as it stands afterwards, also when
it fails.
-/
import ViewKit.Path.Read

namespace ViewKit

/-- Why a path cannot be written to. -/
inductive PathError where
  /-- The empty path has no container. -/
  | emptyPath
  /-- A segment meets a value without parts. -/
  | notAContainer (path segment kind : String)
  /-- A segment meets a list and is not an index. -/
  | invalidIndex (path segment : String)
  /-- An index lies behind the end of a list. -/
  | indexOutOfRange (path : String) (index length : Nat)
deriving DecidableEq

/-- The message for an error. -/
def PathError.message : PathError → String
  | emptyPath => "an empty path does not address a slot"
  | notAContainer path segment kind =>
    "cannot write \x60" ++ segment ++ "\x60 of \x60" ++ path ++ "\x60 into a " ++ kind ++ " value"
  | invalidIndex path segment =>
    "\x60" ++ segment ++ "\x60 of \x60" ++ path ++ "\x60 is not a list index"
  | indexOutOfRange path index length =>
    "index " ++ toString index ++ " of \x60" ++ path ++
      "\x60 is out of range for a list of length " ++ toString length

namespace Path

/-- The child into which a segment leads when writing: the one that is there, or an empty
map where a child can be created. -/
def enter (path segment : String) (v : Value) : Except PathError Value :=
  match v with
  | .map fields => .ok ((Fields.get? segment fields).getD .emptyMap)
  | .list items =>
    match index? segment with
    | none => .error (.invalidIndex path segment)
    | some i =>
      match items[i]? with
      | some child => .ok child
      | none =>
        if i = items.length then .ok .emptyMap
        else .error (.indexOutOfRange path i items.length)
  | v => .error (.notAContainer path segment v.kind)

/-- Puts a child in its place, behind the others if it is new. -/
def store (segment : String) (child v : Value) : Value :=
  match v with
  | .map fields => .map (Fields.insert segment child fields)
  | .list items =>
    match index? segment with
    | none => .list items
    | some i =>
      if i = items.length then .list (items ++ [child]) else .list (items.set i child)
  | v => v

/-- Does something at the end of some segments, and puts what comes of it back in place. -/
def modifyAt {α : Type} (path : String) :
    List String → (Value → Except PathError α × Value) → Value → Except PathError α × Value
  | [], action, v => action v
  | segment :: segments, action, v =>
    match enter path segment v with
    | .error e => (.error e, v)
    | .ok child =>
      let (result, child) := modifyAt path segments action child
      (result, store segment child v)

/-- The place of a child in a container. -/
structure Slot where
  container : Value
  key : String
  /-- The path that led here, for messages. -/
  path : String

namespace Slot

/-- Whether the container is a list. -/
def inList (s : Slot) : Bool := s.container.asList?.isSome

/-- The child at the place. -/
def get? (s : Slot) : Option Value := s.container.child? s.key

/-- Whether there is a child at the place. -/
def contains (s : Slot) : Bool := s.container.hasChild s.key

/-- Puts a value at the place; the result is the one that was there.  In a list the place
behind the last item is free. -/
def set (v : Value) (s : Slot) : Except PathError (Option Value) × Value :=
  match s.container with
  | .map fields => (.ok (Fields.get? s.key fields), .map (Fields.insert s.key v fields))
  | .list items =>
    match index? s.key with
    | none => (.error (.invalidIndex s.path s.key), s.container)
    | some i =>
      match items[i]? with
      | some old => (.ok (some old), .list (items.set i v))
      | none =>
        if i = items.length then (.ok none, .list (items ++ [v]))
        else (.error (.indexOutOfRange s.path i items.length), s.container)
  | v => (.error (.notAContainer s.path s.key v.kind), v)

/-- Adds a value at the end of the list at the place; anything else there is replaced. -/
def append (v : Value) (s : Slot) : Except PathError Unit × Value :=
  match s.get? with
  | some (.list items) => (.ok (), store s.key (.list (items ++ [v])) s.container)
  | _ =>
    let (result, container) := s.set v
    (result.map fun _ => (), container)

/-- Takes the child at the place out; the others keep their order. -/
def remove (s : Slot) : Option Value × Value :=
  match s.container with
  | .map fields => (Fields.get? s.key fields, .map (Fields.erase s.key fields))
  | .list items =>
    match index? s.key with
    | none => (none, s.container)
    | some i => (items[i]?, .list (items.eraseIdx i))
  | v => (none, v)

end Slot

/-- Does something at the place that a path denotes. -/
def atSlot {α : Type} (root : Value) (path : String)
    (action : Slot → Except PathError α × Value) : Except PathError α × Value :=
  match splitLast? (segments path) with
  | none => (.error .emptyPath, root)
  | some (parents, last) =>
    modifyAt path parents (fun v =>
      if v.isContainer then action ⟨v, last, path⟩
      else (.error (.notAContainer path last v.kind), v)) root

/-- Puts a value at a path; the result is the one that was there. -/
def set (root : Value) (path : String) (v : Value) : Except PathError (Option Value) × Value :=
  atSlot root path (Slot.set v)

/-- Adds a value to the list at a path, or puts it there if there is no list. -/
def append (root : Value) (path : String) (v : Value) : Except PathError Unit × Value :=
  atSlot root path (Slot.append v)

/-- Takes out what is at a path. -/
def remove (root : Value) (path : String) : Except PathError (Option Value) × Value :=
  atSlot root path fun s =>
    let (old, container) := s.remove
    (.ok old, container)

end Path
end ViewKit
