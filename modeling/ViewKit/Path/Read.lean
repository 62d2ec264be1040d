/-
# Reading along a path

A value is read step by step: a segment is the name of a field of a map or the index of an
item of a list.  Reading never changes anything.  Next to the plain look-up there is a
resolution that also tells how far the path leads through containers.
-/
import ViewKit.Path.Index
import ViewKit.Value.Basic

namespace ViewKit

namespace Value

/-- A child of a value: a field of a map, or an item of a list by its index. -/
def child? (v : Value) (segment : String) : Option Value :=
  match v with
  | map fields => Fields.get? segment fields
  | list items => (Path.index? segment).bind fun i => items[i]?
  | _ => none

/-- The value with a child replaced, if it has that child. -/
def replaceChild? (v : Value) (segment : String) (child : Value) : Option Value :=
  match v with
  | map fields =>
    if Fields.contains segment fields then some (map (Fields.insert segment child fields))
    else none
  | list items =>
    (Path.index? segment).bind fun i =>
      if i < items.length then some (list (items.set i child)) else none
  | _ => none

/-- Whether a value has a child. -/
def hasChild (v : Value) (segment : String) : Bool :=
  match v with
  | map fields => Fields.contains segment fields
  | list items => (Path.index? segment).any (· < items.length)
  | _ => false

/-- The part of a value to which some segments lead. -/
def descend? (v : Value) : List String → Option Value
  | [] => some v
  | segment :: segments =>
    match v.child? segment with
    | some child => descend? child segments
    | none => none

@[simp] theorem descend?_nil (v : Value) : v.descend? [] = some v := rfl

theorem descend?_append (v : Value) (xs ys : List String) :
    v.descend? (xs ++ ys) = (v.descend? xs).bind fun w => w.descend? ys := by
  induction xs generalizing v with
  | nil => rfl
  | cons x xs ih =>
    simp only [List.cons_append, descend?]
    split
    · exact ih _
    · rfl

end Value

namespace Path

/-- The last segment and those before it. -/
def splitLast? : List String → Option (List String × String)
  | [] => none
  | [segment] => some ([], segment)
  | segment :: segments =>
    (splitLast? segments).map fun (parents, last) => (segment :: parents, last)

/-- The value at a path. -/
def get? (root : Value) (path : String) : Option Value := root.descend? (segments path)

/-- A copy of the value at a path. -/
def cloneAt? (root : Value) (path : String) : Option Value := get? root path

/-- Whether the last segment of a path is a child of what the others lead to.  The empty path
has no last segment. -/
def contains (root : Value) (path : String) : Bool :=
  match splitLast? (segments path) with
  | none => false
  | some (parents, last) => (root.descend? parents).any fun v => v.hasChild last

/-- What a path leads to: the value if there is one, the last segment, and the container on
the way that is nearest to it. -/
structure Resolved where
  value : Option Value
  key : Option String
  container : Option Value

/-- Follows segments through containers; the last container reached, and whether that is
the end of the segments. -/
def lastContainer (v : Value) : List String → Value × Bool
  | [] => (v, true)
  | segment :: segments =>
    match v.child? segment with
    | some child => if child.isContainer then lastContainer child segments else (v, false)
    | none => (v, false)

/-- Resolves a path. -/
def resolve (root : Value) (path : String) : Resolved :=
  match splitLast? (segments path) with
  | none => ⟨some root, none, none⟩
  | some (parents, last) =>
    let (container, complete) := lastContainer root parents
    ⟨if complete then container.child? last else none, some last, some container⟩

end Path
end ViewKit
