/-
# Running programs

A program runs with a data value whose fields can be named directly, an owner, and helper
functions.  Names are looked up in frames from the innermost one outwards, then in the data,
the owner and the helpers; a name that is found nowhere is null.

Evaluating an expression has a value and may print, because `print` is an ordinary call.
Executing a statement changes the frames and the output.  No loop runs more than
`loopLimit` times.
-/
import ViewKit.Template.Operation

namespace ViewKit

/-- A function of the owner of a template. -/
abbrev Helper := List Value → Value

/-- What the names of a program mean outside its own declarations. -/
structure Scope where
  /-- The data that the template is rendered from. -/
  data : Value
  /-- The owner, which programs call `this`. -/
  owner : Value
  /-- The name under which the data can be reached as a whole. -/
  variableName : String
  helpers : List (String × Helper)

/-- The names declared at one level of a program. -/
abbrev Frame := List (String × Value)

/-- How often a loop runs at most. -/
def loopLimit : Nat := 100000

namespace Scope

/-- The value of a name: of the innermost frame that has it, or else a field of the data,
the data itself, a field of the owner or the result of a helper. -/
def lookup (s : Scope) (frames : List Frame) (name : String) : Value :=
  match frames.findSome? (Fields.get? name) with
  | some v => v
  | none =>
    match s.data.field? name with
    | some v => v
    | none =>
      if name = s.variableName then s.data
      else
        match s.owner.field? name with
        | some v => v
        | none =>
          match Fields.get? name s.helpers with
          | some helper => helper []
          | none => .null

/-- A helper that is reached through the owner. -/
def helper? (s : Scope) (name : String) : Option Helper := Fields.get? name s.helpers

end Scope

/-! ## Expressions -/

/-- What printing some values adds to the output. -/
def printedText (vs : List Value) : String := vs.foldl (fun out v => out ++ v.printed) ""

/-- The result of calling a function by its name. -/
def Scope.callNamed (s : Scope) (name : String) (arguments : List Value) : Value :=
  if name = "escape" then .text ((arguments.head?.map Value.escaped).getD "")
  else
    match s.helper? name with
    | some helper => helper arguments
    | none => .null

mutual

/-- Evaluates an expression; the second part of the result is the output with what was
printed added to it.  The arguments of a call come before its receiver, and an index comes
before the value it is applied to. -/
def evaluate (s : Scope) (frames : List Frame) : Expression → String → Value × String
  | .literal l, out => (l.value, out)
  | .name n, out => (s.lookup frames n, out)
  | .this, out => (s.owner, out)
  | .list items, out =>
    let (vs, out) := evaluateAll s frames items out
    (.list vs, out)
  | .object fields, out =>
    let (vs, out) := evaluateFields s frames fields out
    (.map (Fields.ofList vs), out)
  | .member .this p, out =>
    match s.owner.field? p, s.helper? p with
    | none, some helper => (helper [], out)
    | _, _ => (s.owner.property p, out)
  | .member e p, out =>
    let (v, out) := evaluate s frames e out
    (v.property p, out)
  | .index e i, out =>
    let (index, out) := evaluate s frames i out
    let (v, out) := evaluate s frames e out
    (v.atIndex index, out)
  | .call (.name n) arguments, out =>
    let (vs, out) := evaluateAll s frames arguments out
    if n = "print" then (.null, out ++ printedText vs) else (s.callNamed n vs, out)
  | .call (.member .this p) arguments, out =>
    let (vs, out) := evaluateAll s frames arguments out
    match s.helper? p with
    | some helper => (helper vs, out)
    | none => (s.owner.method p vs, out)
  | .call (.member e p) arguments, out =>
    let (vs, out) := evaluateAll s frames arguments out
    let (receiver, out) := evaluate s frames e out
    (receiver.method p vs, out)
  | .call _ arguments, out =>
    let (_, out) := evaluateAll s frames arguments out
    (.null, out)
  | .unary operator e, out =>
    let (v, out) := evaluate s frames e out
    (operator.apply v, out)
  | .binary .and a b, out =>
    let (v, out) := evaluate s frames a out
    if v.truthy then evaluate s frames b out else (v, out)
  | .binary .or a b, out =>
    let (v, out) := evaluate s frames a out
    if v.truthy then (v, out) else evaluate s frames b out
  | .binary operator a b, out =>
    let (v, out) := evaluate s frames a out
    let (w, out) := evaluate s frames b out
    (operator.apply v w, out)
  | .conditional c a b, out =>
    let (v, out) := evaluate s frames c out
    if v.truthy then evaluate s frames a out else evaluate s frames b out

/-- Evaluates expressions from left to right. -/
def evaluateAll (s : Scope) (frames : List Frame) :
    List Expression → String → List Value × String
  | [], out => ([], out)
  | e :: es, out =>
    let (v, out) := evaluate s frames e out
    let (vs, out) := evaluateAll s frames es out
    (v :: vs, out)

/-- Evaluates the fields of an object from left to right. -/
def evaluateFields (s : Scope) (frames : List Frame) :
    List (String × Expression) → String → List (String × Value) × String
  | [], out => ([], out)
  | (name, e) :: fields, out =>
    let (v, out) := evaluate s frames e out
    let (vs, out) := evaluateFields s frames fields out
    ((name, v) :: vs, out)

end

/-! ## Frames -/

namespace Frame

/-- Declares a name in the innermost frame. -/
def declare (name : String) (v : Value) : List Frame → List Frame
  | [] => []
  | f :: fs => Fields.insert name v f :: fs

/-- Declares a name in the outermost frame. -/
def declareOutermost (name : String) (v : Value) : List Frame → List Frame
  | [] => []
  | [f] => [Fields.insert name v f]
  | f :: fs => f :: declareOutermost name v fs

/-- Assigns to a name in the innermost frame that has it, or else in the outermost one. -/
def assign (name : String) (v : Value) : List Frame → List Frame
  | [] => []
  | [f] => [Fields.insert name v f]
  | f :: fs =>
    if Fields.contains name f then Fields.insert name v f :: fs
    else f :: assign name v fs

end Frame

/-! ## Statements -/

/-- The state of a running program: its frames, the innermost one first, and its output. -/
structure Run where
  frames : List Frame
  output : String

namespace Run

/-- The value of an expression, and the state after it. -/
def evaluate (s : Scope) (e : Expression) (r : Run) : Value × Run :=
  let (v, output) := ViewKit.evaluate s r.frames e r.output
  (v, ⟨r.frames, output⟩)

/-- Runs something inside a new frame, which is gone afterwards. -/
def inFrame (frame : Frame) (action : Run → Run) (r : Run) : Run :=
  let inner := action ⟨frame :: r.frames, r.output⟩
  ⟨inner.frames.drop 1, inner.output⟩

/-- Runs rounds as long as a condition holds, `limit` of them at most.  After the last one
the condition is evaluated once more. -/
def rounds (condition : Run → Bool × Run) (round : Run → Run) : Nat → Run → Run
  | 0, r => (condition r).2
  | limit + 1, r =>
    let (goOn, r) := condition r
    if goOn then rounds condition round limit (round r) else r

/-- Whether an expression is true; no expression at all is. -/
def holds (s : Scope) (condition : Option Expression) (r : Run) : Bool × Run :=
  match condition with
  | none => (true, r)
  | some e =>
    let (v, r) := r.evaluate s e
    (v.truthy, r)

mutual

/-- Executes a statement. -/
def execute (s : Scope) : Statement → Run → Run
  | .declaration kind name value, r =>
    let (v, r) := match value with
      | some e => r.evaluate s e
      | none => (.null, r)
    match kind with
    | .varKind => ⟨Frame.declareOutermost name v r.frames, r.output⟩
    | _ => ⟨Frame.declare name v r.frames, r.output⟩
  | .assignment name operator value, r =>
    let (v, r) := r.evaluate s value
    let v := match operator with
      | .set => v
      | .add => (s.lookup r.frames name).add v
    ⟨Frame.assign name v r.frames, r.output⟩
  | .branch condition thenBody elseBody, r =>
    let (v, r) := r.evaluate s condition
    if v.truthy then inFrame [] (executeAll s thenBody) r
    else inFrame [] (executeAll s elseBody) r
  | .forEach binding kind iterable body, r =>
    let (v, r) := r.evaluate s iterable
    ((v.parts kind).take loopLimit).foldl
      (fun r part => inFrame [(binding, part)] (executeAll s body) r) r
  | .loop start condition step body, r =>
    inFrame [] (fun r =>
      rounds (holds s condition)
        (fun r => executeOption s step (inFrame [] (executeAll s body) r))
        loopLimit (executeOption s start r)) r
  | .expression e, r => (r.evaluate s e).2

/-- Executes statements one after the other. -/
def executeAll (s : Scope) : List Statement → Run → Run
  | [], r => r
  | t :: ts, r => executeAll s ts (execute s t r)

/-- Executes a statement if there is one. -/
def executeOption (s : Scope) : Option Statement → Run → Run
  | none, r => r
  | some t, r => execute s t r

end

end Run

/-- The output of a program that runs from the start. -/
def Program.output (p : Program) (s : Scope) : String := (Run.executeAll s p ⟨[[]], ""⟩).output

end ViewKit
