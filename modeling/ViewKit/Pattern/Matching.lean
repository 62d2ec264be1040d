/-
# Matching patterns

A pattern is matched at a place by trying its choices in order of preference and taking the
first with which all that follows succeeds.  The matches in a text are found from left to
right: each one starts at the leftmost place where the pattern matches at all.
-/
import ViewKit.Pattern.Basic

namespace ViewKit

/-- A place between two characters of a text. -/
structure Place where
  /-- The number of characters before the place. -/
  index : Nat
  /-- The characters before the place, the nearest one first. -/
  before : List Char
  /-- The characters behind the place. -/
  rest : List Char

namespace Place

/-- The place at the start of a text. -/
def start (text : List Char) : Place := ⟨0, [], text⟩

/-- The place behind the next character. -/
def next? (p : Place) : Option (Char × Place) :=
  match p.rest with
  | [] => none
  | c :: rest => some (c, ⟨p.index + 1, c :: p.before, rest⟩)

/-- The text between two places. -/
def textTo (p q : Place) : List Char := p.rest.take (q.index - p.index)

end Place

/-- A piece of a text by its two ends. -/
structure Span where
  start : Place
  stop : Place

/-- The text of a piece. -/
def Span.text (s : Span) : List Char := s.start.textTo s.stop

/-- Whether a place meets a condition. -/
def Look.holds (l : Look) (p : Place) : Bool :=
  match l with
  | start => p.before.isEmpty
  | stop => p.rest.isEmpty
  | lineStart => p.before.head?.all (· == '\n')
  | lineStop => p.rest.head?.all (· == '\n')
  | crlfStart =>
    match p.before with
    | [] => true
    | c :: _ => c == '\n' || (c == '\r' && p.rest.head? != some '\n')
  | crlfStop =>
    match p.rest with
    | [] => true
    | c :: _ => c == '\r' || (c == '\n' && p.before.head? != some '\r')
  | word isWord test => test (p.before.head?.any isWord) (p.rest.head?.any isWord)

namespace Pattern

/-- The pieces that the groups of a pattern matched last, the latest one first. -/
abbrev Captures := List (Nat × Span)

/-- What has to succeed behind a matched piece. -/
abbrev Continuation (α : Type) := Place → Captures → Option α

/-- Repeats a step that has to move ahead, at most `room` times. -/
def iterate {α : Type} (step : Place → Captures → Continuation α → Option α) (greedy : Bool) :
    Nat → Place → Captures → Continuation α → Option α
  | 0, p, captures, k => k p captures
  | room + 1, p, captures, k =>
    let again (_ : Unit) := step p captures fun q captures =>
      if p.index < q.index then iterate step greedy room q captures k else none
    if greedy then
      match again () with
      | some a => some a
      | none => k p captures
    else
      match k p captures with
      | some a => some a
      | none => again ()

/-- Matches a pattern at a place and then goes on. -/
def run {α : Type} : Pattern → Place → Captures → Continuation α → Option α
  | empty, p, captures, k => k p captures
  | one accepts, p, captures, k =>
    match p.next? with
    | some (c, q) => if accepts c then k q captures else none
    | none => none
  | look condition, p, captures, k => if condition.holds p then k p captures else none
  | seq first second, p, captures, k =>
    run first p captures fun q captures => run second q captures k
  | alt first second, p, captures, k =>
    match run first p captures k with
    | some a => some a
    | none => run second p captures k
  | group index body, p, captures, k =>
    run body p captures fun q captures => k q ((index, ⟨p, q⟩) :: captures)
  | plus greedy body, p, captures, k =>
    run body p captures fun q captures =>
      if p.index < q.index then iterate (run body) greedy q.rest.length q captures k
      else k q captures

/-- A piece of a text that a pattern matched. -/
structure Match where
  start : Place
  stop : Place
  captures : Captures

/-- The piece that a group matched last, if it took part in the match. -/
def Match.group? (m : Match) (index : Nat) : Option (List Char) :=
  (m.captures.lookup index).map Span.text

/-- The preferred match of a pattern at a place. -/
def matchAt? (pattern : Pattern) (p : Place) : Option Match :=
  run pattern p [] fun q captures => some ⟨p, q, captures⟩

/-- The match at the leftmost place from which on there is one; `room` places are tried. -/
def findFrom? (pattern : Pattern) : Nat → Place → Option Match
  | 0, _ => none
  | room + 1, p =>
    match pattern.matchAt? p with
    | some m => some m
    | none =>
      match p.next? with
      | some (_, q) => findFrom? pattern room q
      | none => none

/-- The leftmost match from a place on. -/
def find? (pattern : Pattern) (p : Place) : Option Match :=
  pattern.findFrom? (p.rest.length + 1) p

/-- The next match behind one that ended at `last`: an empty match at that very place does
not count, and the search goes on one character later. -/
def nextMatch? (pattern : Pattern) (p : Place) (last : Option Nat) : Option Match :=
  match pattern.find? p with
  | none => none
  | some m =>
    if m.stop.index = m.start.index ∧ last = some m.stop.index then
      match p.next? with
      | some (_, q) => pattern.find? q
      | none => none
    else some m

/-- The matches from a place on, at most `room` of them. -/
def matchesFrom (pattern : Pattern) : Nat → Place → Option Nat → List Match
  | 0, _, _ => []
  | room + 1, p, last =>
    match pattern.nextMatch? p last with
    | none => []
    | some m => m :: matchesFrom pattern room m.stop (some m.stop.index)

/-- All matches in a text from left to right, no two of which overlap. -/
def matchesIn (pattern : Pattern) (text : List Char) : List Match :=
  pattern.matchesFrom (text.length + 2) (Place.start text) none

end Pattern
end ViewKit
