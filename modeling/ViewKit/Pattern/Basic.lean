/-
# Patterns

A pattern describes pieces of text.  It is built from single characters, sequences,
prioritised alternatives, repetitions, marked groups and conditions on a place between two
characters.  The counted and optional repetitions are abbreviations.
-/

namespace ViewKit

/-- A condition on a place in a text. -/
inductive Look where
  /-- The start of the text. -/
  | start
  /-- The end of the text. -/
  | stop
  /-- The start of a line, behind a line feed. -/
  | lineStart
  /-- The end of a line, in front of a line feed. -/
  | lineStop
  /-- The start of a line when a carriage return and a line feed end one line. -/
  | crlfStart
  /-- The end of a line when a carriage return and a line feed end one line. -/
  | crlfStop
  /-- What stands before the place and behind it, each either of the given kind of word
  character or not, passes the test. -/
  | word (isWord : Char → Bool) (test : Bool → Bool → Bool)

/-- A pattern. -/
inductive Pattern where
  /-- The empty text. -/
  | empty
  /-- One character. -/
  | one (accepts : Char → Bool)
  /-- The empty text at a place that meets a condition. -/
  | look (condition : Look)
  /-- Two pieces, one behind the other. -/
  | seq (first second : Pattern)
  /-- The first choice if what follows can be matched with it, otherwise the second. -/
  | alt (first second : Pattern)
  /-- A piece that is remembered under a number. -/
  | group (index : Nat) (body : Pattern)
  /-- A piece and any number of further ones, as many as possible if `greedy`, else as few as
  possible.  No further one is empty, and behind an empty first one there is none. -/
  | plus (greedy : Bool) (body : Pattern)

namespace Pattern

/-- A pattern or nothing. -/
def optional (greedy : Bool) (p : Pattern) : Pattern :=
  if greedy then alt p empty else alt empty p

/-- A pattern a fixed number of times and then something else. -/
def times : Nat → Pattern → Pattern → Pattern
  | 0, _, after => after
  | n + 1, p, after => seq p (times n p after)

/-- A pattern up to `n` times. -/
def upTo (greedy : Bool) : Nat → Pattern → Pattern
  | 0, _ => empty
  | n + 1, p => optional greedy (seq p (upTo greedy n p))

/-- A pattern at least `least` times. -/
def atLeast (greedy : Bool) (least : Nat) (p : Pattern) : Pattern :=
  match least with
  | 0 => optional greedy (plus greedy p)
  | n + 1 => times n p (plus greedy p)

/-- A pattern at least `least` and at most `most` times. -/
def between (greedy : Bool) (least most : Nat) (p : Pattern) : Pattern :=
  times least p (upTo greedy (most - least) p)

/-- Some patterns, one behind the other. -/
def sequence : List Pattern → Pattern
  | [] => empty
  | [p] => p
  | p :: ps => seq p (sequence ps)

/-- Some patterns in order of preference. -/
def choice : List Pattern → Pattern
  | [] => one fun _ => false
  | [p] => p
  | p :: ps => alt p (choice ps)

/-- The greatest number of a group in the pattern, zero if there is none. -/
def groupCount : Pattern → Nat
  | empty => 0
  | one _ => 0
  | look _ => 0
  | seq p q => max p.groupCount q.groupCount
  | alt p q => max p.groupCount q.groupCount
  | group i p => max i p.groupCount
  | plus _ p => p.groupCount

/-- How large a pattern is, as the number of states of an automaton for it. -/
def size : Pattern → Nat
  | empty => 1
  | one _ => 1
  | look _ => 1
  | seq p q => p.size + q.size
  | alt p q => p.size + q.size + 1
  | group _ p => p.size + 2
  | plus _ p => p.size + 1

/-- The size beyond which a pattern is refused: ten mebibytes at 32 bytes for each state. -/
def sizeLimit : Nat := 327680

end Pattern
end ViewKit
