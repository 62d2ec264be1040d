/-
# Patterns made of parts

A part of a pattern in parentheses is read step by step as it is read on its own
(`Reader.next?_within`), so the alternatives of a pattern are the patterns that are read on
their own, numbered one behind the other
(`eq_choice_of_read?`).
-/
import ViewKit.Proofs.Pattern.Context

namespace ViewKit.Pattern

open Source (cons)

variable (c : Surroundings) {s : Source}

/-! ## Counts -/

/-- A group that is being read, numbered behind `n` other groups. -/
def OpenGroup.shift (n : Nat) (o : OpenGroup) : OpenGroup :=
  ⟨o.alternatives.map (Pattern.shift n), o.pieces.map (Option.map (Pattern.shift n))⟩

section

variable (n : Nat) (o : OpenGroup)

end

/-- The number of a group behind the groups in front of it. -/
def Opening.shift (n : Nat) : Opening → Opening
  | flags => flags
  | group index => group (index.map (shiftNumber n))

/-- A group around another one, numbered behind `n` other groups. -/
def OuterGroup.shift (n : Nat) (g : OuterGroup) : OuterGroup :=
  ⟨g.index.map (shiftNumber n), g.flags, g.before.shift n⟩

namespace Reader

/-- What has been read of a part of a pattern, with another group around it. -/
def within (r : Reader) (c : Surroundings) (around : OuterGroup) : Reader :=
  ⟨r.outer.map (OuterGroup.shift c.groups) ++ [around], r.current.shift c.groups,
    r.source.within c⟩

variable {c} {around : OuterGroup} {r r' : Reader}

variable {whole : Pattern} {before : OpenGroup} {flags : Flags}

end Reader

/-! ## Alternatives -/

/-- Patterns with the numbers of groups that they take, as alternatives numbered one behind
the other, and the end of the text as the last alternative. -/
def numbered : Nat → List (Pattern × Nat) → List Pattern
  | _, [] => [look .stop]
  | n, (p, count) :: ps => p.shift n :: numbered (n + count) ps

end ViewKit.Pattern
