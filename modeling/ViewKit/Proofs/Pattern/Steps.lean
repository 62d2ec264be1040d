/-
# Reading patterns step by step

A pattern is read in steps, each of which starts at a character that tells what is read next
(`Sign`).  A step leads from what has been read so far to what has been read then
(`Reader.next?`); reading a pattern is taking steps to the end of its text
(`Reader.readOn?_succ`).

How a pattern is read shows in these states: whether white space is passed over somewhere
(`isVerbose`), and how many groups have been opened in the end (`openedGroups`).
-/
import Mathlib.Tactic.Lemma
import ViewKit.Pattern.Reader

namespace ViewKit.Pattern

/-! ## Steps -/

/-- What a character means where something new can start. -/
inductive Sign where
  | opens
  | closes
  | separates
  | bracket
  /-- The last piece is repeated. -/
  | repeats (least : Nat) (most : Option Nat)
  /-- The last piece is repeated as often as a count says. -/
  | counts
  | backslash
  | dot
  /-- The place meets a condition, which depends on the flags. -/
  | looks (condition : Flags → Look)
  /-- The character stands for itself. -/
  | itself

/-- The meaning of a character. -/
def Sign.of : Char → Sign
  | '(' => opens
  | ')' => closes
  | '|' => separates
  | '[' => bracket
  | '?' => repeats 0 (some 1)
  | '*' => repeats 0 none
  | '+' => repeats 1 none
  | '\x7b' => counts
  | '\\' => backslash
  | '.' => dot
  | '^' => looks lineStartLook
  | '$' => looks lineStopLook
  | _ => itself

/-- The pattern of a group, marked with the number of the group if it has one. -/
def OpenGroup.closeAs (o : OpenGroup) : Option Nat → Pattern
  | some i => group i o.close
  | none => o.close

/-- What has been read so far of a pattern, and what is left: the groups around the current
one, the current group, and the source. -/
structure Reader where
  outer : List OuterGroup
  current : OpenGroup
  source : Source

namespace Reader

/-- Reading starts at a text with no flags set and no group opened. -/
def start (text : List Char) : Reader := ⟨[], .fresh, ⟨text, {}, 0, []⟩⟩

variable (r : Reader)

/-- The last piece is repeated. -/
def repeat? (least : Nat) (most : Option Nat) (s : Source) : Option Reader :=
  (readRepetition? least most r.current s).map fun (o, s) => ⟨r.outer, o, s⟩

/-- An atom is added, if it is allowed. -/
def atom? (flags : Flags) (read : Option (Atom × Source)) : Option Reader :=
  read.bind fun (a, s) =>
    if a.isAllowed flags then some ⟨r.outer, r.current.push (a.pattern flags), s⟩ else none

/-- What an opening parenthesis starts. -/
def enter (flags : Flags) : Opening × Source → Reader
  | (.flags, s) => ⟨r.outer, { r.current with pieces := none :: r.current.pieces }, s⟩
  | (.group index, s) => ⟨⟨index, flags, r.current⟩ :: r.outer, .fresh, s⟩

/-- The current group is closed at a closing parenthesis. -/
def leave? (s : Source) : Option Reader :=
  match r.outer with
  | [] => none
  | ⟨index, flags, before⟩ :: outer =>
    some ⟨outer, before.push (r.current.closeAs index), { s.bump with flags }⟩

/-- A class in brackets is added, if it is allowed. -/
def class? (s : Source) : Option Reader :=
  (readClass? s).bind fun (cls, t) =>
    if !s.flags.unicode && cls '\u0080' then none
    else some ⟨r.outer, r.current.push (one cls), t⟩

/-- The last piece, if there is one, is repeated as often as a count says. -/
def counted? (s : Source) : Option Reader :=
  if (r.current.modifyLast? some).isNone then none
  else (readCounts? s).bind fun ((least, most), t) => r.repeat? least most t

/-- One step at a character, with the source from this character on. -/
def after? (s : Source) (c : Char) : Option Reader :=
  match Sign.of c with
  | .opens => (readOpening? s).map (r.enter s.flags)
  | .closes => r.leave? s
  | .separates => some ⟨r.outer, r.current.alternate, s.bump⟩
  | .bracket => r.class? s
  | .repeats least most => r.repeat? least most s.bump
  | .counts => r.counted? s
  | .backslash => r.atom? s.flags (readEscape? s)
  | .dot => (dot? s.flags).map fun p => ⟨r.outer, r.current.push p, s.bump⟩
  | .looks condition => r.atom? s.flags (some (.condition (condition s.flags), s.bump))
  | .itself => r.atom? s.flags (some (.literal c, s.bump))

/-- One step; there is none at the end of the text, or where the text is no pattern. -/
def next? : Option Reader :=
  r.source.skipSpace.rest.head?.bind (r.after? r.source.skipSpace)

/-- The pattern that reading on leads to, in at most `room` steps. -/
def readOn? (room : Nat) : Option Pattern := readPieces? room r.outer r.current r.source

variable (room : Nat)

/-- Reading on leads to a pattern. -/
def Reads (p : Pattern) : Prop := ∃ room, r.readOn? room = some p

variable {r} {p : Pattern}

end Reader

end ViewKit.Pattern
