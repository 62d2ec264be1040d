/-
# Regions of a template

The text of a template consists of literal text and of regions, which the patterns of the
settings mark.  The patterns are tried in the order of their kinds at each place, as one
pattern of three alternatives, with the end of the text as a last one; the content of a
region is the first group of its pattern.

From the pieces a program is made: literal text is printed, a value is printed with or
without being escaped, and statements stand for themselves.
-/
import ViewKit.Pattern.Matching
import ViewKit.Pattern.Reader
import ViewKit.Template.Settings

namespace ViewKit

/-- What can be wrong with the patterns of settings. -/
inductive PatternFault where
  /-- The pattern of a kind cannot be read. -/
  | invalid (kind : RegionKind)
  /-- Every pattern can be read, but not all of them together. -/
  | invalidTogether
  /-- The pattern of a kind has no group for the content of the region. -/
  | noGroup (kind : RegionKind)
deriving DecidableEq

namespace PatternFault

/-- The message for a fault. -/
def message : PatternFault → String
  | invalid kind => "invalid " ++ kind.name ++ " pattern"
  | invalidTogether => "invalid combined pattern"
  | noGroup kind => "the " ++ kind.name ++ " pattern has no capture group"

end PatternFault

/-- A piece of a template. -/
inductive Piece where
  /-- Text that is printed as it is. -/
  | literal (text : List Char)
  /-- A region with its content. -/
  | region (kind : RegionKind) (content : List Char)
deriving DecidableEq

/-- The patterns of settings as one pattern, and the number of the group that holds the
content of each kind of regions that is enabled. -/
structure Delimiters where
  pattern : Pattern
  groups : List (RegionKind × Nat)

namespace Delimiters

/-- The enabled kinds with their patterns and the number of groups in each. -/
def enabled (s : Settings) : List RegionKind →
    Except PatternFault (List (RegionKind × String × Nat))
  | [] => .ok []
  | kind :: kinds =>
    match s.pattern? kind with
    | none => enabled s kinds
    | some text =>
      match Pattern.read? text.toList with
      | none => .error (.invalid kind)
      | some p =>
        if p.groupCount = 0 then .error (.noGroup kind)
        else do
          let others ← enabled s kinds
          return (kind, text, p.groupCount) :: others

/-- The first group of each pattern when all groups are numbered through. -/
def firstGroups : Nat → List (RegionKind × String × Nat) → List (RegionKind × Nat)
  | _, [] => []
  | next, (kind, _, count) :: others => (kind, next) :: firstGroups (next + count) others

/-- The patterns as alternatives of one pattern that also matches at the end of the text. -/
def combine (patterns : List String) : String :=
  patterns.foldr (fun text rest => "(?:" ++ text ++ ")|" ++ rest) "$"

/-- The delimiters that settings describe. -/
def ofSettings (s : Settings) : Except PatternFault Delimiters := do
  let kinds ← enabled s RegionKind.all
  match Pattern.read? (combine (kinds.map (·.2.1))).toList with
  | some pattern => return ⟨pattern, firstGroups 1 kinds⟩
  | none => .error .invalidTogether

/-- The region of a match: the first kind whose group took part in it. -/
def region? (d : Delimiters) (m : Pattern.Match) : Option Piece :=
  d.groups.findSome? fun (kind, group) => (m.group? group).map (Piece.region kind)

/-- The pieces from a place on, given the matches behind it. -/
def piecesFrom (d : Delimiters) : Place → List Pattern.Match → List Piece
  | p, [] => [.literal p.rest]
  | p, m :: ms => .literal (p.textTo m.start) :: (d.region? m).toList ++ piecesFrom d m.stop ms

/-- The pieces of a text in order. -/
def pieces (d : Delimiters) (text : List Char) : List Piece :=
  d.piecesFrom (Place.start text) (d.pattern.matchesIn text)

end Delimiters

namespace Piece

/-- How a character of literal text is written between single quotes. -/
def quoteChar (c : Char) : List Char :=
  match c with
  | '\\' => ['\\', '\\']
  | '\'' => ['\\', '\'']
  | '\r' => ['\\', 'r']
  | '\n' => ['\\', 'n']
  | '\u2028' => ['\\', 'u', '2', '0', '2', '8']
  | '\u2029' => ['\\', 'u', '2', '0', '2', '9']
  | c => [c]

/-- The statements that a piece becomes, each on a line. -/
def code : Piece → List Char
  | literal [] => []
  | literal text => "print('".toList ++ text.flatMap quoteChar ++ "');\n".toList
  | region .escape content => "print(escape((".toList ++ content ++ ")));\n".toList
  | region .interpolate content => "print((".toList ++ content ++ "));\n".toList
  | region .evaluate content => content ++ ['\n']

end Piece

/-- The program that a text becomes. -/
def Delimiters.program (d : Delimiters) (text : List Char) : List Char :=
  (d.pieces text).flatMap Piece.code

end ViewKit
