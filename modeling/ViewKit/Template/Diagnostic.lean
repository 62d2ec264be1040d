/-
# Diagnostics

A template whose program cannot be read has diagnostics: each one says what was found and
where.  Places are counted in bytes of the program.  The faults of its characters come
first; only if there are none is the program read, and then there is one diagnostic at most.

A report names the line and the column of a place.  It takes the number of bytes for a
number of characters.
-/
import ViewKit.Template.Grammar
import ViewKit.Template.Lexer
import ViewKit.Text.Split

namespace ViewKit

/-- What was found where something else was needed. -/
inductive Finding where
  | character (c : Char)
  | token (t : Token)
  | endOfInput
  /-- An escape whose digits name no character. -/
  | badEscape
deriving DecidableEq

/-- The words for what was found. -/
def Finding.message : Finding → String
  | character c => "found '" ++ String.singleton c ++ "'"
  | token t => "found '" ++ t.display ++ "'"
  | endOfInput => "found end of input"
  | badEscape => "invalid unicode escape"

/-- A fault of a program, with the bytes it covers. -/
structure Diagnostic where
  start : Nat
  stop : Nat
  finding : Finding
deriving DecidableEq

namespace Diagnostic

/-- The number of bytes of the first characters of a text. -/
def bytesBefore (source : List Char) (count : Nat) : Nat := Text.byteLength (source.take count)

/-- A fault at the end of a text. -/
def atEnd (source : List Char) : Diagnostic :=
  ⟨Text.byteLength source, Text.byteLength source, .endOfInput⟩

/-- The diagnostic of a fault of the characters. -/
def ofFault (source : List Char) : Lexer.Fault → Diagnostic
  | .unexpected place =>
    match source[place]? with
    | some c => ⟨bytesBefore source place, bytesBefore source (place + 1), .character c⟩
    | none => atEnd source
  | .badEscape place => ⟨bytesBefore source place, bytesBefore source (place + 4), .badEscape⟩

/-- The diagnostic of a fault of the tokens. -/
def ofToken (source : List Char) (tokens : List Lexer.Placed) (place : Nat) : Diagnostic :=
  match tokens[place]? with
  | some t => ⟨bytesBefore source t.start, bytesBefore source t.stop, .token t.token⟩
  | none => atEnd source

/-! ## Lines and columns -/

/-- The lengths of the lines of a text, each with what ends it.  A carriage return and a
line feed end one line together; the end of a last line opens no new one.  `open` is the
length of the line that is being read. -/
def lineLengths : Nat → List Char → List Nat
  | 0, [] => []
  | length, [] => [length]
  | length, '\r' :: '\n' :: cs => (length + 2) :: lineLengths 0 cs
  | length, c :: cs =>
    if Text.isLineEnd c then (length + 1) :: lineLengths 0 cs else lineLengths (length + 1) cs

/-- The line and the column of a place, both from one on.  A place behind the last line is
counted in that line. -/
def lineColumn (place line : Nat) : List Nat → Nat × Nat
  | [] => (line, place + 1)
  | [_] => (line, place + 1)
  | n :: ns => if place < n then (line, place + 1) else lineColumn (place - n) (line + 1) ns

/-- The line and the column that a report names for a diagnostic, if it covers only places
inside the program. -/
def position? (d : Diagnostic) (source : List Char) : Option (Nat × Nat) :=
  let last := if d.start < d.stop then d.stop - 1 else d.start
  if d.start ≤ source.length ∧ last ≤ source.length then
    some (lineColumn d.start 1 (lineLengths 0 source))
  else none

end Diagnostic

/-- Reads the program of a template. -/
def Program.parse (source : List Char) : Except (List Diagnostic) Program :=
  let lexed := Lexer.read source
  match lexed.faults with
  | [] =>
    let tokens := lexed.tokens.filter fun t => !t.token.isComment
    match Program.read (tokens.map (·.token)) with
    | .ok program => .ok program
    | .error place => .error [Diagnostic.ofToken source tokens place]
  | faults => .error (faults.map (Diagnostic.ofFault source))

end ViewKit
