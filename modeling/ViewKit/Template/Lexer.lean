/-
# Reading tokens

A text is read token by token, with blanks between them.  The kinds of tokens are tried in a
fixed order: brackets, comments, numbers, quoted texts, operators, words.

Where no token can be read the text has a fault.  Its place is the furthest character at
which any attempt has failed so far.  Then characters are passed over one by one until a
token can be read again; if there is none up to the end, reading ends with the fault.
-/
import ViewKit.Number.Read
import ViewKit.Template.Token
import ViewKit.Text.Blank
import ViewKit.Text.CharSet

namespace ViewKit.Lexer

/-- A place in a text: the number of characters before it and the characters behind it. -/
structure Cursor where
  index : Nat
  rest : List Char

namespace Cursor

/-- The place some characters further. -/
def advance (c : Cursor) (n : Nat) : Cursor := ⟨c.index + n, c.rest.drop n⟩

/-- The place behind the blanks that follow. -/
def skipBlanks (c : Cursor) : Cursor := c.advance (c.rest.takeWhile Text.isBlank).length

end Cursor

/-- The outcome of an attempt to read something: the result with the place behind it, or
nothing, and the furthest place at which a test failed. -/
structure Attempt (α : Type) where
  result? : Option (α × Cursor)
  reach : Nat

namespace Attempt

/-- The first attempt if it succeeded, otherwise the second one. -/
def orElse {α : Type} (first : Attempt α) (second : Unit → Attempt α) : Attempt α :=
  match first.result? with
  | some _ => first
  | none =>
    let next := second ()
    ⟨next.result?, max first.reach next.reach⟩

/-- Changes the result. -/
def map {α β : Type} (f : α → β) (a : Attempt α) : Attempt β :=
  ⟨a.result?.map fun (x, c) => (f x, c), a.reach⟩

end Attempt

/-! ## Symbols -/

/-- The number of characters at the start that two texts have in common. -/
def commonLength : List Char → List Char → Nat
  | x :: xs, y :: ys => if x = y then commonLength xs ys + 1 else 0
  | _, _ => 0

/-- Reads the first of some symbols that stands at a place. -/
def readSymbol (c : Cursor) : List Symbol → Attempt Symbol
  | [] => ⟨none, c.index⟩
  | s :: ss =>
    let n := commonLength s.text c.rest
    if n = s.text.length then ⟨some (s, c.advance n), c.index⟩
    else
      let next := readSymbol c ss
      ⟨next.result?, max (c.index + n) next.reach⟩

/-! ## Comments -/

/-- The number of characters up to and including the end mark of a block comment. -/
def blockLength? : List Char → Option Nat
  | '*' :: '/' :: _ => some 2
  | _ :: cs => (blockLength? cs).map (· + 1)
  | [] => none

/-- Reads a comment: up to the end of the line, or between two marks. -/
def readComment (c : Cursor) : Attempt String :=
  let comment (n : Nat) : Option (String × Cursor) :=
    some (String.ofList (c.rest.take n), c.advance n)
  match c.rest with
  | '/' :: '/' :: cs =>
    let n := 2 + (cs.takeWhile fun x => !Text.isLineEnd x).length
    ⟨comment n, c.index + n⟩
  | '/' :: '*' :: cs =>
    match blockLength? cs with
    | some n => ⟨comment (2 + n), c.index + n⟩
    | none => ⟨none, c.index + c.rest.length⟩
  | '/' :: _ => ⟨none, c.index + 1⟩
  | _ => ⟨none, c.index⟩

/-! ## Numbers -/

/-- Reads a number: zero or digits that do not start with zero, and digits behind a point
if there are any. -/
def readNumber (c : Cursor) : Attempt Float :=
  let whole := match c.rest with
    | '0' :: _ => 1
    | cs => (cs.takeWhile Char.isDigit).length
  let number (n : Nat) : Option (Float × Cursor) :=
    (Number.readDigits? (c.rest.take n)).map fun x => (x, c.advance n)
  if whole = 0 then ⟨none, c.index⟩
  else
    match c.rest.drop whole with
    | '.' :: cs =>
      let fraction := (cs.takeWhile Char.isDigit).length
      if fraction = 0 then ⟨number whole, c.index + whole + 1⟩
      else ⟨number (whole + 1 + fraction), c.index + whole + 1 + fraction⟩
    | _ => ⟨number whole, c.index + whole⟩

/-! ## Quoted texts -/

/-- The decoded characters of a quoted text, and the places of escapes that name no
character. -/
structure Quoted where
  characters : List Char
  badEscapes : List Nat

/-- Puts a character in front. -/
def Quoted.cons (c : Char) (q : Quoted) : Quoted := { q with characters := c :: q.characters }

/-- Puts the character of an escape by number in front.  Half of a surrogate pair is no
character; the replacement character stands for it. -/
def Quoted.consNumber (place n : Nat) (q : Quoted) : Quoted :=
  if 0xd800 ≤ n ∧ n ≤ 0xdfff then ⟨'\ufffd' :: q.characters, place :: q.badEscapes⟩
  else q.cons (Char.ofNat n)

def isHex (c : Char) : Bool := c.isDigit || ('a' ≤ c && c ≤ 'f') || ('A' ≤ c && c ≤ 'F')

/-- The characters that one letter behind a backslash stands for. -/
def escaped? : Char → Option Char
  | '\\' => some '\\'
  | '\'' => some '\''
  | '"' => some '"'
  | 'n' => some '\n'
  | 'r' => some '\r'
  | 't' => some '\t'
  | '0' => some '\x00'
  | _ => none

/-- Reads a quoted text behind its opening quote; `index` is the number of characters before
the rest of the text. -/
def readQuoted (quote : Char) : Nat → List Char → Attempt Quoted
  | index, [] => ⟨none, index⟩
  | index, c :: cs =>
    if c = quote then ⟨some (⟨[], []⟩, ⟨index + 1, cs⟩), index⟩
    else if c = '\\' then
      match cs with
      | [] => ⟨none, index + 1⟩
      | 'u' :: c₁ :: c₂ :: c₃ :: c₄ :: rest =>
        let digits := [c₁, c₂, c₃, c₄]
        if digits.all isHex then
          (readQuoted quote (index + 6) rest).map
            (Quoted.consNumber (index + 2) (Text.CharSet.hexNumber digits))
        else ⟨none, index + 2 + (digits.takeWhile isHex).length⟩
      | 'u' :: rest => ⟨none, index + 2 + (rest.takeWhile isHex).length⟩
      | e :: rest =>
        match escaped? e with
        | some x => (readQuoted quote (index + 2) rest).map (Quoted.cons x)
        | none => ⟨none, index + 1⟩
    else (readQuoted quote (index + 1) cs).map (Quoted.cons c)

/-- Reads a text in single or double quotes. -/
def readText (c : Cursor) : Attempt Quoted :=
  match c.rest with
  | '\'' :: cs => readQuoted '\'' (c.index + 1) cs
  | '"' :: cs => readQuoted '"' (c.index + 1) cs
  | _ => ⟨none, c.index⟩

/-! ## Words -/

/-- The characters with which a word starts. -/
def startsWord (c : Char) : Bool := c.isAlpha || c == '_' || c == '$'

/-- The characters of which a word is made. -/
def inWord (c : Char) : Bool := c.isAlphanum || c == '_' || c == '$'

/-- Reads a word. -/
def readWord (c : Cursor) : Attempt String :=
  match c.rest with
  | x :: cs =>
    if startsWord x then
      let n := 1 + (cs.takeWhile inWord).length
      ⟨some (String.ofList (c.rest.take n), c.advance n), c.index + n⟩
    else ⟨none, c.index⟩
  | [] => ⟨none, c.index⟩

/-! ## Tokens -/

/-- A token that was read, and the places of its escapes that name no character. -/
structure Lexeme where
  token : Token
  badEscapes : List Nat

/-- A token without any such escapes. -/
def Lexeme.plain (t : Token) : Lexeme := ⟨t, []⟩

/-- Reads a token. -/
def readToken (c : Cursor) : Attempt Lexeme :=
  ((readSymbol c Symbol.brackets).map fun s => .plain (.symbol s)).orElse fun _ =>
  ((readComment c).map fun s => .plain (.comment s)).orElse fun _ =>
  ((readNumber c).map fun x => .plain (.number x)).orElse fun _ =>
  ((readText c).map fun q => ⟨.text (String.ofList q.characters), q.badEscapes⟩).orElse fun _ =>
  ((readSymbol c Symbol.operators).map fun s => .plain (.symbol s)).orElse fun _ =>
  (readWord c).map fun s => .plain (Token.ofWord s)

/-- A token with the numbers of characters before it and up to its end. -/
structure Placed where
  token : Token
  start : Nat
  stop : Nat

/-- What can be wrong with the characters of a text. -/
inductive Fault where
  /-- No token can be read; the attempts failed at this place. -/
  | unexpected (place : Nat)
  /-- The four digits from this place on name no character. -/
  | badEscape (place : Nat)
deriving DecidableEq

/-- What has been read of a text: the tokens and the faults in order. -/
structure Lexed where
  tokens : List Placed
  faults : List Fault

/-- Puts a token in front of what was read behind it. -/
def Lexed.cons (start stop : Nat) (l : Lexeme) (next : Lexed) : Lexed :=
  ⟨⟨l.token, start, stop⟩ :: next.tokens, l.badEscapes.map Fault.badEscape ++ next.faults⟩

/-- Passes over characters until a token without bad escapes can be read.  The result is
the token with its start and the place behind it, and the furthest place of the attempts
made on the way. -/
def recover : Nat → Cursor → Nat → Option ((Lexeme × Nat) × Cursor) × Nat
  | 0, _, reach => (none, reach)
  | room + 1, c, reach =>
    match c.rest with
    | [] => (none, reach)
    | _ :: _ =>
      let next := c.advance 1
      let start := next.skipBlanks
      let attempt := readToken start
      let reach := max reach (max c.index attempt.reach)
      match attempt.result? with
      | some (l, behind) =>
        if l.badEscapes.isEmpty then (some ((l, start.index), behind), reach)
        else recover room next reach
      | none => recover room next reach

/-- Reads the tokens from a place on; at most `room` of them.  `reach` is the furthest place
at which an attempt has failed so far. -/
def readTokens : Nat → Cursor → Nat → Lexed
  | 0, _, _ => ⟨[], []⟩
  | room + 1, c, reach =>
    let start := c.skipBlanks
    let attempt := readToken start
    let reach := max reach attempt.reach
    match attempt.result? with
    | some (l, behind) =>
      (readTokens room behind.skipBlanks reach).cons start.index behind.index l
    | none =>
      match c.rest with
      | [] => ⟨[], []⟩
      | _ :: _ =>
        match recover c.rest.length c 0 with
        | (some ((l, start), behind), newReach) =>
          let next := (readTokens room behind.skipBlanks newReach).cons start behind.index l
          ⟨next.tokens, .unexpected reach :: next.faults⟩
        | (none, _) => ⟨[], [.unexpected reach]⟩

/-- Reads the tokens of a text. -/
def read (text : List Char) : Lexed := readTokens (text.length + 1) ⟨0, text⟩ 0

end ViewKit.Lexer
