/-
# The written form of patterns

The notation of patterns: literal characters and escapes, classes in square brackets,
repetitions with or without counts, groups with or without names, and flags that hold up to
the end of the group in which they are set.  Reading fails as a whole; what is wrong with a
text that is no pattern is not recorded.
-/
import ViewKit.Pattern.Basic
import ViewKit.Pattern.CharClass

namespace ViewKit.Pattern

/-- The flags under which a part of a pattern is read. -/
structure Flags where
  ignoreCase : Bool := false
  multiLine : Bool := false
  dotMatchesAll : Bool := false
  swapGreed : Bool := false
  unicode : Bool := true
  crlf : Bool := false
  ignoreSpace : Bool := false

/-- What is left to read, the flags in force, and the groups that have been opened. -/
structure Source where
  rest : List Char
  flags : Flags
  groups : Nat
  names : List String

namespace Source

/-- Passes over one character. -/
def bump (s : Source) : Source := { s with rest := s.rest.drop 1 }

/-- The source at another place. -/
def moveTo (s : Source) (rest : List Char) : Source := { s with rest }

/-- What follows white space and comments, each from a number sign to the end of its line. -/
def afterSpace (inComment : Bool) : List Char → List Char
  | [] => []
  | c :: cs =>
    if inComment then afterSpace (c != '\n') cs
    else if Text.isBlank c then afterSpace false cs
    else if c == '#' then afterSpace true cs
    else c :: cs

/-- Passes over white space and comments where they do not count. -/
def skipSpace (s : Source) : Source :=
  if s.flags.ignoreSpace then s.moveTo (afterSpace false s.rest) else s

/-- Passes over one character and the white space behind it. -/
def bumpSpace (s : Source) : Source := s.bump.skipSpace

end Source

/-! ## Escapes -/

/-- What one character, escape or class in brackets stands for. -/
inductive Atom where
  | literal (c : Char)
  | characters (accepts : CharClass)
  | condition (l : Look)

/-- The characters with a meaning of their own. -/
def isMeta (c : Char) : Bool := "\\.+*?()|[]\x7b\x7d^$#&-~".toList.contains c

/-- The characters that a backslash in front of them leaves as they are. -/
def isEscapable (c : Char) : Bool :=
  isMeta c || (c.toNat < 0x80 && !c.isAlphanum && c != '<' && c != '>')

def isHex (c : Char) : Bool := c.isDigit || ('a' ≤ c && c ≤ 'f') || ('A' ≤ c && c ≤ 'F')

/-- The character with a number written in hexadecimal digits. -/
def charOfHex? (ds : List Char) : Option Char :=
  let n := Text.CharSet.hexNumber ds
  if ds.isEmpty || !(n < 0xd800 || (0xdfff < n && n < 0x110000)) then none
  else some (Char.ofNat n)

/-- The hexadecimal digits up to a closing brace; `room` characters are looked at. -/
def readBracedHex? : Nat → Source → Option (List Char × Source)
  | 0, _ => none
  | room + 1, s =>
    match s.rest with
    | [] => none
    | c :: _ =>
      if c == '\x7d' then some ([], s.bumpSpace)
      else if isHex c then
        (readBracedHex? room s.bumpSpace).map fun (ds, s) => (c :: ds, s)
      else none

/-- A fixed number of hexadecimal digits. -/
def readHexDigits? : Nat → Source → Option (List Char × Source)
  | 0, s => some ([], s)
  | n + 1, s =>
    match s.rest with
    | [] => none
    | c :: _ =>
      if isHex c then (readHexDigits? n s.bumpSpace).map fun (ds, s) => (c :: ds, s) else none

/-- A character by its number, behind the letter that announces it. -/
def readHex? (digits : Nat) (s : Source) : Option (Char × Source) := do
  let (ds, s) ← match s.rest with
    | [] => none
    | '\x7b' :: rest => readBracedHex? (rest.length + 1) s.bumpSpace
    | _ => readHexDigits? digits s
  let c ← charOfHex? ds
  return (c, s)

/-- The name of a class up to a closing brace; `room` characters are looked at. -/
def readBracedName? : Nat → Source → Option (List Char × Source)
  | 0, _ => none
  | room + 1, s =>
    match s.rest with
    | [] => none
    | c :: _ =>
      if c == '\x7d' then some ([], s.bump)
      else (readBracedName? room s.bumpSpace).map fun (name, s) => (c :: name, s)

/-- A text cut in two at the first occurrence of another one. -/
def cutAt? (mark : List Char) : List Char → Option (List Char × List Char)
  | [] => none
  | c :: cs =>
    match mark.isPrefixOf (c :: cs) with
    | true => some ([], (c :: cs).drop mark.length)
    | false => (cutAt? mark cs).map fun (before, behind) => (c :: before, behind)

/-- A class by its name, or by a property and a value. -/
def namedClass? (name : List Char) : Option CharClass :=
  let value (negated : Bool) (parts : List Char × List Char) : Option CharClass :=
    (CharClass.unicodeValue? (String.ofList parts.1) (String.ofList parts.2)).map
      (CharClass.negateIf negated)
  match cutAt? ['!', '='] name with
  | some parts => value true parts
  | none =>
    match cutAt? [':'] name with
    | some parts => value false parts
    | none =>
      match cutAt? ['='] name with
      | some parts => value false parts
      | none => CharClass.unicode? (String.ofList name)

/-- A class of Unicode characters, at the letter that announces it. -/
def readUnicodeClass? (s : Source) : Option (CharClass × Source) := do
  let negated := s.rest.head? == some 'P'
  let s := s.bumpSpace
  let (name, s) ← match s.rest with
    | [] => none
    | '\x7b' :: rest => readBracedName? (rest.length + 1) s.bumpSpace
    | '\\' :: _ => none
    | c :: _ => some ([c], s.bumpSpace)
  let cls ← namedClass? name
  if !s.flags.unicode then none
  return (CharClass.negateIf negated (CharClass.foldIf s.flags.ignoreCase cls), s)

/-- The classes with one letter; without Unicode they must not reach beyond ASCII. -/
def letterClass? (flags : Flags) (c : Char) : Option CharClass :=
  let choose (wide narrow : CharClass) := if flags.unicode then wide else narrow
  match c with
  | 'd' => some (choose CharClass.digit Char.isDigit)
  | 's' => some (choose CharClass.space CharClass.asciiSpace)
  | 'w' => some (choose CharClass.word CharClass.asciiWord)
  | 'D' => if flags.unicode then some (CharClass.negateIf true CharClass.digit) else none
  | 'S' => if flags.unicode then some (CharClass.negateIf true CharClass.space) else none
  | 'W' => if flags.unicode then some (CharClass.negateIf true CharClass.word) else none
  | _ => none

/-- A condition on the words around a place. -/
def wordLook (flags : Flags) (test : Bool → Bool → Bool) : Look :=
  .word (if flags.unicode then CharClass.word else CharClass.asciiWord) test

/-- The conditions on words that are named in braces. -/
def namedWordLook? (flags : Flags) : String → Option Look
  | "start" => some (wordLook flags fun before behind => !before && behind)
  | "end" => some (wordLook flags fun before behind => before && !behind)
  | "start-half" => some (wordLook flags fun before _ => !before)
  | "end-half" => some (wordLook flags fun _ behind => !behind)
  | _ => none

/-- The letters and hyphens of a name; `room` characters are looked at. -/
def readWordName : Nat → Source → List Char × Source
  | 0, s => ([], s)
  | room + 1, s =>
    match s.rest with
    | [] => ([], s)
    | c :: _ =>
      if c.isAlpha || c == '-' then
        let (name, s) := readWordName room s.bumpSpace
        (c :: name, s)
      else ([], s)

/-- A boundary of words.  A brace behind it starts a name, unless no letter follows. -/
def readBoundary? (s : Source) : Option (Atom × Source) :=
  let plain := Atom.condition (wordLook s.flags fun before behind => before != behind)
  match s.rest with
  | '\x7b' :: rest =>
    let inner := s.bumpSpace
    match inner.rest with
    | [] => none
    | c :: _ =>
      if c.isAlpha || c == '-' then
        let (name, t) := readWordName (rest.length + 1) inner
        match t.rest with
        | '\x7d' :: _ =>
          (namedWordLook? s.flags (String.ofList name)).map fun l => (.condition l, t.bump)
        | _ => none
      else some (plain, s)
  | _ => some (plain, s)

/-- Reads an escape, at its backslash. -/
def readEscape? (s : Source) : Option (Atom × Source) :=
  let s := s.bump
  match s.rest with
  | [] => none
  | c :: _ =>
    match c with
    | 'x' => (readHex? 2 s.bumpSpace).map fun (c, s) => (.literal c, s)
    | 'u' => (readHex? 4 s.bumpSpace).map fun (c, s) => (.literal c, s)
    | 'U' => (readHex? 8 s.bumpSpace).map fun (c, s) => (.literal c, s)
    | 'p' => (readUnicodeClass? s).map fun (cls, s) => (.characters cls, s)
    | 'P' => (readUnicodeClass? s).map fun (cls, s) => (.characters cls, s)
    | 'a' => some (.literal '\x07', s.bump)
    | 'f' => some (.literal '\x0c', s.bump)
    | 't' => some (.literal '\t', s.bump)
    | 'n' => some (.literal '\n', s.bump)
    | 'r' => some (.literal '\r', s.bump)
    | 'v' => some (.literal '\x0b', s.bump)
    | 'A' => some (.condition .start, s.bump)
    | 'z' => some (.condition .stop, s.bump)
    | 'b' => readBoundary? s.bump
    | 'B' =>
      some (.condition (wordLook s.flags fun before behind => before == behind), s.bump)
    | '<' =>
      some (.condition (wordLook s.flags fun before behind => !before && behind), s.bump)
    | '>' =>
      some (.condition (wordLook s.flags fun before behind => before && !behind), s.bump)
    | c =>
      match letterClass? s.flags c with
      | some cls => some (.characters cls, s.bump)
      | none => if isEscapable c then some (.literal c, s.bump) else none

/-! ## Classes in brackets -/

/-- The class of one character. -/
def literalClass (flags : Flags) (c : Char) : CharClass :=
  CharClass.foldIf flags.ignoreCase (CharClass.single c)

/-- Reads one item of a class in brackets: an escape or a character. -/
def readItem? (s : Source) : Option (Atom × Source) :=
  match s.rest with
  | [] => none
  | '\\' :: _ => readEscape? s
  | c :: _ => some (.literal c, s.bump)

/-- Reads an item of a class in brackets, or a range of characters. -/
def readClassRange? (s : Source) : Option (CharClass × Source) := do
  let (first, s) ← readItem? s
  let s := s.skipSpace
  let single : Option CharClass := match first with
    | .literal c => some (literalClass s.flags c)
    | .characters cls => some cls
    | .condition _ => none
  match s.rest with
  | [] => none
  | '-' :: _ =>
    let after := s.bumpSpace
    match after.rest with
    | [] => none
    | c :: _ =>
      if c == ']' || c == '-' then single.map fun cls => (cls, s)
      else
        let (second, s) ← readItem? after
        match first, second with
        | .literal low, .literal high =>
          if low ≤ high then
            return (CharClass.foldIf s.flags.ignoreCase (CharClass.range low high), s)
          else none
        | _, _ => none
  | _ => single.map fun cls => (cls, s)

/-- The operations on classes. -/
inductive ClassOperation where
  | intersection
  | difference
  | symmetricDifference

def ClassOperation.apply : ClassOperation → CharClass → CharClass → CharClass
  | intersection => CharClass.intersection
  | difference => CharClass.difference
  | symmetricDifference => CharClass.symmetricDifference

/-- A class of ASCII characters by its name between colons, at the opening bracket. -/
def readAsciiClass? (s : Source) : Option (CharClass × List Char) :=
  match s.rest with
  | '[' :: ':' :: rest =>
    let (negated, rest) := match rest with
      | '^' :: rest => (true, rest)
      | rest => (false, rest)
    match rest.dropWhile (· != ':') with
    | ':' :: ']' :: behind =>
      (CharClass.ascii? (String.ofList (rest.takeWhile (· != ':')))).map fun cls =>
        (CharClass.negateIf negated (CharClass.foldIf s.flags.ignoreCase cls), behind)
    | _ => none
  | _ => none

/-- Hyphens at the start of a class; `room` characters are looked at. -/
def skipHyphens : Nat → Source → Bool × Source
  | 0, s => (false, s)
  | room + 1, s =>
    match s.rest with
    | '-' :: _ => (true, (skipHyphens room s.bumpSpace).2)
    | _ => (false, s)

/-- The start of a class in brackets: whether it is negated and what stands in it already.
Hyphens and a closing bracket that come first stand for themselves. -/
def openClass (s : Source) : Bool × CharClass × Source :=
  let s := s.bumpSpace
  let (negated, s) := match s.rest with
    | '^' :: _ => (true, s.bumpSpace)
    | _ => (false, s)
  let (hyphens, s) := skipHyphens s.rest.length s
  if hyphens then (negated, literalClass s.flags '-', s)
  else
    match s.rest with
    | ']' :: _ => (negated, literalClass s.flags ']', s.bumpSpace)
    | _ => (negated, CharClass.nothing, s)

/-- A class in brackets that is being read: the classes already combined with an operation
that waits for its second side, and the union of the items read since then. -/
structure OpenClass where
  negated : Bool
  pending : Option (ClassOperation × CharClass)
  union : CharClass

/-- What has been read of a class so far, as a class. -/
def OpenClass.close (o : OpenClass) : CharClass :=
  match o.pending with
  | some (operation, left) => operation.apply left o.union
  | none => o.union

/-- Adds a class to those read so far. -/
def OpenClass.add (o : OpenClass) (cls : CharClass) : OpenClass :=
  { o with union := CharClass.union o.union cls }

/-- An operation takes what has been read so far as its first side. -/
def OpenClass.operate (o : OpenClass) (operation : ClassOperation) : OpenClass :=
  ⟨o.negated, some (operation, o.close), CharClass.nothing⟩

/-- Reads on in a class in brackets up to its closing bracket.  The classes around it wait
in `outer`; `room` steps are taken. -/
def readClassBody? : Nat → List OpenClass → OpenClass → Source → Option (CharClass × Source)
  | 0, _, _, _ => none
  | room + 1, outer, o, s =>
    let s := s.skipSpace
    match s.rest with
    | [] => none
    | '[' :: _ =>
      match readAsciiClass? s with
      | some (cls, rest) => readClassBody? room outer (o.add cls) (s.moveTo rest)
      | none =>
        let (negated, cls, s) := openClass s
        readClassBody? room (o :: outer) ⟨negated, none, cls⟩ s
    | ']' :: _ =>
      let cls := CharClass.negateIf o.negated o.close
      match outer with
      | [] => some (cls, s.bump)
      | o :: outer => readClassBody? room outer (o.add cls) s.bump
    | '&' :: '&' :: rest => readClassBody? room outer (o.operate .intersection) (s.moveTo rest)
    | '-' :: '-' :: rest => readClassBody? room outer (o.operate .difference) (s.moveTo rest)
    | '~' :: '~' :: rest =>
      readClassBody? room outer (o.operate .symmetricDifference) (s.moveTo rest)
    | _ => do
      let (cls, s) ← readClassRange? s
      readClassBody? room outer (o.add cls) s

/-- Reads a class in brackets, at its opening bracket. -/
def readClass? (s : Source) : Option (CharClass × Source) :=
  let room := s.rest.length + 1
  let (negated, cls, s) := openClass s
  readClassBody? room [] ⟨negated, none, cls⟩ s

/-! ## Counts -/

/-- Decimal digits; `room` characters are looked at. -/
def readDigits : Nat → Source → List Char × Source
  | 0, s => ([], s)
  | room + 1, s =>
    match s.rest with
    | [] => ([], s)
    | c :: _ =>
      if c.isDigit then
        let (ds, s) := readDigits room s.bumpSpace
        (c :: ds, s)
      else ([], s)

/-- A number below `2 ^ 32` with blanks around it. -/
def readCount? (s : Source) : Option (Nat × Source) :=
  let s := s.moveTo (s.rest.dropWhile Text.isBlank)
  let (ds, s) := readDigits s.rest.length s
  let n := ds.foldl (fun n c => 10 * n + (c.toNat - '0'.toNat)) 0
  if ds.isEmpty || Nat.pow 2 32 ≤ n then none
  else some (n, (s.moveTo (s.rest.dropWhile Text.isBlank)).skipSpace)

/-- Reads a count in braces, at the opening one: the least number of repetitions and the
greatest one if there is any. -/
def readCounts? (s : Source) : Option ((Nat × Option Nat) × Source) := do
  let (least, s) ← readCount? s.bumpSpace
  let (most, s) ← match s.rest with
    | ',' :: _ =>
      let s := s.bumpSpace
      match s.rest with
      | '\x7d' :: _ => some (none, s)
      | _ => (readCount? s).map fun (most, s) => (some most, s)
    | _ => some (some least, s)
  match s.rest with
  | '\x7d' :: _ =>
    if most.any (· < least) then none else return ((least, most), s.bumpSpace)
  | _ => none

/-- A pattern as often as a count says, unless that is too large; a pattern that may not occur
at all is empty. -/
def repeated? (greedy : Bool) (least : Nat) (most : Option Nat) (p : Pattern) :
    Option Pattern :=
  if sizeLimit < p.size * most.getD least then none
  else
    match most with
    | none => some (atLeast greedy least p)
    | some 0 => some empty
    | some most => some (between greedy least most p)

/-! ## Flags and groups -/

/-- Sets one flag. -/
def Flags.set? (flags : Flags) (c : Char) (value : Bool) : Option Flags :=
  match c with
  | 'i' => some { flags with ignoreCase := value }
  | 'm' => some { flags with multiLine := value }
  | 's' => some { flags with dotMatchesAll := value }
  | 'U' => some { flags with swapGreed := value }
  | 'u' => some { flags with unicode := value }
  | 'R' => some { flags with crlf := value }
  | 'x' => some { flags with ignoreSpace := value }
  | _ => none

/-- Reads flags up to a colon or a closing parenthesis.  No flag occurs twice, there is one
hyphen at most, and a flag follows it. -/
def readFlags? : List Char → List Char → Flags → Option (Flags × List Char)
  | _, [], _ => none
  | seen, c :: cs, flags =>
    if c == ':' || c == ')' then
      if seen.head? == some '-' then none else some (flags, c :: cs)
    else if seen.contains c then none
    else if c == '-' then readFlags? ('-' :: seen) cs flags
    else do
      let flags ← flags.set? c (!seen.contains '-')
      readFlags? (c :: seen) cs flags

/-- The characters of the name of a group; a digit, point or bracket cannot come first. -/
def isNameChar (first : Bool) (c : Char) : Bool :=
  let letter := if c.toNat < 0x80 then c.isAlpha else Text.alphabeticSet.contains c
  let numeral := c.isDigit ||
    (0x80 ≤ c.toNat && ((CharClass.category? "n").any fun cls => cls c))
  c == '_' || letter || (!first && (c == '.' || c == '[' || c == ']' || numeral))

/-- Reads the name of a group up to the closing angle bracket. -/
def readGroupName? (cs : List Char) : Option (String × List Char) :=
  let name := cs.takeWhile (· != '>')
  match name, cs.dropWhile (· != '>') with
  | first :: others, _ :: rest =>
    if isNameChar true first && others.all (isNameChar false) then
      some (String.ofList name, rest)
    else none
  | _, _ => none

/-- What an opening parenthesis starts. -/
inductive Opening where
  /-- Flags for the rest of the group around it. -/
  | flags
  /-- A group, which is remembered if it has a number. -/
  | group (index : Option Nat)

/-- Whether a text starts like a condition on what stands around a place, of which there is
no kind with parentheses. -/
def isLookAround : List Char → Bool
  | '?' :: '=' :: _ => true
  | '?' :: '!' :: _ => true
  | '?' :: '<' :: '=' :: _ => true
  | '?' :: '<' :: '!' :: _ => true
  | _ => false

/-- A group with a name that no group before it has. -/
def readNamedGroup? (s : Source) (cs : List Char) : Option (Opening × Source) := do
  let (name, rest) ← readGroupName? cs
  if s.names.contains name then none
  return (.group (some (s.groups + 1)), ⟨rest, s.flags, s.groups + 1, name :: s.names⟩)

/-- Reads what starts a group, at its opening parenthesis. -/
def readOpening? (s : Source) : Option (Opening × Source) :=
  let s := s.bumpSpace
  if isLookAround s.rest then none
  else
    match s.rest with
    | '?' :: 'P' :: '<' :: cs => readNamedGroup? s cs
    | '?' :: '<' :: cs => readNamedGroup? s cs
    | '?' :: cs =>
      match readFlags? [] cs s.flags with
      | some (flags, ')' :: rest) =>
        if cs.head? == some ')' then none else some (.flags, { s with rest, flags })
      | some (flags, _ :: rest) => some (.group none, { s with rest, flags })
      | _ => none
    | _ => some (.group (some (s.groups + 1)), { s with groups := s.groups + 1 })

/-! ## Patterns -/

/-- The pattern of an atom. -/
def Atom.pattern (flags : Flags) : Atom → Pattern
  | literal c => one (literalClass flags c)
  | characters accepts => one accepts
  | condition l => look l

/-- Without Unicode a pattern must not name characters beyond ASCII. -/
def Atom.isAllowed (flags : Flags) : Atom → Bool
  | literal c => flags.unicode || c.toNat < 0x80
  | _ => true

/-- The pattern of a dot, which needs Unicode. -/
def dot? (flags : Flags) : Option Pattern :=
  if !flags.unicode then none
  else if flags.dotMatchesAll then some (one fun _ => true)
  else if flags.crlf then some (one fun c => c != '\n' && c != '\r')
  else some (one fun c => c != '\n')

/-- The condition of a circumflex. -/
def lineStartLook (flags : Flags) : Look :=
  if !flags.multiLine then .start else if flags.crlf then .crlfStart else .lineStart

/-- The condition of a dollar sign. -/
def lineStopLook (flags : Flags) : Look :=
  if !flags.multiLine then .stop else if flags.crlf then .crlfStop else .lineStop

/-- A group that is being read: the finished alternatives and the pieces of the current one,
both in reverse.  A piece that only set flags is none, as it cannot be repeated. -/
structure OpenGroup where
  alternatives : List Pattern
  pieces : List (Option Pattern)

namespace OpenGroup

def fresh : OpenGroup := ⟨[], []⟩

/-- Adds a piece to the current alternative. -/
def push (o : OpenGroup) (p : Pattern) : OpenGroup := { o with pieces := some p :: o.pieces }

/-- The pattern of the current alternative. -/
def current (o : OpenGroup) : Pattern := sequence (o.pieces.reverse.filterMap id)

/-- Starts a new alternative. -/
def alternate (o : OpenGroup) : OpenGroup := ⟨o.current :: o.alternatives, []⟩

/-- The pattern of the whole group. -/
def close (o : OpenGroup) : Pattern := choice (o.current :: o.alternatives).reverse

/-- Changes the last piece, which has to be there. -/
def modifyLast? (o : OpenGroup) (f : Pattern → Option Pattern) : Option OpenGroup :=
  match o.pieces with
  | some p :: pieces => (f p).map fun q => { o with pieces := some q :: pieces }
  | _ => none

end OpenGroup

/-- A group around the one being read: its number, the flags outside it and what was read
before it. -/
structure OuterGroup where
  index : Option Nat
  flags : Flags
  before : OpenGroup

/-- Repeats the last piece, at the sign of the repetition; a question mark behind the sign
swaps greed. -/
def readRepetition? (least : Nat) (most : Option Nat) (o : OpenGroup) (s : Source) :
    Option (OpenGroup × Source) :=
  let (lazy, s) := match s.rest with
    | '?' :: rest => (true, s.moveTo rest)
    | _ => (false, s)
  let greedy := lazy == s.flags.swapGreed
  (o.modifyLast? (repeated? greedy least most)).map fun o => (o, s)

/-- Reads the pieces of a pattern one by one.  The groups around the current one wait in
`outer`; `room` steps are taken. -/
def readPieces? : Nat → List OuterGroup → OpenGroup → Source → Option Pattern
  | 0, _, _, _ => none
  | room + 1, outer, o, s =>
    let s := s.skipSpace
    let repetition (least : Nat) (most : Option Nat) (s : Source) := do
      let (o, s) ← readRepetition? least most o s
      readPieces? room outer o s
    let atom (read : Option (Atom × Source)) := do
      let (a, t) ← read
      if a.isAllowed s.flags then readPieces? room outer (o.push (a.pattern s.flags)) t
      else none
    match s.rest with
    | [] => if outer.isEmpty then some o.close else none
    | '(' :: _ => do
      let (opening, t) ← readOpening? s
      match opening with
      | .flags => readPieces? room outer { o with pieces := none :: o.pieces } t
      | .group index => readPieces? room (⟨index, s.flags, o⟩ :: outer) .fresh t
    | ')' :: _ =>
      match outer with
      | [] => none
      | ⟨index, flags, before⟩ :: outer =>
        let p := match index with
          | some i => group i o.close
          | none => o.close
        readPieces? room outer (before.push p) { s.bump with flags }
    | '|' :: _ => readPieces? room outer o.alternate s.bump
    | '[' :: _ => do
      let (cls, t) ← readClass? s
      if !s.flags.unicode && cls '\u0080' then none
      readPieces? room outer (o.push (one cls)) t
    | '?' :: _ => repetition 0 (some 1) s.bump
    | '*' :: _ => repetition 0 none s.bump
    | '+' :: _ => repetition 1 none s.bump
    | '\x7b' :: _ => do
      if (o.modifyLast? some).isNone then none
      let ((least, most), t) ← readCounts? s
      repetition least most t
    | '\\' :: _ => atom (readEscape? s)
    | '.' :: _ => do
      let p ← dot? s.flags
      readPieces? room outer (o.push p) s.bump
    | '^' :: _ => atom (some (.condition (lineStartLook s.flags), s.bump))
    | '$' :: _ => atom (some (.condition (lineStopLook s.flags), s.bump))
    | c :: _ => atom (some (.literal c, s.bump))

/-- Reads a pattern, which must not be too large. -/
def read? (text : List Char) : Option Pattern :=
  (readPieces? (text.length + 1) [] .fresh ⟨text, {}, 0, []⟩).filter (·.size ≤ sizeLimit)

end ViewKit.Pattern
