/-
# The grammar of the region language

A grammar reads a piece of a token sequence and returns what it stands for.  Alternatives
are ordered: the first one that succeeds is taken.  Whatever happens, the furthest token at
which any test has failed is kept; if the whole program cannot be read, that is the place of
the fault.

Expressions are read by climbing the binding powers of their operators.  A recursion is
bounded by a number that decreases with each token it consumes.
-/
import ViewKit.Template.Program
import ViewKit.Template.Token

namespace ViewKit

/-- A place in a token sequence: the number of tokens before it and those behind it. -/
structure Tokens where
  index : Nat
  rest : List Token

/-- What comes of reading: a result with the place behind it, or a failure; and the furthest
place at which a test failed. -/
inductive Reading (α : Type) where
  | success (result : α) (behind : Tokens) (reach : Nat)
  | failure (reach : Nat)

/-- A grammar for pieces that stand for an `α`. -/
def Grammar (α : Type) := Tokens → Nat → Reading α

namespace Grammar

variable {α β : Type}

instance : Monad Grammar where
  pure a := fun t reach => .success a t reach
  bind g f := fun t reach =>
    match g t reach with
    | .success a t reach => f a t reach
    | .failure reach => .failure reach

/-- The first grammar if it succeeds, otherwise the second one at the same place. -/
def or (g h : Grammar α) : Grammar α := fun t reach =>
  match g t reach with
  | .success a t reach => .success a t reach
  | .failure reach => h t reach

/-- The first grammar of a list that succeeds. -/
def oneOf : List (Grammar α) → Grammar α
  | [] => fun _ reach => .failure reach
  | [g] => g
  | g :: gs => or g (oneOf gs)

/-- Nothing can be read. -/
def fail : Grammar α := fun _ reach => .failure reach

/-- One token that passes a test. -/
def token (test : Token → Option α) : Grammar α := fun t reach =>
  match t.rest with
  | [] => .failure (max reach t.index)
  | x :: rest =>
    match test x with
    | some a => .success a ⟨t.index + 1, rest⟩ reach
    | none => .failure (max reach t.index)

/-- A symbol. -/
def symbol (s : Symbol) : Grammar Unit := token fun t => if t = .symbol s then some () else none

/-- A key word. -/
def keyword (k : Keyword) : Grammar Unit :=
  token fun t => if t = .keyword k then some () else none

/-- A name. -/
def name : Grammar String := token fun
  | .name s => some s
  | _ => none

/-- One of some symbols, each with its meaning. -/
def symbolOf (meanings : List (Symbol × α)) : Grammar α := token fun
  | .symbol s => (meanings.find? (·.1 = s)).map (·.2)
  | _ => none

/-- A piece or nothing. -/
def optional (g : Grammar α) : Grammar (Option α) := or (some <$> g) (pure none)

/-- Pieces as long as there is one, at most `room` of them. -/
def many (g : Grammar α) : Nat → Grammar (List α)
  | 0 => pure []
  | room + 1 => or (do
      let a ← g
      let more ← many g room
      return a :: more) (pure [])

/-- The pieces behind a first one, each with a comma in front, and perhaps one more comma. -/
def moreItems (g : Grammar α) : Nat → Grammar (List α)
  | 0 => pure []
  | room + 1 => or (do
      symbol .comma
      or (do
        let a ← g
        let more ← moreItems g room
        return a :: more) (pure [])) (pure [])

/-- Pieces with commas between them and perhaps one behind the last; at most `room`. -/
def items (g : Grammar α) (room : Nat) : Grammar (List α) :=
  or (do
    let a ← g
    let more ← moreItems g room
    return a :: more) (pure [])

/-- A piece between two symbols. -/
def between (opening closing : Symbol) (g : Grammar α) : Grammar α := do
  symbol opening
  let a ← g
  symbol closing
  return a

/-- A piece in parentheses. -/
def inParentheses (g : Grammar α) : Grammar α := between .roundOpen .roundClose g

/-! ## Expressions -/

/-- The literals with one token. -/
def literal : Grammar Literal := token fun
  | .number x => some (.number x)
  | .text s => some (.text s)
  | .keyword .trueWord => some (.bool true)
  | .keyword .falseWord => some (.bool false)
  | .keyword .nullWord => some .null
  | .keyword .undefinedWord => some .null
  | _ => none

/-- The key of a field of an object. -/
def key : Grammar String := token fun
  | .name s => some s
  | .text s => some s
  | _ => none

/-- The operators in front of an operand. -/
def unaryOperator : Grammar UnaryOperator := token fun
  | .symbol .not => some .not
  | .symbol .minus => some .negate
  | .symbol .plus => some .plus
  | .keyword .typeofWord => some .typeof
  | _ => none

/-- The operators between two operands, with their binding levels. -/
def binaryLevels : List (Nat × List (Symbol × BinaryOperator)) :=
  [(7, [(.asterisk, .multiply), (.slash, .divide), (.percent, .remainder)]),
    (6, [(.plus, .add), (.minus, .subtract)]),
    (5, [(.less, .less), (.lessOrEqual, .lessOrEqual), (.greater, .greater),
      (.greaterOrEqual, .greaterOrEqual)]),
    (4, [(.equal, .equal), (.notEqual, .notEqual), (.strictEqual, .strictEqual),
      (.strictNotEqual, .strictNotEqual)]),
    (3, [(.and, .and)]),
    (2, [(.or, .or)])]

/-- The level of the operand of an operator in front of it. -/
def unaryLevel : Nat := 9

/-- The level of a condition. -/
def conditionalLevel : Nat := 1

/-- What can stand behind an operand and belongs to it. -/
def suffix (operand : Expression) (expression : Grammar Expression) (room : Nat) :
    Grammar Expression :=
  oneOf [
    do
      symbol .dot
      let property ← name
      return .member operand property,
    do
      let index ← between .squareOpen .squareClose expression
      return .index operand index,
    do
      let arguments ← inParentheses (items expression room)
      return .call operand arguments]

/-- The first operand of an expression without its operators. -/
def atom (expression : Grammar Expression) (room : Nat) : Grammar Expression :=
  oneOf [
    .literal <$> literal,
    (fun _ => .this) <$> keyword .thisWord,
    .name <$> name,
    .list <$> between .squareOpen .squareClose (items expression room),
    .object <$> between .curlyOpen .curlyClose (items (do
      let k ← key
      symbol .colon
      let e ← expression
      return (k, e)) room),
    inParentheses expression]

mutual

/-- An expression whose operators bind at least as strongly as `power`.  An operator of
level `n` that associates to the left takes operands of power `2 n` on its left side and
`2 n + 1` on its right side; one that associates to the right the other way round. -/
def climb : Nat → Nat → Grammar Expression
  | 0, _ => fail
  | room + 1, power => do
    let operand ← or (do
        let operator ← unaryOperator
        let operand ← climb room (2 * unaryLevel)
        return .unary operator operand)
      (atom (climb room 0) room)
    climbFrom room power operand

/-- Goes on behind an operand. -/
def climbFrom : Nat → Nat → Expression → Grammar Expression
  | 0, _, operand => pure operand
  | room + 1, power, operand =>
    or (do
      let operand ← suffix operand (climb room 0) room
      climbFrom room power operand) <|
    or (do
      let operand ← oneOf (binaryLevels.map fun (level, meanings) =>
        if power ≤ 2 * level then do
          let operator ← symbolOf meanings
          let right ← climb room (2 * level + 1)
          return Expression.binary operator operand right
        else fail)
      climbFrom room power operand) <|
    or (if power ≤ 2 * conditionalLevel + 1 then do
        symbol .question
        let whenTrue ← climb room 0
        symbol .colon
        let whenFalse ← climb room (2 * conditionalLevel)
        climbFrom room power (.conditional operand whenTrue whenFalse)
      else fail) <|
    pure operand

end

/-- An expression; `room` is greater than the number of tokens left. -/
def expression (room : Nat) : Grammar Expression := climb room 0

/-! ## Statements -/

/-- Any number of semicolons. -/
def semicolons (room : Nat) : Grammar Unit := (fun _ => ()) <$> many (symbol .semicolon) room

/-- The words that start a declaration. -/
def declarationKind : Grammar DeclarationKind := token fun
  | .keyword .letWord => some .letKind
  | .keyword .constWord => some .constKind
  | .keyword .varWord => some .varKind
  | _ => none

/-- A declaration, an assignment, a step of one up or down, or an expression. -/
def simple (room : Nat) : Grammar Statement :=
  oneOf [
    do
      let kind ← declarationKind
      let declared ← name
      let value ← optional (do
        symbol .assign
        expression room)
      return .declaration kind declared value,
    do
      let target ← name
      let operator ← symbolOf [(.assign, .set), (.addAssign, .add)]
      let value ← expression room
      return .assignment target operator value,
    do
      let target ← name
      let distance ← symbolOf [(.increment, Number.ofInt 1), (.decrement, Number.ofInt (-1))]
      return .assignment target .add (.literal (.number distance)),
    .expression <$> expression room]

/-- The body of a branch or loop: a block, or one statement with the semicolons behind it. -/
def body (statement : Grammar Statement) (room : Nat) : Grammar (List Statement) :=
  or (between .curlyOpen .curlyClose (do
      semicolons room
      many (do
        semicolons room
        let s ← statement
        semicolons room
        return s) room))
    (do
      let s ← statement
      semicolons room
      return [s])

/-- The word that tells what a loop runs through. -/
def loopKind : Grammar LoopKind := token fun
  | .name "of" => some .items
  | .keyword .inWord => some .keys
  | _ => none

/-- A statement; `room` is greater than the number of tokens left. -/
def statement (total : Nat) : Nat → Grammar Statement
  | 0 => fail
  | room + 1 =>
    let body := body (statement total room) total
    oneOf [
      do
        keyword .ifWord
        let condition ← inParentheses (expression total)
        let thenBody ← body
        let elseBody ← optional (do
          keyword .elseWord
          body)
        return .branch condition thenBody (elseBody.getD []),
      do
        keyword .forWord
        let (binding, kind, iterable) ← inParentheses (do
          let _ ← optional declarationKind
          let binding ← name
          let kind ← loopKind
          let iterable ← expression total
          return (binding, kind, iterable))
        let statements ← body
        return .forEach binding kind iterable statements,
      do
        keyword .forWord
        let (start, condition, step) ← inParentheses (do
          let start ← optional (simple total)
          symbol .semicolon
          let condition ← optional (expression total)
          symbol .semicolon
          let step ← optional (simple total)
          return (start, condition, step))
        let statements ← body
        return .loop start condition step statements,
      simple total]

/-- The end of the token sequence. -/
def finish : Grammar Unit := fun t reach =>
  match t.rest with
  | [] => .success () t reach
  | _ :: _ => .failure (max reach t.index)

/-- A program: statements up to the end of the token sequence. -/
def program (room : Nat) : Grammar Program := do
  let statements ← many (do
    semicolons room
    let s ← statement room room
    semicolons room
    return s) room
  finish
  return statements

end Grammar

/-- Reads a program.  If that fails the result is the number of tokens before the fault. -/
def Program.read (tokens : List Token) : Except Nat Program :=
  match Grammar.program (tokens.length + 2) ⟨0, tokens⟩ 0 with
  | .success p _ _ => .ok p
  | .failure reach => .error reach

end ViewKit
