/-
# Programs of the region language

The expressions and statements that the code in the regions of a template is made of.
-/
import ViewKit.Value.Basic

namespace ViewKit

/-- A value that is written down in a program. -/
inductive Literal where
  | null
  | bool (b : Bool)
  | number (x : Float)
  | text (s : String)
deriving DecidableEq

/-- The value that a literal stands for. -/
def Literal.value : Literal → Value
  | null => .null
  | bool b => .bool b
  | number x => .number x
  | text s => .text s

/-- The operators with one operand, all of them in front of it. -/
inductive UnaryOperator where
  | not
  | negate
  | plus
  | typeof
deriving DecidableEq

/-- The operators with two operands. -/
inductive BinaryOperator where
  | multiply
  | divide
  | remainder
  | add
  | subtract
  | less
  | lessOrEqual
  | greater
  | greaterOrEqual
  | equal
  | notEqual
  | strictEqual
  | strictNotEqual
  | and
  | or
deriving DecidableEq

/-- An expression. -/
inductive Expression where
  | literal (l : Literal)
  /-- A name, to be looked up where the expression is evaluated. -/
  | name (s : String)
  /-- The owner of the template. -/
  | this
  | list (items : List Expression)
  | object (fields : List (String × Expression))
  | member (object : Expression) (property : String)
  | index (object index : Expression)
  | call (callee : Expression) (arguments : List Expression)
  | unary (operator : UnaryOperator) (operand : Expression)
  | binary (operator : BinaryOperator) (left right : Expression)
  | conditional (condition whenTrue whenFalse : Expression)

/-- The kinds of declarations. -/
inductive DeclarationKind where
  | letKind
  | constKind
  /-- A name for the whole program. -/
  | varKind
deriving DecidableEq

/-- The kinds of assignments. -/
inductive AssignmentOperator where
  | set
  | add
deriving DecidableEq

/-- What a loop over the parts of a value runs through. -/
inductive LoopKind where
  /-- The items of a list or the characters of a text. -/
  | items
  /-- The names of a map or the indices of a list or text. -/
  | keys
deriving DecidableEq

/-- A statement. -/
inductive Statement where
  | declaration (kind : DeclarationKind) (name : String) (value : Option Expression)
  | assignment (name : String) (operator : AssignmentOperator) (value : Expression)
  | branch (condition : Expression) (thenBody elseBody : List Statement)
  /-- A loop over the parts of a value, each bound to a name in turn. -/
  | forEach (binding : String) (kind : LoopKind) (iterable : Expression) (body : List Statement)
  /-- A loop that starts with a statement and goes on as long as a condition holds, with a
  step behind each run of its body. -/
  | loop (start : Option Statement) (condition : Option Expression) (step : Option Statement)
      (body : List Statement)
  | expression (e : Expression)

/-- A program. -/
abbrev Program := List Statement

end ViewKit
