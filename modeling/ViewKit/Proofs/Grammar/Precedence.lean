/-
# Parentheses where they are needed

How strongly an expression is held together is told by its outermost operator: suffixes bind
more tightly than operators in front of their operand, those more tightly than operators between
two operands, which have their own levels, and conditions bind least (`Expression.level`).  An
expression is written with parentheses only around an operand that is held together less
strongly than its place asks for (`terse`).  Operators between two operands ask for one level
more on their right side, so that they associate to the left; a condition asks for one level
more in front of its question mark, so that it associates to the right, and for none at all
between question mark and colon.  The tokens written so are read as the same expression
(`read_terse`).
-/
import ViewKit.Proofs.Grammar.Expression

namespace ViewKit

open Grammar

/-- What spells an operand of a level spells one of any lower level. -/
lemma Grammar.Spells.mono {level level' : Nat} {ts : List Token} {e : Expression}
    (h : Spells level ts e) (hle : level' ≤ level) : Spells level' ts e := by
  intro power rest result behind hpower hstops hbehind room hroom
  refine h (by omega) ?_ hbehind room hroom
  intro hlevel
  exact (hstops (by omega)).mono (by omega)

namespace Expression

/-! ## Levels -/

/-- How strongly an expression is held together. -/
def level : Expression → Nat
  | literal _ | name _ | this | list _ | object _ => suffixLevel
  | member .. | index .. | call .. => suffixLevel
  | unary .. => unaryLevel
  | binary op _ _ => op.level
  | conditional .. => conditionalLevel

lemma one_le_level (e : Expression) : 1 ≤ e.level := by
  cases e with
  | binary op l r => exact Nat.le_of_succ_le op.level_bounds.1
  | unary op e => exact (by decide : 1 ≤ unaryLevel)
  | conditional c a b => exact Nat.le_refl conditionalLevel
  | _ => exact (by decide : 1 ≤ suffixLevel)

/-- The tokens of an operand whose place asks for a level: in parentheses if it is held together
less strongly. -/
def operand (e : Expression) (least : Nat) (ts : List Token) : List Token :=
  if least ≤ e.level then ts else .symbol .roundOpen :: (ts ++ [.symbol .roundClose])

/-! ## Writing -/

mutual

/-- The tokens of an expression, with parentheses only where they are needed. -/
def terse : Expression → List Token
  | literal l => [l.token]
  | name s => [.name s]
  | this => [.keyword .thisWord]
  | list items => .symbol .squareOpen :: (separated (terseAll items) ++ [.symbol .squareClose])
  | object fields =>
    .symbol .curlyOpen :: (separated (terseFields fields) ++ [.symbol .curlyClose])
  | member e property => e.operand suffixLevel e.terse ++ [.symbol .dot, .name property]
  | index e i =>
    e.operand suffixLevel e.terse ++ .symbol .squareOpen :: (i.terse ++ [.symbol .squareClose])
  | call e arguments =>
    e.operand suffixLevel e.terse ++
      .symbol .roundOpen :: (separated (terseAll arguments) ++ [.symbol .roundClose])
  | unary op e => op.token :: e.operand unaryLevel e.terse
  | binary op l r =>
    l.operand op.level l.terse ++ .symbol op.symbol :: r.operand (op.level + 1) r.terse
  | conditional c a b =>
    c.operand (conditionalLevel + 1) c.terse ++ .symbol .question ::
      (a.terse ++ .symbol .colon :: b.operand conditionalLevel b.terse)

/-- The tokens of each of some expressions. -/
def terseAll : List Expression → List (List Token)
  | [] => []
  | e :: es => e.terse :: terseAll es

/-- The tokens of each of some fields of an object. -/
def terseFields : List (String × Expression) → List (List Token)
  | [] => []
  | (k, e) :: fields => (.text k :: .symbol .colon :: e.terse) :: terseFields fields

end

/-! ## Reading back -/

/-- An operand spells an expression of the level its place asks for, if the expression without
parentheses spells one of its own level. -/
lemma spells_operand {e : Expression} (h : Spells e.level e.terse e) (least : Nat) :
    Spells least (e.operand least e.terse) e := by
  rw [operand]
  split
  · next hle => exact h.mono hle
  · exact (h.mono e.one_le_level).parentheses

mutual

/-- The tokens of an expression spell one of its level. -/
lemma spells_terse : (e : Expression) → Spells e.level e.terse e
  | literal l => .literal l
  | name s => .name s
  | this => .this
  | list items => .list (spells_terseAll items)
  | object fields => .object (spells_terseFields fields)
  | member e property => (spells_operand e.spells_terse _).member (Nat.le_refl _) property
  | index e i =>
    (spells_operand e.spells_terse _).index (i.spells_terse.mono i.one_le_level) (Nat.le_refl _)
  | call e arguments =>
    (spells_operand e.spells_terse _).call (spells_terseAll arguments) (Nat.le_refl _)
  | unary op e => (spells_operand e.spells_terse _).unary (Nat.le_refl _) op
  | binary _ l r =>
    (spells_operand l.spells_terse _).binary (spells_operand r.spells_terse _) (Nat.le_refl _)
  | conditional c a b =>
    (spells_operand c.spells_terse _).conditional (a.spells_terse.mono a.one_le_level)
      (spells_operand b.spells_terse _) (Nat.le_refl _)

lemma spells_terseAll : (es : List Expression) → List.Forall₂ (Spells 1) (terseAll es) es
  | [] => .nil
  | e :: es => .cons (e.spells_terse.mono e.one_le_level) (spells_terseAll es)

lemma spells_terseFields : (fields : List (String × Expression)) →
    List.Forall₂ SpellsField (terseFields fields) fields
  | [] => .nil
  | (_, e) :: fields =>
    .cons ⟨e.terse, rfl, e.spells_terse.mono e.one_le_level⟩ (spells_terseFields fields)

end

/-- Reads an expression that takes up all of some tokens. -/
def read (tokens : List Token) : Option Expression :=
  match Grammar.expression (tokens.length + 1) ⟨0, tokens⟩ 0 with
  | .success e ⟨_, []⟩ _ => some e
  | _ => none

/-- Whatever the operators of an expression and however deep it is, its tokens with parentheses
only where they are needed are read as it, and none of them is left. -/
theorem read_terse (e : Expression) : read e.terse = some e := by
  have hroom : e.terse.length + ([] : List Token).length < e.terse.length + 1 := Nat.lt_succ_self _
  have hspells : Spells 1 e.terse e := e.spells_terse.mono e.one_le_level
  have hgives := hspells.gives (Nat.zero_le _) (Ended.nil.stops 0) hroom
  rw [List.append_nil] at hgives
  obtain ⟨index, reach, hsuccess⟩ := hgives 0 0
  rw [read, expression, hsuccess]

end Expression
end ViewKit
