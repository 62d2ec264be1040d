/-
# Writing programs as tokens

Every program has one spelling in which nothing depends on how strongly operators bind: a
compound operand stands in parentheses, a body in braces, and a statement ends with a
semicolon.  A step of one up or down is written as such.  The grammar reads this spelling as
the program it was made from (`read_tokens`), provided that what a loop starts with and its
step have no bodies.
-/
import ViewKit.Proofs.Grammar.Statement

namespace ViewKit

open Grammar

/-! ## Expressions -/

namespace Expression

/-- Whether an expression is written as a single token. -/
def isSingle : Expression → Bool
  | literal _ | name _ | this => true
  | _ => false

/-- The tokens of an expression that is an operand: in parentheses if it is compound. -/
def enclosed (e : Expression) (ts : List Token) : List Token :=
  if e.isSingle then ts else .symbol .roundOpen :: (ts ++ [.symbol .roundClose])

mutual

/-- The tokens of an expression. -/
def spelling : Expression → List Token
  | literal l => [l.token]
  | name s => [.name s]
  | this => [.keyword .thisWord]
  | list items => .symbol .squareOpen :: (separated (spellings items) ++ [.symbol .squareClose])
  | object fields =>
    .symbol .curlyOpen :: (separated (fieldSpellings fields) ++ [.symbol .curlyClose])
  | member e property => e.enclosed e.spelling ++ [.symbol .dot, .name property]
  | index e i =>
    e.enclosed e.spelling ++ .symbol .squareOpen :: (i.spelling ++ [.symbol .squareClose])
  | call e arguments =>
    e.enclosed e.spelling ++
      .symbol .roundOpen :: (separated (spellings arguments) ++ [.symbol .roundClose])
  | unary op e => op.token :: e.enclosed e.spelling
  | binary op l r => l.enclosed l.spelling ++ .symbol op.symbol :: r.enclosed r.spelling
  | conditional c a b =>
    c.enclosed c.spelling ++ .symbol .question ::
      (a.enclosed a.spelling ++ .symbol .colon :: b.enclosed b.spelling)

/-- The tokens of each of some expressions. -/
def spellings : List Expression → List (List Token)
  | [] => []
  | e :: es => e.spelling :: spellings es

/-- The tokens of each of some fields of an object. -/
def fieldSpellings : List (String × Expression) → List (List Token)
  | [] => []
  | (k, e) :: fields => (.text k :: .symbol .colon :: e.spelling) :: fieldSpellings fields

end

lemma spells_of_isSingle {e : Expression} (h : e.isSingle = true) (level : Nat) :
    Spells level e.spelling e := by
  cases e with
  | literal l => exact .literal l
  | name s => exact .name s
  | this => exact .this
  | _ => cases h

lemma spells_enclosed {e : Expression} (h : Spells 1 e.spelling e) (level : Nat) :
    Spells level (e.enclosed e.spelling) e := by
  rw [enclosed]
  split
  · next hsingle => exact spells_of_isSingle hsingle level
  · exact h.parentheses

mutual

/-- The spelling of an expression is read as the expression. -/
lemma spells : (e : Expression) → Spells 1 e.spelling e
  | literal l => .literal l
  | name s => .name s
  | this => .this
  | list items => .list (spells_all items)
  | object fields => .object (spells_fields fields)
  | member e property => (spells_enclosed e.spells _).member (by decide) property
  | index e i => (spells_enclosed e.spells _).index i.spells (by decide)
  | call e arguments => (spells_enclosed e.spells _).call (spells_all arguments) (by decide)
  | unary op e => (spells_enclosed e.spells _).unary (by decide) op
  | binary op l r =>
    (spells_enclosed l.spells _).binary (spells_enclosed r.spells _)
      (Nat.le_of_succ_le op.level_bounds.1)
  | conditional c a b =>
    (spells_enclosed c.spells _).conditional (spells_enclosed a.spells _)
      (spells_enclosed b.spells _) (by decide)

lemma spells_all : (es : List Expression) → List.Forall₂ (Spells 1) (spellings es) es
  | [] => .nil
  | e :: es => .cons e.spells (spells_all es)

lemma spells_fields : (fields : List (String × Expression)) →
    List.Forall₂ SpellsField (fieldSpellings fields) fields
  | [] => .nil
  | (_, e) :: fields => .cons ⟨e.spelling, rfl, e.spells⟩ (spells_fields fields)

end

/-! ### How expressions start -/

lemma startsPlain_of_head {t : Token} {ts : List Token}
    (hkeyword : ∀ k ∈ [Keyword.ifWord, .forWord, .letWord, .constWord, .varWord], t ≠ .keyword k)
    (hname : ∀ s, t ≠ .name s) : StartsPlain (t :: ts) where
  keyword k hk hhead := hkeyword k hk (Option.some.inj hhead)
  behindName s hhead := absurd (Option.some.inj hhead) (hname s)

/-- Symbols that may stand behind a name in an expression. -/
lemma startsPlain_of_isSingle {e : Expression} (h : e.isSingle = true) {ts : List Token}
    (hts : ∀ t ∈ ts.head?,
      ∃ s, t = .symbol s ∧ s ∉ [Symbol.assign, .addAssign, .increment, .decrement]) :
    StartsPlain (e.spelling ++ ts) := by
  cases e with
  | literal l =>
    refine startsPlain_of_head (fun k hk => ?_) (fun s => ?_)
    · revert k
      cases l with
      | bool b => cases b <;> decide
      | _ => first | decide | simp [Literal.token]
    · cases l with
      | bool b => cases b <;> simp [Literal.token]
      | _ => simp [Literal.token]
  | name s =>
    refine ⟨fun k _ hhead => ?_, fun s' _ => hts⟩
    cases hhead
  | this => exact startsPlain_of_head (by decide) fun s hname => by cases hname
  | _ => cases h

lemma startsPlain_enclosed (e : Expression) {s : Symbol}
    (hs : s ∉ [Symbol.assign, .addAssign, .increment, .decrement]) (rest : List Token) :
    StartsPlain (e.enclosed e.spelling ++ .symbol s :: rest) := by
  rw [enclosed]
  split
  · next hsingle =>
    exact startsPlain_of_isSingle hsingle fun t ht => ⟨s, (Option.some.inj ht).symm, hs⟩
  · exact startsPlain_of_head nofun nofun

lemma startsPlain_spelling (e : Expression) {rest : List Token} (hrest : Ended rest) :
    StartsPlain (e.spelling ++ rest) := by
  have hend : ∀ t ∈ rest.head?,
      ∃ s, t = .symbol s ∧ s ∉ [Symbol.assign, .addAssign, .increment, .decrement] := by
    intro t ht
    obtain ⟨s, hs, rfl⟩ := hrest t ht
    have hend : ∀ s ∈ endSymbols,
        s ∉ [Symbol.assign, .addAssign, .increment, .decrement] := by decide
    exact ⟨s, rfl, hend s hs⟩
  cases e with
  | literal | name | this => exact startsPlain_of_isSingle rfl hend
  | list | object => exact startsPlain_of_head nofun nofun
  | unary op e => cases op <;> exact startsPlain_of_head (by decide) nofun
  | member | index | call | conditional =>
    simp only [spelling, List.append_assoc]
    exact startsPlain_enclosed _ (by decide) _
  | binary op l r =>
    simp only [spelling, List.append_assoc]
    exact startsPlain_enclosed l (by cases op <;> decide) _

end Expression

/-! ## Statements -/

namespace Statement

/-- The symbol of a step of one up or down, if an assignment is one. -/
def stepSymbol? : AssignmentOperator → Expression → Option Symbol
  | .add, .literal (.number x) => (steps.find? (·.2 = x)).map (·.1)
  | _, _ => none

mutual

/-- The tokens of a statement, without the semicolon behind it. -/
def spelling : Statement → List Token
  | declaration kind name none => [kind.token, .name name]
  | declaration kind name (some e) => kind.token :: .name name :: .symbol .assign :: e.spelling
  | assignment name op e =>
    match stepSymbol? op e with
    | some s => [.name name, .symbol s]
    | none => .name name :: .symbol op.symbol :: e.spelling
  | branch c thenBody elseBody =>
    .keyword .ifWord :: .symbol .roundOpen :: (c.spelling ++ .symbol .roundClose ::
      (braced (spellings thenBody) ++ elseBranch (spellings elseBody)))
  | forEach binding kind iterable body =>
    .keyword .forWord :: .symbol .roundOpen :: .name binding :: kind.token ::
      (iterable.spelling ++ .symbol .roundClose :: braced (spellings body))
  | loop start condition step body =>
    .keyword .forWord :: .symbol .roundOpen ::
      (optionSpelling start ++ .symbol .semicolon ::
        ((condition.map Expression.spelling).getD [] ++ .symbol .semicolon ::
          (optionSpelling step ++ .symbol .roundClose :: braced (spellings body))))
  | expression e => e.spelling

/-- The tokens of each of some statements. -/
def spellings : List Statement → List (List Token)
  | [] => []
  | s :: ss => s.spelling :: spellings ss

/-- The tokens of a statement if there is one. -/
def optionSpelling : Option Statement → List Token
  | none => []
  | some s => s.spelling

end

/-- Whether a statement has no body. -/
def isSimple : Statement → Bool
  | declaration .. | assignment .. | expression _ => true
  | _ => false

/-- What a loop starts with and its step have no bodies, wherever in a statement the loop
stands. -/
inductive Formed : Statement → Prop where
  | declaration {kind : DeclarationKind} {name : String} {value : Option Expression} :
      Formed (.declaration kind name value)
  | assignment {name : String} {op : AssignmentOperator} {value : Expression} :
      Formed (.assignment name op value)
  | branch {c : Expression} {thenBody elseBody : List Statement} :
      (∀ s ∈ thenBody, Formed s) → (∀ s ∈ elseBody, Formed s) → Formed (.branch c thenBody elseBody)
  | forEach {binding : String} {kind : LoopKind} {iterable : Expression} {body : List Statement} :
      (∀ s ∈ body, Formed s) → Formed (.forEach binding kind iterable body)
  | loop {start step : Option Statement} {condition : Option Expression} {body : List Statement} :
      (∀ s ∈ start, s.isSimple = true) → (∀ s ∈ step, s.isSimple = true) →
      (∀ s ∈ body, Formed s) → Formed (.loop start condition step body)
  | expression {e : Expression} : Formed (.expression e)

lemma mem_steps_of_stepSymbol? {op : AssignmentOperator} {e : Expression} {s : Symbol}
    (h : stepSymbol? op e = some s) :
    ∃ distance, op = .add ∧ e = .literal (.number distance) ∧ (s, distance) ∈ steps := by
  unfold stepSymbol? at h
  split at h
  · next x =>
    obtain ⟨⟨s', distance⟩, hfind, rfl⟩ := Option.map_eq_some_iff.1 h
    have hdistance := List.find?_some hfind
    rw [decide_eq_true_eq] at hdistance
    exact ⟨x, rfl, rfl, hdistance ▸ List.mem_of_find?_eq_some hfind⟩
  · cases h

lemma spells_of_isSimple {s : Statement} (h : s.isSimple = true) : SpellsSimple s.spelling s := by
  cases s with
  | declaration kind name value =>
    cases value with
    | none => exact .bareDeclaration kind name
    | some e => exact .declaration e.spells
  | assignment name op e =>
    rw [spelling]
    split
    · next s hs =>
      obtain ⟨distance, rfl, rfl, hstep⟩ := mem_steps_of_stepSymbol? hs
      exact .step hstep
    · exact .assignment e.spells op
  | expression e => exact .expression e.spells fun rest hrest => e.startsPlain_spelling hrest
  | _ => cases h

lemma spells_option {o : Option Statement} (h : ∀ s ∈ o, s.isSimple = true) :
    SpellsOption SpellsSimple (optionSpelling o) o := by
  cases o with
  | none => exact .none
  | some s => exact .some (spells_of_isSimple (h s rfl))

mutual

/-- The spelling of a statement is read as the statement. -/
lemma spells : (s : Statement) → s.Formed → SpellsStatement s.spelling s
  | declaration .., _ | assignment .., _ | expression _, _ => (spells_of_isSimple rfl).statement
  | branch c thenBody elseBody, h => by
    cases h with
    | branch hthen helse =>
      exact .branch c.spells (spells_all thenBody hthen) (spells_all elseBody helse)
  | forEach binding kind iterable body, h => by
    cases h with
    | forEach hbody => exact .forEach iterable.spells (spells_all body hbody)
  | loop start condition step body, h => by
    cases h with
    | loop hstart hstep hbody =>
      refine .loop (spells_option hstart) ?_ (spells_option hstep) (spells_all body hbody)
      cases condition with
      | none => exact .none
      | some e => exact .some e.spells

lemma spells_all : (ss : List Statement) → (∀ s ∈ ss, s.Formed) →
    List.Forall₂ SpellsStatement (spellings ss) ss
  | [], _ => .nil
  | s :: ss, h =>
    .cons (spells s (h s List.mem_cons_self))
      (spells_all ss fun s' hs' => h s' (List.mem_cons_of_mem s hs'))

end

end Statement

namespace Program

/-- The tokens of a program. -/
def tokens (p : Program) : List Token := terminated (Statement.spellings p)

/-- The spelling of a program is read as the program. -/
lemma read_tokens {p : Program} (h : ∀ s ∈ p, s.Formed) : read p.tokens = .ok p :=
  read_of_spells (Statement.spells_all p h)

end Program
end ViewKit
