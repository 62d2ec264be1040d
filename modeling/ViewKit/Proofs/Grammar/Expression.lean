/-
# How expressions are spelled

Tokens spell an expression of a level if they are read as that expression wherever an operand
of the level may stand (`Spells`): reading goes on behind them with the whole expression as
the operand.  For each kind of expression there is one rule that says how to spell it from
spellings of its parts.  Parentheses make any expression one of any level.
-/
import Mathlib.Data.List.Forall2
import ViewKit.Proofs.Grammar.Reading

namespace ViewKit

/-! ## Tokens of operators and literals -/

/-- The token of a literal. -/
def Literal.token : Literal → Token
  | .null => .keyword .nullWord
  | .bool true => .keyword .trueWord
  | .bool false => .keyword .falseWord
  | .number x => .number x
  | .text s => .text s

/-- The token of an operator with one operand. -/
def UnaryOperator.token : UnaryOperator → Token
  | not => .symbol .not
  | negate => .symbol .minus
  | plus => .symbol .plus
  | typeof => .keyword .typeofWord

namespace BinaryOperator

/-- The symbol of an operator with two operands. -/
def symbol : BinaryOperator → Symbol
  | multiply => .asterisk
  | divide => .slash
  | remainder => .percent
  | add => .plus
  | subtract => .minus
  | less => .less
  | lessOrEqual => .lessOrEqual
  | greater => .greater
  | greaterOrEqual => .greaterOrEqual
  | equal => .equal
  | notEqual => .notEqual
  | strictEqual => .strictEqual
  | strictNotEqual => .strictNotEqual
  | and => .and
  | or => .or

/-- The binding level of an operator with two operands. -/
def level : BinaryOperator → Nat
  | multiply | divide | remainder => 7
  | add | subtract => 6
  | less | lessOrEqual | greater | greaterOrEqual => 5
  | equal | notEqual | strictEqual | strictNotEqual => 4
  | and => 3
  | or => 2

lemma level_bounds (op : BinaryOperator) : 2 ≤ op.level ∧ op.level ≤ 7 := by
  cases op <;> decide

lemma symbol_injective {op op' : BinaryOperator} (h : op.symbol = op'.symbol) : op = op' := by
  cases op <;> cases op' <;> first | rfl | cases h

lemma symbol_ne_suffix (op : BinaryOperator) :
    op.symbol ∉ [Symbol.dot, .squareOpen, .roundOpen] := by
  cases op <;> decide

lemma symbol_ne_question (op : BinaryOperator) : op.symbol ≠ .question := by
  cases op <;> decide

end BinaryOperator

namespace Grammar

/-! ## Where an operand ends -/

/-- A token goes on with the operand in front of it, where operators bind at least as strongly
as a power: it starts a suffix, or it is an operator. -/
inductive Continues (power : Nat) : Token → Prop where
  | suffix {s : Symbol} : s ∈ [Symbol.dot, .squareOpen, .roundOpen] → Continues power (.symbol s)
  | binary {op : BinaryOperator} : power ≤ 2 * op.level → Continues power (.symbol op.symbol)
  | conditional : power ≤ 2 * conditionalLevel + 1 → Continues power (.symbol .question)

/-- The operand in front of some tokens ends there. -/
def Stops (power : Nat) (rest : List Token) : Prop := ∀ t ∈ rest.head?, ¬ Continues power t

lemma Stops.mono {power power' : Nat} {rest : List Token} (h : Stops power rest)
    (hle : power ≤ power') : Stops power' rest := by
  intro t ht hcontinues
  refine h t ht ?_
  cases hcontinues with
  | suffix hs => exact .suffix hs
  | binary hop => exact .binary (Nat.le_trans hle hop)
  | conditional hpower => exact .conditional (Nat.le_trans hle hpower)

/-- Where a condition may not be continued nothing may. -/
lemma Stops.of_le_conditional {power : Nat} {rest : List Token} (h : Stops power rest)
    (hle : power ≤ 2 * conditionalLevel + 1) (power' : Nat) : Stops power' rest := by
  intro t ht hcontinues
  refine h t ht ?_
  cases hcontinues with
  | suffix hs => exact .suffix hs
  | @binary op hop =>
    have hlevel := op.level_bounds
    have hconditional : conditionalLevel = 1 := rfl
    exact .binary (by omega)
  | conditional => exact .conditional hle

/-- Behind an operator in front of its operand only suffixes can follow. -/
lemma Stops.of_unary {power power' : Nat} {rest : List Token} (h : Stops power rest)
    (hle : 2 * unaryLevel ≤ power') : Stops power' rest := by
  have hunary : unaryLevel = 9 := rfl
  intro t ht hcontinues
  refine h t ht ?_
  cases hcontinues with
  | suffix hs => exact .suffix hs
  | @binary op hop =>
    have hlevel := op.level_bounds
    omega
  | conditional hpower =>
    have hconditional : conditionalLevel = 1 := rfl
    omega

/-! ## Going on behind an operand -/

lemma Refuses.suffix {operand : Expression} {g : Grammar Expression} {room : Nat}
    {ts : List Token}
    (h : ∀ s ∈ [Symbol.dot, .squareOpen, .roundOpen], ts.head? ≠ some (.symbol s)) :
    Refuses (Grammar.suffix operand g room) ts := by
  refine .oneOf fun g hg => ?_
  simp only [List.mem_cons, List.not_mem_nil, or_false] at hg
  rcases hg with rfl | rfl | rfl
  · exact (Refuses.symbol (h _ (by simp))).bind
  · exact (Refuses.between (h _ (by simp))).bind
  · exact (Refuses.between (h _ (by simp))).bind

lemma level_of_meaning {level : Nat} {meanings : List (Symbol × BinaryOperator)}
    (hlevel : (level, meanings) ∈ binaryLevels) {s : Symbol} {op : BinaryOperator}
    (hop : (s, op) ∈ meanings) : s = op.symbol ∧ level = op.level := by
  have hall : ∀ l ∈ binaryLevels, ∀ m ∈ l.2, m.1 = m.2.symbol ∧ l.1 = m.2.level := by decide
  exact hall _ hlevel _ hop

/-- The alternatives of an operator between two operands. -/
def binaryAlternative (room power : Nat) (operand : Expression)
    (l : Nat × List (Symbol × BinaryOperator)) : Grammar Expression :=
  if power ≤ 2 * l.1 then do
    let operator ← symbolOf l.2
    let right ← climb room (2 * l.1 + 1)
    return Expression.binary operator operand right
  else fail

lemma Refuses.binary {room power : Nat} {operand : Expression} {ts : List Token}
    (h : ∀ op : BinaryOperator, power ≤ 2 * op.level → ts.head? ≠ some (.symbol op.symbol)) :
    Refuses (Grammar.oneOf (binaryLevels.map (binaryAlternative room power operand))) ts := by
  refine .oneOf fun g hg => ?_
  obtain ⟨⟨level, meanings⟩, hlevel, rfl⟩ := List.mem_map.1 hg
  rw [binaryAlternative]
  split
  · next hpower =>
    refine Refuses.bind (.token fun t ht => ?_)
    cases t with
    | symbol s =>
      refine Option.map_eq_none_iff.2 (List.find?_eq_none.2 fun m hm hms => ?_)
      obtain ⟨hsymbol, hop⟩ := level_of_meaning hlevel hm
      rw [decide_eq_true_eq, hsymbol] at hms
      exact h m.2 (hop ▸ hpower) (hms ▸ ht)
    | _ => rfl
  · exact .fail ts

lemma Gives.binary {room power : Nat} {operand right : Expression} {op : BinaryOperator}
    {ts rest : List Token} (hpower : power ≤ 2 * op.level)
    (hright : Gives (climb room (2 * op.level + 1)) ts right rest) :
    Gives (Grammar.oneOf (binaryLevels.map (binaryAlternative room power operand)))
      (.symbol op.symbol :: ts) (.binary op operand right) rest := by
  have hlevels : ∀ l ∈ binaryLevels, l.2.find? (·.1 = op.symbol) = none ∨
      l.1 = op.level ∧ l.2.find? (·.1 = op.symbol) = some (op.symbol, op) := by
    cases op <;> decide
  have hfound : ∃ l ∈ binaryLevels, l.2.find? (·.1 = op.symbol) ≠ none := by
    cases op <;> decide
  -- the levels are tried in turn; only that of the operator knows its symbol
  generalize binaryLevels = levels at hlevels hfound
  induction levels with
  | nil => obtain ⟨l, hl, -⟩ := hfound; cases hl
  | cons l levels ih =>
    rcases hlevels l List.mem_cons_self with hnone | ⟨hlevel, hsome⟩
    · refine .later ?_ (ih (fun x hx => hlevels x (List.mem_cons_of_mem l hx)) ?_)
      · rw [binaryAlternative]
        split
        · refine Refuses.bind (.token fun t ht => ?_)
          cases ht
          exact Option.map_eq_none_iff.2 hnone
        · exact .fail _
      · obtain ⟨x, hx, hxsome⟩ := hfound
        rcases List.mem_cons.1 hx with rfl | hx
        · exact absurd hnone hxsome
        · exact ⟨x, hx, hxsome⟩
    · refine .first ?_ _
      rw [binaryAlternative, if_pos (hlevel ▸ hpower)]
      refine Gives.bind (.token (a := op) ?_) (Gives.bind (hlevel ▸ hright) (.pure _ _))
      exact congrArg (Option.map _) hsome

/-- Nothing more belongs to an operand that ends. -/
lemma Gives.climbFrom_of_stops {power : Nat} {rest : List Token} (h : Stops power rest)
    (room : Nat) (e : Expression) : Gives (climbFrom room power e) rest e rest := by
  cases room with
  | zero => exact .pure e rest
  | succ room =>
    refine .or_right (Refuses.bind (.suffix fun s hs hhead => h _ hhead (.suffix hs))) ?_
    refine .or_right (Refuses.bind (.binary fun op hop hhead => h _ hhead (.binary hop))) ?_
    refine .or_right ?_ (.pure e rest)
    split
    · next hpower =>
      exact Refuses.bind (.symbol fun hhead => h _ hhead (.conditional hpower))
    · exact .fail rest

lemma Gives.climbFrom_suffix {room power : Nat} {e e' result : Expression}
    {ts mid rest : List Token} (hsuffix : Gives (Grammar.suffix e (climb room 0) room) ts e' mid)
    (h : Gives (climbFrom room power e') mid result rest) :
    Gives (climbFrom (room + 1) power e) ts result rest :=
  (hsuffix.bind h).or_left _

/-! ## Spellings -/

/-- Wherever an operand of a level may stand, the tokens are read as the expression: what comes
of them and of what follows is what comes of going on behind that operand. -/
def Spells (level : Nat) (ts : List Token) (e : Expression) : Prop :=
  ∀ ⦃power : Nat⦄ ⦃rest : List Token⦄ ⦃result : Expression⦄ ⦃behind : List Token⦄,
    power ≤ 2 * level → (level ≤ unaryLevel → Stops (2 * level + 1) rest) →
    (∀ room, rest.length < room → Gives (climbFrom room power e) rest result behind) →
    ∀ room, ts.length + rest.length < room → Gives (climb room power) (ts ++ rest) result behind

/-- The level of an operand with a suffix. -/
def suffixLevel : Nat := 10

lemma Spells.gives {level power : Nat} {ts rest : List Token} {e : Expression}
    (h : Spells level ts e) (hpower : power ≤ 2 * level) (hrest : Stops power rest) {room : Nat}
    (hroom : ts.length + rest.length < room) : Gives (climb room power) (ts ++ rest) e rest :=
  h hpower (fun _ => hrest.mono (Nat.le_succ_of_le hpower))
    (fun room _ => .climbFrom_of_stops hrest room e) room hroom

/-! ### Operands without operators -/

lemma Refuses.unaryOperator {ts : List Token}
    (h : ∀ op : UnaryOperator, ts.head? ≠ some op.token) : Refuses unaryOperator ts := by
  refine .token fun t ht => ?_
  split
  · exact absurd ht (h .not)
  · exact absurd ht (h .negate)
  · exact absurd ht (h .plus)
  · exact absurd ht (h .typeof)
  · rfl

/-- What is read as the first operand of an expression spells one of any level. -/
lemma Spells.of_atom {level : Nat} {t : Token} {ts : List Token} {e : Expression}
    (hunary : ∀ op : UnaryOperator, t ≠ op.token)
    (h : ∀ room rest, (t :: ts).length + rest.length ≤ room →
      Gives (atom (climb room 0) room) (t :: ts ++ rest) e rest) :
    Spells level (t :: ts) e := by
  intro power rest result behind _ _ hbehind room hroom
  obtain ⟨room, rfl⟩ : ∃ room', room = room' + 1 := ⟨room - 1, by omega⟩
  have hsize : (t :: ts).length = ts.length + 1 := rfl
  rw [climb]
  refine Gives.bind (.or_right (Refuses.bind (.unaryOperator ?_)) (h room rest (by omega)))
    (hbehind room (by omega))
  exact fun op hop => hunary op (Option.some.inj hop)

lemma Spells.literal {level : Nat} (l : Literal) : Spells level [l.token] (.literal l) := by
  refine .of_atom (fun op => ?_) fun room rest _ => .first (Gives.map _ (.token ?_)) _
  · cases l with
    | bool b => cases b <;> cases op <;> simp [Literal.token, UnaryOperator.token]
    | _ => cases op <;> simp [Literal.token, UnaryOperator.token]
  · cases l with
    | bool b => cases b <;> rfl
    | _ => rfl

lemma Spells.name {level : Nat} (s : String) : Spells level [.name s] (.name s) := by
  refine .of_atom (fun op => by cases op <;> simp [UnaryOperator.token]) fun room rest _ => ?_
  refine .later (Refuses.map _ (.token fun t ht => by cases ht; rfl)) ?_
  refine .later (Refuses.map _ (.keyword (by simp))) ?_
  exact .first (Gives.map _ (.name s rest)) _

lemma Spells.this {level : Nat} : Spells level [.keyword .thisWord] .this := by
  refine .of_atom (fun op => by cases op <;> simp [UnaryOperator.token]) fun room rest _ => ?_
  refine .later (Refuses.map _ (.token fun t ht => by cases ht; rfl)) ?_
  exact .first (Gives.map _ (.keyword .thisWord rest)) _

/-! ### Ends -/

/-- The symbols behind an expression that is a part of something longer. -/
def endSymbols : List Symbol :=
  [.comma, .colon, .semicolon, .roundClose, .squareClose, .curlyClose]

/-- No expression goes on with the next token, and none starts with it. -/
def Ended (rest : List Token) : Prop := ∀ t ∈ rest.head?, ∃ s ∈ endSymbols, t = .symbol s

lemma Ended.nil : Ended [] := nofun

lemma Ended.symbol {s : Symbol} (h : s ∈ endSymbols) (rest : List Token) :
    Ended (.symbol s :: rest) := by
  intro t ht
  cases ht
  exact ⟨s, h, rfl⟩

lemma Ended.head?_ne {rest : List Token} (h : Ended rest) {t : Token}
    (ht : ∀ s ∈ endSymbols, t ≠ .symbol s) : rest.head? ≠ some t := by
  intro hhead
  obtain ⟨s, hs, rfl⟩ := h t hhead
  exact ht s hs rfl

lemma Ended.stops {rest : List Token} (h : Ended rest) (power : Nat) : Stops power rest := by
  intro t ht hcontinues
  obtain ⟨s, hs, rfl⟩ := h t ht
  generalize hsymbol : Token.symbol s = t at hcontinues
  cases hcontinues with
  | suffix hsuffix =>
    cases hsymbol
    simp only [List.mem_cons, List.not_mem_nil, or_false] at hsuffix
    rcases hsuffix with rfl | rfl | rfl <;> revert hs <;> decide
  | @binary op => cases hsymbol; cases op <;> revert hs <;> decide
  | conditional => cases hsymbol; revert hs; decide

lemma Refuses.atom {g : Grammar Expression} {room : Nat} {rest : List Token} (h : Ended rest) :
    Refuses (Grammar.atom g room) rest := by
  refine .oneOf fun g hg => ?_
  simp only [List.mem_cons, List.not_mem_nil, or_false] at hg
  rcases hg with rfl | rfl | rfl | rfl | rfl | rfl
  · refine Refuses.map _ (.token fun t ht => ?_)
    obtain ⟨s, -, rfl⟩ := h t ht
    rfl
  · exact Refuses.map _ (.keyword (h.head?_ne nofun))
  · exact Refuses.map _ (.name fun s => h.head?_ne nofun)
  · exact Refuses.map _ (.between (h.head?_ne (by decide)))
  · exact Refuses.map _ (.between (h.head?_ne (by decide)))
  · exact Refuses.between (h.head?_ne (by decide))

lemma Refuses.climb {rest : List Token} (h : Ended rest) (room power : Nat) :
    Refuses (Grammar.climb room power) rest := by
  cases room with
  | zero => exact .fail _
  | succ room =>
    rw [Grammar.climb]
    refine Refuses.bind (.or (Refuses.bind (.unaryOperator fun op => ?_)) (.atom h))
    exact h.head?_ne (by cases op <;> decide)

/-- Tokens are read as `a` wherever an end follows, if they fit into the room that is left. -/
def Reads {α : Type} (g : Grammar α) (room : Nat) (ts : List Token) (a : α) : Prop :=
  ∀ rest, Ended rest → ts.length + rest.length < room → Gives g (ts ++ rest) a rest

lemma Spells.reads {level power : Nat} {ts : List Token} {e : Expression} (h : Spells level ts e)
    (hpower : power ≤ 2 * level) (room : Nat) : Reads (Grammar.climb room power) room ts e :=
  fun _ hrest hroom => h.gives hpower (hrest.stops power) hroom

/-! ### Brackets -/

/-- A bracket in front of an operand is none of the words that are operands. -/
lemma Gives.later_words {s : Symbol} {ts rest : List Token} {e : Expression}
    {gs : List (Grammar Expression)} (h : Gives (oneOf gs) (.symbol s :: ts) e rest) :
    Gives (oneOf (Expression.literal <$> Grammar.literal ::
      (fun _ => Expression.this) <$> Grammar.keyword .thisWord ::
      Expression.name <$> Grammar.name :: gs)) (.symbol s :: ts) e rest := by
  refine .later (Refuses.map _ (.token fun t ht => by cases ht; rfl)) ?_
  exact .later (Refuses.map _ (.keyword (by simp))) (.later (Refuses.map _ (.name (by simp))) h)

/-- An expression in parentheses spells one of any level. -/
lemma Spells.parentheses {level : Nat} {ts : List Token} {e : Expression} (h : Spells 1 ts e) :
    Spells level (.symbol .roundOpen :: (ts ++ [.symbol .roundClose])) e := by
  refine .of_atom (fun op => by cases op <;> simp [UnaryOperator.token]) fun room rest hroom => ?_
  simp only [List.length_cons, List.length_append, List.length_nil] at hroom
  rw [List.cons_append, List.append_assoc]
  refine .later_words (.later (Refuses.map _ (.between (by simp))) ?_)
  refine .later (Refuses.map _ (.between (by simp))) (.first (.inParentheses ?_) _)
  exact h.reads (Nat.zero_le _) room _ (.symbol (by decide) rest)
    (by rw [List.singleton_append, List.length_cons]; omega)

/-! ### Lists and objects -/

/-- Pieces with commas between them. -/
def separated : List (List Token) → List Token
  | [] => []
  | ts :: later => ts ++ later.flatMap (.symbol .comma :: ·)

section Items

variable {α : Type} {g : Grammar α} {closing : Symbol} {room : Nat} {rest : List Token}

lemma Ended.later (h : closing ∈ endSymbols) (later : List (List Token)) (rest : List Token) :
    Ended (later.flatMap (.symbol .comma :: ·) ++ .symbol closing :: rest) := by
  cases later with
  | nil => exact .symbol h rest
  | cons ts later => exact .symbol (by decide) _

lemma Gives.moreItems_separated (hclosing : closing ∈ endSymbols) (hcomma : closing ≠ .comma)
    {pieces : List (List Token)} {as : List α} (h : List.Forall₂ (Reads g room) pieces as)
    (count : Nat) (hcount : pieces.length ≤ count)
    (hroom : (pieces.flatMap (.symbol .comma :: ·)).length + rest.length + 1 < room) :
    Gives (moreItems g count) (pieces.flatMap (.symbol .comma :: ·) ++ .symbol closing :: rest)
      as (.symbol closing :: rest) := by
  induction h generalizing count with
  | nil => exact .moreItems_nil (.symbol (by simpa using hcomma)) count
  | @cons ts a pieces as hpiece _ ih =>
    obtain ⟨count, rfl⟩ : ∃ count', count = count' + 1 :=
      ⟨count - 1, by rw [List.length_cons] at hcount; omega⟩
    simp only [List.flatMap_cons, List.length_append, List.length_cons] at hroom hcount
    rw [List.flatMap_cons, List.cons_append, List.cons_append, List.append_assoc]
    refine .moreItems_cons (hpiece _ (.later hclosing pieces rest) ?_)
      (ih count (by omega) (by omega))
    rw [List.length_append, List.length_cons]
    omega

lemma length_le_length_commas (later : List (List Token)) :
    later.length ≤ (later.flatMap (.symbol .comma :: ·)).length := by
  induction later with
  | nil => exact Nat.le_refl 0
  | cons ts later ih =>
    rw [List.flatMap_cons, List.cons_append, List.length_cons, List.length_cons,
      List.length_append]
    omega

lemma Gives.items_separated (hclosing : closing ∈ endSymbols) (hcomma : closing ≠ .comma)
    {pieces : List (List Token)} {as : List α} (h : List.Forall₂ (Reads g room) pieces as)
    (hnone : Refuses g (.symbol closing :: rest))
    (hroom : (separated pieces).length + rest.length + 1 < room) :
    Gives (items g room) (separated pieces ++ .symbol closing :: rest) as
      (.symbol closing :: rest) := by
  cases h with
  | nil => exact .items_nil hnone room
  | @cons ts a later as hpiece hlater =>
    have hcount := length_le_length_commas later
    rw [separated, List.length_append] at hroom
    rw [separated, List.append_assoc]
    refine .items_cons (hpiece _ (.later hclosing later rest) ?_)
      (.moreItems_separated hclosing hcomma hlater room (by omega) (by omega))
    rw [List.length_append, List.length_cons]
    omega

end Items

/-- Spellings of the items of a list or of the arguments of a call are read between brackets. -/
lemma Gives.items_of_spells {pieces : List (List Token)} {es : List Expression}
    (h : List.Forall₂ (Spells 1) pieces es) {closing : Symbol} (hclosing : closing ∈ endSymbols)
    (hcomma : closing ≠ .comma) {room : Nat} {rest : List Token}
    (hroom : (separated pieces).length + rest.length + 1 < room) :
    Gives (items (climb room 0) room) (separated pieces ++ .symbol closing :: rest) es
      (.symbol closing :: rest) :=
  .items_separated hclosing hcomma (h.imp fun _ _ hpiece => hpiece.reads (Nat.zero_le _) room)
    (.climb (.symbol hclosing rest) room 0) hroom

lemma Spells.list {level : Nat} {pieces : List (List Token)} {es : List Expression}
    (h : List.Forall₂ (Spells 1) pieces es) :
    Spells level (.symbol .squareOpen :: (separated pieces ++ [.symbol .squareClose]))
      (.list es) := by
  refine .of_atom (fun op => by cases op <;> simp [UnaryOperator.token]) fun room rest hroom => ?_
  simp only [List.length_cons, List.length_append, List.length_nil] at hroom
  rw [List.cons_append, List.append_assoc]
  have hitems : Gives (items (climb room 0) room)
      (separated pieces ++ .symbol .squareClose :: rest) es (.symbol .squareClose :: rest) :=
    .items_of_spells h (by decide) (by decide) (by omega)
  exact .later_words (.first (.map _ (.between hitems)) _)

/-- Tokens spell a field of an object: its name in quotes and its value. -/
def SpellsField (ts : List Token) (field : String × Expression) : Prop :=
  ∃ us, ts = .text field.1 :: .symbol .colon :: us ∧ Spells 1 us field.2

lemma Spells.object {level : Nat} {pieces : List (List Token)}
    {fields : List (String × Expression)} (h : List.Forall₂ SpellsField pieces fields) :
    Spells level (.symbol .curlyOpen :: (separated pieces ++ [.symbol .curlyClose]))
      (.object fields) := by
  refine .of_atom (fun op => by cases op <;> simp [UnaryOperator.token]) fun room rest hroom => ?_
  simp only [List.length_cons, List.length_append, List.length_nil] at hroom
  rw [List.cons_append, List.append_assoc, List.singleton_append]
  refine .later_words
    (.later (Refuses.map _ (.between (by simp))) (.first (.map _ (.between ?_)) _))
  refine .items_separated (by decide) (by decide) (h.imp fun ts field hfield => ?_)
    (Refuses.bind (.token fun t ht => by cases ht; rfl)) (by omega)
  obtain ⟨us, rfl, hvalue⟩ := hfield
  intro rest hrest hroom
  rw [List.length_cons, List.length_cons] at hroom
  refine Gives.bind (.token (a := field.1) rfl) ((Gives.symbol .colon _).bind ?_)
  exact (hvalue.reads (Nat.zero_le _) room rest hrest (by omega)).bind (.pure _ rest)

/-! ### Suffixes -/

/-- An operand and a suffix behind it spell an operand with a suffix. -/
lemma Spells.suffix {level : Nat} {ts us : List Token} {t : Token} {e e' : Expression}
    (h : Spells suffixLevel ts e) (hlevel : level ≤ suffixLevel)
    (hsuffix : ∀ room rest, (t :: us).length + rest.length ≤ room →
      Gives (Grammar.suffix e (climb room 0) room) (t :: us ++ rest) e' rest) :
    Spells level (ts ++ t :: us) e' := by
  intro power rest result behind hpower _ hbehind room hroom
  rw [List.length_append] at hroom
  rw [List.append_assoc]
  refine h (Nat.le_trans hpower (Nat.mul_le_mul_left 2 hlevel)) (fun hle => absurd hle (by decide))
    (fun room hroom => ?_) room (by rw [List.length_append]; omega)
  obtain ⟨room, rfl⟩ : ∃ room', room = room' + 1 := ⟨room - 1, by omega⟩
  rw [List.length_append] at hroom
  exact .climbFrom_suffix (hsuffix room rest (by omega))
    (hbehind room (by rw [List.length_cons] at hroom; omega))

lemma Spells.member {level : Nat} {ts : List Token} {e : Expression} (h : Spells suffixLevel ts e)
    (hlevel : level ≤ suffixLevel) (property : String) :
    Spells level (ts ++ [.symbol .dot, .name property]) (.member e property) := by
  refine h.suffix hlevel fun room rest _ => .first ?_ _
  exact (Gives.symbol .dot _).bind ((Gives.name property rest).bind (.pure _ rest))

lemma Spells.index {level : Nat} {ts us : List Token} {e i : Expression}
    (h : Spells suffixLevel ts e) (hi : Spells 1 us i) (hlevel : level ≤ suffixLevel) :
    Spells level (ts ++ .symbol .squareOpen :: (us ++ [.symbol .squareClose])) (.index e i) := by
  refine h.suffix hlevel fun room rest hroom => ?_
  simp only [List.length_append, List.length_cons, List.length_nil] at hroom
  rw [List.cons_append, List.append_assoc]
  have hindex := hi.reads (Nat.zero_le _) room (.symbol .squareClose :: rest)
    (.symbol (by decide) rest) (by rw [List.length_cons]; omega)
  refine .later (Refuses.bind (.symbol (by simp))) (.first ?_ _)
  exact (Gives.between hindex).bind (.pure (Expression.index e i) rest)

lemma Spells.call {level : Nat} {ts : List Token} {e : Expression}
    {pieces : List (List Token)} {es : List Expression} (h : Spells suffixLevel ts e)
    (harguments : List.Forall₂ (Spells 1) pieces es) (hlevel : level ≤ suffixLevel) :
    Spells level (ts ++ .symbol .roundOpen :: (separated pieces ++ [.symbol .roundClose]))
      (.call e es) := by
  refine h.suffix hlevel fun room rest hroom => ?_
  simp only [List.length_append, List.length_cons, List.length_nil] at hroom
  rw [List.cons_append, List.append_assoc]
  have hitems : Gives (items (climb room 0) room)
      (separated pieces ++ .symbol .roundClose :: rest) es (.symbol .roundClose :: rest) :=
    .items_of_spells harguments (by decide) (by decide) (by omega)
  refine .later (Refuses.bind (.symbol (by simp))) (.later (Refuses.bind (.between (by simp)))
    (.first ?_ _))
  exact (Gives.inParentheses hitems).bind (.pure (Expression.call e _) rest)

/-! ### Operators -/

lemma Gives.unaryOperator (op : UnaryOperator) (rest : List Token) :
    Gives Grammar.unaryOperator (op.token :: rest) op rest :=
  .token (by cases op <;> rfl)

lemma Spells.unary {level : Nat} {ts : List Token} {e : Expression} (h : Spells unaryLevel ts e)
    (hlevel : level ≤ unaryLevel) (op : UnaryOperator) :
    Spells level (op.token :: ts) (.unary op e) := by
  intro power rest result behind hpower hstops hbehind room hroom
  rw [List.length_cons] at hroom
  obtain ⟨room, rfl⟩ : ∃ room', room = room' + 1 := ⟨room - 1, by omega⟩
  have hoperand : Gives (climb room (2 * unaryLevel)) (ts ++ rest) e rest :=
    h.gives (Nat.le_refl _) ((hstops hlevel).of_unary (Nat.le_refl _)) (by omega)
  rw [climb, List.cons_append]
  refine Gives.bind (.or_left ?_ _) (hbehind room (by omega))
  exact (Gives.unaryOperator op _).bind (hoperand.bind (.pure _ rest))

lemma continues_binary_iff (op : BinaryOperator) (power : Nat) :
    Continues power (.symbol op.symbol) ↔ power ≤ 2 * op.level := by
  refine ⟨fun h => ?_, .binary⟩
  generalize ht : Token.symbol op.symbol = t at h
  cases h with
  | suffix hs => exact absurd (Token.symbol.inj ht ▸ hs) op.symbol_ne_suffix
  | binary hpower => exact BinaryOperator.symbol_injective (Token.symbol.inj ht) ▸ hpower
  | conditional => exact absurd (Token.symbol.inj ht) op.symbol_ne_question

lemma continues_question_iff (power : Nat) :
    Continues power (.symbol .question) ↔ power ≤ 2 * conditionalLevel + 1 := by
  refine ⟨fun h => ?_, .conditional⟩
  generalize ht : Token.symbol .question = t at h
  cases h with
  | suffix hs => exact absurd (Token.symbol.inj ht ▸ hs) (by decide)
  | @binary op => exact absurd (Token.symbol.inj ht).symm op.symbol_ne_question
  | conditional hpower => exact hpower

lemma Spells.binary {level : Nat} {ts us : List Token} {l r : Expression} {op : BinaryOperator}
    (hl : Spells op.level ts l) (hr : Spells (op.level + 1) us r) (hlevel : level ≤ op.level) :
    Spells level (ts ++ .symbol op.symbol :: us) (.binary op l r) := by
  have hbounds := op.level_bounds
  have hunary : unaryLevel = 9 := rfl
  intro power rest result behind hpower hstops hbehind room hroom
  rw [List.length_append, List.length_cons] at hroom
  rw [List.append_assoc, List.cons_append]
  -- the left operand is read first and ends at the operator, from which climbing goes on
  refine hl (Nat.le_trans hpower (Nat.mul_le_mul_left 2 hlevel)) (fun _ t ht => ?_)
    (fun room hroom => ?_) room (by rw [List.length_cons, List.length_append]; omega)
  · cases ht
    rw [continues_binary_iff]
    omega
  · obtain ⟨room, rfl⟩ : ∃ room', room = room' + 1 := ⟨room - 1, by omega⟩
    rw [List.length_cons, List.length_append] at hroom
    have hright : Gives (climb room (2 * op.level + 1)) (us ++ rest) r rest :=
      hr.gives (by omega) ((hstops (by omega)).mono (by omega)) (by omega)
    refine .or_right (Refuses.bind (.suffix fun s hs hhead => ?_)) (.or_left ?_ _)
    · cases hhead
      exact op.symbol_ne_suffix hs
    · exact (Gives.binary (Nat.le_trans hpower (Nat.mul_le_mul_left 2 hlevel)) hright).bind
        (hbehind room (by omega))

lemma Spells.conditional {level : Nat} {ts us vs : List Token} {c a b : Expression}
    (hc : Spells (conditionalLevel + 1) ts c) (ha : Spells 1 us a)
    (hb : Spells conditionalLevel vs b) (hlevel : level ≤ conditionalLevel) :
    Spells level (ts ++ .symbol .question :: (us ++ .symbol .colon :: vs))
      (.conditional c a b) := by
  have hunary : unaryLevel = 9 := rfl
  have hconditional : conditionalLevel = 1 := rfl
  intro power rest result behind hpower hstops hbehind room hroom
  simp only [List.length_append, List.length_cons] at hroom
  simp only [List.append_assoc, List.cons_append]
  refine hc (by omega) (fun _ t ht => ?_) (fun room hroom => ?_) room
    (by simp only [List.length_append, List.length_cons]; omega)
  · cases ht
    rw [continues_question_iff]
    omega
  · obtain ⟨room, rfl⟩ : ∃ room', room = room' + 1 := ⟨room - 1, by omega⟩
    simp only [List.length_append, List.length_cons] at hroom
    have hstops' := (hstops (by omega)).of_le_conditional (by omega)
    have htrue : Gives (climb room 0) (us ++ .symbol .colon :: (vs ++ rest)) a
        (.symbol .colon :: (vs ++ rest)) :=
      ha.reads (Nat.zero_le _) room _ (.symbol (by decide) _)
        (by rw [List.length_cons, List.length_append]; omega)
    have hfalse : Gives (climb room (2 * conditionalLevel)) (vs ++ rest) b rest :=
      hb.gives (Nat.le_refl _) (hstops' _) (by omega)
    refine .or_right (Refuses.bind (.suffix fun s hs hhead => ?_)) (.or_right (Refuses.bind
      (.binary fun op _ hhead => ?_)) (.or_left ?_ _))
    · cases hhead
      revert hs
      decide
    · exact op.symbol_ne_question (Token.symbol.inj (Option.some.inj hhead)).symm
    · rw [if_pos (by omega)]
      exact (Gives.symbol .question _).bind (htrue.bind ((Gives.symbol .colon _).bind
        (hfalse.bind (hbehind room (by omega)))))

end Grammar
end ViewKit
