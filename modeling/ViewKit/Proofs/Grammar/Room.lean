/-
# How much room a grammar needs

The recursion of the grammars is bounded, and the bound is given with the number of tokens
that are to be read.  Any bound above that number does the same (`alike_statement`): each
recursive use stands behind a token that was consumed.  `Alike` says of two grammars that
they come to the same on so many tokens, and there is one rule for each way to build grammars.
-/
import Mathlib.Data.List.Forall2
import ViewKit.Proofs.Grammar.Statement

namespace ViewKit.Grammar

variable {α β : Type} {g g' h h' : Grammar α} {k l m n room room' : Nat}

/-- On at most `n` tokens the two grammars come to the same, wherever the tokens stand, and
what they read has at least `k` tokens. -/
def Alike (k n : Nat) (g g' : Grammar α) : Prop :=
  ∀ ts : List Token, ts.length ≤ n →
    (∃ a rest, rest.length + k ≤ ts.length ∧ Gives g ts a rest ∧ Gives g' ts a rest) ∨
      (Refuses g ts ∧ Refuses g' ts)

namespace Alike

lemma weaken (hg : Alike k n g g') (hk : l ≤ k) (hm : m ≤ n) : Alike l m g g' := by
  intro ts hts
  rcases hg ts (Nat.le_trans hts hm) with ⟨a, rest, hrest, hgives⟩ | hrefuses
  · exact .inl ⟨a, rest, by omega, hgives⟩
  · exact .inr hrefuses

lemma pure (a : α) : Alike 0 n (Pure.pure a) (Pure.pure a) :=
  fun ts _ => .inl ⟨a, ts, Nat.le_refl _, .pure a ts, .pure a ts⟩

lemma fail : Alike k n (fail : Grammar α) Grammar.fail :=
  fun ts _ => .inr ⟨.fail ts, .fail ts⟩

/-- What is read behind the first piece has fewer tokens, by those of the first piece. -/
lemma bind {f f' : α → Grammar β} (hg : Alike k n g g')
    (hf : ∀ a m, m + k ≤ n → Alike l m (f a) (f' a)) :
    Alike (k + l) n (g >>= f) (g' >>= f') := by
  intro ts hts
  rcases hg ts hts with ⟨a, mid, hmid, hgives, hgives'⟩ | ⟨hrefuses, hrefuses'⟩
  · rcases hf a mid.length (by omega) mid (Nat.le_refl _) with
      ⟨b, rest, hrest, hfgives, hfgives'⟩ | ⟨hfrefuses, hfrefuses'⟩
    · exact .inl ⟨b, rest, by omega, hgives.bind hfgives, hgives'.bind hfgives'⟩
    · exact .inr ⟨hgives.bind_refuses hfrefuses, hgives'.bind_refuses hfrefuses'⟩
  · exact .inr ⟨hrefuses.bind, hrefuses'.bind⟩

/-- Behind a first piece that is not empty there are fewer tokens. -/
lemma first {f f' : α → Grammar β} (hg : Alike 1 n g g')
    (hf : ∀ a, ∀ m < n, Alike k m (f a) (f' a)) : Alike 1 n (g >>= f) (g' >>= f') :=
  (hg.bind fun a m hm => hf a m hm).weaken (Nat.le_add_right 1 k) (Nat.le_refl n)

/-- Behind any piece there are no more tokens. -/
lemma next {f f' : α → Grammar β} (hg : Alike k n g g')
    (hf : ∀ a, ∀ m ≤ n, Alike l m (f a) (f' a)) : Alike l n (g >>= f) (g' >>= f') :=
  (hg.bind fun a m hm => hf a m (by omega)).weaken (Nat.le_add_left l k) (Nat.le_refl n)

lemma map (f : α → β) (hg : Alike k n g g') : Alike k n (f <$> g) (f <$> g') :=
  hg.bind fun a _ _ => pure (f a)

/-- A piece followed by one that is discarded. -/
lemma before {o o' : Grammar β} (hg : Alike k n g g') (ho : ∀ m ≤ n, Alike l m o o') :
    Alike 0 n (do let a ← g; let _ ← o; return a) (do let a ← g'; let _ ← o'; return a) :=
  hg.next fun a m hm => (ho m hm).next fun _ _ _ => pure a

lemma or (hg : Alike k n g g') (hh : Alike k n h h') : Alike k n (or g h) (or g' h') := by
  intro ts hts
  rcases hg ts hts with ⟨a, rest, hrest, hgives, hgives'⟩ | ⟨hrefuses, hrefuses'⟩
  · exact .inl ⟨a, rest, hrest, hgives.or_left h, hgives'.or_left h'⟩
  · rcases hh ts hts with ⟨a, rest, hrest, hgives, hgives'⟩ | ⟨hother, hother'⟩
    · exact .inl ⟨a, rest, hrest, .or_right hrefuses hgives, .or_right hrefuses' hgives'⟩
    · exact .inr ⟨hrefuses.or hother, hrefuses'.or hother'⟩

/-- A piece, or another one that may be empty. -/
lemma orElse (hg : Alike k n g g') (hh : Alike 0 n h h') :
    Alike 0 n (Grammar.or g h) (Grammar.or g' h') :=
  (hg.weaken (Nat.zero_le k) (Nat.le_refl n)).or hh

lemma oneOf {gs gs' : List (Grammar α)} (hgs : List.Forall₂ (Alike k n) gs gs') :
    Alike k n (oneOf gs) (Grammar.oneOf gs') := by
  induction hgs with
  | nil => exact fail
  | cons hg hgs ih =>
    cases hgs with
    | nil => exact hg
    | cons => exact hg.or ih

lemma optional (hg : Alike k n g g') : Alike 0 n (optional g) (Grammar.optional g') :=
  (hg.map some).orElse (pure none)

/-! ### Tokens -/

lemma token (test : Token → Option α) : Alike 1 n (token test) (Grammar.token test) := by
  intro ts _
  cases ts with
  | nil => exact .inr ⟨.token nofun, .token nofun⟩
  | cons t ts =>
    cases ht : test t with
    | some a => exact .inl ⟨a, ts, Nat.le_refl _, .token ht, .token ht⟩
    | none =>
      have hrefuses : Refuses (Grammar.token test) (t :: ts) :=
        .token fun u hu => by
          cases hu
          exact ht
      exact .inr ⟨hrefuses, hrefuses⟩

lemma symbol (s : Symbol) : Alike 1 n (symbol s) (Grammar.symbol s) := token _

lemma keyword (w : Keyword) : Alike 1 n (keyword w) (Grammar.keyword w) := token _

lemma name : Alike 1 n name Grammar.name := token _

lemma between (opening closing : Symbol) (hg : ∀ m < n, Alike k m g g') :
    Alike 1 n (between opening closing g) (Grammar.between opening closing g') :=
  (symbol opening).first fun _ m hm => (hg m hm).before fun _ _ => symbol closing

lemma inParentheses (hg : ∀ m < n, Alike k m g g') :
    Alike 1 n (inParentheses g) (Grammar.inParentheses g') :=
  between _ _ hg

/-! ### Repetitions -/

/-- Of pieces that are not empty there are no more than tokens. -/
lemma many (hg : Alike 1 n g g') (hroom : n ≤ room) (hroom' : n ≤ room') :
    Alike 0 n (many g room) (Grammar.many g' room') := by
  induction n generalizing room room' with
  | zero =>
    intro ts hts
    have hrefuses : Refuses g ts ∧ Refuses g' ts := by
      rcases hg ts hts with ⟨a, rest, hrest, -⟩ | hrefuses
      · omega
      · exact hrefuses
    exact .inl ⟨[], ts, Nat.le_refl _, .many_nil hrefuses.1 room, .many_nil hrefuses.2 room'⟩
  | succ n ih =>
    obtain ⟨room, rfl⟩ : ∃ i, room = i + 1 := ⟨room - 1, by omega⟩
    obtain ⟨room', rfl⟩ : ∃ i, room' = i + 1 := ⟨room' - 1, by omega⟩
    have hmore : Alike 0 n (Grammar.many g room) (Grammar.many g' room') :=
      ih (hg.weaken (Nat.le_refl 1) (Nat.le_succ n)) (by omega) (by omega)
    refine (hg.first (k := 0) fun a m hm => ?_).orElse (pure [])
    exact (hmore.weaken (Nat.le_refl 0) (by omega)).next fun as _ _ => pure (a :: as)

lemma moreItems (hg : ∀ m < n, Alike 1 m g g') (hroom : n ≤ room) (hroom' : n ≤ room') :
    Alike 0 n (moreItems g room) (Grammar.moreItems g' room') := by
  induction n generalizing room room' with
  | zero =>
    intro ts hts
    obtain rfl : ts = [] := List.eq_nil_of_length_eq_zero (by omega)
    have hrefuses : Refuses (Grammar.symbol .comma) [] := .symbol nofun
    exact .inl ⟨[], [], Nat.le_refl _, .moreItems_nil hrefuses _, .moreItems_nil hrefuses _⟩
  | succ n ih =>
    obtain ⟨room, rfl⟩ : ∃ i, room = i + 1 := ⟨room - 1, by omega⟩
    obtain ⟨room', rfl⟩ : ∃ i, room' = i + 1 := ⟨room' - 1, by omega⟩
    have hmore : Alike 0 n (Grammar.moreItems g room) (Grammar.moreItems g' room') :=
      ih (fun m hm => hg m (by omega)) (by omega) (by omega)
    refine ((symbol .comma).first (k := 0) fun _ m hm => ?_).orElse (pure [])
    refine ((hg m hm).first (k := 0) fun a i hi => ?_).orElse (pure [])
    exact (hmore.weaken (Nat.le_refl 0) (by omega)).next fun as _ _ => pure (a :: as)

lemma items (hg : Alike 1 n g g') (hroom : n ≤ room) (hroom' : n ≤ room') :
    Alike 0 n (items g room) (Grammar.items g' room') := by
  refine (hg.first (k := 0) fun a m hm => ?_).orElse (pure [])
  have hmore : Alike 0 m (Grammar.moreItems g room) (Grammar.moreItems g' room') :=
    moreItems (fun i hi => hg.weaken (Nat.le_refl 1) (by omega)) (by omega) (by omega)
  exact hmore.next fun as _ _ => pure (a :: as)

end Alike

/-! ## Expressions -/

section Expressions

variable {e e' : Grammar Expression} (he : ∀ m < n, Alike 1 m e e')

include he

lemma alike_field : ∀ m < n,
    Alike 1 m (do let k ← key; symbol .colon; let v ← e; return (k, v))
      (do let k ← key; symbol .colon; let v ← e'; return (k, v)) := by
  intro m hm
  refine (Alike.token _).first (k := 1) fun k i hi => ?_
  exact (Alike.symbol .colon).first fun _ j hj => (he j (by omega)).map (Prod.mk k)

variable (hroom : n ≤ room + 1) (hroom' : n ≤ room' + 1)

include hroom hroom'

lemma alike_items : ∀ m < n, Alike 0 m (items e room) (items e' room') :=
  fun m hm => .items (he m hm) (by omega) (by omega)

lemma alike_suffix (operand : Expression) :
    Alike 1 n (suffix operand e room) (suffix operand e' room') := by
  have hitems := alike_items he hroom hroom'
  refine .oneOf (.cons ?_ (.cons ?_ (.cons ?_ .nil)))
  · exact (Alike.symbol .dot).first fun _ _ _ => Alike.name.map operand.member
  · exact (Alike.between .squareOpen .squareClose he).map operand.index
  · exact (Alike.inParentheses hitems).map operand.call

lemma alike_atom : Alike 1 n (atom e room) (atom e' room') := by
  have hitems := alike_items he hroom hroom'
  have hfields : ∀ m < n, Alike 0 m
      (items (do let k ← key; symbol .colon; let v ← e; return (k, v)) room)
      (items (do let k ← key; symbol .colon; let v ← e'; return (k, v)) room') :=
    fun m hm => .items (alike_field he m hm) (by omega) (by omega)
  refine .oneOf (.cons ?_ (.cons ?_ (.cons ?_ (.cons ?_ (.cons ?_ (.cons ?_ .nil))))))
  · exact (Alike.token _).map _
  · exact (Alike.keyword _).map _
  · exact Alike.name.map _
  · exact (Alike.between .squareOpen .squareClose hitems).map _
  · exact (Alike.between .curlyOpen .curlyClose hfields).map _
  · exact .inParentheses he

end Expressions

/-- Any room above the number of tokens does for expressions. -/
lemma alike_climb (hroom : n < room) (hroom' : n < room') (power : Nat) :
    Alike 1 n (climb room power) (climb room' power) ∧
      ∀ operand, Alike 0 n (climbFrom room power operand) (climbFrom room' power operand) := by
  induction n using Nat.strongRecOn generalizing room room' power with
  | ind n ih =>
    obtain ⟨room, rfl⟩ : ∃ i, room = i + 1 := ⟨room - 1, by omega⟩
    obtain ⟨room', rfl⟩ : ∃ i, room' = i + 1 := ⟨room' - 1, by omega⟩
    have hclimb (power m : Nat) (hm : m < n) : Alike 1 m (climb room power) (climb room' power) :=
      (ih m hm (by omega) (by omega) power).1
    have hfrom (power m : Nat) (hm : m < n) (operand : Expression) :
        Alike 0 m (climbFrom room power operand) (climbFrom room' power operand) :=
      (ih m hm (by omega) (by omega) power).2 operand
    constructor
    · rw [climb, climb]
      refine (Alike.or ?_ ?_).first fun operand m hm => hfrom power m hm operand
      · exact (Alike.token _).first fun operator m hm => (hclimb _ m hm).map _
      · exact alike_atom (hclimb 0) (by omega) (by omega)
    · intro operand
      rw [climbFrom, climbFrom]
      refine .orElse (k := 1) ?suffix
        (.orElse (k := 1) ?binary (.orElse (k := 1) ?conditional (.pure operand)))
      case suffix =>
        exact (alike_suffix (hclimb 0) (by omega) (by omega) operand).first
          fun operand m hm => hfrom power m hm operand
      case binary =>
        refine Alike.first (.oneOf ?_) fun operand m hm => hfrom power m hm operand
        refine List.forall₂_map_left_iff.2 (List.forall₂_map_right_iff.2 ?_)
        refine List.forall₂_same.2 fun level _ => ?_
        dsimp only
        split
        · exact (Alike.token _).first fun operator m hm => (hclimb _ m hm).map _
        · exact .fail
      case conditional =>
        split
        · refine (Alike.symbol .question).first (k := 1) fun _ m hm => ?_
          refine (hclimb 0 m hm).first (k := 1) fun whenTrue i hi => ?_
          refine (Alike.symbol .colon).first (k := 1) fun _ j hj => ?_
          exact (hclimb _ j (by omega)).first fun _ l hl => hfrom power l (by omega) _
        · exact .fail

lemma alike_expression (hroom : n < room) (hroom' : n < room') :
    Alike 1 n (expression room) (expression room') :=
  (alike_climb hroom hroom' 0).1

/-! ## Statements -/

lemma alike_semicolons (hroom : n ≤ room) (hroom' : n ≤ room') :
    Alike 0 n (semicolons room) (semicolons room') :=
  (Alike.many (Alike.symbol .semicolon) hroom hroom').map _

lemma alike_simple (hroom : n < room) (hroom' : n < room') :
    Alike 1 n (simple room) (simple room') := by
  have hexpression : ∀ m ≤ n, Alike 1 m (expression room) (expression room') :=
    fun m hm => alike_expression (by omega) (by omega)
  refine .oneOf (.cons ?_ (.cons ?_ (.cons ?_ (.cons ?_ .nil))))
  · refine (Alike.token _).first (k := 1) fun kind m hm => ?_
    refine Alike.name.first (k := 0) fun declared i hi => ?_
    exact (((Alike.symbol .assign).first fun _ j hj => hexpression j (by omega)).optional).map _
  · refine Alike.name.first (k := 1) fun target m hm => ?_
    exact (Alike.token _).first fun operator i hi => (hexpression i (by omega)).map _
  · refine Alike.name.first (k := 1) fun target m hm => ?_
    exact (Alike.token _).map _
  · exact (hexpression n (Nat.le_refl n)).map _

section Bodies

variable {s s' : Grammar Statement}

/-- A statement with the semicolons behind it. -/
lemma alike_statementSemicolons (hs : Alike 1 n s s') (hroom : n ≤ room) (hroom' : n ≤ room') :
    Alike 1 n (do let a ← s; semicolons room; return a)
      (do let a ← s'; semicolons room'; return a) := by
  refine hs.first (k := 0) fun a m hm => ?_
  exact (alike_semicolons (by omega) (by omega)).next fun _ _ _ => .pure a

lemma alike_delimited (hs : Alike 1 n s s') (hroom : n ≤ room) (hroom' : n ≤ room') :
    Alike 1 n (delimited s room) (delimited s' room') := by
  refine (alike_semicolons hroom hroom').next fun _ m hm => ?_
  exact alike_statementSemicolons (hs.weaken (Nat.le_refl 1) hm) (by omega) (by omega)

lemma alike_body (hs : Alike 1 n s s') (hroom : n ≤ room) (hroom' : n ≤ room') :
    Alike 1 n (body s room) (body s' room') := by
  have hs' : ∀ m ≤ n, Alike 1 m s s' := fun m hm => hs.weaken (Nat.le_refl 1) hm
  refine .or ?_ ?_
  · refine .between (k := 0) _ _ fun m hm => ?_
    refine (alike_semicolons (by omega) (by omega)).next fun _ i hi => ?_
    exact .many (alike_delimited (hs' i (by omega)) (by omega) (by omega)) (by omega)
      (by omega)
  · refine hs.first (k := 0) fun a m hm => ?_
    exact (alike_semicolons (by omega) (by omega)).next fun _ _ _ => .pure [a]

end Bodies

/-- Any room above the number of tokens does for statements. -/
lemma alike_statement {total total' : Nat} (htotal : n < total) (htotal' : n < total')
    (hroom : n < room) (hroom' : n < room') :
    Alike 1 n (statement total room) (statement total' room') := by
  induction n using Nat.strongRecOn generalizing room room' with
  | ind n ih =>
    obtain ⟨room, rfl⟩ : ∃ i, room = i + 1 := ⟨room - 1, by omega⟩
    obtain ⟨room', rfl⟩ : ∃ i, room' = i + 1 := ⟨room' - 1, by omega⟩
    have hbody : ∀ m < n, Alike 1 m (body (statement total room) total)
        (body (statement total' room') total') := fun m hm =>
      alike_body (ih m hm (by omega) (by omega) (by omega) (by omega)) (by omega) (by omega)
    have hexpression : ∀ m ≤ n, Alike 1 m (expression total) (expression total') :=
      fun m hm => alike_expression (by omega) (by omega)
    have hsimple : ∀ m ≤ n, Alike 1 m (simple total) (simple total') :=
      fun m hm => alike_simple (by omega) (by omega)
    rw [statement, statement]
    refine .oneOf (.cons ?_ (.cons ?_ (.cons ?_ (.cons ?_ .nil))))
    · refine (Alike.keyword .ifWord).first (k := 1) fun _ m hm => ?_
      refine (Alike.inParentheses fun i hi => hexpression i (by omega)).first (k := 1)
        fun condition i hi => ?_
      refine (hbody i (by omega)).first (k := 0) fun thenBody j hj => ?_
      exact (((Alike.keyword .elseWord).first fun _ l hl => hbody l (by omega)).optional).map _
    · refine (Alike.keyword .forWord).first (k := 1) fun _ m hm => ?_
      refine Alike.first (k := 1) (.inParentheses (k := 1) fun i hi => ?_) fun _ i hi => ?_
      · refine (Alike.token _).optional.next fun _ j hj => ?_
        refine Alike.name.first (k := 1) fun binding l hl => ?_
        exact (Alike.token _).first fun kind p hp => (hexpression p (by omega)).map _
      · exact (hbody i (by omega)).map _
    · refine (Alike.keyword .forWord).first (k := 1) fun _ m hm => ?_
      refine Alike.first (k := 1) (.inParentheses (k := 1) fun i hi => ?_) fun _ i hi => ?_
      · refine (hsimple i (by omega)).optional.next fun start j hj => ?_
        refine (Alike.symbol .semicolon).first (k := 1) fun _ l hl => ?_
        refine (hexpression l (by omega)).optional.next fun condition p hp => ?_
        exact (Alike.symbol .semicolon).first fun _ q hq => (hsimple q (by omega)).optional.map _
      · exact (hbody i (by omega)).map _
    · exact hsimple n (Nat.le_refl n)

end ViewKit.Grammar
