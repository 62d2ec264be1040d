/-
# What a grammar makes of tokens

A grammar is a function of a place in a token sequence and of the furthest token at which a
test has failed so far; its result depends on neither.  `Gives` and `Refuses` say what it
makes of the tokens behind a place, and there is one rule for each way to build grammars.
The rules follow the order of alternatives: what comes later counts only if everything
before it refuses.
-/
import Mathlib.Tactic.Lemma
import ViewKit.Template.Grammar

namespace ViewKit.Grammar

variable {α β : Type} {g : Grammar α} {ts mid rest : List Token} {a : α}

/-- Wherever the tokens stand, the grammar makes `a` of them and leaves `rest`. -/
def Gives (g : Grammar α) (ts : List Token) (a : α) (rest : List Token) : Prop :=
  ∀ index reach, ∃ index' reach', g ⟨index, ts⟩ reach = .success a ⟨index', rest⟩ reach'

/-- Wherever the tokens stand, the grammar makes nothing of them. -/
def Refuses (g : Grammar α) (ts : List Token) : Prop :=
  ∀ index reach, ∃ reach', g ⟨index, ts⟩ reach = .failure reach'

/-! ## Sequences -/

lemma Gives.pure (a : α) (ts : List Token) : Gives (Pure.pure a) ts a ts :=
  fun index reach => ⟨index, reach, rfl⟩

lemma Refuses.fail (ts : List Token) : Refuses (fail : Grammar α) ts :=
  fun _ reach => ⟨reach, rfl⟩

lemma Gives.bind {f : α → Grammar β} {b : β} (h : Gives g ts a mid) (hf : Gives (f a) mid b rest) :
    Gives (g >>= f) ts b rest := by
  intro index reach
  obtain ⟨index₁, reach₁, h₁⟩ := h index reach
  obtain ⟨index₂, reach₂, h₂⟩ := hf index₁ reach₁
  exact ⟨index₂, reach₂, by simp only [Bind.bind, h₁, h₂]⟩

lemma Refuses.bind {f : α → Grammar β} (h : Refuses g ts) : Refuses (g >>= f) ts := by
  intro index reach
  obtain ⟨reach₁, h₁⟩ := h index reach
  exact ⟨reach₁, by simp only [Bind.bind, h₁]⟩

lemma Gives.bind_refuses {f : α → Grammar β} (h : Gives g ts a mid) (hf : Refuses (f a) mid) :
    Refuses (g >>= f) ts := by
  intro index reach
  obtain ⟨index₁, reach₁, h₁⟩ := h index reach
  obtain ⟨reach₂, h₂⟩ := hf index₁ reach₁
  exact ⟨reach₂, by simp only [Bind.bind, h₁, h₂]⟩

lemma Gives.map (f : α → β) (h : Gives g ts a rest) : Gives (f <$> g) ts (f a) rest :=
  h.bind (.pure (f a) rest)

lemma Refuses.map (f : α → β) (h : Refuses g ts) : Refuses (f <$> g) ts := h.bind

/-! ## Alternatives -/

lemma Gives.or_left (h : Gives g ts a rest) (other : Grammar α) :
    Gives (or g other) ts a rest := by
  intro index reach
  obtain ⟨index₁, reach₁, h₁⟩ := h index reach
  exact ⟨index₁, reach₁, by simp only [or, h₁]⟩

lemma Gives.or_right {other : Grammar α} (hg : Refuses g ts) (h : Gives other ts a rest) :
    Gives (or g other) ts a rest := by
  intro index reach
  obtain ⟨reach₁, h₁⟩ := hg index reach
  obtain ⟨index₂, reach₂, h₂⟩ := h index reach₁
  exact ⟨index₂, reach₂, by simp only [or, h₁, h₂]⟩

lemma Refuses.or {other : Grammar α} (hg : Refuses g ts) (h : Refuses other ts) :
    Refuses (or g other) ts := by
  intro index reach
  obtain ⟨reach₁, h₁⟩ := hg index reach
  obtain ⟨reach₂, h₂⟩ := h index reach₁
  exact ⟨reach₂, by simp only [Grammar.or, h₁, h₂]⟩

lemma Gives.first (h : Gives g ts a rest) (gs : List (Grammar α)) :
    Gives (oneOf (g :: gs)) ts a rest := by
  cases gs with
  | nil => exact h
  | cons => exact h.or_left _

lemma Gives.later {gs : List (Grammar α)} (hg : Refuses g ts) (h : Gives (oneOf gs) ts a rest) :
    Gives (oneOf (g :: gs)) ts a rest := by
  cases gs with
  | nil => obtain ⟨_, _, hnone⟩ := h 0 0; cases hnone
  | cons => exact h.or_right hg

lemma Refuses.oneOf {gs : List (Grammar α)} (h : ∀ g ∈ gs, Refuses g ts) :
    Refuses (oneOf gs) ts := by
  induction gs with
  | nil => exact .fail ts
  | cons g gs ih =>
    have hg : Refuses g ts := h g List.mem_cons_self
    have hgs : Refuses (Grammar.oneOf gs) ts := ih fun x hx => h x (List.mem_cons_of_mem g hx)
    cases gs with
    | nil => exact hg
    | cons => exact hg.or hgs

lemma Gives.optional_some (h : Gives g ts a rest) : Gives (optional g) ts (some a) rest :=
  (h.map some).or_left _

lemma Gives.optional_none (h : Refuses g ts) : Gives (optional g) ts none ts :=
  .or_right (h.map some) (.pure none ts)

/-! ## Tokens -/

variable {test : Token → Option α}

lemma Gives.token (h : test t = some a) : Gives (token test) (t :: ts) a ts := by
  intro index reach
  exact ⟨index + 1, reach, by simp only [Grammar.token, h]⟩

lemma Refuses.token (h : ∀ t ∈ ts.head?, test t = none) : Refuses (token test) ts := by
  intro index reach
  cases ts with
  | nil => exact ⟨max reach index, rfl⟩
  | cons t ts => exact ⟨max reach index, by simp only [Grammar.token, h t rfl]⟩

lemma Gives.symbol (s : Symbol) (ts : List Token) : Gives (symbol s) (.symbol s :: ts) () ts :=
  .token (if_pos rfl)

lemma Refuses.symbol {s : Symbol} (h : ts.head? ≠ some (.symbol s)) : Refuses (symbol s) ts := by
  refine .token fun t ht => if_neg fun heq => h ?_
  rwa [heq] at ht

lemma Gives.keyword (k : Keyword) (ts : List Token) :
    Gives (keyword k) (.keyword k :: ts) () ts :=
  .token (if_pos rfl)

lemma Refuses.keyword {k : Keyword} (h : ts.head? ≠ some (.keyword k)) :
    Refuses (keyword k) ts := by
  refine .token fun t ht => if_neg fun heq => h ?_
  rwa [heq] at ht

lemma Gives.name (s : String) (ts : List Token) : Gives name (.name s :: ts) s ts := .token rfl

lemma Refuses.name (h : ∀ s, ts.head? ≠ some (.name s)) : Refuses name ts := by
  refine .token fun t ht => ?_
  cases t with
  | name s => exact absurd ht (h s)
  | _ => rfl

/-! ## Repetitions -/

lemma Gives.many_nil (h : Refuses g ts) (room : Nat) : Gives (many g room) ts [] ts := by
  cases room with
  | zero => exact .pure [] ts
  | succ room => exact .or_right h.bind (.pure [] ts)

lemma Gives.many_cons {as : List α} {room : Nat} (h : Gives g ts a mid)
    (hmore : Gives (many g room) mid as rest) : Gives (many g (room + 1)) ts (a :: as) rest :=
  (h.bind (hmore.bind (.pure (a :: as) rest))).or_left _

lemma Gives.moreItems_nil (h : Refuses (Grammar.symbol .comma) ts) (room : Nat) :
    Gives (moreItems g room) ts [] ts := by
  cases room with
  | zero => exact .pure [] ts
  | succ room => exact .or_right h.bind (.pure [] ts)

lemma Gives.moreItems_cons {as : List α} {room : Nat} (h : Gives g ts a mid)
    (hmore : Gives (moreItems g room) mid as rest) :
    Gives (moreItems g (room + 1)) (.symbol .comma :: ts) (a :: as) rest :=
  ((Gives.symbol .comma ts).bind
    ((h.bind (hmore.bind (.pure (a :: as) rest))).or_left _)).or_left _

lemma Gives.items_nil (h : Refuses g ts) (room : Nat) : Gives (items g room) ts [] ts :=
  .or_right h.bind (.pure [] ts)

lemma Gives.items_cons {as : List α} {room : Nat} (h : Gives g ts a mid)
    (hmore : Gives (moreItems g room) mid as rest) : Gives (items g room) ts (a :: as) rest :=
  (h.bind (hmore.bind (.pure (a :: as) rest))).or_left _

/-! ## Brackets -/

lemma Gives.between {opening closing : Symbol} (h : Gives g ts a (.symbol closing :: rest)) :
    Gives (between opening closing g) (.symbol opening :: ts) a rest :=
  (Gives.symbol opening ts).bind (h.bind ((Gives.symbol closing rest).bind (.pure a rest)))

lemma Refuses.between {opening closing : Symbol} (h : ts.head? ≠ some (.symbol opening)) :
    Refuses (between opening closing g) ts :=
  (Refuses.symbol h).bind

lemma Gives.inParentheses (h : Gives g ts a (.symbol .roundClose :: rest)) :
    Gives (inParentheses g) (.symbol .roundOpen :: ts) a rest :=
  h.between

end ViewKit.Grammar
