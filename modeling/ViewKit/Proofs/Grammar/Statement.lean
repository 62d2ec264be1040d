/-
# How statements are spelled

Tokens spell a statement if they are read as that statement wherever an end follows
(`SpellsStatement`).  The alternatives of the grammar are ordered, so a rule for one kind of
statement also says why the kinds in front of it do not fit: a key word, or the token behind a
name, tells them apart.
-/
import ViewKit.Proofs.Grammar.Expression

namespace ViewKit

/-! ## Tokens of declarations, assignments and loops -/

/-- The token of a kind of declarations. -/
def DeclarationKind.token : DeclarationKind → Token
  | letKind => .keyword .letWord
  | constKind => .keyword .constWord
  | varKind => .keyword .varWord

/-- The symbol of a kind of assignments. -/
def AssignmentOperator.symbol : AssignmentOperator → Symbol
  | set => .assign
  | add => .addAssign

/-- The token of a kind of loops. -/
def LoopKind.token : LoopKind → Token
  | items => .name "of"
  | keys => .keyword .inWord

namespace Grammar

lemma Gives.not_refuses {α : Type} {g : Grammar α} {ts rest : List Token} {a : α}
    (h : Gives g ts a rest) : ¬ Refuses g ts := by
  intro hrefuses
  obtain ⟨_, _, hsuccess⟩ := h 0 0
  obtain ⟨_, hfailure⟩ := hrefuses 0 0
  cases hsuccess.symm.trans hfailure

/-! ## Statements without a body -/

/-- How an expression that is a statement starts: with no key word of another statement, and
with no name that something is assigned to. -/
structure StartsPlain (ts : List Token) : Prop where
  keyword : ∀ k ∈ [Keyword.ifWord, .forWord, .letWord, .constWord, .varWord],
    ts.head? ≠ some (.keyword k)
  behindName : ∀ name, ts.head? = some (.name name) → ∀ t ∈ ts.tail.head?,
    ∃ s, t = .symbol s ∧ s ∉ [Symbol.assign, .addAssign, .increment, .decrement]

/-- The head of a loop over the parts of a value up to the word behind its name, and then
something else. -/
def iterationHead {α : Type} (f : String → LoopKind → Grammar α) : Grammar α := do
  let _ ← optional declarationKind
  let binding ← name
  let kind ← loopKind
  f binding kind

/-- Tokens spell a statement without a body if they are read as that statement in front of an
end, and as the start of no other kind of statement. -/
structure SpellsSimple (ts : List Token) (s : Statement) : Prop where
  reads : ∀ room, Reads (simple room) room ts s
  keyword : ∀ rest, Ended rest → ∀ k ∈ [Keyword.ifWord, .forWord],
    (ts ++ rest).head? ≠ some (.keyword k)
  iteration : ∀ {α : Type} (f : String → LoopKind → Grammar α) (rest : List Token), Ended rest →
    Refuses (iterationHead f) (ts ++ rest)

lemma Refuses.declarationKind {ts : List Token}
    (h : ∀ k ∈ [Keyword.letWord, .constWord, .varWord], ts.head? ≠ some (.keyword k)) :
    Refuses Grammar.declarationKind ts := by
  refine .token fun t ht => ?_
  split
  · exact absurd ht (h _ (by decide))
  · exact absurd ht (h _ (by decide))
  · exact absurd ht (h _ (by decide))
  · rfl

lemma Gives.declarationKind (kind : DeclarationKind) (rest : List Token) :
    Gives Grammar.declarationKind (kind.token :: rest) kind rest :=
  .token (by cases kind <;> rfl)

/-- A symbol behind the name tells that a loop does not run over the parts of a value. -/
lemma Refuses.loopKind {ts : List Token} (h : ∀ t ∈ ts.head?, ∃ s, t = .symbol s) :
    Refuses Grammar.loopKind ts := by
  refine .token fun t ht => ?_
  obtain ⟨s, rfl⟩ := h t ht
  rfl

lemma Refuses.symbolOf {α : Type} {meanings : List (Symbol × α)} {ts : List Token}
    (h : ∀ m ∈ meanings, ts.head? ≠ some (.symbol m.1)) :
    Refuses (Grammar.symbolOf meanings) ts := by
  refine .token fun t ht => ?_
  cases t with
  | symbol s =>
    refine Option.map_eq_none_iff.2 (List.find?_eq_none.2 fun m hm hms => h m hm ?_)
    rw [decide_eq_true_eq] at hms
    exact hms ▸ ht
  | _ => rfl

lemma Gives.symbolOf {α : Type} {meanings : List (Symbol × α)} {s : Symbol} {a : α}
    (h : meanings.find? (·.1 = s) = some (s, a)) (rest : List Token) :
    Gives (Grammar.symbolOf meanings) (.symbol s :: rest) a rest :=
  .token (congrArg (Option.map (·.2)) h)

lemma SpellsSimple.declaration {kind : DeclarationKind} {name : String} {ts : List Token}
    {e : Expression} (h : Spells 1 ts e) :
    SpellsSimple (kind.token :: .name name :: .symbol .assign :: ts)
      (.declaration kind name (some e)) where
  reads room rest hrest hroom := by
    simp only [List.length_cons] at hroom
    have hvalue := h.reads (Nat.zero_le _) room rest hrest (by omega)
    refine .first ((Gives.declarationKind kind _).bind ((Gives.name name _).bind ?_)) _
    exact (Gives.optional_some ((Gives.symbol .assign _).bind hvalue)).bind (.pure _ rest)
  keyword rest _ := by cases kind <;> simp [DeclarationKind.token]
  iteration f rest _ := by
    refine (Gives.optional_some (.declarationKind kind _)).bind_refuses ?_
    exact (Gives.name name _).bind_refuses
      (Refuses.bind (.loopKind fun t ht => ⟨_, by cases ht; rfl⟩))

lemma SpellsSimple.bareDeclaration (kind : DeclarationKind) (name : String) :
    SpellsSimple [kind.token, .name name] (.declaration kind name none) where
  reads room rest hrest hroom := by
    refine .first ((Gives.declarationKind kind _).bind ((Gives.name name _).bind ?_)) _
    have hnone : Refuses (Grammar.symbol .assign) rest := .symbol (hrest.head?_ne (by decide))
    exact (Gives.optional_none hnone.bind).bind (.pure _ rest)
  keyword rest _ := by cases kind <;> simp [DeclarationKind.token]
  iteration f rest hrest := by
    refine (Gives.optional_some (.declarationKind kind _)).bind_refuses ?_
    refine (Gives.name name rest).bind_refuses (Refuses.bind (.loopKind fun t ht => ?_))
    obtain ⟨s, -, hs⟩ := hrest t ht
    exact ⟨s, hs⟩

/-- A name with a symbol behind it is no declaration and starts no loop over parts. -/
lemma Refuses.iterationHead_name {α : Type} (f : String → LoopKind → Grammar α) (name : String)
    (s : Symbol) (rest : List Token) :
    Refuses (iterationHead f) (.name name :: .symbol s :: rest) := by
  refine (Gives.optional_none (.declarationKind (by simp))).bind_refuses ?_
  exact (Gives.name name _).bind_refuses
    (Refuses.bind (.loopKind fun t ht => ⟨s, by cases ht; rfl⟩))

lemma SpellsSimple.assignment {name : String} {ts : List Token} {e : Expression}
    (h : Spells 1 ts e) (op : AssignmentOperator) :
    SpellsSimple (.name name :: .symbol op.symbol :: ts) (.assignment name op e) where
  reads room rest hrest hroom := by
    simp only [List.length_cons] at hroom
    have hvalue := h.reads (Nat.zero_le _) room rest hrest (by omega)
    refine .later (Refuses.bind (.declarationKind (by simp))) (.first ?_ _)
    refine (Gives.name name _).bind
      (Gives.bind (.symbolOf (a := op) ?_ _) (hvalue.bind (.pure _ rest)))
    cases op <;> rfl
  keyword rest _ := by simp
  iteration f rest _ := .iterationHead_name f name _ _

/-- The symbol and the distance of a step: one up or one down. -/
def steps : List (Symbol × Float) :=
  [(.increment, Number.ofInt 1), (.decrement, Number.ofInt (-1))]

lemma SpellsSimple.step {name : String} {s : Symbol} {distance : Float}
    (h : (s, distance) ∈ steps) :
    SpellsSimple [.name name, .symbol s]
      (.assignment name .add (.literal (.number distance))) where
  reads room rest hrest hroom := by
    have hassign : s ≠ .assign ∧ s ≠ .addAssign ∧ steps.find? (·.1 = s) = some (s, distance) := by
      simp only [steps, List.mem_cons, List.not_mem_nil, or_false, Prod.mk.injEq] at h
      rcases h with ⟨rfl, rfl⟩ | ⟨rfl, rfl⟩ <;> exact ⟨nofun, nofun, rfl⟩
    obtain ⟨hset, hadd, hfind⟩ := hassign
    refine .later (Refuses.bind (.declarationKind (by simp))) ?_
    refine .later ((Gives.name name _).bind_refuses
      (Refuses.bind (.symbolOf (by simp [hset, hadd])))) ?_
    refine .first ((Gives.name name _).bind ?_) _
    exact (Gives.symbolOf hfind rest).bind (.pure _ rest)
  keyword rest _ := by simp
  iteration f rest _ := .iterationHead_name f name _ _

lemma StartsPlain.refuses_name {α : Type} {ts : List Token} (h : StartsPlain ts)
    {f : String → Grammar α} (hf : ∀ name us, (∀ t ∈ us.head?,
      ∃ s, t = .symbol s ∧ s ∉ [Symbol.assign, .addAssign, .increment, .decrement]) →
      Refuses (f name) us) : Refuses (Grammar.name >>= f) ts := by
  cases ts with
  | nil => exact Refuses.bind (.name (by simp))
  | cons t ts =>
    cases t with
    | name s => exact (Gives.name s ts).bind_refuses (hf s ts (h.behindName s rfl))
    | _ => exact Refuses.bind (.name (by simp))

lemma StartsPlain.refuses_declarationKind {ts : List Token} (h : StartsPlain ts) :
    Refuses declarationKind ts :=
  .declarationKind fun k hk => h.keyword k (by revert k; decide)

/-- No assignment and no step starts here: behind a name there is none of their symbols. -/
lemma StartsPlain.refuses_symbolOf {α β : Type} {ts : List Token} (h : StartsPlain ts)
    {meanings : List (Symbol × β)}
    (hmeanings : ∀ m ∈ meanings, m.1 ∈ [Symbol.assign, .addAssign, .increment, .decrement])
    {f : String → β → Grammar α} :
    Refuses (Grammar.name >>= fun name => Grammar.symbolOf meanings >>= f name) ts := by
  refine h.refuses_name fun name us hus => Refuses.bind (.symbolOf fun m hm hhead => ?_)
  obtain ⟨s, hs, hnot⟩ := hus _ hhead
  exact hnot (Token.symbol.inj hs ▸ hmeanings m hm)

lemma SpellsSimple.expression {ts : List Token} {e : Expression} (h : Spells 1 ts e)
    (hstart : ∀ rest, Ended rest → StartsPlain (ts ++ rest)) : SpellsSimple ts (.expression e) where
  reads room rest hrest hroom := by
    have hplain := hstart rest hrest
    refine .later (Refuses.bind hplain.refuses_declarationKind) ?_
    refine .later (hplain.refuses_symbolOf (by simp))
      (.later (hplain.refuses_symbolOf (by simp)) ?_)
    exact .first ((h.reads (Nat.zero_le _) room rest hrest hroom).map _) _
  keyword rest hrest k hk := (hstart rest hrest).keyword k (by revert k; decide)
  iteration f rest hrest := by
    have hplain := hstart rest hrest
    refine (Gives.optional_none hplain.refuses_declarationKind).bind_refuses ?_
    refine hplain.refuses_name fun name us hus => Refuses.bind (.loopKind fun t ht => ?_)
    obtain ⟨s, hs, -⟩ := hus t ht
    exact ⟨s, hs⟩

/-! ## Sequences of statements -/

lemma Refuses.simple {rest : List Token} (h : Ended rest) (room : Nat) :
    Refuses (Grammar.simple room) rest := by
  refine .oneOf fun g hg => ?_
  simp only [List.mem_cons, List.not_mem_nil, or_false] at hg
  rcases hg with rfl | rfl | rfl | rfl
  · exact Refuses.bind (.declarationKind fun k _ => h.head?_ne nofun)
  · exact Refuses.bind (.name fun s => h.head?_ne nofun)
  · exact Refuses.bind (.name fun s => h.head?_ne nofun)
  · exact Refuses.map _ (.climb h room 0)

lemma Refuses.statement {rest : List Token} (h : Ended rest) (total room : Nat) :
    Refuses (Grammar.statement total room) rest := by
  cases room with
  | zero => exact .fail rest
  | succ room =>
    refine .oneOf fun g hg => ?_
    simp only [List.mem_cons, List.not_mem_nil, or_false] at hg
    rcases hg with rfl | rfl | rfl | rfl
    · exact Refuses.bind (.keyword (h.head?_ne nofun))
    · exact Refuses.bind (.keyword (h.head?_ne nofun))
    · exact Refuses.bind (.keyword (h.head?_ne nofun))
    · exact .simple h total

lemma Gives.semicolons_nil {rest : List Token} (h : rest.head? ≠ some (.symbol .semicolon))
    (room : Nat) : Gives (semicolons room) rest () rest :=
  (Gives.many_nil (.symbol h) room).map _

lemma Gives.semicolons_one {rest : List Token} (h : rest.head? ≠ some (.symbol .semicolon))
    (room : Nat) : Gives (semicolons (room + 1)) (.symbol .semicolon :: rest) () rest :=
  (Gives.many_cons (.symbol .semicolon rest) (.many_nil (.symbol h) room)).map _

/-- A statement with the semicolons around it. -/
def delimited {α : Type} (g : Grammar α) (room : Nat) : Grammar α := do
  semicolons room
  let a ← g
  semicolons room
  return a

/-- Pieces with a semicolon behind each one. -/
def terminated (pieces : List (List Token)) : List Token :=
  pieces.flatMap (· ++ [.symbol .semicolon])

section Sequences

variable {α : Type} {g : Grammar α} {room : Nat} {pieces : List (List Token)} {as : List α}
variable {rest : List Token}

lemma length_le_length_terminated (pieces : List (List Token)) :
    pieces.length ≤ (terminated pieces).length := by
  induction pieces with
  | nil => exact Nat.le_refl 0
  | cons ts pieces ih =>
    rw [terminated, List.flatMap_cons, List.length_append, List.length_append, List.length_cons,
      List.length_singleton, ← terminated]
    omega

/-- What is read starts with no semicolon if nothing that starts with one can be read. -/
lemma head?_ne_semicolon (hg : ∀ rest, Ended rest → Refuses g rest)
    (h : List.Forall₂ (Reads g room) pieces as) (hrest : rest.head? ≠ some (.symbol .semicolon))
    (hroom : (terminated pieces).length + rest.length < room) :
    (terminated pieces ++ rest).head? ≠ some (.symbol .semicolon) := by
  cases h with
  | nil => exact hrest
  | @cons ts a later as hpiece hlater =>
    simp only [terminated, List.flatMap_cons, List.length_append, List.length_cons,
      List.length_nil] at hroom
    have hgives := hpiece (.symbol .semicolon :: (terminated later ++ rest))
      (.symbol (by decide) _)
      (by simp only [terminated, List.length_cons, List.length_append]; omega)
    intro hhead
    rw [terminated, List.flatMap_cons, List.append_assoc, List.append_assoc,
      List.singleton_append, ← terminated] at hhead
    refine hgives.not_refuses (hg _ fun t ht => ⟨.semicolon, by decide, ?_⟩)
    rw [hhead] at ht
    exact (Option.some.inj ht).symm

lemma Gives.many_delimited (hg : ∀ rest, Ended rest → Refuses g rest)
    (h : List.Forall₂ (Reads g room) pieces as) (hrest : Ended rest)
    (hsemicolon : rest.head? ≠ some (.symbol .semicolon)) (count : Nat)
    (hcount : pieces.length ≤ count) (hroom : (terminated pieces).length + rest.length < room) :
    Gives (many (delimited g room) count) (terminated pieces ++ rest) as rest := by
  induction h generalizing count with
  | nil =>
    exact .many_nil ((Gives.semicolons_nil hsemicolon room).bind_refuses (hg rest hrest).bind) count
  | @cons ts a later as hpiece hlater ih =>
    -- the semicolons in front of a piece are none, and those behind it are just its own
    have hhead := head?_ne_semicolon hg (.cons hpiece hlater) hsemicolon hroom
    obtain ⟨count, rfl⟩ : ∃ count', count = count' + 1 :=
      ⟨count - 1, by rw [List.length_cons] at hcount; omega⟩
    simp only [terminated, List.flatMap_cons, List.length_append, List.length_cons,
      List.length_nil] at hroom hcount
    have hlast := head?_ne_semicolon hg hlater hsemicolon (by rw [terminated]; omega)
    rw [terminated, List.flatMap_cons, List.append_assoc, List.append_assoc,
      List.singleton_append, ← terminated] at hhead ⊢
    have hmore := ih count (by omega) (by rw [terminated]; omega)
    have hfirst := hpiece (.symbol .semicolon :: (terminated later ++ rest))
      (.symbol (by decide) _)
      (by simp only [terminated, List.length_cons, List.length_append]; omega)
    have hsemicolons : Gives (semicolons room) (.symbol .semicolon :: (terminated later ++ rest)) ()
        (terminated later ++ rest) := by
      obtain ⟨room, rfl⟩ : ∃ room', room = room' + 1 := ⟨room - 1, by omega⟩
      exact .semicolons_one hlast room
    exact .many_cons ((Gives.semicolons_nil hhead room).bind
      (hfirst.bind (hsemicolons.bind (.pure a _)))) hmore

end Sequences

/-! ## Statements with a body -/

/-- Tokens spell a statement if they are read as that statement wherever an end follows. -/
def SpellsStatement (ts : List Token) (s : Statement) : Prop :=
  ∀ total room, ts.length < room → Reads (statement total room) total ts s

lemma SpellsSimple.statement {ts : List Token} {s : Statement} (h : SpellsSimple ts s) :
    SpellsStatement ts s := by
  intro total room hroom rest hrest htotal
  obtain ⟨room, rfl⟩ : ∃ room', room = room' + 1 := ⟨room - 1, by omega⟩
  have hkeyword := h.keyword rest hrest
  refine .later (Refuses.bind (.keyword (hkeyword .ifWord (by decide)))) ?_
  refine .later (Refuses.bind (.keyword (hkeyword .forWord (by decide)))) ?_
  refine .later (Refuses.bind (.keyword (hkeyword .forWord (by decide)))) ?_
  exact .first (h.reads total rest hrest htotal) _

lemma reads_of_spellsStatement {pieces : List (List Token)} {ss : List Statement}
    (h : List.Forall₂ SpellsStatement pieces ss) {room : Nat}
    (hroom : (terminated pieces).length < room) (total : Nat) :
    List.Forall₂ (Reads (statement total room) total) pieces ss := by
  induction h with
  | nil => exact .nil
  | cons hpiece _ ih =>
    simp only [terminated, List.flatMap_cons, List.length_append, List.length_cons,
      List.length_nil] at hroom
    exact .cons (hpiece total room (by omega)) (ih (by rw [terminated]; omega))

/-- The statements of a body in braces. -/
def braced (pieces : List (List Token)) : List Token :=
  .symbol .curlyOpen :: (terminated pieces ++ [.symbol .curlyClose])

lemma length_braced (pieces : List (List Token)) :
    (braced pieces).length = (terminated pieces).length + 2 := by
  simp [braced]

lemma Gives.body {pieces : List (List Token)} {ss : List Statement}
    (h : List.Forall₂ SpellsStatement pieces ss) {total room : Nat} {rest : List Token}
    (hroom : (terminated pieces).length < room)
    (htotal : (braced pieces).length + rest.length < total) :
    Gives (body (statement total room) total) (braced pieces ++ rest) ss rest := by
  rw [length_braced] at htotal
  have hreads := reads_of_spellsStatement h hroom total
  have hend : Ended (.symbol .curlyClose :: rest) := .symbol (by decide) rest
  have hlength :
      (terminated pieces).length + (Token.symbol .curlyClose :: rest).length < total := by
    rw [List.length_cons]
    omega
  have hrefuses (rest : List Token) (hrest : Ended rest) := Refuses.statement hrest total room
  have hcount := length_le_length_terminated pieces
  have hclose : (Token.symbol .curlyClose :: rest).head? ≠ some (.symbol .semicolon) := by simp
  have hhead := head?_ne_semicolon hrefuses hreads hclose hlength
  rw [braced, List.cons_append, List.append_assoc, List.singleton_append]
  exact (Gives.between ((Gives.semicolons_nil hhead total).bind
    (.many_delimited hrefuses hreads hend hclose total (by omega) hlength))).or_left _

/-- The other branch of a condition; an empty one is left out. -/
def elseBranch : List (List Token) → List Token
  | [] => []
  | ts :: pieces => .keyword .elseWord :: braced (ts :: pieces)

lemma SpellsStatement.branch {ts : List Token} {c : Expression}
    {thenPieces elsePieces : List (List Token)} {thenBody elseBody : List Statement}
    (hc : Spells 1 ts c) (hthen : List.Forall₂ SpellsStatement thenPieces thenBody)
    (helse : List.Forall₂ SpellsStatement elsePieces elseBody) :
    SpellsStatement (.keyword .ifWord :: .symbol .roundOpen ::
      (ts ++ .symbol .roundClose :: (braced thenPieces ++ elseBranch elsePieces)))
      (.branch c thenBody elseBody) := by
  intro total room hroom rest hrest htotal
  obtain ⟨room, rfl⟩ : ∃ room', room = room' + 1 := ⟨room - 1, by omega⟩
  simp only [List.length_cons, List.length_append, length_braced] at hroom htotal
  simp only [List.cons_append, List.append_assoc]
  have hcondition := hc.reads (Nat.zero_le _) total
    (.symbol .roundClose :: (braced thenPieces ++ (elseBranch elsePieces ++ rest)))
    (.symbol (by decide) _)
    (by simp only [List.length_cons, List.length_append, length_braced]; omega)
  have hbody : Gives (body (statement total room) total)
      (braced thenPieces ++ (elseBranch elsePieces ++ rest)) thenBody
      (elseBranch elsePieces ++ rest) :=
    .body hthen (by omega) (by rw [length_braced, List.length_append]; omega)
  refine .first ((Gives.keyword .ifWord _).bind ((Gives.inParentheses hcondition).bind
    (hbody.bind ?_))) _
  cases helse with
  | nil =>
    exact (Gives.optional_none (Refuses.bind (.keyword (hrest.head?_ne nofun)))).bind (.pure _ rest)
  | @cons us s pieces ss hpiece hpieces =>
    rw [elseBranch, List.length_cons, length_braced] at hroom htotal
    have helseBody : Gives (body (statement total room) total) (braced (us :: pieces) ++ rest)
        (s :: ss) rest :=
      .body (.cons hpiece hpieces) (by omega) (by rw [length_braced]; omega)
    exact (Gives.optional_some ((Gives.keyword .elseWord _).bind helseBody)).bind (.pure _ rest)

lemma Gives.loopKind (kind : LoopKind) (rest : List Token) :
    Gives Grammar.loopKind (kind.token :: rest) kind rest :=
  .token (by cases kind <;> rfl)

lemma SpellsStatement.forEach {binding : String} {kind : LoopKind} {ts : List Token}
    {iterable : Expression} {pieces : List (List Token)} {ss : List Statement}
    (h : Spells 1 ts iterable) (hbody : List.Forall₂ SpellsStatement pieces ss) :
    SpellsStatement (.keyword .forWord :: .symbol .roundOpen :: .name binding :: kind.token ::
      (ts ++ .symbol .roundClose :: braced pieces)) (.forEach binding kind iterable ss) := by
  intro total room hroom rest hrest htotal
  obtain ⟨room, rfl⟩ : ∃ room', room = room' + 1 := ⟨room - 1, by omega⟩
  simp only [List.length_cons, List.length_append, length_braced] at hroom htotal
  simp only [List.cons_append, List.append_assoc]
  have hiterable := h.reads (Nat.zero_le _) total
    (.symbol .roundClose :: (braced pieces ++ rest)) (.symbol (by decide) _)
    (by simp only [List.length_cons, List.length_append, length_braced]; omega)
  have hstatements : Gives (body (statement total room) total) (braced pieces ++ rest) ss rest :=
    .body hbody (by omega) (by rw [length_braced]; omega)
  refine .later (Refuses.bind (.keyword (by simp))) (.first ?_ _)
  refine (Gives.keyword .forWord _).bind (Gives.bind (a := (binding, kind, iterable))
    (.inParentheses ?_) (hstatements.bind (.pure _ rest)))
  exact (Gives.optional_none (.declarationKind (by simp))).bind ((Gives.name binding _).bind
    ((Gives.loopKind kind _).bind (hiterable.bind (.pure _ _))))

/-- Tokens spell something that may be left out. -/
inductive SpellsOption {α : Type} (spells : List Token → α → Prop) : List Token → Option α → Prop
  | none : SpellsOption spells [] none
  | some {ts : List Token} {a : α} : spells ts a → SpellsOption spells ts (some a)

lemma SpellsOption.reads {α : Type} {spells : List Token → α → Prop} {ts : List Token}
    {o : Option α} (h : SpellsOption spells ts o) {g : Grammar α} {room : Nat}
    (hspells : ∀ ts a, spells ts a → Reads g room ts a) (hg : ∀ rest, Ended rest → Refuses g rest) :
    Reads (optional g) room ts o := by
  intro rest hrest hroom
  cases h with
  | none => exact .optional_none (hg rest hrest)
  | some h => exact .optional_some (hspells _ _ h rest hrest hroom)

lemma SpellsOption.iteration {ts : List Token} {start : Option Statement}
    (h : SpellsOption SpellsSimple ts start) {α : Type} (f : String → LoopKind → Grammar α)
    {rest : List Token} (hrest : Ended rest) : Refuses (iterationHead f) (ts ++ rest) := by
  cases h with
  | none =>
    refine (Gives.optional_none (.declarationKind fun k _ => hrest.head?_ne nofun)).bind_refuses ?_
    exact Refuses.bind (.name fun s => hrest.head?_ne nofun)
  | some h => exact h.iteration f rest hrest

lemma SpellsStatement.loop {startTokens conditionTokens stepTokens : List Token}
    {start step : Option Statement} {condition : Option Expression} {pieces : List (List Token)}
    {ss : List Statement} (hstart : SpellsOption SpellsSimple startTokens start)
    (hcondition : SpellsOption (Spells 1) conditionTokens condition)
    (hstep : SpellsOption SpellsSimple stepTokens step)
    (hbody : List.Forall₂ SpellsStatement pieces ss) :
    SpellsStatement (.keyword .forWord :: .symbol .roundOpen ::
      (startTokens ++ .symbol .semicolon :: (conditionTokens ++ .symbol .semicolon ::
        (stepTokens ++ .symbol .roundClose :: braced pieces))))
      (.loop start condition step ss) := by
  intro total room hroom rest hrest htotal
  obtain ⟨room, rfl⟩ : ∃ room', room = room' + 1 := ⟨room - 1, by omega⟩
  simp only [List.length_cons, List.length_append, length_braced] at hroom htotal
  simp only [List.cons_append, List.append_assoc]
  have hsimple (ts : List Token) (s : Statement) (h : SpellsSimple ts s) := h.reads total
  have hexpression (ts : List Token) (e : Expression) (h : Spells 1 ts e) :=
    h.reads (Nat.zero_le _) total
  have hnone (rest : List Token) (hrest : Ended rest) := Refuses.simple hrest total
  have hstep' := hstep.reads hsimple hnone (.symbol .roundClose :: (braced pieces ++ rest))
    (.symbol (by decide) _)
    (by simp only [List.length_cons, List.length_append, length_braced]; omega)
  have hcondition' := hcondition.reads hexpression (fun _ hrest => .climb hrest total 0)
    (.symbol .semicolon :: (stepTokens ++ .symbol .roundClose :: (braced pieces ++ rest)))
    (.symbol (by decide) _)
    (by simp only [List.length_cons, List.length_append, length_braced]; omega)
  have hstart' := hstart.reads hsimple hnone (.symbol .semicolon :: (conditionTokens ++
    .symbol .semicolon :: (stepTokens ++ .symbol .roundClose :: (braced pieces ++ rest))))
    (.symbol (by decide) _)
    (by simp only [List.length_cons, List.length_append, length_braced]; omega)
  have hstatements : Gives (body (statement total room) total) (braced pieces ++ rest) ss rest :=
    .body hbody (by omega) (by rw [length_braced]; omega)
  refine .later (Refuses.bind (.keyword (by simp))) (.later ?_ (.first ?_ _))
  · -- a loop over parts is tried first and fails within its head
    refine (Gives.keyword .forWord _).bind_refuses (Refuses.bind ?_)
    refine (Gives.symbol .roundOpen _).bind_refuses (Refuses.bind ?_)
    exact hstart.iteration _ (.symbol (by decide) _)
  · refine (Gives.keyword .forWord _).bind (Gives.bind (a := (start, condition, step))
      (.inParentheses ?_) (hstatements.bind (.pure _ rest)))
    exact hstart'.bind ((Gives.symbol .semicolon _).bind (hcondition'.bind
      ((Gives.symbol .semicolon _).bind (hstep'.bind (.pure _ _)))))

/-! ## Programs -/

/-- Statements with a semicolon behind each one are read as a program. -/
lemma read_of_spells {pieces : List (List Token)} {ss : List Statement}
    (h : List.Forall₂ SpellsStatement pieces ss) : Program.read (terminated pieces) = .ok ss := by
  have hcount := length_le_length_terminated pieces
  have hroom : (terminated pieces).length < (terminated pieces).length + 2 := by omega
  have hreads := reads_of_spellsStatement h hroom ((terminated pieces).length + 2)
  have hstatements := Gives.many_delimited (fun _ hrest => .statement hrest _ _) hreads .nil
    (by simp) ((terminated pieces).length + 2) (by omega) (by rw [List.length_nil]; omega)
  rw [List.append_nil] at hstatements
  have hprogram : Gives (program ((terminated pieces).length + 2)) (terminated pieces) ss [] := by
    refine hstatements.bind (Gives.bind (a := ()) (fun index reach => ⟨index, reach, rfl⟩) ?_)
    exact .pure ss []
  obtain ⟨index, reach, hsuccess⟩ := hprogram 0 0
  rw [Program.read, hsuccess]

end Grammar
end ViewKit
