/-
# What programs can be read

A program that is read from legible tokens has a legible spelling, and its loops are formed:
what they start with and their steps are statements without bodies (`formed_of_read`).  The
rules follow how grammars are built, as those for reading do.
-/
import ViewKit.Proofs.Grammar.Spelling
import ViewKit.Proofs.Lexer.Text

namespace ViewKit

/-! ## Legible spellings -/

namespace Token

@[simp] lemma legible_symbol (s : Symbol) : (symbol s).Legible := ⟨rfl, nofun⟩

@[simp] lemma legible_keyword (k : Keyword) : (keyword k).Legible := ⟨rfl, nofun⟩

@[simp] lemma legible_number (x : Float) : (number x).Legible := ⟨rfl, nofun⟩

@[simp] lemma legible_text (s : String) : (text s).Legible := ⟨rfl, nofun⟩

@[simp] lemma legible_name (s : String) : (name s).Legible ↔ Lexer.IsName s :=
  ⟨fun h => h.2 s rfl, fun h => ⟨rfl, fun s' hs => by cases hs; exact h⟩⟩

end Token

/-- Some tokens are all legible. -/
def AllLegible (ts : List Token) : Prop := ∀ t ∈ ts, t.Legible

@[simp] lemma allLegible_nil : AllLegible [] := nofun

@[simp] lemma allLegible_cons (t : Token) (ts : List Token) :
    AllLegible (t :: ts) ↔ t.Legible ∧ AllLegible ts :=
  List.forall_mem_cons

@[simp] lemma allLegible_append (ts us : List Token) :
    AllLegible (ts ++ us) ↔ AllLegible ts ∧ AllLegible us :=
  List.forall_mem_append

namespace Grammar

lemma allLegible_flatMap {pieces : List (List Token)} {f : List Token → List Token}
    (h : ∀ ts ∈ pieces, AllLegible (f ts)) : AllLegible (pieces.flatMap f) := by
  intro t ht
  obtain ⟨ts, hts, hmem⟩ := List.mem_flatMap.1 ht
  exact h ts hts t hmem

lemma allLegible_separated {pieces : List (List Token)} (h : ∀ ts ∈ pieces, AllLegible ts) :
    AllLegible (separated pieces) := by
  cases pieces with
  | nil => exact allLegible_nil
  | cons ts later =>
    obtain ⟨hts, hlater⟩ := List.forall_mem_cons.1 h
    refine (allLegible_append _ _).2 ⟨hts, allLegible_flatMap fun us hus => ?_⟩
    simpa using hlater us hus

lemma allLegible_terminated {pieces : List (List Token)} (h : ∀ ts ∈ pieces, AllLegible ts) :
    AllLegible (terminated pieces) :=
  allLegible_flatMap fun ts hts => by simpa using h ts hts

/-! ## Rules -/

variable {α β : Type} {g : Grammar α} {P : α → Prop} {Q : β → Prop}

/-- Whatever the grammar makes of legible tokens has a property. -/
def Yields (g : Grammar α) (P : α → Prop) : Prop :=
  ∀ t reach a behind reach', g t reach = .success a behind reach' → AllLegible t.rest →
    P a ∧ AllLegible behind.rest

lemma Yields.pure {a : α} (h : P a) : Yields (Pure.pure a) P := by
  intro t reach a' behind reach' hsuccess hlegible
  cases hsuccess
  exact ⟨h, hlegible⟩

lemma Yields.bind {f : α → Grammar β} (h : Yields g P) (hf : ∀ a, P a → Yields (f a) Q) :
    Yields (g >>= f) Q := by
  intro t reach b behind reach' hsuccess hlegible
  simp only [Bind.bind] at hsuccess
  split at hsuccess
  · next a t₁ reach₁ hg =>
    obtain ⟨ha, hlegible₁⟩ := h _ _ _ _ _ hg hlegible
    exact hf a ha _ _ _ _ _ hsuccess hlegible₁
  · cases hsuccess

lemma Yields.map {f : α → β} (h : Yields g P) (hf : ∀ a, P a → Q (f a)) : Yields (f <$> g) Q :=
  h.bind fun a ha => .pure (hf a ha)

lemma Yields.fail : Yields (fail : Grammar α) P := nofun

lemma Yields.or {other : Grammar α} (h : Yields g P) (hother : Yields other P) :
    Yields (or g other) P := by
  intro t reach a behind reach' hsuccess hlegible
  simp only [Grammar.or] at hsuccess
  split at hsuccess
  · next hg => cases hsuccess; exact h _ _ _ _ _ hg hlegible
  · exact hother _ _ _ _ _ hsuccess hlegible

lemma Yields.oneOf {gs : List (Grammar α)} (h : ∀ g ∈ gs, Yields g P) : Yields (oneOf gs) P := by
  induction gs with
  | nil => nofun
  | cons g gs ih =>
    have hg := h g List.mem_cons_self
    have hgs := ih fun x hx => h x (List.mem_cons_of_mem g hx)
    cases gs with
    | nil => exact hg
    | cons => exact hg.or hgs

lemma Yields.token {test : Token → Option α} (h : ∀ t a, t.Legible → test t = some a → P a) :
    Yields (token test) P := by
  intro t reach a behind reach' hsuccess hlegible
  simp only [Grammar.token] at hsuccess
  split at hsuccess
  · cases hsuccess
  · next x rest hrest =>
    rw [hrest] at hlegible
    split at hsuccess
    · next hx =>
      cases hsuccess
      exact ⟨h x _ (hlegible x List.mem_cons_self) hx,
        fun y hy => hlegible y (List.mem_cons_of_mem x hy)⟩
    · cases hsuccess

/-- A token of which nothing has to be known. -/
lemma Yields.anyToken (test : Token → Option α) : Yields (Grammar.token test) fun _ => True :=
  .token fun _ _ _ _ => trivial

lemma Yields.name : Yields name Lexer.IsName := by
  refine .token fun t s hlegible ht => ?_
  split at ht
  · cases ht
    exact (Token.legible_name _).1 hlegible
  · cases ht

lemma Yields.optional (h : Yields g P) : Yields (optional g) fun o => ∀ a ∈ o, P a :=
  (h.map fun _ ha _ hmem => Option.some.inj hmem ▸ ha).or (.pure nofun)

lemma Yields.many (h : Yields g P) (room : Nat) : Yields (many g room) fun as => ∀ a ∈ as, P a := by
  induction room with
  | zero => exact .pure nofun
  | succ room ih =>
    refine .or (h.bind fun a ha => ih.bind fun as has => .pure ?_) (.pure nofun)
    exact List.forall_mem_cons.2 ⟨ha, has⟩

lemma Yields.moreItems (h : Yields g P) (room : Nat) :
    Yields (moreItems g room) fun as => ∀ a ∈ as, P a := by
  induction room with
  | zero => exact .pure nofun
  | succ room ih =>
    refine .or (Yields.bind (.anyToken _) fun _ _ => .or (h.bind fun a ha => ih.bind fun as has =>
      .pure ?_) (.pure nofun)) (.pure nofun)
    exact List.forall_mem_cons.2 ⟨ha, has⟩

lemma Yields.items (h : Yields g P) (room : Nat) :
    Yields (items g room) fun as => ∀ a ∈ as, P a := by
  refine .or (h.bind fun a ha => (h.moreItems room).bind fun as has => .pure ?_) (.pure nofun)
  exact List.forall_mem_cons.2 ⟨ha, has⟩

lemma Yields.between {opening closing : Symbol} (h : Yields g P) :
    Yields (between opening closing g) P :=
  Yields.bind (.anyToken _) fun _ _ => h.bind fun _ ha =>
    Yields.bind (.anyToken _) fun _ _ => .pure ha

/-! ## Expressions -/

/-- The spelling of an expression is legible. -/
def LegibleExpression (e : Expression) : Prop := AllLegible e.spelling

lemma LegibleExpression.enclosed {e : Expression} (h : LegibleExpression e) :
    AllLegible (e.enclosed e.spelling) := by
  rw [LegibleExpression] at h
  rw [Expression.enclosed]
  split <;> simpa using h

lemma spellings_eq_map (es : List Expression) :
    Expression.spellings es = es.map Expression.spelling := by
  induction es with
  | nil => rfl
  | cons e es ih => rw [Expression.spellings, ih, List.map_cons]

lemma fieldSpellings_eq_map (fields : List (String × Expression)) :
    Expression.fieldSpellings fields =
      fields.map fun field => .text field.1 :: .symbol .colon :: field.2.spelling := by
  induction fields with
  | nil => rfl
  | cons field fields ih => rw [Expression.fieldSpellings, ih, List.map_cons]

lemma legible_spellings {es : List Expression} (h : ∀ e ∈ es, LegibleExpression e) :
    AllLegible (separated (Expression.spellings es)) := by
  refine allLegible_separated ?_
  rw [spellings_eq_map]
  exact List.forall_mem_map.2 h

lemma legible_fieldSpellings {fields : List (String × Expression)}
    (h : ∀ field ∈ fields, LegibleExpression field.2) :
    AllLegible (separated (Expression.fieldSpellings fields)) := by
  refine allLegible_separated ?_
  rw [fieldSpellings_eq_map]
  refine List.forall_mem_map.2 fun field hfield => ?_
  simpa [LegibleExpression] using h field hfield

lemma legible_unaryToken (op : UnaryOperator) : op.token.Legible := by
  cases op <;> simp [UnaryOperator.token]

lemma Yields.suffix {operand : Expression} {g : Grammar Expression}
    (hoperand : LegibleExpression operand) (hg : Yields g LegibleExpression) (room : Nat) :
    Yields (Grammar.suffix operand g room) LegibleExpression := by
  have henclosed := hoperand.enclosed
  refine .oneOf fun g hmem => ?_
  simp only [List.mem_cons, List.not_mem_nil, or_false] at hmem
  rcases hmem with rfl | rfl | rfl
  -- a member, an index, a call
  · refine Yields.bind (.anyToken _) fun _ _ => Yields.bind .name fun s hs => .pure ?_
    simpa [LegibleExpression, Expression.spelling] using ⟨henclosed, hs⟩
  · refine hg.between.bind fun i hi => .pure ?_
    rw [LegibleExpression] at hi ⊢
    simpa [Expression.spelling] using ⟨henclosed, hi⟩
  · refine (hg.items room).between.bind fun es hes => .pure ?_
    have harguments := legible_spellings hes
    rw [LegibleExpression]
    simpa [Expression.spelling] using ⟨henclosed, harguments⟩

lemma Yields.atom {g : Grammar Expression} (hg : Yields g LegibleExpression) (room : Nat) :
    Yields (Grammar.atom g room) LegibleExpression := by
  refine .oneOf fun g hmem => ?_
  simp only [List.mem_cons, List.not_mem_nil, or_false] at hmem
  rcases hmem with rfl | rfl | rfl | rfl | rfl | rfl
  -- a literal, the owner, a name, a list, an object, an expression in parentheses
  · refine Yields.map (.anyToken _) fun l _ => ?_
    cases l with
    | bool b => cases b <;> simp [LegibleExpression, Expression.spelling, Literal.token]
    | _ => simp [LegibleExpression, Expression.spelling, Literal.token]
  · refine Yields.map (.anyToken _) fun _ _ => ?_
    simp [LegibleExpression, Expression.spelling]
  · refine Yields.name.map fun s hs => ?_
    simpa [LegibleExpression, Expression.spelling] using hs
  · refine (hg.items room).between.map fun es hes => ?_
    have hitems := legible_spellings hes
    rw [LegibleExpression]
    simpa [Expression.spelling] using hitems
  · have hfield : Yields (do
        let k ← key
        symbol .colon
        let e ← g
        return (k, e)) fun field => LegibleExpression field.2 :=
      Yields.bind (.anyToken _) fun _ _ => Yields.bind (.anyToken _) fun _ _ =>
        hg.bind fun e he => .pure he
    refine (hfield.items room).between.map fun fields hfields => ?_
    have hitems := legible_fieldSpellings hfields
    rw [LegibleExpression]
    simpa [Expression.spelling] using hitems
  · exact hg.between

lemma Yields.climb (room : Nat) :
    (∀ power, Yields (climb room power) LegibleExpression) ∧
      ∀ power operand, LegibleExpression operand →
        Yields (climbFrom room power operand) LegibleExpression := by
  induction room with
  | zero => exact ⟨fun power => .fail, fun power operand h => .pure h⟩
  | succ room ih =>
    obtain ⟨hclimb, hfrom⟩ := ih
    constructor
    · intro power
      rw [Grammar.climb]
      refine Yields.bind (.or ?_ ((hclimb 0).atom room)) (hfrom power)
      refine Yields.bind (.anyToken _) fun op _ => (hclimb _).bind fun e he => .pure ?_
      have henclosed := he.enclosed
      simpa [LegibleExpression, Expression.spelling, legible_unaryToken] using henclosed
    · -- a suffix, an operator with its right operand, a conditional, or nothing more
      intro power operand hoperand
      have henclosed := hoperand.enclosed
      refine .or ((Yields.suffix hoperand (hclimb 0) room).bind (hfrom power)) ?_
      refine .or (Yields.bind (.oneOf fun g hmem => ?_) (hfrom power)) ?_
      · obtain ⟨⟨level, meanings⟩, -, rfl⟩ := List.mem_map.1 hmem
        simp only
        split
        · refine Yields.bind (.anyToken _) fun op _ => (hclimb _).bind fun e he => .pure ?_
          have hright := he.enclosed
          simpa [LegibleExpression, Expression.spelling] using ⟨henclosed, hright⟩
        · exact .fail
      · refine .or ?_ (.pure hoperand)
        split
        · refine Yields.bind (.anyToken _) fun _ _ => (hclimb 0).bind fun a ha =>
            Yields.bind (.anyToken _) fun _ _ => (hclimb _).bind fun b hb => hfrom power _ ?_
          have htrue := ha.enclosed
          have hfalse := hb.enclosed
          simpa [LegibleExpression, Expression.spelling]
            using ⟨henclosed, htrue, hfalse⟩
        · exact .fail

lemma Yields.expression (room : Nat) : Yields (expression room) LegibleExpression :=
  (Yields.climb room).1 0

/-! ## Statements -/

/-- A statement without a body, with a legible spelling. -/
structure LegibleSimple (s : Statement) : Prop where
  isSimple : s.isSimple = true
  legible : AllLegible s.spelling

/-- A formed statement with a legible spelling. -/
structure LegibleStatement (s : Statement) : Prop where
  formed : s.Formed
  legible : AllLegible s.spelling

lemma LegibleSimple.legibleStatement {s : Statement} (h : LegibleSimple s) :
    LegibleStatement s where
  formed := by
    have hsimple := h.isSimple
    cases s with
    | declaration => exact .declaration
    | assignment => exact .assignment
    | expression => exact .expression
    | _ => cases hsimple
  legible := h.legible

lemma legible_assignment {name : String} {e : Expression} (op : AssignmentOperator)
    (hname : Lexer.IsName name) (he : LegibleExpression e) :
    LegibleSimple (.assignment name op e) where
  isSimple := rfl
  legible := by
    rw [LegibleExpression] at he
    rw [Statement.spelling]
    split <;> simp [hname, he]

lemma Yields.simple (room : Nat) : Yields (simple room) LegibleSimple := by
  refine .oneOf fun g hmem => ?_
  simp only [List.mem_cons, List.not_mem_nil, or_false] at hmem
  rcases hmem with rfl | rfl | rfl | rfl
  -- a declaration, an assignment, a step, an expression
  · have hvalue : Yields (Grammar.optional (do
        symbol .assign
        Grammar.expression room)) fun o => ∀ e ∈ o, LegibleExpression e :=
      .optional (Yields.bind (.anyToken _) fun _ _ => .expression room)
    refine Yields.bind (.anyToken _) fun kind _ => Yields.bind .name fun name hname =>
      hvalue.bind fun value hvalue => .pure ⟨rfl, ?_⟩
    have hkind : kind.token.Legible := by cases kind <;> simp [DeclarationKind.token]
    cases value with
    | none => simp [Statement.spelling, hkind, hname]
    | some e =>
      have he := hvalue e rfl
      rw [LegibleExpression] at he
      simp [Statement.spelling, hkind, hname, he]
  · exact Yields.bind .name fun name hname => Yields.bind (.anyToken _) fun op _ =>
      (Yields.expression room).bind fun e he => .pure (legible_assignment op hname he)
  · refine Yields.bind .name fun name hname => Yields.bind (.anyToken _) fun distance _ => .pure ?_
    refine legible_assignment .add hname ?_
    simp [LegibleExpression, Expression.spelling, Literal.token]
  · exact (Yields.expression room).map fun e he => ⟨rfl, he⟩

lemma statementSpellings_eq_map (ss : List Statement) :
    Statement.spellings ss = ss.map Statement.spelling := by
  induction ss with
  | nil => rfl
  | cons s ss ih => rw [Statement.spellings, ih, List.map_cons]

lemma legible_terminated {ss : List Statement} (h : ∀ s ∈ ss, LegibleStatement s) :
    AllLegible (terminated (Statement.spellings ss)) := by
  refine allLegible_terminated ?_
  rw [statementSpellings_eq_map]
  exact List.forall_mem_map.2 fun s hs => (h s hs).legible

lemma legible_braced {ss : List Statement} (h : ∀ s ∈ ss, LegibleStatement s) :
    AllLegible (braced (Statement.spellings ss)) := by
  simpa [braced] using legible_terminated h

lemma legible_elseBranch {ss : List Statement} (h : ∀ s ∈ ss, LegibleStatement s) :
    AllLegible (elseBranch (Statement.spellings ss)) := by
  have hbraced := legible_braced h
  cases hpieces : Statement.spellings ss with
  | nil => exact allLegible_nil
  | cons ts pieces =>
    rw [hpieces] at hbraced
    simpa [elseBranch] using hbraced

lemma legible_optionSpelling {o : Option Statement} (h : ∀ s ∈ o, LegibleSimple s) :
    AllLegible (Statement.optionSpelling o) := by
  cases o with
  | none => exact allLegible_nil
  | some s => exact (h s rfl).legible

lemma Yields.semicolons (room : Nat) : Yields (semicolons room) fun _ => True :=
  (Yields.many (.anyToken _) room).map fun _ _ => trivial

lemma Yields.delimited {g : Grammar α} (h : Yields g P) (room : Nat) :
    Yields (delimited g room) P :=
  (Yields.semicolons room).bind fun _ _ => h.bind fun _ ha =>
    (Yields.semicolons room).bind fun _ _ => .pure ha

lemma Yields.body {g : Grammar Statement} (h : Yields g LegibleStatement) (room : Nat) :
    Yields (body g room) fun ss => ∀ s ∈ ss, LegibleStatement s := by
  refine .or ?_ ?_
  · exact Yields.between ((Yields.semicolons room).bind fun _ _ => (h.delimited room).many room)
  · refine h.bind fun s hs => (Yields.semicolons room).bind fun _ _ => .pure ?_
    simpa using hs

lemma legible_branch {c : Expression} {thenBody elseBody : List Statement}
    (hc : LegibleExpression c) (hthen : ∀ s ∈ thenBody, LegibleStatement s)
    (helse : ∀ s ∈ elseBody, LegibleStatement s) :
    LegibleStatement (.branch c thenBody elseBody) where
  formed := .branch (fun s hs => (hthen s hs).formed) fun s hs => (helse s hs).formed
  legible := by
    rw [LegibleExpression] at hc
    simp [Statement.spelling, hc, legible_braced hthen, legible_elseBranch helse]

lemma legible_loopKind (kind : LoopKind) : kind.token.Legible := by
  cases kind with
  | items => exact (Token.legible_name "of").2 ⟨'o', ['f'], rfl, rfl,
      List.all_eq_true.1 rfl, fun k => by cases k <;> decide⟩
  | keys => exact Token.legible_keyword _

lemma legible_forEach {binding : String} (kind : LoopKind) {iterable : Expression}
    {body : List Statement} (hbinding : Lexer.IsName binding)
    (hiterable : LegibleExpression iterable)
    (hbody : ∀ s ∈ body, LegibleStatement s) :
    LegibleStatement (.forEach binding kind iterable body) where
  formed := .forEach fun s hs => (hbody s hs).formed
  legible := by
    rw [LegibleExpression] at hiterable
    simp [Statement.spelling, hbinding, legible_loopKind, hiterable, legible_braced hbody]

lemma legible_loop {start step : Option Statement} {condition : Option Expression}
    {body : List Statement} (hstart : ∀ s ∈ start, LegibleSimple s)
    (hcondition : ∀ e ∈ condition, LegibleExpression e) (hstep : ∀ s ∈ step, LegibleSimple s)
    (hbody : ∀ s ∈ body, LegibleStatement s) :
    LegibleStatement (.loop start condition step body) where
  formed := .loop (fun s hs => (hstart s hs).isSimple) (fun s hs => (hstep s hs).isSimple)
    fun s hs => (hbody s hs).formed
  legible := by
    have hcondition : AllLegible ((condition.map Expression.spelling).getD []) := by
      cases condition with
      | none => exact allLegible_nil
      | some e => exact hcondition e rfl
    simp [Statement.spelling, legible_optionSpelling hstart, hcondition,
      legible_optionSpelling hstep, legible_braced hbody]

lemma Yields.statement (total room : Nat) : Yields (statement total room) LegibleStatement := by
  induction room with
  | zero => exact .fail
  | succ room ih =>
    have hbody := ih.body total
    have hexpression := Yields.expression total
    have hsimple := Yields.simple total
    refine .oneOf fun g hmem => ?_
    simp only [List.mem_cons, List.not_mem_nil, or_false] at hmem
    rcases hmem with rfl | rfl | rfl | rfl
    -- a branch, a loop over parts, a loop under a condition, a statement without a body
    · have helse : Yields (Grammar.optional (do
          keyword .elseWord
          Grammar.body (Grammar.statement total room) total))
            fun o => ∀ ss ∈ o, ∀ s ∈ ss, LegibleStatement s :=
        .optional (Yields.bind (.anyToken _) fun _ _ => hbody)
      refine Yields.bind (.anyToken _) fun _ _ => hexpression.between.bind fun c hc =>
        hbody.bind fun thenBody hthen => helse.bind fun elseBody helse => .pure ?_
      cases elseBody with
      | none => exact legible_branch hc hthen nofun
      | some ss => exact legible_branch hc hthen (helse ss rfl)
    · have hhead : Yields (do
          let _ ← Grammar.optional declarationKind
          let binding ← Grammar.name
          let kind ← loopKind
          let iterable ← Grammar.expression total
          return (binding, kind, iterable))
            fun (head : String × LoopKind × Expression) =>
              Lexer.IsName head.1 ∧ LegibleExpression head.2.2 :=
        Yields.bind (Yields.optional (.anyToken _)) fun _ _ => Yields.bind .name fun _ hname =>
          Yields.bind (.anyToken _) fun _ _ => hexpression.bind fun _ he => .pure ⟨hname, he⟩
      exact Yields.bind (.anyToken _) fun _ _ => hhead.between.bind fun (_, kind, _) hhead =>
        hbody.bind fun _ hss => .pure (legible_forEach kind hhead.1 hhead.2 hss)
    · have hhead : Yields (do
          let start ← Grammar.optional (Grammar.simple total)
          symbol .semicolon
          let condition ← Grammar.optional (Grammar.expression total)
          symbol .semicolon
          let step ← Grammar.optional (Grammar.simple total)
          return (start, condition, step))
            fun (head : Option Statement × Option Expression × Option Statement) =>
              (∀ s ∈ head.1, LegibleSimple s) ∧ (∀ e ∈ head.2.1, LegibleExpression e) ∧
                ∀ s ∈ head.2.2, LegibleSimple s :=
        hsimple.optional.bind fun _ hs => Yields.bind (.anyToken _) fun _ _ =>
          hexpression.optional.bind fun _ hc => Yields.bind (.anyToken _) fun _ _ =>
            hsimple.optional.bind fun _ ht => .pure ⟨hs, hc, ht⟩
      exact Yields.bind (.anyToken _) fun _ _ => hhead.between.bind fun (_, _, _) hhead =>
        hbody.bind fun _ hss => .pure (legible_loop hhead.1 hhead.2.1 hhead.2.2 hss)
    · exact fun t reach a behind reach' hsuccess hlegible =>
        (hsimple t reach a behind reach' hsuccess hlegible).imp_left LegibleSimple.legibleStatement

/-! ## Programs -/

lemma Yields.finish : Yields finish fun _ => True := by
  intro t reach a behind reach' hsuccess hlegible
  rw [Grammar.finish] at hsuccess
  split at hsuccess
  · cases hsuccess
    exact ⟨trivial, hlegible⟩
  · cases hsuccess

lemma Yields.program (room : Nat) :
    Yields (program room) fun p => ∀ s ∈ p, LegibleStatement s :=
  (((Yields.statement room room).delimited room).many room).bind fun _ hss =>
    Yields.finish.bind fun _ _ => .pure hss

end Grammar

/-- What is read from legible tokens is formed and has a legible spelling. -/
lemma Program.legible_of_read {ts : List Token} {p : Program} (h : Program.read ts = .ok p)
    (hts : AllLegible ts) : (∀ s ∈ p, s.Formed) ∧ AllLegible p.tokens := by
  rw [Program.read] at h
  split at h
  · next hsuccess =>
    cases h
    obtain ⟨hstatements, -⟩ := Grammar.Yields.program _ _ _ _ _ _ hsuccess hts
    exact ⟨fun s hs => (hstatements s hs).formed, Grammar.legible_terminated hstatements⟩
  · cases h

end ViewKit
