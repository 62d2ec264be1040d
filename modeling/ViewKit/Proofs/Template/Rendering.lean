/-
# Rendering forms

The code of a form has a line for each of its literal texts and slots: a call of `print` with
the quoted text, or with the name between parentheses, escaped or not.  The lexer reads each
line as the tokens it was made of (`Writes`), the grammar reads these as a statement that
prints (`Codes`), and running the statements one after the other prints the form with its
slots filled in.  So every template whose regions are slots compiles, and it renders as that
(`Form.render_text`).
-/
import ViewKit.Proofs.Grammar.Statement
import ViewKit.Proofs.Template.Delimiters
import ViewKit.Proofs.Template.Form
import ViewKit.Template.Basic

namespace ViewKit

open Grammar Lexer

/-! ## Code -/

/-- The statement that prints the value of an expression. -/
def printing (e : Expression) : Statement := .expression (.call (.name "print") [e])

/-- A text that is the code of a program, whatever code stands behind it. -/
def Codes (cs : List Char) (p : Program) : Prop :=
  ∃ pieces, List.Forall₂ SpellsStatement pieces p ∧
    (∀ t ∈ terminated pieces, t.isComment = false) ∧
    (∀ c ∈ cs.head?, Text.isBlank c = false) ∧
    ∀ rest ts, Lexes rest ts → Lexes (cs ++ rest) (terminated pieces ++ ts)

namespace Codes

variable {cs ds : List Char} {p q : Program}

lemma nil : Codes [] [] := ⟨[], .nil, nofun, nofun, fun _ _ h => h⟩

lemma append (hp : Codes cs p) (hq : Codes ds q) : Codes (cs ++ ds) (p ++ q) := by
  obtain ⟨pieces, hpieces, hcomment, hhead, hlexes⟩ := hp
  obtain ⟨pieces', hpieces', hcomment', hhead', hlexes'⟩ := hq
  have hterminated : terminated (pieces ++ pieces') = terminated pieces ++ terminated pieces' :=
    List.flatMap_append
  refine ⟨pieces ++ pieces', List.rel_append hpieces hpieces', ?_, ?_, ?_⟩
  · rw [hterminated]
    exact List.forall_mem_append.2 ⟨hcomment, hcomment'⟩
  · cases cs with
    | nil => exact hhead'
    | cons c cs => exact hhead
  · intro rest ts h
    rw [hterminated, List.append_assoc, List.append_assoc]
    exact hlexes _ _ (hlexes' _ _ h)

/-- Code is parsed as the program it is the code of. -/
lemma parse (h : Codes cs p) : Program.parse cs = .ok p := by
  obtain ⟨pieces, hpieces, hcomment, hhead, hlexes⟩ := h
  have hcs := hlexes [] [] (.nil nofun)
  rw [List.append_nil, List.append_nil] at hcs
  exact Program.parse_of_lexes hcs hhead hcomment (read_of_spells hpieces)

end Codes

/-! ### Code of expressions -/

/-- A text that is the code of an expression between parentheses or in front of a
semicolon. -/
structure Writes (cs : List Char) (ts : List Token) (e : Expression) : Prop where
  spells : Spells 1 ts e
  not_comment : ∀ t ∈ ts, t.isComment = false
  head : ∃ c ds, cs = c :: ds ∧ c ∉ symbolTails
  lexes : ∀ rest us, (∀ c ∈ rest.head?, c = ')' ∨ c = ';') → Lexes rest us →
    Lexes (cs ++ rest) (ts ++ us)

/-- A class of characters in which no operator goes on. -/
lemma not_mem_symbolTails {p : Char → Bool} (hp : symbolTails.all (fun c => !p c) = true) {c : Char}
    (h : p c = true) : c ∉ symbolTails := by
  intro hc
  have := List.all_eq_true.1 hp c hc
  rw [h] at this
  cases this

namespace Writes

variable {cs : List Char} {ts : List Token} {e : Expression}

lemma text (s : String) :
    Writes (Token.text s).written [.text s] (.literal (.text s)) where
  spells := .literal (.text s)
  not_comment := by simp [Token.isComment]
  head := ⟨'\'', _, rfl, by decide⟩
  lexes _ _ _ h := .cons (.text s) (fun _ _ => trivial) h

/-- A name, with blanks around it. -/
lemma name {n : String} (hn : IsName n) {before after : List Char}
    (hbefore : ∀ c ∈ before, Text.isBlank c = true)
    (hafter : ∀ c ∈ after, Text.isBlank c = true) :
    Writes (before ++ (n.toList ++ after)) [.name n] (.name n) where
  spells := .name n
  not_comment := by simp [Token.isComment]
  head := by
    obtain ⟨c, cs, rfl, hc, -⟩ := hn
    cases before with
    | nil =>
      exact ⟨c, cs ++ after, by simp,
        not_mem_symbolTails (p := inWord) rfl (inWord_of_startsWord hc)⟩
    | cons b bs =>
      exact ⟨b, _, rfl, not_mem_symbolTails (p := Text.isBlank) rfl (hbefore b List.mem_cons_self)⟩
  lexes rest us hrest h := by
    -- the name ends at a blank, or at what stands behind the expression
    have hends : ∀ c ∈ (after ++ rest).head?, (Token.name n).endsAt c := by
      cases after with
      | nil =>
        intro c hc
        rcases hrest c hc with rfl | rfl <;> rfl
      | cons b bs =>
        intro c hc
        cases hc
        have hb := hafter b List.mem_cons_self
        refine Bool.eq_false_iff.2 fun hword => ?_
        rw [isBlank_of_inWord hword] at hb
        cases hb
    rw [List.append_assoc, List.append_assoc]
    exact (Lexes.cons (.name hn) hends (h.blanks hafter)).blanks hbefore

lemma lexes_closed (h : Writes cs ts e) {rest : List Char} {us : List Token}
    (hrest : ∀ c ∈ rest.head?, c = ')' ∨ c = ';') (hlexes : Lexes rest us) :
    Lexes ('(' :: (cs ++ ')' :: rest))
      (.symbol .roundOpen :: (ts ++ .symbol .roundClose :: us)) := by
  have hclose : Lexes (')' :: rest) (.symbol .roundClose :: us) := by
    refine .cons (.symbol .roundClose) (fun c hc => ?_) hlexes
    rcases hrest c hc with rfl | rfl <;> simp [Token.endsAt, symbolTails]
  refine .cons (.symbol .roundOpen) (fun c hc => ?_)
    (h.lexes _ _ (fun c hc => .inl (Option.some.inj hc).symm) hclose)
  obtain ⟨d, ds, rfl, hd⟩ := h.head
  cases hc
  exact hd

lemma parentheses (h : Writes cs ts e) :
    Writes ('(' :: (cs ++ [')'])) (.symbol .roundOpen :: (ts ++ [.symbol .roundClose])) e where
  spells := h.spells.parentheses
  not_comment := by
    simpa [or_imp, forall_and, Token.isComment] using h.not_comment
  head := ⟨'(', _, rfl, by decide⟩
  lexes rest us hrest hlexes := by
    simpa using h.lexes_closed hrest hlexes

/-- A call of a function by its name. -/
lemma call (h : Writes cs ts e) {n : String} (hn : IsName n) :
    Writes (n.toList ++ '(' :: (cs ++ [')']))
      ([.name n] ++ .symbol .roundOpen :: (separated [ts] ++ [.symbol .roundClose]))
      (.call (.name n) [e]) where
  spells := (Spells.name n).call (.cons h.spells .nil) (by decide)
  not_comment := by
    simpa [or_imp, forall_and, Token.isComment, separated] using h.not_comment
  head := by
    obtain ⟨c, cs, rfl, hc, -⟩ := hn
    exact ⟨c, _, by simp; rfl, not_mem_symbolTails (p := inWord) rfl (inWord_of_startsWord hc)⟩
  lexes rest us hrest hlexes := by
    have hname : Lexes (n.toList ++ '(' :: (cs ++ ')' :: rest))
        (.name n :: .symbol .roundOpen :: (ts ++ .symbol .roundClose :: us)) :=
      .cons (.name hn) (fun c hc => by cases hc; rfl) (h.lexes_closed hrest hlexes)
    simpa [separated] using hname

end Writes

lemma isName_print : IsName "print" :=
  ⟨'p', ['r', 'i', 'n', 't'], rfl, rfl, List.all_eq_true.1 rfl, fun k => by cases k <;> decide⟩

lemma isName_escape : IsName "escape" :=
  ⟨'e', ['s', 'c', 'a', 'p', 'e'], rfl, rfl, List.all_eq_true.1 rfl, fun k => by cases k <;> decide⟩

/-- A call of `print` on a line is the code of the statement that prints its argument. -/
lemma Writes.codes_printing {cs : List Char} {ts : List Token} {e : Expression}
    (h : Writes cs ts e) : Codes ("print(".toList ++ cs ++ ");\n".toList) [printing e] := by
  have hcall := h.call isName_print
  have hplain : ∀ rest, Ended rest →
      StartsPlain ([.name "print"] ++
        .symbol .roundOpen :: (separated [ts] ++ [.symbol .roundClose]) ++ rest) := by
    refine fun rest _ => ⟨fun k _ => nofun, fun name hname t ht => ?_⟩
    cases ht
    exact ⟨.roundOpen, rfl, by decide⟩
  refine ⟨_, .cons (SpellsSimple.expression hcall.spells hplain).statement .nil, ?_,
    fun c hc => by cases hc; decide, fun rest us hlexes => ?_⟩
  · simpa [terminated, or_imp, forall_and, Token.isComment] using hcall.not_comment
  · have hline : Lexes (['\n'] ++ rest) us := hlexes.blanks (List.all_eq_true.1 rfl)
    have hsemicolon : Lexes (';' :: '\n' :: rest) (.symbol .semicolon :: us) :=
      .cons (.symbol .semicolon) (fun c hc => by cases hc; simp [Token.endsAt, symbolTails]) hline
    have hcode := hcall.lexes (';' :: '\n' :: rest) _
      (fun c hc => .inr (Option.some.inj hc).symm) hsemicolon
    simpa [terminated] using hcode

/-! ### The code of a form -/

/-- What is printed for plain text: nothing if there is none. -/
def PlainText.statements (t : PlainText) : Program :=
  if t.chars = [] then [] else [printing (.literal (.text (String.ofList t.chars)))]

/-- What is printed for a slot. -/
def Slot.expression (s : Slot) : Expression :=
  if s.escaped then .call (.name "escape") [.name s.name] else .name s.name

/-- The program of a form. -/
def Form.program : Form → Program
  | plain text => text.statements
  | slot text s rest => text.statements ++ ([printing s.expression] ++ rest.program)

lemma PlainText.codes (t : PlainText) : Codes (Piece.literal t.chars).code t.statements := by
  unfold PlainText.statements
  cases hchars : t.chars with
  | nil => exact .nil
  | cons c cs =>
    have hcode : (Piece.literal (c :: cs)).code =
        "print(".toList ++ (Token.text (String.ofList (c :: cs))).written ++ ");\n".toList :=
      calc (Piece.literal (c :: cs)).code
        _ = "print('".toList ++ (c :: cs).flatMap Piece.quoteChar ++ "');\n".toList := rfl
        _ = _ := by
          rw [Token.written, String.toList_ofList]
          simp
    rw [hcode, if_neg (List.cons_ne_nil c cs)]
    exact (Writes.text _).codes_printing

lemma Slot.codes (s : Slot) :
    Codes (Piece.region s.kind s.content).code [printing s.expression] := by
  have hname := (Writes.name s.isName s.isBlank_before s.isBlank_after).parentheses
  rw [Slot.expression, Slot.kind]
  cases s.escaped with
  | false =>
    have hcode : (Piece.region .interpolate s.content).code =
        "print(".toList ++ '(' :: (s.content ++ [')']) ++ ");\n".toList :=
      calc (Piece.region .interpolate s.content).code
        _ = "print((".toList ++ s.content ++ "));\n".toList := rfl
        _ = _ := by simp
    have hcodes := hname.codes_printing
    rw [← Slot.content, ← hcode] at hcodes
    exact hcodes
  | true =>
    have hcode : (Piece.region .escape s.content).code =
        "print(".toList ++ ("escape".toList ++ '(' :: ('(' :: (s.content ++ [')']) ++ [')'])) ++
          ");\n".toList :=
      calc (Piece.region .escape s.content).code
        _ = "print(escape((".toList ++ s.content ++ ")));\n".toList := rfl
        _ = _ := by simp
    have hcodes := (hname.call isName_escape).codes_printing
    rw [← Slot.content, ← hcode] at hcodes
    exact hcodes

lemma Form.codes (f : Form) : Codes (f.pieces.flatMap Piece.code) f.program := by
  induction f with
  | plain text => simpa [pieces, program] using text.codes
  | slot text s rest ih =>
    have hcode : (slot text s rest).pieces.flatMap Piece.code =
        (Piece.literal text.chars).code ++ ((Piece.region s.kind s.content).code ++
          rest.pieces.flatMap Piece.code) := rfl
    rw [hcode]
    exact text.codes.append (s.codes.append ih)

/-- A form compiles to its program. -/
lemma Form.compile_text (f : Form) (helpers : List (String × Helper)) :
    Template.compile (String.ofList f.text) {} helpers =
      .ok ⟨f.program, String.ofList (f.pieces.flatMap Piece.code), ({} : Settings).variableName,
        Fields.ofList helpers⟩ := by
  rw [Template.compile, Delimiters.ofSettings_default]
  simp only [String.toList_ofList, Delimiters.program_default, f.scan_text, f.codes.parse]

/-! ## What is shown -/

/-- The value that is shown in a slot: a field of the data, or else the data itself under its
own name, a field of the owner, or the result of a helper; null if there is none of them. -/
def Slot.value (s : Slot) (data owner : Value) (helpers : List (String × Helper)) : Value :=
  ((data.field? s.name).or <|
    (if s.name = ({} : Settings).variableName then some data else none).or <|
    (owner.field? s.name).or <|
    (Fields.get? s.name (Fields.ofList helpers)).map fun helper => helper []).getD .null

/-- The characters that are shown in a slot: none for null, and otherwise the text of the
value, escaped if the slot is. -/
def Slot.shown (s : Slot) (data owner : Value) (helpers : List (String × Helper)) : List Char :=
  let v := s.value data owner helpers
  if v.isNull then []
  else if s.escaped then Text.escape v.display.toList
  else v.display.toList

/-- A form with its slots filled in. -/
def Form.shown (data owner : Value) (helpers : List (String × Helper)) : Form → List Char
  | plain text => text.chars
  | slot text s rest =>
    text.chars ++ (s.shown data owner helpers ++ rest.shown data owner helpers)

/-! ## Running the program of a form -/

lemma Run.executeAll_append (s : Scope) (p q : Program) (r : Run) :
    Run.executeAll s (p ++ q) r = Run.executeAll s q (Run.executeAll s p r) := by
  induction p generalizing r with
  | nil => rfl
  | cons t p ih =>
    rw [List.cons_append, Run.executeAll, Run.executeAll, ih]

/-- Printing an expression that prints nothing itself adds the text of its value. -/
lemma execute_printing {s : Scope} {frames : List Frame} {e : Expression} {v : Value}
    (h : ∀ out, evaluate s frames e out = (v, out)) (out : String) :
    Run.execute s (printing e) ⟨frames, out⟩ = ⟨frames, out ++ v.printed⟩ := by
  simp [printing, Run.execute, Run.evaluate, evaluate, evaluateAll, h, printedText]

/-- A name that is not declared is looked up in the data, the owner and the helpers. -/
lemma Scope.lookup_undeclared (s : Scope) (name : String) :
    s.lookup [[]] name =
      ((s.data.field? name).or <|
        (if name = s.variableName then some s.data else none).or <|
        (s.owner.field? name).or <|
        (Fields.get? name s.helpers).map fun helper => helper []).getD .null := by
  have hframes : [([] : Frame)].findSome? (Fields.get? name) = none := rfl
  rw [Scope.lookup, hframes]
  simp only
  cases s.data.field? name with
  | some v => rfl
  | none =>
    by_cases hname : name = s.variableName
    · rw [if_pos hname, if_pos hname]
      rfl
    · rw [if_neg hname, if_neg hname]
      cases s.owner.field? name with
      | some v => rfl
      | none => cases Fields.get? name s.helpers <;> rfl

section Running

variable (data owner : Value) (helpers : List (String × Helper))

/-- What the names of a form mean. -/
def formScope : Scope := ⟨data, owner, ({} : Settings).variableName, Fields.ofList helpers⟩

lemma lookup_formScope (s : Slot) :
    (formScope data owner helpers).lookup [[]] s.name = s.value data owner helpers :=
  (formScope data owner helpers).lookup_undeclared s.name

lemma execute_plain (s : Scope) (frames : List Frame) (t : PlainText) (out : String) :
    Run.executeAll s t.statements ⟨frames, out⟩ = ⟨frames, out ++ String.ofList t.chars⟩ := by
  unfold PlainText.statements
  split
  · next hnil => simp [hnil, Run.executeAll]
  · rw [Run.executeAll, execute_printing fun _ => rfl]
    rfl

lemma execute_slot (s : Slot) (out : String) :
    Run.execute (formScope data owner helpers) (printing s.expression) ⟨[[]], out⟩ =
      ⟨[[]], out ++ String.ofList (s.shown data owner helpers)⟩ := by
  have hlookup := lookup_formScope data owner helpers s
  unfold Slot.expression Slot.shown
  cases hescaped : s.escaped with
  | false =>
    rw [execute_printing (v := s.value data owner helpers) fun out => by simp [evaluate, hlookup]]
    simp only [Value.printed]
    split <;> simp
  | true =>
    have hprinted (text : String) : (Value.text text).printed = text := rfl
    rw [execute_printing (v := .text (s.value data owner helpers).escaped) fun out => by
      simp [evaluate, evaluateAll, hlookup, Scope.callNamed], hprinted]
    simp only [Value.escaped]
    split <;> simp

lemma executeAll_form (f : Form) (out : String) :
    Run.executeAll (formScope data owner helpers) f.program ⟨[[]], out⟩ =
      ⟨[[]], out ++ String.ofList (f.shown data owner helpers)⟩ := by
  induction f generalizing out with
  | plain text => exact execute_plain _ _ text out
  | slot text s rest ih =>
    rw [Form.program, Run.executeAll_append, Run.executeAll_append, execute_plain,
      Run.executeAll, Run.executeAll, execute_slot, ih, Form.shown]
    simp only [String.ofList_append, String.append_assoc]

end Running

/-- A template whose regions are slots compiles, and it renders as its literal text with the
values of the slots in between. -/
theorem Form.render_text (f : Form) (helpers : List (String × Helper)) :
    ∃ t, Template.compile (String.ofList f.text) {} helpers = .ok t ∧
      ∀ data owner, t.renderWith data owner = String.ofList (f.shown data owner helpers) := by
  refine ⟨_, f.compile_text helpers, fun data owner => ?_⟩
  have hrun := executeAll_form data owner helpers f ""
  rw [String.empty_append] at hrun
  exact congrArg Run.output hrun

end ViewKit
