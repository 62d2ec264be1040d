/-
# The written form of a token

Every token but a comment has a written form that is read as that token (`readToken_written`),
if what follows cannot be taken for more of it: no letter or digit behind a word, no digit and
no point behind a number, no equals sign behind an operator.  The lexer tries its kinds of
tokens in a fixed order, so for each kind the first characters of the others are told apart.
-/
import ViewKit.Proofs.Number.Numeral
import ViewKit.Proofs.Number.Whole
import ViewKit.Template.Lexer
import ViewKit.Template.Region

namespace ViewKit.Lexer

/-! ## Attempts -/

section Attempts

variable {α β : Type}

@[simp] lemma orElse_result? (first : Attempt α) (second : Unit → Attempt α) :
    (first.orElse second).result? = first.result?.or (second ()).result? := by
  rw [Attempt.orElse]
  cases h : first.result? <;> simp [h]

@[simp] lemma map_result? (f : α → β) (a : Attempt α) :
    (a.map f).result? = a.result?.map fun (x, c) => (f x, c) := rfl

lemma commonLength_eq_length_iff (xs ys : List Char) :
    commonLength xs ys = xs.length ↔ xs.isPrefixOf ys = true := by
  induction xs generalizing ys with
  | nil => cases ys <;> simp [commonLength]
  | cons x xs ih =>
    cases ys with
    | nil => simp [commonLength]
    | cons y ys =>
      rw [commonLength, List.isPrefixOf_cons_cons, Bool.and_eq_true, beq_iff_eq, List.length_cons]
      split
      · next h => simp [h, ih]
      · next h => simp [h]

/-- The symbol that is read is the first one that stands at the place. -/
lemma readSymbol_result? (c : Cursor) (ss : List Symbol) :
    (readSymbol c ss).result? =
      (ss.find? (·.text.isPrefixOf c.rest)).map fun s => (s, c.advance s.text.length) := by
  induction ss with
  | nil => rfl
  | cons s ss ih =>
    rw [readSymbol, List.find?_cons]
    cases hstands : s.text.isPrefixOf c.rest with
    | true => simp [(commonLength_eq_length_iff _ _).2 hstands]
    | false =>
      have hne : commonLength s.text c.rest ≠ s.text.length := by
        rw [ne_eq, commonLength_eq_length_iff, hstands]
        exact Bool.false_ne_true
      simp [hne, ih]

end Attempts

/-! ## Kinds of tokens -/

/-- What stands at a cursor as a token of one of the kinds, with the cursor behind it. -/
inductive StandsAt (c : Cursor) : Lexeme → Cursor → Prop where
  | bracket {s : Symbol} : Symbol.brackets.find? (·.text.isPrefixOf c.rest) = some s →
      StandsAt c (.plain (.symbol s)) (c.advance s.text.length)
  | comment {s : String} {behind : Cursor} : (readComment c).result? = some (s, behind) →
      StandsAt c (.plain (.comment s)) behind
  | number {x : Float} {behind : Cursor} : (readNumber c).result? = some (x, behind) →
      StandsAt c (.plain (.number x)) behind
  | text {q : Quoted} {behind : Cursor} : (readText c).result? = some (q, behind) →
      StandsAt c ⟨.text (String.ofList q.characters), q.badEscapes⟩ behind
  | operator {s : Symbol} : Symbol.brackets.find? (·.text.isPrefixOf c.rest) = none →
      Symbol.operators.find? (·.text.isPrefixOf c.rest) = some s →
      StandsAt c (.plain (.symbol s)) (c.advance s.text.length)
  | word {w : String} {behind : Cursor} : (readWord c).result? = some (w, behind) →
      StandsAt c (.plain (Token.ofWord w)) behind

/-- A token that is read stands at its cursor as a token of one of the kinds. -/
lemma standsAt_of_readToken {c behind : Cursor} {l : Lexeme}
    (h : (readToken c).result? = some (l, behind)) : StandsAt c l behind := by
  rw [readToken] at h
  simp only [orElse_result?, map_result?, readSymbol_result?, Option.map_map,
    Option.or_eq_some_iff, Option.map_eq_some_iff, Option.map_eq_none_iff] at h
  obtain h | ⟨hbracket, h | ⟨-, h | ⟨-, h | ⟨-, h | ⟨-, h⟩⟩⟩⟩⟩ := h
  all_goals obtain ⟨_, hread, heq⟩ := h
  all_goals obtain ⟨rfl, rfl⟩ := Prod.mk.inj heq
  · exact .bracket hread
  · exact .comment hread
  · exact .number hread
  · exact .text hread
  · exact .operator hbracket hread
  · exact .word hread

/-! ## First characters -/

/-- The characters with which no symbol starts. -/
def startsNoSymbol (c : Char) : Prop := ∀ s : Symbol, s.text.head? ≠ some c

lemma readSymbol_of_startsNoSymbol {c : Char} (h : startsNoSymbol c) (index : Nat)
    (cs : List Char) (ss : List Symbol) : (readSymbol ⟨index, c :: cs⟩ ss).result? = none := by
  rw [readSymbol_result?, Option.map_eq_none_iff, List.find?_eq_none]
  intro s _ hstands
  refine h s ?_
  have hne : s.text ≠ [] := by cases s <;> decide
  cases htext : s.text with
  | nil => exact absurd htext hne
  | cons x xs =>
    rw [htext, List.isPrefixOf_cons_cons, Bool.and_eq_true, beq_iff_eq] at hstands
    rw [hstands.1]
    rfl

lemma startsNoSymbol_of_isAlphanum {c : Char} (h : inWord c = true) : startsNoSymbol c := by
  intro s hs
  have hall : ∀ x ∈ s.text.head?, inWord x = false := by
    intro x hx
    cases s <;> cases hx <;> rfl
  rw [hall c hs] at h
  cases h

lemma readComment_of_ne {index : Nat} {cs : List Char} (h : cs.head? ≠ some '/') :
    (readComment ⟨index, cs⟩).result? = none := by
  rw [readComment]
  split <;> first | rfl | simp_all

lemma readNumber_of_ne {index : Nat} {cs : List Char} (h : ∀ c ∈ cs.head?, c.isDigit = false) :
    (readNumber ⟨index, cs⟩).result? = none := by
  cases cs with
  | nil => rfl
  | cons c cs =>
    have hc : c.isDigit = false := h c rfl
    have hzero : c ≠ '0' := by
      rintro rfl
      cases hc
    rw [readNumber]
    split
    · next heq => exact absurd (List.cons.inj heq).1 hzero
    · simp [hc]

lemma readText_of_ne {index : Nat} {cs : List Char} (hsingle : cs.head? ≠ some '\'')
    (hdouble : cs.head? ≠ some '"') : (readText ⟨index, cs⟩).result? = none := by
  rw [readText]
  split <;> simp_all

/-! ## Symbols -/

/-- The characters that may make another symbol or a comment of a symbol in front of them. -/
def symbolTails : List Char := ['=', '+', '-', '/', '*']

lemma find?_brackets {s : Symbol} (h : s ∈ Symbol.brackets) (rest : List Char) :
    Symbol.brackets.find? (·.text.isPrefixOf (s.text ++ rest)) = some s := by
  simp only [Symbol.brackets, List.mem_cons, List.not_mem_nil, or_false] at h
  rcases h with rfl | rfl | rfl | rfl | rfl | rfl <;> rfl

lemma find?_brackets_of_not_mem {s : Symbol} (h : s ∉ Symbol.brackets) (rest : List Char) :
    Symbol.brackets.find? (·.text.isPrefixOf (s.text ++ rest)) = none := by
  cases s <;> first | exact absurd (by decide) h | rfl

/-- A mark that cannot go on with `c` behind `first` is found in front of `first` and `c` just
where it is found in front of `first`. -/
lemma isPrefixOf_append_cons {mark first : List Char} {c : Char}
    (h : (first ++ [c]).isPrefixOf mark = false) (rest : List Char) :
    mark.isPrefixOf (first ++ c :: rest) = mark.isPrefixOf first := by
  induction first generalizing mark with
  | nil =>
    cases mark with
    | nil => rfl
    | cons x xs =>
      have hne : (x == c) = false := by
        rw [beq_eq_false_iff_ne]
        rintro rfl
        rw [List.nil_append, List.isPrefixOf_cons_cons, beq_self_eq_true] at h
        cases h
      rw [List.nil_append, List.isPrefixOf_cons_cons, hne]
      rfl
  | cons y ys ih =>
    cases mark with
    | nil => rfl
    | cons x xs =>
      rw [List.cons_append, List.isPrefixOf_cons_cons, List.isPrefixOf_cons_cons]
      cases hxy : x == y with
      | true =>
        have hys : (ys ++ [c]).isPrefixOf xs = false := by
          rw [List.cons_append, List.isPrefixOf_cons_cons, eq_of_beq hxy, beq_self_eq_true] at h
          exact h
        rw [ih hys]
      | false => rfl

/-- An operator that is the start of another one goes on there with a tail. -/
lemma mem_symbolTails_of_goesOn {s t : Symbol} (hs : s ∈ Symbol.operators)
    (ht : t ∈ Symbol.operators) {c : Char} (h : (s.text ++ [c]).isPrefixOf t.text = true) :
    c ∈ symbolTails := by
  have hall : (Symbol.operators.all fun s => Symbol.operators.all fun t =>
      !s.text.isPrefixOf t.text ||
        (t.text.drop s.text.length).head?.all (symbolTails.contains ·)) = true := by
    decide +kernel
  obtain ⟨rest, hrest⟩ := List.isPrefixOf_iff_prefix.1 h
  have hpair := List.all_eq_true.1 (List.all_eq_true.1 hall s hs) t ht
  have hstarts : s.text.isPrefixOf (s.text ++ ([c] ++ rest)) = true :=
    List.isPrefixOf_iff_prefix.2 (List.prefix_append _ _)
  rw [← hrest, List.append_assoc, hstarts, List.drop_left] at hpair
  simpa using hpair

lemma find?_operators {s : Symbol} (h : s ∉ Symbol.brackets) {rest : List Char}
    (hrest : ∀ c ∈ rest.head?, c ∉ symbolTails) :
    Symbol.operators.find? (·.text.isPrefixOf (s.text ++ rest)) = some s := by
  have hs : s ∈ Symbol.operators := by
    cases s <;> first | exact absurd (by decide) h | decide
  have hself : Symbol.operators.find? (·.text.isPrefixOf s.text) = some s := by
    cases s <;> first | exact absurd (by decide) h | rfl
  cases rest with
  | nil => rwa [List.append_nil]
  | cons c cs =>
    rw [← hself]
    refine List.find?_congr fun t ht =>
      isPrefixOf_append_cons (Bool.eq_false_iff.2 fun hgoes => ?_) cs
    exact hrest c rfl (mem_symbolTails_of_goesOn hs ht hgoes)

/-! ## Quoted texts -/

lemma readQuoted_end (quote : Char) (index : Nat) (rest : List Char) :
    readQuoted quote index (quote :: rest) = ⟨some (⟨[], []⟩, ⟨index + 1, rest⟩), index⟩ := by
  rw [readQuoted.eq_def]
  exact if_pos rfl

lemma readQuoted_plain {quote c : Char} (hquote : c ≠ quote) (hescape : c ≠ '\\') (index : Nat)
    (rest : List Char) : readQuoted quote index (c :: rest) =
      (readQuoted quote (index + 1) rest).map (Quoted.cons c) := by
  rw [readQuoted.eq_def]
  simp only [hquote, hescape, if_false]

lemma readQuoted_escaped {quote e x : Char} (hquote : quote ≠ '\\') (he : escaped? e = some x)
    (index : Nat) (rest : List Char) : readQuoted quote index ('\\' :: e :: rest) =
      (readQuoted quote (index + 2) rest).map (Quoted.cons x) := by
  have hu : e ≠ 'u' := by
    rintro rfl
    cases he
  rw [readQuoted.eq_def]
  simp [hquote.symm, hu, he]

lemma readQuoted_number {quote : Char} {digits : List Char} (hquote : quote ≠ '\\')
    (hlength : digits.length = 4) (hdigits : digits.all isHex = true) (index : Nat)
    (rest : List Char) : readQuoted quote index ('\\' :: 'u' :: (digits ++ rest)) =
      (readQuoted quote (index + 6) rest).map
        (Quoted.consNumber (index + 2) (Text.CharSet.hexNumber digits)) := by
  obtain ⟨c₁, c₂, c₃, c₄, rfl⟩ : ∃ c₁ c₂ c₃ c₄, digits = [c₁, c₂, c₃, c₄] := by
    match digits, hlength with
    | [c₁, c₂, c₃, c₄], _ => exact ⟨c₁, c₂, c₃, c₄, rfl⟩
  rw [readQuoted.eq_def]
  simp only [hquote.symm, if_false, if_true, List.cons_append, List.nil_append, hdigits]

/-- How a character can be quoted: by an escape with one letter, by its number, or as itself. -/
inductive QuotedAs (c : Char) : List Char → Prop where
  | letter {e : Char} : escaped? e = some c → QuotedAs c ['\\', e]
  | number {digits : List Char} : digits.length = 4 → digits.all isHex = true →
      (∀ place q, Quoted.consNumber place (Text.CharSet.hexNumber digits) q = q.cons c) →
      QuotedAs c ('\\' :: 'u' :: digits)
  | plain : c ≠ '\'' → c ≠ '\\' → QuotedAs c [c]

lemma quotedAs_quoteChar (c : Char) : QuotedAs c (Piece.quoteChar c) := by
  unfold Piece.quoteChar
  split
  · exact .letter rfl
  · exact .letter rfl
  · exact .letter rfl
  · exact .letter rfl
  · exact .number rfl rfl fun _ _ => rfl
  · exact .number rfl rfl fun _ _ => rfl
  · next hescape hquote _ _ _ _ => exact .plain hquote hescape

/-- Reading undoes quoting, character by character. -/
lemma readQuoted_quoteChar (cs rest : List Char) (index : Nat) :
    (readQuoted '\'' index (cs.flatMap Piece.quoteChar ++ '\'' :: rest)).result? =
      some (⟨cs, []⟩, ⟨index + ((cs.flatMap Piece.quoteChar).length + 1), rest⟩) := by
  induction cs generalizing index with
  | nil => exact congrArg Attempt.result? (readQuoted_end _ index rest)
  | cons c cs ih =>
    rw [List.flatMap_cons, List.append_assoc]
    have hquoted := quotedAs_quoteChar c
    generalize Piece.quoteChar c = quoted at hquoted ⊢
    cases hquoted with
    | letter he =>
      rw [List.cons_append, List.singleton_append, readQuoted_escaped (by decide) he]
      simp [ih, Quoted.cons, Nat.add_assoc, Nat.add_comm 2]
    | number hlength hdigits hnumber =>
      rw [List.cons_append, List.cons_append, readQuoted_number (by decide) hlength hdigits]
      simp only [map_result?, ih, hnumber, Quoted.cons, Option.map_some, List.length_append,
        List.length_cons, hlength]
      simp only [Nat.add_assoc, Nat.add_left_comm, Nat.reduceAdd]
    | plain hquote hescape =>
      rw [List.singleton_append, readQuoted_plain hquote hescape]
      simp [ih, Quoted.cons, Nat.add_assoc, Nat.add_comm 1]

/-! ## Words -/

/-- A text that is read as a name: a word that is no key word. -/
def IsName (s : String) : Prop :=
  ∃ c cs, s = String.ofList (c :: cs) ∧ startsWord c = true ∧ (∀ x ∈ cs, inWord x = true) ∧
    ∀ k : Keyword, k.text ≠ s

lemma ofWord_of_isName {s : String} (h : IsName s) : Token.ofWord s = .name s := by
  obtain ⟨-, -, -, -, -, hkeyword⟩ := h
  have hnone : Keyword.all.find? (·.text == s) = none :=
    List.find?_eq_none.2 fun k _ => by simpa using hkeyword k
  rw [Token.ofWord, hnone]

lemma ofWord_keyword (k : Keyword) : Token.ofWord k.text = .keyword k := by
  cases k <;> rfl

lemma inWord_of_startsWord {c : Char} (h : startsWord c = true) : inWord c = true := by
  simp only [startsWord, inWord, Char.isAlphanum, Bool.or_eq_true] at h ⊢
  rcases h with (h | h) | h <;> simp [h]

lemma isDigit_of_startsWord {c : Char} (h : startsWord c = true) : c.isDigit = false := by
  simp only [startsWord, Char.isAlpha, Char.isUpper, Char.isLower, Bool.or_eq_true,
    Bool.and_eq_true, decide_eq_true_eq, beq_iff_eq] at h
  simp only [Char.isDigit, Bool.and_eq_false_iff, decide_eq_false_iff_not]
  rcases h with (h | rfl) | rfl
  · have hnine : '9'.val.toNat = 57 := rfl
    have hupper : 'A'.val.toNat = 65 := rfl
    have hlower : 'a'.val.toNat = 97 := rfl
    simp only [ge_iff_le, UInt32.le_iff_toNat_le] at h ⊢
    omega
  · decide
  · decide

lemma readWord_append {c : Char} {cs rest : List Char} (hc : startsWord c = true)
    (hcs : ∀ x ∈ cs, inWord x = true) (hrest : ∀ x ∈ rest.head?, inWord x = false) (index : Nat) :
    (readWord ⟨index, c :: cs ++ rest⟩).result? =
      some (String.ofList (c :: cs), ⟨index + (c :: cs).length, rest⟩) := by
  have htake : (cs ++ rest).takeWhile inWord = cs := by
    rw [List.takeWhile_append_of_pos hcs]
    cases rest with
    | nil => exact List.append_nil cs
    | cons x xs => rw [List.takeWhile_cons_of_neg (by simp [hrest x rfl]), List.append_nil]
  rw [readWord]
  simp [hc, htake, Cursor.advance, Nat.add_comm 1]

/-! ## Numbers -/

lemma readNumber_numeral {n : Nat} (h : n < Nat.pow 2 53) {rest : List Char}
    (hrest : ∀ c ∈ rest.head?, c.isDigit = false ∧ c ≠ '.') (index : Nat) :
    (readNumber ⟨index, Number.numeral n ++ rest⟩).result? =
      some (Number.ofNat n, ⟨index + (Number.numeral n).length, rest⟩) := by
  have hpoint (cs : List Char) : rest ≠ '.' :: cs := by
    rintro rfl
    exact (hrest '.' rfl).2 rfl
  have hread := Number.readDigits?_numeral h
  have hdigits : (Number.numeral n ++ rest).takeWhile Char.isDigit = Number.numeral n := by
    rw [List.takeWhile_append_of_pos fun c hc => Number.isDigit_of_mem_numeral hc]
    cases rest with
    | nil => exact List.append_nil _
    | cons c cs => rw [List.takeWhile_cons_of_neg (by simp [(hrest c rfl).1]), List.append_nil]
  rw [readNumber]
  split
  · next tail heq =>
    -- the digits start with a zero, so the zero is all of them
    obtain rfl : n = 0 := by
      rcases Nat.eq_zero_or_pos n with hzero | hpos
      · exact hzero
      · have hhead := Number.head?_numeral_ne hpos
        cases hnumeral : Number.numeral n with
        | nil => exact absurd hnumeral (Number.numeral_ne_nil n)
        | cons c cs =>
          rw [hnumeral] at hhead heq
          exact absurd (congrArg some (List.cons.inj heq).1) hhead
    have hzero : Number.numeral 0 = ['0'] := rfl
    rw [hzero] at hread ⊢
    simp [hread, Cursor.advance]
  · have hlength : (Number.numeral n).length ≠ 0 := by simpa using Number.numeral_ne_nil n
    simp [hdigits, hlength, hread, Cursor.advance]

lemma readComment_symbol (s : Symbol) {rest : List Char}
    (hrest : ∀ c ∈ rest.head?, c ∉ symbolTails) (index : Nat) :
    (readComment ⟨index, s.text ++ rest⟩).result? = none := by
  by_cases hs : s = .slash
  · subst hs
    cases rest with
    | nil => rfl
    | cons c cs =>
      have hc := hrest c rfl
      simp only [symbolTails, List.mem_cons, List.not_mem_nil, or_false, not_or] at hc
      rw [readComment]
      split <;> simp_all [Symbol.text]
  · refine readComment_of_ne ?_
    cases s <;> first | exact absurd rfl hs | simp [Symbol.text]

end ViewKit.Lexer

namespace ViewKit.Token

open Lexer

/-! ## Written forms -/

/-- The characters of a token. -/
def written : Token → List Char
  | symbol s => s.text
  | keyword k => k.text.toList
  | name s => s.toList
  | number x => Number.numeral (Number.wholePart x)
  | text s => '\'' :: (s.toList.flatMap Piece.quoteChar ++ ['\''])
  | comment s => s.toList

/-- The tokens that their written form determines. -/
inductive Writable : Token → Prop where
  | symbol (s : Symbol) : Writable (symbol s)
  | keyword (k : Keyword) : Writable (keyword k)
  | name {s : String} : IsName s → Writable (name s)
  | number {n : Nat} : n < Nat.pow 2 53 → Writable (number (Number.ofNat n))
  | text (s : String) : Writable (text s)

/-- Whether a token ends in front of a character. -/
def endsAt (t : Token) (c : Char) : Prop :=
  match t with
  | symbol _ => c ∉ symbolTails
  | keyword _ => inWord c = false
  | name _ => inWord c = false
  | number _ => c.isDigit = false ∧ c ≠ '.'
  | text _ => True
  | comment _ => False

/-- A word is none of the kinds of tokens that are tried before words. -/
lemma readToken_word {c : Char} {cs rest : List Char} (hc : startsWord c = true)
    (hcs : ∀ x ∈ cs, inWord x = true) (hrest : ∀ x ∈ rest.head?, inWord x = false) (index : Nat) :
    (readToken ⟨index, c :: cs ++ rest⟩).result? =
      some (.plain (Token.ofWord (String.ofList (c :: cs))),
        ⟨index + (c :: cs).length, rest⟩) := by
  have hword := inWord_of_startsWord hc
  have hdigit := isDigit_of_startsWord hc
  have hsingle : c ≠ '\'' := fun h => by subst h; cases hc
  have hdouble : c ≠ '"' := fun h => by subst h; cases hc
  have hslash : c ≠ '/' := fun h => by subst h; cases hc
  have hsymbol :=
    readSymbol_of_startsNoSymbol (startsNoSymbol_of_isAlphanum hword) index (cs ++ rest)
  rw [readToken]
  simp only [orElse_result?, map_result?]
  rw [readWord_append hc hcs hrest, List.cons_append, hsymbol, hsymbol,
    readComment_of_ne (by simpa using hslash), readNumber_of_ne (by simpa using hdigit),
    readText_of_ne (by simpa using hsingle) (by simpa using hdouble)]
  rfl

lemma readToken_keyword (k : Keyword) {rest : List Char}
    (hrest : ∀ x ∈ rest.head?, inWord x = false) (index : Nat) :
    (readToken ⟨index, (keyword k).written ++ rest⟩).result? =
      some (.plain (keyword k), ⟨index + (keyword k).written.length, rest⟩) := by
  have hword : ∃ c cs, k.text.toList = c :: cs ∧ startsWord c = true ∧
      ∀ x ∈ cs, inWord x = true := by
    cases k <;> exact ⟨_, _, rfl, rfl, List.all_eq_true.1 rfl⟩
  obtain ⟨c, cs, htext, hc, hcs⟩ := hword
  have hofWord : Token.ofWord (String.ofList (c :: cs)) = keyword k := by
    rw [← htext, String.ofList_toList, ofWord_keyword]
  rw [written, htext, readToken_word hc hcs hrest, hofWord]

lemma readToken_name {s : String} (h : IsName s) {rest : List Char}
    (hrest : ∀ x ∈ rest.head?, inWord x = false) (index : Nat) :
    (readToken ⟨index, (name s).written ++ rest⟩).result? =
      some (.plain (name s), ⟨index + (name s).written.length, rest⟩) := by
  have hofWord := ofWord_of_isName h
  obtain ⟨c, cs, rfl, hc, hcs, -⟩ := h
  rw [written, String.toList_ofList, readToken_word hc hcs hrest, hofWord]

lemma readToken_text (s : String) (rest : List Char) (index : Nat) :
    (readToken ⟨index, (text s).written ++ rest⟩).result? =
      some (.plain (text s), ⟨index + (text s).written.length, rest⟩) := by
  have hsymbol (ss : List Symbol) (cs : List Char) :
      (readSymbol ⟨index, '\'' :: cs⟩ ss).result? = none :=
    readSymbol_of_startsNoSymbol (fun s => by cases s <;> decide) index cs ss
  rw [readToken, written, List.cons_append, List.append_assoc, List.singleton_append]
  simp only [orElse_result?, map_result?]
  have hquoted :
      (readText ⟨index, '\'' :: (s.toList.flatMap Piece.quoteChar ++ '\'' :: rest)⟩).result? =
      some (⟨s.toList, []⟩,
        ⟨index + 1 + ((s.toList.flatMap Piece.quoteChar).length + 1), rest⟩) :=
    readQuoted_quoteChar s.toList rest (index + 1)
  rw [hsymbol, readComment_of_ne (by simp), readNumber_of_ne (by simp), hquoted]
  simp [Lexeme.plain, Nat.add_assoc, Nat.add_comm 1]

lemma readToken_number {n : Nat} (h : n < Nat.pow 2 53) {rest : List Char}
    (hrest : ∀ c ∈ rest.head?, c.isDigit = false ∧ c ≠ '.') (index : Nat) :
    (readToken ⟨index, (number (Number.ofNat n)).written ++ rest⟩).result? =
      some (.plain (number (Number.ofNat n)),
        ⟨index + (number (Number.ofNat n)).written.length, rest⟩) := by
  have hnumber := readNumber_numeral h hrest index
  rw [written, Number.wholePart_ofNat h]
  cases hnumeral : Number.numeral n with
  | nil => exact absurd hnumeral (Number.numeral_ne_nil n)
  | cons c cs =>
    have hc : c.isDigit = true :=
      Number.isDigit_of_mem_numeral (by rw [hnumeral]; exact List.mem_cons_self)
    have hword : inWord c = true := by simp [inWord, Char.isAlphanum, hc]
    have hslash : c ≠ '/' := fun h => by subst h; cases hc
    have hsymbol :=
      readSymbol_of_startsNoSymbol (startsNoSymbol_of_isAlphanum hword) index (cs ++ rest)
    rw [hnumeral] at hnumber
    rw [readToken]
    simp only [orElse_result?, map_result?]
    rw [hnumber, List.cons_append, hsymbol, readComment_of_ne (by simpa using hslash)]
    rfl

lemma readToken_symbol (s : Symbol) {rest : List Char}
    (hrest : ∀ c ∈ rest.head?, c ∉ symbolTails) (index : Nat) :
    (readToken ⟨index, (symbol s).written ++ rest⟩).result? =
      some (.plain (symbol s), ⟨index + (symbol s).written.length, rest⟩) := by
  rw [readToken, written]
  simp only [orElse_result?, map_result?, readSymbol_result?]
  by_cases hs : s ∈ Symbol.brackets
  · rw [find?_brackets hs]
    simp [Cursor.advance, Lexeme.plain]
  · have hhead : ∀ c ∈ (s.text ++ rest).head?, c.isDigit = false ∧ c ≠ '\'' ∧ c ≠ '"' := by
      cases s <;> simp [Symbol.text]
    have hcomment := readComment_symbol s hrest index
    rw [find?_brackets_of_not_mem hs, find?_operators hs hrest, hcomment,
      readNumber_of_ne fun c hc => (hhead c hc).1,
      readText_of_ne (fun hc => (hhead _ hc).2.1 rfl) (fun hc => (hhead _ hc).2.2 rfl)]
    simp [Cursor.advance, Lexeme.plain]

/-- The written form of a token is read as the token. -/
lemma readToken_written {t : Token} (h : t.Writable) {rest : List Char}
    (hrest : ∀ c ∈ rest.head?, t.endsAt c) (index : Nat) :
    (readToken ⟨index, t.written ++ rest⟩).result? =
      some (.plain t, ⟨index + t.written.length, rest⟩) := by
  cases h with
  | symbol s => exact readToken_symbol s hrest index
  | keyword k => exact readToken_keyword k hrest index
  | name hs => exact readToken_name hs hrest index
  | number hn => exact readToken_number hn hrest index
  | text s => exact readToken_text s rest index

end ViewKit.Token
