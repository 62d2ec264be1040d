/-
# Text that says nothing

Blanks, semicolons and complete comments in front of a text are read as semicolons and
comments, and the tokens of the text behind them are the same as without them (`Fills.lexes`).
What is read at a place depends on what stands there, not on where it is (`seen_readToken`), so
a text that is read without faults is read so wherever it stands (`lexes_of_read`).

Blanks are passed over only next to a token: a text of nothing but blanks has a fault
(`faults_of_blank`).
-/
import ViewKit.Proofs.Lexer.Place
import ViewKit.Proofs.Lexer.Text

namespace ViewKit.Lexer

/-! ## Reading does not depend on the place -/

section Seen

variable {α β γ : Type}

/-- What matters of an attempt: a part of its result, and the characters left behind it. -/
def Attempt.seen (part : α → β) (a : Attempt α) : Option (β × List Char) :=
  a.result?.map fun (x, c) => (part x, c.rest)

lemma seen_orElse (part : α → β) (first : Attempt α) (second : Unit → Attempt α) :
    (first.orElse second).seen part = (first.seen part).or ((second ()).seen part) := by
  rw [Attempt.seen, orElse_result?, Option.map_or]
  rfl

lemma seen_map (f : α → β) (part : β → γ) (a : Attempt α) :
    (a.map f).seen part = a.seen (part ∘ f) := by
  rw [Attempt.seen, map_result?, Option.map_map]
  rfl

lemma seen_comp (f : α → β) (part : β → γ) (a : Attempt α) :
    a.seen (part ∘ f) = (a.seen f).map fun (x, cs) => (part x, cs) := by
  rw [Attempt.seen, Attempt.seen, Option.map_map]
  rfl

variable (i j : Nat) (cs : List Char)

lemma seen_readSymbol (ss : List Symbol) (part : Symbol → β) :
    (readSymbol ⟨i, cs⟩ ss).seen part = (readSymbol ⟨j, cs⟩ ss).seen part := by
  simp only [Attempt.seen, readSymbol_result?, Option.map_map]
  rfl

lemma seen_readComment (part : String → β) :
    (readComment ⟨i, cs⟩).seen part = (readComment ⟨j, cs⟩).seen part := by
  simp only [Attempt.seen, readComment]
  split
  · rfl
  · split <;> rfl
  · rfl
  · rfl

lemma seen_advance (x? : Option α) (n reach : Nat) (part : α → β) :
    Attempt.seen part ⟨x?.map fun x => (x, Cursor.advance ⟨i, cs⟩ n), reach⟩ =
      x?.map fun x => (part x, cs.drop n) := by
  rw [Attempt.seen, Option.map_map]
  rfl

lemma seen_readNumber (part : Float → β) :
    (readNumber ⟨i, cs⟩).seen part = (readNumber ⟨j, cs⟩).seen part := by
  rw [readNumber, readNumber]
  dsimp only
  split
  all_goals
    split
    · rfl
    · split
      · split <;> simp only [seen_advance]
      · simp only [seen_advance]

lemma seen_readWord (part : String → β) :
    (readWord ⟨i, cs⟩).seen part = (readWord ⟨j, cs⟩).seen part := by
  simp only [Attempt.seen, readWord]
  split
  · split <;> rfl
  · rfl

end Seen

/-- What matters of a quoted text: its characters, and whether all its escapes are good. -/
def Quoted.essence (q : Quoted) : List Char × Bool := (q.characters, q.badEscapes.isEmpty)

/-- What matters of a token that was read. -/
def Lexeme.essence (l : Lexeme) : Token × Bool := (l.token, l.badEscapes.isEmpty)

section Escapes

variable (a : Attempt Quoted)

lemma seen_cons (c : Char) :
    (a.map (Quoted.cons c)).seen Quoted.essence =
      (a.seen Quoted.essence).map fun (q, cs) => ((c :: q.1, q.2), cs) := by
  rw [seen_map, ← seen_comp Quoted.essence fun q => (c :: q.1, q.2)]
  rfl

/-- An escape by number has the same effect at every place. -/
lemma seen_consNumber (place n : Nat) :
    (a.map (Quoted.consNumber place n)).seen Quoted.essence =
      (a.seen Quoted.essence).map fun (q, cs) =>
        (if 0xd800 ≤ n ∧ n ≤ 0xdfff then ('\ufffd' :: q.1, false)
          else (Char.ofNat n :: q.1, q.2), cs) := by
  have hessence : Quoted.essence ∘ Quoted.consNumber place n =
      (fun q => if 0xd800 ≤ n ∧ n ≤ 0xdfff then ('\ufffd' :: q.1, false)
        else (Char.ofNat n :: q.1, q.2)) ∘ Quoted.essence := by
    funext q
    rw [Function.comp_apply, Function.comp_apply, Quoted.consNumber]
    split <;> rfl
  rw [seen_map, hessence, seen_comp]

end Escapes

lemma seen_readQuoted (quote : Char) (i j : Nat) (cs : List Char) :
    (readQuoted quote i cs).seen Quoted.essence = (readQuoted quote j cs).seen Quoted.essence := by
  induction hlength : cs.length using Nat.strongRecOn generalizing i j cs with
  | ind length ih =>
    rw [readQuoted.eq_def quote i, readQuoted.eq_def quote j]
    split
    · rfl
    · next c cs =>
      rw [List.length_cons] at hlength
      split
      · rfl
      · split
        · split
          · rfl
          · next c₁ c₂ c₃ c₄ rest =>
            dsimp only
            split
            · rw [seen_consNumber, seen_consNumber,
                ih rest.length (by simp only [List.length_cons] at hlength; omega) _ (j + 6) _ rfl]
            · rfl
          · rfl
          · next e rest _ _ =>
            split
            · rw [seen_cons, seen_cons,
                ih rest.length (by simp only [List.length_cons] at hlength; omega) _ (j + 2) _ rfl]
            · rfl
        · rw [seen_cons, seen_cons, ih cs.length (by omega) _ (j + 1) _ rfl]

lemma seen_readText (i j : Nat) (cs : List Char) :
    (readText ⟨i, cs⟩).seen Quoted.essence = (readText ⟨j, cs⟩).seen Quoted.essence := by
  rw [readText, readText]
  dsimp only
  split
  · exact seen_readQuoted _ _ _ _
  · exact seen_readQuoted _ _ _ _
  · rfl

/-- A token is read alike at every place. -/
lemma seen_readToken (i j : Nat) (cs : List Char) :
    (readToken ⟨i, cs⟩).seen Lexeme.essence = (readToken ⟨j, cs⟩).seen Lexeme.essence := by
  have htext (k : Nat) :
      ((readText ⟨k, cs⟩).map fun q => (⟨.text (String.ofList q.characters), q.badEscapes⟩ :
          Lexeme)).seen Lexeme.essence =
        ((readText ⟨k, cs⟩).seen Quoted.essence).map fun (q, rest) =>
          ((Token.text (String.ofList q.1), q.2), rest) := by
    rw [seen_map, ← seen_comp Quoted.essence fun q => (Token.text (String.ofList q.1), q.2)]
    rfl
  rw [readToken, readToken]
  simp only [seen_orElse, htext, seen_readText i j]
  simp only [seen_map, seen_readSymbol i j, seen_readComment i j, seen_readNumber i j,
    seen_readWord i j]

/-- What is read at one place is read at every other one. -/
lemma exists_readToken {i : Nat} {cs : List Char} {l : Lexeme} {behind : Cursor}
    (h : (readToken ⟨i, cs⟩).result? = some (l, behind)) (j : Nat) :
    ∃ l' behind', (readToken ⟨j, cs⟩).result? = some (l', behind') ∧ l'.token = l.token ∧
      (l.badEscapes = [] → l'.badEscapes = []) ∧ behind'.rest = behind.rest := by
  have hseen := seen_readToken j i cs
  rw [Attempt.seen, Attempt.seen, h, Option.map_some, Option.map_eq_some_iff] at hseen
  obtain ⟨⟨l', behind'⟩, hread, heq⟩ := hseen
  obtain ⟨hessence, hrest⟩ := Prod.mk.inj heq
  obtain ⟨htoken, hgood⟩ := Prod.mk.inj hessence
  refine ⟨l', behind', hread, htoken, fun hnil => ?_, hrest⟩
  rw [hnil] at hgood
  exact List.isEmpty_iff.1 hgood

/-! ## Texts that are read without faults -/

lemma head?_skipBlanks (c : Cursor) : ∀ x ∈ c.skipBlanks.rest.head?, Text.isBlank x = false := by
  intro x hx
  rw [rest_skipBlanks] at hx
  have hnot := List.head?_dropWhile_not Text.isBlank c.rest
  rw [Option.mem_def.1 hx] at hnot
  simpa using hnot

@[simp] lemma skipBlanks_skipBlanks (c : Cursor) : c.skipBlanks.skipBlanks = c.skipBlanks :=
  skipBlanks_of_head? (head?_skipBlanks c)

/-- Behind a token there are fewer characters. -/
lemma length_behind {c behind : Cursor} {l : Lexeme}
    (h : (readToken c.skipBlanks).result? = some (l, behind)) :
    behind.skipBlanks.rest.length < c.rest.length := by
  obtain ⟨hindex, hlimit⟩ := of_readToken h
  have hskipped : c.index ≤ c.skipBlanks.index := Nat.le_add_right _ _
  have hshorter : behind.skipBlanks.rest.length ≤ behind.rest.length := by
    rw [rest_skipBlanks]
    exact (List.dropWhile_suffix _).length_le
  rw [Cursor.limit, Cursor.limit] at hlimit
  omega

/-- A token that is read at one place with good escapes is read in front of what stands behind
it, wherever that is. -/
lemma Lexes.of_readToken {c behind : Cursor} {l : Lexeme} {ts : List Token}
    (h : (readToken c.skipBlanks).result? = some (l, behind)) (hgood : l.badEscapes = [])
    (hbehind : Lexes behind.skipBlanks.rest ts) : Lexes c.rest (l.token :: ts) := by
  intro room index reach hroom
  obtain ⟨room, rfl⟩ : ∃ k, room = k + 1 := ⟨room - 1, by omega⟩
  obtain ⟨l', behind', hread, htoken, hgood', hrest⟩ :=
    exists_readToken h (Cursor.skipBlanks ⟨index, c.rest⟩).index
  have hhere : (readToken (Cursor.skipBlanks ⟨index, c.rest⟩).skipBlanks).result? =
      some (l', behind') := by
    rw [skipBlanks_skipBlanks]
    exact hread
  -- behind the token stand the same characters, with another number of them in front
  have hcursor : Cursor.skipBlanks ⟨behind'.skipBlanks.index, behind.skipBlanks.rest⟩ =
      behind'.skipBlanks := by
    rw [rest_skipBlanks, ← hrest, ← rest_skipBlanks]
    exact skipBlanks_skipBlanks behind'
  have hlength : behind.skipBlanks.rest.length < room := by
    have := length_behind h
    omega
  have hnext := hbehind room behind'.skipBlanks.index
  rw [hcursor] at hnext
  obtain ⟨htokens, hfaults⟩ := hnext (max reach
    (readToken (Cursor.skipBlanks ⟨index, c.rest⟩).skipBlanks).reach) hlength
  rw [readTokens_of_token hhere]
  constructor
  · exact congrArg₂ List.cons htoken htokens
  · have hnone : l'.badEscapes.map Fault.badEscape = [] := by
      rw [hgood' hgood]
      rfl
    exact List.append_eq_nil_iff.2 ⟨hnone, hfaults⟩

/-- What is read without faults at one place is read alike wherever it stands. -/
lemma lexes_of_readTokens {room reach : Nat} {c : Cursor} (hroom : c.rest.length < room)
    (hfaults : (readTokens room c reach).faults = []) :
    Lexes c.rest ((readTokens room c reach).tokens.map (·.token)) := by
  induction room generalizing c reach with
  | zero => omega
  | succ room ih =>
    cases hresult : (readToken c.skipBlanks).result? with
    | none =>
      rw [readTokens] at hfaults ⊢
      simp only [hresult] at hfaults ⊢
      split at hfaults
      · next hrest =>
        rw [hrest]
        exact .nil (List.forall_mem_nil _)
      · split at hfaults <;> cases hfaults
    | some result =>
      obtain ⟨l, behind⟩ := result
      rw [readTokens_of_token hresult] at hfaults ⊢
      obtain ⟨hgood, hlater⟩ := List.append_eq_nil_iff.1 hfaults
      have hlength : behind.skipBlanks.rest.length < room := by
        have := length_behind hresult
        omega
      exact .of_readToken hresult (List.map_eq_nil_iff.1 hgood) (ih hlength hlater)

/-- A text that is read without faults is read so wherever it stands. -/
lemma lexes_of_read {cs : List Char} (h : (read cs).faults = []) :
    Lexes cs ((read cs).tokens.map (·.token)) :=
  lexes_of_readTokens (c := ⟨0, cs⟩) (Nat.lt_succ_self _) h

/-- From its start on, a text is read with all its tokens if it has any. -/
lemma Lexes.read_of_ne_nil {cs : List Char} {ts : List Token} (h : Lexes cs ts) (hne : ts ≠ []) :
    (Lexer.read cs).tokens.map (·.token) = ts ∧ (Lexer.read cs).faults = [] := by
  obtain ⟨htokens, hfaults⟩ := h (cs.length + 1) 0 0 (Nat.lt_succ_self _)
  suffices heq : Lexer.read cs = readTokens (cs.length + 1) (Cursor.skipBlanks ⟨0, cs⟩) 0 by
    rw [heq]
    exact ⟨htokens, hfaults⟩
  cases hresult : (readToken (Cursor.skipBlanks ⟨0, cs⟩)).result? with
  | some result =>
    obtain ⟨l, behind⟩ := result
    have hresult' := hresult
    rw [← skipBlanks_skipBlanks] at hresult'
    rw [Lexer.read, readTokens_of_token hresult, readTokens_of_token hresult',
      skipBlanks_skipBlanks]
  | none =>
    rw [readTokens] at htokens hfaults
    simp only [skipBlanks_skipBlanks, hresult] at htokens hfaults
    split at hfaults
    · next hrest =>
      simp only [hrest] at htokens
      exact absurd htokens.symm hne
    · split at hfaults <;> cases hfaults

/-- Without tokens and faults there is no text. -/
lemma eq_nil_of_read {cs : List Char} (htokens : (read cs).tokens = [])
    (hfaults : (read cs).faults = []) : cs = [] := by
  rw [read, readTokens] at htokens hfaults
  dsimp only at htokens hfaults
  split at htokens
  · cases htokens
  · next hnone =>
    simp only [hnone] at hfaults
    split at hfaults
    · rfl
    · split at hfaults <;> cases hfaults

/-- A text of nothing but blanks has a fault. -/
lemma faults_of_blank {cs : List Char} (hblank : ∀ c ∈ cs, Text.isBlank c = true)
    (hne : cs ≠ []) : (read cs).faults ≠ [] := by
  intro hfaults
  have hroom : cs.length < cs.length + 1 := Nat.lt_succ_self _
  have hnone := (Lexes.nil hblank (cs.length + 1) 0 0 hroom).1
  rw [(lexes_of_read hfaults (cs.length + 1) 0 0 hroom).1, List.map_eq_nil_iff] at hnone
  exact hne (eq_nil_of_read hnone hfaults)

/-! ## Semicolons and comments -/

lemma readToken_semicolon (index : Nat) (rest : List Char) :
    (readToken ⟨index, ';' :: rest⟩).result? =
      some (.plain (.symbol .semicolon), ⟨index + 1, rest⟩) := by
  have hbrackets : (readSymbol ⟨index, ';' :: rest⟩ Symbol.brackets).result? = none := by
    rw [readSymbol_result?]
    rfl
  have hcomment : (readComment ⟨index, ';' :: rest⟩).result? = none := readComment_of_ne (by simp)
  have hnumber : (readNumber ⟨index, ';' :: rest⟩).result? = none :=
    readNumber_of_ne fun c hc => by cases hc; rfl
  have htext : (readText ⟨index, ';' :: rest⟩).result? = none :=
    readText_of_ne (by simp) (by simp)
  have hoperators : (readSymbol ⟨index, ';' :: rest⟩ Symbol.operators).result? =
      some (.semicolon, ⟨index + 1, rest⟩) := by
    rw [readSymbol_result?]
    rfl
  rw [readToken]
  simp only [orElse_result?, map_result?, hbrackets, hcomment, hnumber, htext, hoperators,
    Option.map_none, Option.map_some, Option.none_or, Option.some_or]

/-- A comment is read as a token, since no bracket starts with its mark. -/
lemma readToken_comment {index : Nat} {cs : List Char} {s : String} {behind : Cursor}
    (h : (readComment ⟨index, '/' :: cs⟩).result? = some (s, behind)) :
    (readToken ⟨index, '/' :: cs⟩).result? = some (.plain (.comment s), behind) := by
  have hbrackets : (readSymbol ⟨index, '/' :: cs⟩ Symbol.brackets).result? = none := by
    rw [readSymbol_result?]
    rfl
  rw [readToken]
  simp only [orElse_result?, map_result?, hbrackets, h, Option.map_none, Option.map_some,
    Option.none_or, Option.some_or]

/-- The text of a line comment, without the end of its line. -/
def lineComment (body : List Char) : List Char := '/' :: '/' :: body

/-- The text of a block comment. -/
def blockComment (body : List Char) : List Char := '/' :: '*' :: (body ++ ['*', '/'])

/-- The comment that ends behind a piece is the piece. -/
lemma comment_piece (piece rest : List Char) (index : Nat) :
    some (String.ofList ((piece ++ rest).take piece.length),
        Cursor.advance ⟨index, piece ++ rest⟩ piece.length) =
      some (String.ofList piece, (⟨index + piece.length, rest⟩ : Cursor)) := by
  rw [Cursor.advance, List.take_left, List.drop_left]

/-- A line comment ends at the end of its line. -/
lemma readComment_line {body rest : List Char} (hbody : ∀ c ∈ body, Text.isLineEnd c = false)
    (hrest : ∀ c ∈ rest.head?, Text.isLineEnd c = true) (index : Nat) :
    (readComment ⟨index, lineComment body ++ rest⟩).result? =
      some (String.ofList (lineComment body), ⟨index + (lineComment body).length, rest⟩) := by
  have hnone : rest.takeWhile (fun x => !Text.isLineEnd x) = [] := by
    cases rest with
    | nil => rfl
    | cons c cs => exact List.takeWhile_cons_of_neg (by simp [hrest c rfl])
  have htake : (body ++ rest).takeWhile (fun x => !Text.isLineEnd x) = body := by
    rw [List.takeWhile_append_of_pos fun c hc => by rw [hbody c hc]; rfl, hnone, List.append_nil]
  have hlength : 2 + body.length = (lineComment body).length := Nat.add_comm 2 body.length
  rw [← comment_piece]
  simp only [readComment, lineComment, List.cons_append, htake, hlength]

/-- A block comment ends at its first end mark. -/
lemma blockLength?_append {body : List Char} (h : ¬ ['*', '/'] <:+: body) (rest : List Char) :
    blockLength? (body ++ ['*', '/'] ++ rest) = some (body.length + 2) := by
  induction body with
  | nil => rfl
  | cons c body ih =>
    have hlater := ih fun hbody => h (hbody.trans (List.suffix_cons c body).isInfix)
    rw [List.cons_append, List.cons_append, blockLength?, hlater]
    · rfl
    · rintro cs rfl hcs
      cases body with
      | nil => cases hcs
      | cons d body =>
        obtain rfl : d = '/' := (List.cons.inj hcs).1
        exact h ⟨[], body, rfl⟩

lemma readComment_block {body : List Char} (h : ¬ ['*', '/'] <:+: body) (rest : List Char)
    (index : Nat) :
    (readComment ⟨index, blockComment body ++ rest⟩).result? =
      some (String.ofList (blockComment body), ⟨index + (blockComment body).length, rest⟩) := by
  have hlength : 2 + (body.length + 2) = (blockComment body).length := by
    simp only [blockComment, List.length_cons, List.length_append, List.length_nil]
    omega
  rw [← comment_piece]
  simp only [readComment, blockComment, List.cons_append, blockLength?_append h rest, hlength]

/-! ## Fillers -/

/-- Blanks, semicolons and complete comments, with the tokens they are read as. -/
inductive Fills : List Char → List Token → Prop where
  | nil : Fills [] []
  | blank {c cs ts} : Text.isBlank c = true → Fills cs ts → Fills (c :: cs) ts
  | semicolon {cs ts} : Fills cs ts → Fills (';' :: cs) (.symbol .semicolon :: ts)
  | line {body cs ts} : (∀ c ∈ body, Text.isLineEnd c = false) →
      (∀ c ∈ cs.head?, Text.isLineEnd c = true) → Fills cs ts →
      Fills (lineComment body ++ cs) (.comment (String.ofList (lineComment body)) :: ts)
  | block {body cs ts} : ¬ ['*', '/'] <:+: body → Fills cs ts →
      Fills (blockComment body ++ cs) (.comment (String.ofList (blockComment body)) :: ts)

namespace Fills

variable {w : List Char} {ts : List Token}

/-- On a line of its own in front of a text, a filler is read as its tokens. -/
lemma lexes (h : Fills w ts) {rest : List Char} {us : List Token} (hrest : Lexes rest us) :
    Lexes (w ++ '\n' :: rest) (ts ++ us) := by
  induction h with
  | nil =>
    have hbreak : ∀ c ∈ ['\n'], Text.isBlank c = true := by simp [Text.isBlank]
    exact hrest.blanks hbreak
  | @blank c cs ts hc _ ih =>
    have hblank : ∀ x ∈ [c], Text.isBlank x = true := by simpa using hc
    exact ih.blanks hblank
  | @semicolon cs ts _ ih =>
    have hsemicolon : ∃ x xs, [';'] = x :: xs ∧ Text.isBlank x = false := ⟨';', [], rfl, by decide⟩
    have hlexes := Lexes.token hsemicolon (fun index => readToken_semicolon index _) ih
    exact hlexes
  | @line body cs ts hbody hend _ ih =>
    have hends : ∀ c ∈ (cs ++ '\n' :: rest).head?, Text.isLineEnd c = true := by
      cases cs with
      | nil => simp [Text.isLineEnd]
      | cons c cs => exact hend
    rw [List.append_assoc]
    exact Lexes.token ⟨'/', _, rfl, by decide⟩
      (fun index => readToken_comment (readComment_line hbody hends index)) ih
  | @block body cs ts hbody _ ih =>
    rw [List.append_assoc]
    exact Lexes.token ⟨'/', _, rfl, by decide⟩
      (fun index => readToken_comment (readComment_block hbody _ index)) ih

/-- Apart from its comments, a filler has only semicolons. -/
lemma eq_semicolon_of_mem (h : Fills w ts) :
    ∀ t ∈ ts, t.isComment = false → t = .symbol .semicolon := by
  induction h with
  | nil => nofun
  | blank _ _ ih => exact ih
  | semicolon _ ih =>
    intro t ht hcomment
    rcases List.mem_cons.1 ht with rfl | ht
    · rfl
    · exact ih t ht hcomment
  | line _ _ _ ih | block _ _ ih =>
    intro t ht hcomment
    rcases List.mem_cons.1 ht with rfl | ht
    · cases hcomment
    · exact ih t ht hcomment

/-- A filler without tokens has only blanks. -/
lemma isBlank_of_mem (h : Fills w []) : ∀ c ∈ w, Text.isBlank c = true := by
  generalize htokens : ([] : List Token) = ts at h
  induction h with
  | nil => nofun
  | blank hc _ ih => exact List.forall_mem_cons.2 ⟨hc, ih htokens⟩
  | semicolon | line | block => cases htokens

end Fills

end ViewKit.Lexer
