/-
# Texts made of tokens

A text that is made of the written forms of tokens, with blanks between them where one could
be taken for a part of the next, is read as those tokens and has no faults (`Lexes`).  The
text of a token sequence has a single space between any two tokens, but none between a name
and a step of one up or down (`spaced`).  Conversely every name that is read from a text can
be written (`isName_of_readTokens`).
-/
import ViewKit.Proofs.Lexer.Token
import ViewKit.Template.Diagnostic

namespace ViewKit

/-! ## Blanks -/

lemma isBlank_of_inWord {c : Char} (h : Lexer.inWord c = true) : Text.isBlank c = false := by
  have hnine : '9'.val.toNat = 57 := rfl
  have hzero : '0'.val.toNat = 48 := rfl
  have hupper : 'A'.val.toNat = 65 ∧ 'Z'.val.toNat = 90 := ⟨rfl, rfl⟩
  have hlower : 'a'.val.toNat = 97 ∧ 'z'.val.toNat = 122 := ⟨rfl, rfl⟩
  have hvalue : c.toNat = c.val.toNat := rfl
  simp only [Lexer.inWord, Char.isAlphanum, Char.isAlpha, Char.isUpper, Char.isLower,
    Char.isDigit, Bool.or_eq_true, Bool.and_eq_true, decide_eq_true_eq, beq_iff_eq, ge_iff_le,
    UInt32.le_iff_toNat_le] at h
  rcases h with (h | rfl) | rfl
  · simp only [Text.isBlank, Bool.or_eq_false_iff, Bool.and_eq_false_iff, decide_eq_false_iff_not,
      beq_eq_false_iff_ne]
    omega
  · decide
  · decide

namespace Token

/-- No token starts with a blank. -/
lemma written_eq_cons {t : Token} (h : t.Writable) :
    ∃ c cs, t.written = c :: cs ∧ Text.isBlank c = false := by
  cases h with
  | symbol s => cases s <;> exact ⟨_, _, rfl, by decide⟩
  | keyword k => cases k <;> exact ⟨_, _, rfl, by decide⟩
  | name hs =>
    obtain ⟨c, cs, rfl, hc, -⟩ := hs
    exact ⟨c, cs, String.toList_ofList, isBlank_of_inWord (Lexer.inWord_of_startsWord hc)⟩
  | @number n hn =>
    rw [written, Number.wholePart_ofNat hn]
    cases hnumeral : Number.numeral n with
    | nil => exact absurd hnumeral (Number.numeral_ne_nil n)
    | cons c cs =>
      have hc : c.isDigit = true :=
        Number.isDigit_of_mem_numeral (by rw [hnumeral]; exact List.mem_cons_self)
      exact ⟨c, cs, rfl, isBlank_of_inWord (by simp [Lexer.inWord, Char.isAlphanum, hc])⟩
  | text s => exact ⟨_, _, rfl, by decide⟩

end Token

namespace Lexer

lemma drop_length_takeWhile (p : Char → Bool) (cs : List Char) :
    cs.drop (cs.takeWhile p).length = cs.dropWhile p := by
  have hdrop : (cs.takeWhile p ++ cs.dropWhile p).drop (cs.takeWhile p).length = cs.dropWhile p :=
    List.drop_left
  rwa [List.takeWhile_append_dropWhile] at hdrop

lemma rest_skipBlanks (c : Cursor) : c.skipBlanks.rest = c.rest.dropWhile Text.isBlank :=
  drop_length_takeWhile Text.isBlank c.rest

lemma skipBlanks_of_head? {c : Cursor} (h : ∀ x ∈ c.rest.head?, Text.isBlank x = false) :
    c.skipBlanks = c := by
  have htake : c.rest.takeWhile Text.isBlank = [] := by
    cases hrest : c.rest with
    | nil => rfl
    | cons x xs => exact List.takeWhile_cons_of_neg (by simp [h x (by rw [hrest]; rfl)])
  rw [Cursor.skipBlanks, htake]
  rfl

/-! ## Reading token by token -/

lemma readTokens_of_token {c behind : Cursor} {l : Lexeme}
    (h : (readToken c.skipBlanks).result? = some (l, behind)) (room reach : Nat) :
    readTokens (room + 1) c reach =
      (readTokens room behind.skipBlanks (max reach (readToken c.skipBlanks).reach)).cons
        c.skipBlanks.index behind.index l := by
  rw [readTokens]
  simp only [h]

lemma readTokens_nil (room index reach : Nat) : readTokens room ⟨index, []⟩ reach = ⟨[], []⟩ := by
  cases room <;> rfl

/-- Wherever it stands, a text with perhaps blanks in front is read as the tokens. -/
def Lexes (cs : List Char) (ts : List Token) : Prop :=
  ∀ room index reach, cs.length < room →
    (readTokens room (Cursor.skipBlanks ⟨index, cs⟩) reach).tokens.map (·.token) = ts ∧
      (readTokens room (Cursor.skipBlanks ⟨index, cs⟩) reach).faults = []

lemma Lexes.nil {cs : List Char} (h : ∀ c ∈ cs, Text.isBlank c = true) : Lexes cs [] := by
  intro room index reach _
  have hrest : (Cursor.skipBlanks ⟨index, cs⟩).rest = [] := by
    rw [rest_skipBlanks]
    exact List.dropWhile_eq_nil_iff.2 h
  have hcursor : Cursor.skipBlanks ⟨index, cs⟩ = ⟨(Cursor.skipBlanks ⟨index, cs⟩).index, []⟩ := by
    rw [← hrest]
  rw [hcursor, readTokens_nil]
  exact ⟨rfl, rfl⟩

lemma Lexes.blanks {blanks cs : List Char} {ts : List Token} (h : Lexes cs ts)
    (hblanks : ∀ c ∈ blanks, Text.isBlank c = true) : Lexes (blanks ++ cs) ts := by
  intro room index reach hroom
  have hskip : Cursor.skipBlanks ⟨index, blanks ++ cs⟩ =
      Cursor.skipBlanks ⟨index + blanks.length, cs⟩ := by
    simp [Cursor.skipBlanks, Cursor.advance, List.takeWhile_append_of_pos hblanks, Nat.add_assoc]
  rw [hskip]
  exact h room _ reach (by rw [List.length_append] at hroom; omega)

/-- Characters that are read as a token wherever they stand, with a text behind them. -/
lemma Lexes.token {piece rest : List Char} {t : Token} {ts : List Token}
    (hpiece : ∃ x xs, piece = x :: xs ∧ Text.isBlank x = false)
    (htoken : ∀ index, (readToken ⟨index, piece ++ rest⟩).result? =
      some (.plain t, ⟨index + piece.length, rest⟩)) (h : Lexes rest ts) :
    Lexes (piece ++ rest) (t :: ts) := by
  intro room index reach hroom
  obtain ⟨x, xs, rfl, hx⟩ := hpiece
  have hskip : Cursor.skipBlanks ⟨index, x :: xs ++ rest⟩ = ⟨index, x :: xs ++ rest⟩ :=
    skipBlanks_of_head? fun y hy => Option.some.inj hy ▸ hx
  obtain ⟨room, rfl⟩ : ∃ room', room = room' + 1 := ⟨room - 1, by omega⟩
  have hlength : rest.length < room := by
    rw [List.length_append, List.length_cons] at hroom
    omega
  have hread := htoken index
  rw [← hskip] at hread
  rw [hskip, readTokens_of_token hread]
  obtain ⟨htokens, hfaults⟩ := h room (index + (x :: xs).length)
    (max reach (readToken (Cursor.skipBlanks ⟨index, x :: xs ++ rest⟩)).reach) hlength
  exact ⟨congrArg (t :: ·) htokens, hfaults⟩

lemma Lexes.cons {t : Token} {ts : List Token} {rest : List Char} (ht : t.Writable)
    (hrest : ∀ c ∈ rest.head?, t.endsAt c) (h : Lexes rest ts) :
    Lexes (t.written ++ rest) (t :: ts) :=
  .token (t.written_eq_cons ht) (t.readToken_written ht hrest) h

/-- A text that does not start with a blank is read from its start. -/
lemma Lexes.read {cs : List Char} {ts : List Token} (h : Lexes cs ts)
    (hstart : ∀ c ∈ cs.head?, Text.isBlank c = false) :
    (read cs).tokens.map (·.token) = ts ∧ (read cs).faults = [] := by
  have hread := h (cs.length + 1) 0 0 (Nat.lt_succ_self _)
  rwa [skipBlanks_of_head? hstart] at hread

/-! ## The names in a text -/

lemma isName_of_ofWord {word s : String} (h : Token.ofWord word = .name s) {c : Char}
    {cs : List Char} (hword : word = String.ofList (c :: cs)) (hc : startsWord c = true)
    (hcs : ∀ x ∈ cs, inWord x = true) : IsName s := by
  rw [Token.ofWord] at h
  split at h
  · cases h
  · next hnone =>
    cases h
    refine ⟨c, cs, hword, hc, hcs, fun k hk => ?_⟩
    have hall : k ∈ Keyword.all := by cases k <;> decide
    exact absurd hk (by simpa using List.find?_eq_none.1 hnone k hall)

/-- A word goes as far as there are letters and digits. -/
lemma of_readWord {c behind : Cursor} {word : String}
    (h : (readWord c).result? = some (word, behind)) :
    ∃ x xs rest, word = String.ofList (x :: xs) ∧ c.rest = x :: xs ++ rest ∧
      startsWord x = true ∧ (∀ y ∈ xs, inWord y = true) ∧ (∀ y ∈ rest.head?, inWord y = false) ∧
      behind = ⟨c.index + (x :: xs).length, rest⟩ := by
  obtain ⟨index, cs⟩ := c
  cases cs with
  | nil => cases h
  | cons x xs =>
    by_cases hx : startsWord x = true
    · have htake : xs.take (xs.takeWhile inWord).length = xs.takeWhile inWord :=
        (List.prefix_iff_eq_take.1 (List.takeWhile_prefix inWord)).symm
      simp only [readWord, if_pos hx, Nat.add_comm 1, List.take_succ_cons, htake,
        Cursor.advance, List.drop_succ_cons, drop_length_takeWhile] at h
      obtain ⟨rfl, rfl⟩ := Prod.mk.inj (Option.some.inj h)
      refine ⟨x, xs.takeWhile inWord, xs.dropWhile inWord, rfl, ?_, hx, ?_, ?_, rfl⟩
      · rw [List.cons_append, List.takeWhile_append_dropWhile]
      · exact fun y hy => List.mem_takeWhile_imp hy
      · intro y hy
        have hnot := List.head?_dropWhile_not inWord xs
        rw [Option.mem_def.1 hy] at hnot
        simpa using hnot
    · simp only [readWord, if_neg hx] at h
      cases h

/-- A name that is read can be written. -/
lemma isName_of_readToken {c behind : Cursor} {l : Lexeme} {s : String}
    (h : (readToken c).result? = some (l, behind)) (hname : l.token = .name s) : IsName s := by
  cases standsAt_of_readToken h with
  | word hread =>
    obtain ⟨x, xs, -, hword, -, hx, hxs, -⟩ := of_readWord hread
    exact isName_of_ofWord hname hword hx hxs
  | _ => cases hname

lemma isName_of_readTokens (room : Nat) (c : Cursor) (reach : Nat)
    (hfaults : (readTokens room c reach).faults = []) :
    ∀ t ∈ (readTokens room c reach).tokens, ∀ s, t.token = .name s → IsName s := by
  induction room generalizing c reach with
  | zero => nofun
  | succ room ih =>
    cases hresult : (readToken c.skipBlanks).result? with
    | some result =>
      obtain ⟨l, behind⟩ := result
      rw [readTokens_of_token hresult] at hfaults ⊢
      have hlater := ih _ _ (List.append_eq_nil_iff.1 hfaults).2
      intro t ht s hs
      rcases List.mem_cons.1 ht with rfl | ht
      · exact isName_of_readToken hresult hs
      · exact hlater t ht s hs
    | none =>
      rw [readTokens] at hfaults ⊢
      simp only [hresult] at hfaults ⊢
      split at hfaults
      · nofun
      · split at hfaults <;> cases hfaults

end Lexer

/-- A text of tokens that are read as a program is parsed as the program. -/
lemma Program.parse_of_lexes {cs : List Char} {ts : List Token} {p : Program}
    (h : Lexer.Lexes cs ts) (hstart : ∀ c ∈ cs.head?, Text.isBlank c = false)
    (hcomment : ∀ t ∈ ts, t.isComment = false) (hread : Program.read ts = .ok p) :
    Program.parse cs = .ok p := by
  obtain ⟨htokens, hfaults⟩ := h.read hstart
  have hfilter : (Lexer.read cs).tokens.filter (fun t => !t.token.isComment) =
      (Lexer.read cs).tokens := by
    refine List.filter_eq_self.2 fun t ht => ?_
    rw [hcomment t.token (htokens ▸ List.mem_map_of_mem ht)]
    rfl
  rw [Program.parse]
  simp only [hfaults, hfilter, htokens, hread]

/-- A token that a grammar may meet: no comment, and a name only if it can be written. -/
def Token.Legible (t : Token) : Prop := t.isComment = false ∧ ∀ s, t = .name s → Lexer.IsName s

/-- What is parsed as a program is read from legible tokens. -/
lemma Program.exists_read_of_parse {cs : List Char} {p : Program} (h : Program.parse cs = .ok p) :
    ∃ ts, Program.read ts = .ok p ∧ ∀ t ∈ ts, t.Legible := by
  rw [Program.parse] at h
  simp only at h
  split at h
  · next hfaults =>
    split at h
    · next program hread =>
      cases h
      refine ⟨_, hread, fun t ht => ?_⟩
      obtain ⟨placed, hplaced, rfl⟩ := List.mem_map.1 ht
      obtain ⟨hmem, hcomment⟩ := List.mem_filter.1 hplaced
      exact ⟨by simpa using hcomment, Lexer.isName_of_readTokens _ _ _ hfaults placed hmem⟩
    · cases h
  · cases h

/-! ## Tokens with spaces between them -/

namespace Token

/-- What stands between two tokens: a space, but nothing in front of a step of a name. -/
def gap : Token → Token → List Char
  | name _, symbol .increment => []
  | name _, symbol .decrement => []
  | _, _ => [' ']

/-- The text of some tokens. -/
def spaced : List Token → List Char
  | [] => []
  | [t] => t.written
  | t :: u :: ts => t.written ++ (gap t u ++ spaced (u :: ts))

lemma endsAt_gap {t u : Token} (ht : t.Writable) (hu : u.Writable) (rest : List Char) :
    ∀ c ∈ (gap t u ++ (u.written ++ rest)).head?, t.endsAt c := by
  have hspace : t.endsAt ' ' := by
    cases ht with
    | symbol | keyword | name | number => simp only [endsAt]; decide
    | text => trivial
  unfold gap
  split
  · intro c hc
    cases hu
    cases hc
    rfl
  · intro c hc
    cases hu
    cases hc
    rfl
  · intro c hc
    cases hc
    exact hspace

lemma isBlank_of_mem_gap (t u : Token) : ∀ c ∈ gap t u, Text.isBlank c = true := by
  unfold gap
  split <;> simp [Text.isBlank]

lemma exists_spaced_cons (t : Token) (ts : List Token) :
    ∃ rest, spaced (t :: ts) = t.written ++ rest := by
  cases ts with
  | nil => exact ⟨[], (List.append_nil _).symm⟩
  | cons u ts => exact ⟨_, rfl⟩

/-- The text of some tokens is read as the tokens. -/
lemma lexes_spaced (ts : List Token) (h : ∀ t ∈ ts, t.Writable) : Lexer.Lexes (spaced ts) ts := by
  induction ts with
  | nil => exact .nil nofun
  | cons t ts ih =>
    have ht := h t List.mem_cons_self
    have hts : ∀ u ∈ ts, u.Writable := fun u hu => h u (List.mem_cons_of_mem t hu)
    cases ts with
    | nil =>
      have hlast : Lexer.Lexes (t.written ++ []) [t] := .cons ht nofun (.nil nofun)
      rwa [List.append_nil] at hlast
    | cons u ts =>
      obtain ⟨rest, hrest⟩ := exists_spaced_cons u ts
      have hends := endsAt_gap ht (hts u List.mem_cons_self) rest
      rw [← hrest] at hends
      exact .cons ht hends ((ih hts).blanks (isBlank_of_mem_gap t u))

lemma head?_spaced {ts : List Token} (h : ∀ t ∈ ts, t.Writable) :
    ∀ c ∈ (spaced ts).head?, Text.isBlank c = false := by
  cases ts with
  | nil => nofun
  | cons t ts =>
    obtain ⟨rest, hrest⟩ := exists_spaced_cons t ts
    obtain ⟨c, cs, hwritten, hc⟩ := t.written_eq_cons (h t List.mem_cons_self)
    intro x hx
    rw [hrest, hwritten] at hx
    exact Option.some.inj hx ▸ hc

end Token
end ViewKit
