/-
# Tokens cut a text into pieces

The tokens that are read from a text without faults stand one behind the other in it, and what
is between them is blank (`tiles_read`).  Each of them is a token on its own: its piece of the
text is read as this one token (`readToken_alone`).  None of them is cut off too early: a word
ends where no letter or digit follows, and an operator is the longest symbol that starts at its
place (`longest_of_readToken`).

Every kind of token is read from the characters that are consumed, and what stands behind them
only tells where it ends; so reading stops in the same way where the text ends there.
-/
import Mathlib.Data.List.Basic
import ViewKit.Proofs.Lexer.Filler

namespace ViewKit.Lexer

variable {i n : Nat} {cs : List Char}

/-! ## Kinds of tokens, recognised by their first character -/

lemma readToken_of_readNumber {x : Float} {behind : Cursor}
    (h : (readNumber ⟨i, cs⟩).result? = some (x, behind)) :
    (readToken ⟨i, cs⟩).result? = some (.plain (.number x), behind) := by
  have hdigit : ∃ c ds, cs = c :: ds ∧ c.isDigit = true := by
    by_contra hnone
    push Not at hnone
    rw [readNumber_of_ne] at h
    · cases h
    · intro c hc
      cases cs with
      | nil => cases hc
      | cons d ds =>
        cases hc
        exact Bool.eq_false_iff.2 (hnone _ _ rfl)
  obtain ⟨c, ds, rfl, hc⟩ := hdigit
  have hword : inWord c = true := by simp [inWord, Char.isAlphanum, hc]
  have hslash : c ≠ '/' := by
    rintro rfl
    cases hc
  rw [readToken]
  simp only [orElse_result?, map_result?]
  rw [readSymbol_of_startsNoSymbol (startsNoSymbol_of_isAlphanum hword),
    readComment_of_ne (by simpa using hslash), h]
  rfl

lemma readToken_of_readText {q : Quoted} {behind : Cursor}
    (h : (readText ⟨i, cs⟩).result? = some (q, behind)) :
    (readToken ⟨i, cs⟩).result? =
      some (⟨.text (String.ofList q.characters), q.badEscapes⟩, behind) := by
  have hquote : ∃ c ds, cs = c :: ds ∧ (c = '\'' ∨ c = '"') := by
    by_contra hnone
    push Not at hnone
    rw [readText_of_ne] at h
    · cases h
    all_goals
      intro hc
      cases cs with
      | nil => cases hc
      | cons d ds =>
        cases hc
        simpa using hnone _ _ rfl
  obtain ⟨c, ds, rfl, hc⟩ := hquote
  have hsymbol : startsNoSymbol c := by
    rcases hc with rfl | rfl <;> intro s <;> cases s <;> decide
  have hslash : c ≠ '/' := by rcases hc with rfl | rfl <;> decide
  have hdigit : c.isDigit = false := by rcases hc with rfl | rfl <;> rfl
  rw [readToken]
  simp only [orElse_result?, map_result?]
  rw [readSymbol_of_startsNoSymbol hsymbol, readComment_of_ne (by simpa using hslash),
    readNumber_of_ne (by simpa using hdigit), h]
  rfl

lemma readToken_of_readComment {x : String} {behind : Cursor}
    (h : (readComment ⟨i, cs⟩).result? = some (x, behind)) :
    (readToken ⟨i, cs⟩).result? = some (.plain (.comment x), behind) := by
  by_cases hslash : cs.head? = some '/'
  · obtain ⟨ds, rfl⟩ := List.head?_eq_some_iff.1 hslash
    exact readToken_comment h
  · rw [readComment_of_ne hslash] at h
    cases h

/-! ## Numbers -/

/-- The number of digits in front of a point. -/
def wholeLength : List Char → Nat
  | '0' :: _ => 1
  | cs => (cs.takeWhile Char.isDigit).length

/-- The number of characters of a point and the digits behind it, if there are any. -/
def fractionLength : List Char → Nat
  | '.' :: cs => if (cs.takeWhile Char.isDigit).length = 0 then 0
    else (cs.takeWhile Char.isDigit).length + 1
  | _ => 0

/-- The number of characters of a number. -/
def numberLength (cs : List Char) : Nat :=
  wholeLength cs + fractionLength (cs.drop (wholeLength cs))

lemma fractionLength_of_point (ds : List Char) :
    fractionLength ('.' :: ds) = if (ds.takeWhile Char.isDigit).length = 0 then 0
      else (ds.takeWhile Char.isDigit).length + 1 := rfl

lemma readNumber_result? (c : Cursor) :
    (readNumber c).result? =
      if wholeLength c.rest = 0 then none
      else (Number.readDigits? (c.rest.take (numberLength c.rest))).map fun x =>
        (x, c.advance (numberLength c.rest)) := by
  rw [readNumber, numberLength]
  dsimp only
  split
  case' h_1 hrest =>
    have hwhole : wholeLength c.rest = 1 := by rw [hrest]; rfl
  case' h_2 hrest =>
    have hwhole : wholeLength c.rest = (c.rest.takeWhile Char.isDigit).length := by
      rw [wholeLength.eq_def]
      split
      · next hzero => exact absurd hzero (hrest _)
      · rfl
  all_goals
    rw [hwhole]
    split
    · rfl
    · split
      · next ds hdrop =>
        rw [hdrop, fractionLength_of_point]
        split
        · rfl
        · simp only [Nat.add_assoc, Nat.add_comm 1 (List.length _)]
      · next hpoint =>
        have hnone : fractionLength (c.rest.drop (wholeLength c.rest)) = 0 := by
          rw [hwhole, fractionLength.eq_def]
          split
          · next hdrop => exact absurd hdrop (hpoint _)
          · rfl
        rw [hwhole] at hnone
        simp only [hnone, Nat.add_zero]

lemma wholeLength_take (h : wholeLength cs ≤ n) : wholeLength (cs.take n) = wholeLength cs := by
  cases n with
  | zero => rw [Nat.le_zero.1 h]; rfl
  | succ n =>
    cases cs with
    | nil => rfl
    | cons c cs =>
      by_cases hzero : c = '0'
      · subst hzero
        rfl
      · have hwhole (ds : List Char) :
            wholeLength (c :: ds) = ((c :: ds).takeWhile Char.isDigit).length := by
          simp [wholeLength, hzero]
        rw [hwhole] at h
        rw [List.take_succ_cons, hwhole, hwhole, ← List.take_succ_cons, ← List.take_takeWhile,
          List.take_of_length_le h]

lemma fractionLength_take (h : fractionLength cs ≤ n) :
    fractionLength (cs.take n) = fractionLength cs := by
  cases n with
  | zero => rw [Nat.le_zero.1 h]; rfl
  | succ n =>
    cases cs with
    | nil => rfl
    | cons c cs =>
      by_cases hpoint : c = '.'
      · subst hpoint
        rw [List.take_succ_cons, fractionLength_of_point, fractionLength_of_point,
          ← List.take_takeWhile, List.take_of_length_le]
        rw [fractionLength_of_point] at h
        split at h <;> omega
      · have hnone (ds : List Char) : fractionLength (c :: ds) = 0 := by
          simp [fractionLength, hpoint]
        rw [List.take_succ_cons, hnone, hnone]

/-- The characters of a number are a number of that length. -/
lemma numberLength_take (cs : List Char) :
    numberLength (cs.take (numberLength cs)) = numberLength cs := by
  have hwhole : wholeLength (cs.take (numberLength cs)) = wholeLength cs :=
    wholeLength_take (Nat.le_add_right _ _)
  rw [numberLength, hwhole, List.drop_take, fractionLength_take]
  · rfl
  · rw [numberLength]
    omega

lemma readNumber_alone {x : Float} {behind : Cursor}
    (h : (readNumber ⟨i, cs⟩).result? = some (x, behind)) :
    ∃ n, behind = Cursor.advance ⟨i, cs⟩ n ∧
      (readNumber ⟨i, cs.take n⟩).result? = some (x, Cursor.advance ⟨i, cs.take n⟩ n) := by
  rw [readNumber_result?] at h
  split at h
  · cases h
  · next hne =>
    obtain ⟨x', hx, heq⟩ := Option.map_eq_some_iff.1 h
    obtain ⟨rfl, rfl⟩ := Prod.mk.inj heq
    refine ⟨numberLength cs, rfl, ?_⟩
    have hwhole : wholeLength (cs.take (numberLength cs)) = wholeLength cs :=
      wholeLength_take (Nat.le_add_right _ _)
    rw [readNumber_result?]
    simp only [hwhole, numberLength_take, List.take_take, Nat.min_self]
    rw [if_neg hne, hx]
    rfl

/-! ## Comments -/

lemma blockLength?_take {ds : List Char} {m : Nat} (h : blockLength? ds = some m) :
    blockLength? (ds.take m) = some m := by
  fun_induction blockLength? ds generalizing m with
  | case1 rest =>
    cases h
    rfl
  | case2 d ds hopen ih =>
    obtain ⟨m, hm, rfl⟩ := Option.map_eq_some_iff.1 h
    rw [List.take_succ_cons, blockLength?, ih hm]
    · rfl
    · rintro rest rfl hrest
      cases ds with
      | nil => cases hm
      | cons e es =>
        cases m with
        | zero => cases hrest
        | succ m =>
          cases hrest
          exact hopen es rfl rfl
  | case3 => cases h

lemma readComment_alone {x : String} {behind : Cursor}
    (h : (readComment ⟨i, cs⟩).result? = some (x, behind)) :
    ∃ n, behind = Cursor.advance ⟨i, cs⟩ n ∧
      (readComment ⟨i, cs.take n⟩).result? = some (x, Cursor.advance ⟨i, cs.take n⟩ n) := by
  rw [readComment] at h
  dsimp only at h
  split at h
  · next ds =>
    obtain ⟨rfl, rfl⟩ := Prod.mk.inj (Option.some.inj h)
    refine ⟨_, rfl, ?_⟩
    have hline : ((ds.take (ds.takeWhile fun x => !Text.isLineEnd x).length).takeWhile
        fun x => !Text.isLineEnd x) = ds.takeWhile fun x => !Text.isLineEnd x := by
      rw [← List.take_takeWhile, List.take_length]
    rw [Nat.add_comm 2, List.take_succ_cons, List.take_succ_cons, readComment]
    simp only [hline]
    rw [Nat.add_comm 2, List.take_of_length_le]
    simp
  · next ds =>
    split at h
    · next m hm =>
      obtain ⟨rfl, rfl⟩ := Prod.mk.inj (Option.some.inj h)
      refine ⟨_, rfl, ?_⟩
      rw [Nat.add_comm 2, List.take_succ_cons, List.take_succ_cons, readComment]
      simp only [blockLength?_take hm]
      rw [Nat.add_comm 2, List.take_of_length_le]
      simp
    · cases h
  · cases h
  · cases h

/-! ## Quoted texts -/

/-- A quoted text is read from its own characters alone. -/
lemma readQuoted_alone {quote : Char} (hquote : quote ≠ '\\') {q : Quoted} {behind : Cursor}
    (h : (readQuoted quote i cs).result? = some (q, behind)) :
    ∃ body, cs = body ++ behind.rest ∧
      (readQuoted quote i body).result? = some (q, ⟨behind.index, []⟩) := by
  fun_induction readQuoted quote i cs generalizing q behind with
  | case2 i rest =>
    cases h
    exact ⟨[quote], rfl, congrArg Attempt.result? (readQuoted_end quote i [])⟩
  | case4 i c₁ c₂ c₃ c₄ rest digits hhex hne =>
    rename_i ih
    obtain ⟨⟨q, behind⟩, hq, heq⟩ := Option.map_eq_some_iff.1 h
    obtain ⟨rfl, rfl⟩ := Prod.mk.inj heq
    obtain ⟨body, rfl, hbody⟩ := ih hq
    refine ⟨'\\' :: 'u' :: (digits ++ body), rfl, ?_⟩
    rw [readQuoted_number hquote rfl hhex, map_result?, hbody]
    rfl
  | case7 i e rest hu hnotu x he hne ih =>
    obtain ⟨⟨q, behind⟩, hq, heq⟩ := Option.map_eq_some_iff.1 h
    obtain ⟨rfl, rfl⟩ := Prod.mk.inj heq
    obtain ⟨body, rfl, hbody⟩ := ih hq
    refine ⟨'\\' :: e :: body, rfl, ?_⟩
    rw [readQuoted_escaped hquote he, map_result?, hbody]
    rfl
  | case9 i c cs hne hescape ih =>
    obtain ⟨⟨q, behind⟩, hq, heq⟩ := Option.map_eq_some_iff.1 h
    obtain ⟨rfl, rfl⟩ := Prod.mk.inj heq
    obtain ⟨body, rfl, hbody⟩ := ih hq
    refine ⟨c :: body, rfl, ?_⟩
    rw [readQuoted_plain hne hescape, map_result?, hbody]
    rfl
  | _ => cases h

lemma readText_alone {q : Quoted} {behind : Cursor}
    (h : (readText ⟨i, cs⟩).result? = some (q, behind)) :
    ∃ n, behind = Cursor.advance ⟨i, cs⟩ n ∧
      (readText ⟨i, cs.take n⟩).result? = some (q, Cursor.advance ⟨i, cs.take n⟩ n) := by
  obtain ⟨n, -, hle, rfl⟩ := (within_readText ⟨i, cs⟩).result q behind h
  have hquoted : ∃ quote ds, cs = quote :: ds ∧ (quote = '\'' ∨ quote = '"') ∧
      (readQuoted quote (i + 1) ds).result? = some (q, Cursor.advance ⟨i, cs⟩ n) := by
    rw [readText] at h
    split at h
    · next ds hcs => exact ⟨_, ds, hcs, .inl rfl, h⟩
    · next ds hcs => exact ⟨_, ds, hcs, .inr rfl, h⟩
    · cases h
  obtain ⟨quote, ds, rfl, hquote, hread⟩ := hquoted
  have hescape : quote ≠ '\\' := by rcases hquote with rfl | rfl <;> decide
  obtain ⟨body, hds, hbody⟩ := readQuoted_alone hescape hread
  have htake : (quote :: ds).take n = quote :: body := by
    have hcs : quote :: ds = (quote :: body) ++ (quote :: ds).drop n := congrArg (quote :: ·) hds
    have hsplit := List.take_append_drop n (quote :: ds)
    exact List.append_cancel_right (hsplit.trans hcs)
  have hlength : (quote :: body).length = n := by
    rw [← htake, List.length_take, Nat.min_eq_left hle]
  refine ⟨n, rfl, ?_⟩
  have hend : Cursor.advance ⟨i, quote :: body⟩ n = ⟨i + n, []⟩ := by
    rw [Cursor.advance, ← hlength, List.drop_length]
  rw [htake, hend]
  rcases hquote with rfl | rfl <;> exact hbody

/-! ## All tokens -/

/-- A symbol is read from its own characters alone. -/
lemma readToken_symbol_alone {s : Symbol} (h : s.text.isPrefixOf cs = true) (i : Nat) :
    (readToken ⟨i, cs.take s.text.length⟩).result? =
      some (.plain (.symbol s), ⟨i + s.text.length, []⟩) := by
  obtain ⟨rest, hrest⟩ := List.isPrefixOf_iff_prefix.1 h
  have hnone : ∀ c ∈ ([] : List Char).head?, c ∉ symbolTails := by simp
  have hread := Token.readToken_symbol s hnone i
  rw [Token.written, List.append_nil] at hread
  rw [← hrest, List.take_left, hread]

/-- A word is read from its own characters alone. -/
lemma readToken_word_alone {c : Char} {ds : List Char} (hc : startsWord c = true)
    (hds : ∀ x ∈ ds, inWord x = true) (rest : List Char) (i : Nat) :
    (readToken ⟨i, (c :: ds ++ rest).take (c :: ds).length⟩).result? =
      some (.plain (Token.ofWord (String.ofList (c :: ds))), ⟨i + (c :: ds).length, []⟩) := by
  have hnone : ∀ x ∈ ([] : List Char).head?, inWord x = false := by simp
  have hword := Token.readToken_word hc hds hnone i
  rw [List.append_nil] at hword
  rw [List.take_left, hword]

/-- A token that is read is read from its own characters alone. -/
lemma readToken_alone {l : Lexeme} {behind : Cursor}
    (h : (readToken ⟨i, cs⟩).result? = some (l, behind)) :
    ∃ n, 0 < n ∧ n ≤ cs.length ∧ behind = Cursor.advance ⟨i, cs⟩ n ∧
      (readToken ⟨i, cs.take n⟩).result? = some (l, ⟨i + n, []⟩) := by
  obtain ⟨n, hpos, hle, hbehind⟩ := (within_readToken ⟨i, cs⟩).result l behind h
  refine ⟨n, hpos, hle, hbehind, ?_⟩
  have hend : Cursor.advance ⟨i, cs.take n⟩ n = ⟨i + n, []⟩ := by
    rw [Cursor.advance, List.drop_of_length_le]
    exact List.length_take_le n cs
  -- the number of characters is the one that the reader of the kind gives
  have hsame : ∀ m, Cursor.advance ⟨i, cs⟩ m = Cursor.advance ⟨i, cs⟩ n → m = n := by
    intro m hm
    have hindex : i + m = i + n := congrArg Cursor.index hm
    omega
  cases standsAt_of_readToken h with
  | bracket hfind | operator _ hfind =>
    obtain rfl := hsame _ hbehind
    have hstands := List.find?_some hfind
    exact readToken_symbol_alone hstands i
  | comment hread =>
    obtain ⟨m, rfl, halone⟩ := readComment_alone hread
    obtain rfl := hsame m hbehind
    rw [readToken_of_readComment halone, hend]
  | number hread =>
    obtain ⟨m, rfl, halone⟩ := readNumber_alone hread
    obtain rfl := hsame m hbehind
    rw [readToken_of_readNumber halone, hend]
  | text hread =>
    obtain ⟨m, rfl, halone⟩ := readText_alone hread
    obtain rfl := hsame m hbehind
    rw [readToken_of_readText halone, hend]
  | word hread =>
    obtain ⟨c, ds, rest, rfl, rfl, hc, hds, -, rfl⟩ := of_readWord hread
    obtain rfl : (c :: ds).length = n := by
      have hindex : i + (c :: ds).length = i + n := congrArg Cursor.index hbehind
      omega
    exact readToken_word_alone hc hds rest i

/-! ## Where tokens end -/

lemma ofWord_ne_symbol (w : String) (s : Symbol) : Token.ofWord w ≠ .symbol s := by
  rw [Token.ofWord]
  split <;> exact Token.noConfusion

/-- Behind a word there is no letter and no digit. -/
lemma head?_of_readToken {c behind : Cursor} {l : Lexeme}
    (h : (readToken c).result? = some (l, behind))
    (hword : (∃ s, l.token = .name s) ∨ ∃ k, l.token = .keyword k) :
    ∀ x ∈ behind.rest.head?, inWord x = false := by
  cases standsAt_of_readToken h with
  | word hread =>
    obtain ⟨x, xs, rest, -, -, -, -, hrest, rfl⟩ := of_readWord hread
    exact hrest
  | _ => rcases hword with ⟨_, hword⟩ | ⟨_, hword⟩ <;> cases hword

/-- Every operator stands in the list before those that it starts with. -/
lemma operators_pairwise :
    Symbol.operators.Pairwise fun s t => s.text.isPrefixOf t.text = false := by
  decide +kernel

/-- The operator that is found first is the longest symbol at its place, if no bracket stands
there. -/
lemma longest_of_find? {s : Symbol}
    (hbracket : Symbol.brackets.find? (·.text.isPrefixOf cs) = none)
    (hfind : Symbol.operators.find? (·.text.isPrefixOf cs) = some s) {t : Symbol}
    (ht : t.text <+: cs) : t.text.length ≤ s.text.length := by
  obtain ⟨hs, before, after, hsplit, hbefore⟩ := List.find?_eq_some_iff_append.1 hfind
  have hstands : t.text.isPrefixOf cs = true := List.isPrefixOf_iff_prefix.2 ht
  have hmem : t ∈ before ++ s :: after := by
    rw [← hsplit]
    by_contra hnot
    have hopen : t ∈ Symbol.brackets := by
      revert hnot
      cases t <;> decide
    exact List.find?_eq_none.1 hbracket t hopen hstands
  rcases List.mem_append.1 hmem with hmem | hmem
  · have hnot := hbefore t hmem
    rw [hstands] at hnot
    cases hnot
  · rcases List.mem_cons.1 hmem with rfl | hmem
    · exact Nat.le_refl _
    · have hpairwise := operators_pairwise
      rw [hsplit] at hpairwise
      have hnot := (List.pairwise_cons.1 (List.pairwise_append.1 hpairwise).2.1).1 t hmem
      refine Nat.le_of_not_le fun hle => ?_
      have hprefix : s.text <+: t.text :=
        List.prefix_of_prefix_length_le (List.isPrefixOf_iff_prefix.1 hs) ht hle
      rw [List.isPrefixOf_iff_prefix.2 hprefix] at hnot
      cases hnot

/-- An operator is the longest symbol at its place. -/
lemma longest_of_readToken {c behind : Cursor} {l : Lexeme} {s : Symbol}
    (h : (readToken c).result? = some (l, behind)) (hl : l.token = .symbol s)
    (hs : s ∈ Symbol.operators) :
    s.text <+: c.rest ∧ ∀ t : Symbol, t.text <+: c.rest → t.text.length ≤ s.text.length := by
  cases standsAt_of_readToken h with
  | bracket hfind =>
    cases hl
    have hall : ∀ s ∈ Symbol.brackets, s ∉ Symbol.operators := by decide
    exact absurd hs (hall s (List.mem_of_find?_eq_some hfind))
  | operator hbracket hfind =>
    cases hl
    have hstands := List.find?_some hfind
    exact ⟨List.isPrefixOf_iff_prefix.1 hstands, fun t ht => longest_of_find? hbracket hfind ht⟩
  | word _ => exact absurd hl (ofWord_ne_symbol _ _)
  | _ => cases hl

/-! ## Texts -/

/-- The piece of a text that a token was read from. -/
def Placed.piece (text : List Char) (t : Placed) : List Char :=
  (text.drop t.start).take (t.stop - t.start)

/-- A token is cut out of a text as a whole. -/
structure Placed.IsWhole (text : List Char) (t : Placed) : Prop where
  nonempty : t.start < t.stop
  inside : t.stop ≤ text.length
  /-- The piece of the token is read as this one token. -/
  alone : read (t.piece text) = ⟨[⟨t.token, 0, t.stop - t.start⟩], []⟩
  /-- A word goes as far as there are letters and digits. -/
  word : ((∃ s, t.token = .name s) ∨ ∃ k, t.token = .keyword k) →
    ∀ x, text[t.stop]? = some x → inWord x = false
  /-- An operator is the longest symbol that starts where it does. -/
  longest : ∀ s ∈ Symbol.operators, t.token = .symbol s → s.text <+: text.drop t.start ∧
    ∀ s' : Symbol, s'.text <+: text.drop t.start → s'.text.length ≤ s.text.length

/-- All characters between two positions of a text are blank. -/
def BlankBetween (text : List Char) (i j : Nat) : Prop :=
  ∀ k x, i ≤ k → k < j → text[k]? = some x → Text.isBlank x = true

/-- From a position of a text on there are blanks and whole tokens up to the end. -/
inductive TilesFrom (text : List Char) : Nat → List Placed → Prop where
  | nil {i : Nat} : BlankBetween text i text.length → TilesFrom text i []
  | cons {i : Nat} {t : Placed} {ts : List Placed} : i ≤ t.start →
      BlankBetween text i t.start → t.IsWhole text → TilesFrom text t.stop ts →
      TilesFrom text i (t :: ts)

lemma TilesFrom.of_blank {text : List Char} {i j : Nat} {ts : List Placed}
    (h : TilesFrom text j ts) (hle : i ≤ j) (hblank : BlankBetween text i j) :
    TilesFrom text i ts := by
  have htrans {m : Nat} (hm : BlankBetween text j m) : BlankBetween text i m := by
    intro k x hk hkm hx
    rcases Nat.lt_or_ge k j with hkj | hkj
    · exact hblank k x hk hkj hx
    · exact hm k x hkj hkm hx
  cases h with
  | nil hrest => exact .nil (htrans hrest)
  | cons hstart hgap hwhole hlater =>
    exact .cons (Nat.le_trans hle hstart) (htrans hgap) hwhole hlater

/-- A cursor that stands in a text. -/
def Cursor.IsIn (text : List Char) (c : Cursor) : Prop := c.rest = text.drop c.index

lemma Cursor.IsIn.advance {text : List Char} {c : Cursor} (h : c.IsIn text) (n : Nat) :
    (c.advance n).IsIn text := by
  rw [IsIn, Cursor.advance, h, List.drop_drop]

lemma blankBetween_skipBlanks {text : List Char} {c : Cursor} (h : c.IsIn text) :
    BlankBetween text c.index c.skipBlanks.index := by
  intro k x hk hkm hx
  obtain ⟨m, rfl⟩ := Nat.exists_eq_add_of_le hk
  have hm : m < (c.rest.takeWhile Text.isBlank).length := Nat.lt_of_add_lt_add_left hkm
  have hget : (c.rest.takeWhile Text.isBlank)[m]? = some x := by
    rw [← hx, ← List.getElem?_drop, ← h]
    conv_rhs => rw [← List.takeWhile_append_dropWhile (p := Text.isBlank) (l := c.rest)]
    rw [List.getElem?_append_left hm]
  exact List.mem_takeWhile_imp (List.mem_of_getElem? hget)

/-- The characters of one token, with good escapes, are read as this token. -/
lemma read_of_alone {l : Lexeme} (hlength : cs.length = n)
    (hstart : ∀ x ∈ cs.head?, Text.isBlank x = false) (hgood : l.badEscapes = [])
    (h : (readToken ⟨i, cs⟩).result? = some (l, ⟨i + n, []⟩)) :
    read cs = ⟨[⟨l.token, 0, n⟩], []⟩ := by
  obtain ⟨l', behind, hread, htoken, hgood', hrest⟩ := exists_readToken h 0
  have hbehind : behind = ⟨n, []⟩ := by
    obtain ⟨m, -, hle, rfl⟩ := (within_readToken _).result l' behind hread
    have hdrop : (cs.drop m).length = 0 := congrArg List.length hrest
    rw [List.length_drop] at hdrop
    have hm : m = n := by
      have hle : m ≤ cs.length := hle
      omega
    rw [hm, Cursor.advance, Nat.zero_add, ← hlength, List.drop_length]
  rw [hbehind] at hread
  have hskip : Cursor.skipBlanks ⟨0, cs⟩ = ⟨0, cs⟩ := skipBlanks_of_head? hstart
  rw [← hskip] at hread
  have hend : Cursor.skipBlanks ⟨n, []⟩ = ⟨n, []⟩ := rfl
  rw [read, readTokens_of_token hread, hend, readTokens_nil, hskip, Lexed.cons, htoken,
    hgood' hgood]
  rfl

/-- A token that was read with good escapes is cut out as a whole. -/
lemma isWhole_of_readToken {text : List Char} {c behind : Cursor} {l : Lexeme}
    (hc : c.IsIn text) (hstart : ∀ x ∈ c.rest.head?, Text.isBlank x = false)
    (h : (readToken c).result? = some (l, behind)) (hgood : l.badEscapes = []) :
    Placed.IsWhole text ⟨l.token, c.index, behind.index⟩ := by
  obtain ⟨index, cs⟩ := c
  obtain ⟨n, hpos, hle, rfl, halone⟩ := readToken_alone h
  obtain rfl : cs = text.drop index := hc
  have hlength : n ≤ text.length - index := by rwa [List.length_drop] at hle
  have hsub : index + n - index = n := Nat.add_sub_cancel_left index n
  constructor
  case nonempty => exact Nat.lt_add_of_pos_right hpos
  case inside =>
    show index + n ≤ text.length
    omega
  case alone =>
    rw [Placed.piece]
    show read ((text.drop index).take (index + n - index)) =
      ⟨[⟨l.token, 0, index + n - index⟩], []⟩
    rw [hsub]
    refine read_of_alone (List.length_take_of_le hle) ?_ hgood halone
    intro x hx
    rw [List.head?_take, if_neg (Nat.ne_of_gt hpos)] at hx
    exact hstart x hx
  case word =>
    intro hword x hx
    refine head?_of_readToken h hword x ?_
    rw [Cursor.advance, List.drop_drop, List.head?_drop]
    exact hx
  case longest =>
    intro s hs htoken
    exact longest_of_readToken h htoken hs

/-- What is read without faults from a place of a text on covers the rest of it. -/
lemma tilesFrom_readTokens {text : List Char} {room : Nat} {c : Cursor} {reach : Nat}
    (hc : c.IsIn text) (hroom : c.rest.length < room)
    (hfaults : (readTokens room c reach).faults = []) :
    TilesFrom text c.index (readTokens room c reach).tokens := by
  induction room generalizing c reach with
  | zero => exact absurd hroom (Nat.not_lt_zero _)
  | succ room ih =>
    cases hresult : (readToken c.skipBlanks).result? with
    | some result =>
      obtain ⟨l, behind⟩ := result
      rw [readTokens_of_token hresult] at hfaults ⊢
      obtain ⟨hescapes, hlater⟩ := List.append_eq_nil_iff.1 hfaults
      have hbehind : behind.IsIn text := by
        obtain ⟨n, -, -, rfl⟩ := (within_readToken _).result l behind hresult
        exact (hc.advance _).advance n
      have hlater : TilesFrom text behind.skipBlanks.index _ :=
        ih (hbehind.advance _) (Nat.lt_of_lt_of_le (length_behind hresult)
          (Nat.le_of_lt_succ hroom)) hlater
      have hwhole := isWhole_of_readToken (hc.advance _) (head?_skipBlanks c) hresult
        (List.map_eq_nil_iff.1 hescapes)
      exact .cons (Nat.le_add_right _ _) (blankBetween_skipBlanks hc) hwhole
        (hlater.of_blank (Nat.le_add_right _ _) (blankBetween_skipBlanks hbehind))
    | none =>
      rw [readTokens] at hfaults ⊢
      simp only [hresult] at hfaults ⊢
      split at hfaults
      · next hrest =>
        have hend : text.length ≤ c.index := by
          have hdrop := congrArg List.length (hc.symm.trans hrest)
          rw [List.length_drop, List.length_nil] at hdrop
          omega
        exact .nil fun k x hk hkl _ => absurd (Nat.le_trans hend hk) (Nat.not_le.2 hkl)
      · split at hfaults <;> cases hfaults

/-- Whole tokens stand one behind the other in a text, and what is outside of them is blank. -/
structure Tiles (text : List Char) (ts : List Placed) : Prop where
  whole : ∀ t ∈ ts, t.IsWhole text
  ordered : ts.Pairwise fun t u => t.stop ≤ u.start
  outside : ∀ i x, text[i]? = some x → (∀ t ∈ ts, ¬(t.start ≤ i ∧ i < t.stop)) →
    Text.isBlank x = true

namespace TilesFrom

variable {text : List Char} {i : Nat} {ts : List Placed}

lemma whole (h : TilesFrom text i ts) : ∀ t ∈ ts, t.IsWhole text := by
  induction h with
  | nil => nofun
  | cons _ _ hwhole _ ih => exact List.forall_mem_cons.2 ⟨hwhole, ih⟩

lemma le_start (h : TilesFrom text i ts) : ∀ t ∈ ts, i ≤ t.start := by
  induction h with
  | nil => nofun
  | cons hstart _ hwhole _ ih =>
    refine List.forall_mem_cons.2 ⟨hstart, fun u hu => ?_⟩
    have hu := ih u hu
    have ht := hwhole.nonempty
    omega

lemma ordered (h : TilesFrom text i ts) : ts.Pairwise fun t u => t.stop ≤ u.start := by
  induction h with
  | nil => exact .nil
  | cons _ _ _ hlater ih => exact .cons hlater.le_start ih

lemma outside (h : TilesFrom text i ts) {k : Nat} {x : Char} (hk : i ≤ k)
    (hx : text[k]? = some x) (hout : ∀ t ∈ ts, ¬(t.start ≤ k ∧ k < t.stop)) :
    Text.isBlank x = true := by
  induction h with
  | nil hrest => exact hrest k x hk (List.getElem?_eq_some_iff.1 hx).1 hx
  | cons hstart hgap hwhole hlater ih =>
    obtain ⟨hhere, hothers⟩ := List.forall_mem_cons.1 hout
    rcases Nat.lt_or_ge k _ with hlt | hge
    · exact hgap k x hk hlt hx
    · exact ih (Nat.le_of_not_lt fun hlt => hhere ⟨hge, hlt⟩) hothers

end TilesFrom

/-- The tokens of a text without faults are cut out as wholes, one behind the other, and all
characters outside of them are blank. -/
theorem tiles_read {text : List Char} (h : (read text).faults = []) :
    Tiles text (read text).tokens := by
  have htiles : TilesFrom text 0 (read text).tokens :=
    tilesFrom_readTokens (c := ⟨0, text⟩) rfl (Nat.lt_succ_self _) h
  exact ⟨htiles.whole, htiles.ordered, fun i x hx hout => htiles.outside (Nat.zero_le i) hx hout⟩

/-- A text with operators that start alike, a name that starts like a keyword, and a comment. -/
theorem tiles_operators :
    (read "if(a>=b)iff++ // x".toList).faults = [] ∧
      Tiles "if(a>=b)iff++ // x".toList (read "if(a>=b)iff++ // x".toList).tokens :=
  have hfaults : (read "if(a>=b)iff++ // x".toList).faults = [] := by decide +kernel
  ⟨hfaults, tiles_read hfaults⟩

end ViewKit.Lexer
