/-
# The places of what is read

Whatever is read from a text lies in the text: a token starts before it ends and ends inside
the text, and so do the places of its faults (`within_read`).  Every kind of token is read by
an attempt that stays between its place and the end of the text (`Attempt.Within`); passing
over characters after a fault and going on behind a token keep to that, step by step.
-/
import ViewKit.Proofs.Lexer.Token

namespace ViewKit.Lexer

/-! ## Cursors -/

namespace Cursor

/-- The place behind the whole text. -/
def limit (c : Cursor) : Nat := c.index + c.rest.length

variable {c : Cursor} {n : Nat}

lemma limit_advance (h : n ≤ c.rest.length) : (c.advance n).limit = c.limit := by
  simp only [limit, advance, List.length_drop]
  omega

lemma index_le_limit (c : Cursor) : c.index ≤ c.limit := Nat.le_add_right _ _

lemma limit_skipBlanks (c : Cursor) : c.skipBlanks.limit = c.limit :=
  limit_advance (List.takeWhile_prefix _).length_le

end Cursor

/-! ## Attempts -/

namespace Attempt

variable {α β : Type}

/-- What an attempt at a place reads is not empty and lies in the text, and so does the
furthest place at which a test failed. -/
structure Within (c : Cursor) (a : Attempt α) : Prop where
  result : ∀ x behind, a.result? = some (x, behind) →
    ∃ n, 0 < n ∧ n ≤ c.rest.length ∧ behind = c.advance n
  reach : a.reach ≤ c.limit

variable {c : Cursor}

lemma within_none {reach : Nat} (h : reach ≤ c.limit) :
    Within c (⟨none, reach⟩ : Attempt α) := ⟨nofun, h⟩

lemma within_advance {n reach : Nat} (x? : Option α) (hpos : 0 < n) (hle : n ≤ c.rest.length)
    (h : reach ≤ c.limit) : Within c ⟨x?.map fun x => (x, c.advance n), reach⟩ := by
  refine ⟨fun _ _ heq => ⟨n, hpos, hle, ?_⟩, h⟩
  obtain ⟨x, -, heq⟩ := Option.map_eq_some_iff.1 heq
  exact (Prod.mk.inj heq).2.symm

lemma Within.orElse {first : Attempt α} {second : Unit → Attempt α} (h : Within c first)
    (h' : Within c (second ())) : Within c (first.orElse second) := by
  rw [Attempt.orElse]
  split
  · exact h
  · exact ⟨h'.result, Nat.max_le.2 ⟨h.reach, h'.reach⟩⟩

lemma Within.map {a : Attempt α} (h : Within c a) (f : α → β) : Within c (a.map f) := by
  refine ⟨fun y behind heq => ?_, h.reach⟩
  rw [map_result?, Option.map_eq_some_iff] at heq
  obtain ⟨⟨x, behind'⟩, hx, heq⟩ := heq
  obtain ⟨-, rfl⟩ := Prod.mk.inj heq
  exact h.result x behind' hx

/-- What lies in the text from a later place on lies in it from an earlier place on. -/
lemma Within.of_advance {a : Attempt α} {m : Nat} (h : Within (c.advance m) a)
    (hm : m ≤ c.rest.length) : Within c a := by
  refine ⟨fun x behind heq => ?_, (Cursor.limit_advance hm) ▸ h.reach⟩
  obtain ⟨n, hpos, hle, rfl⟩ := h.result x behind heq
  have hlen : (c.advance m).rest.length = c.rest.length - m := List.length_drop
  refine ⟨m + n, by omega, by omega, ?_⟩
  simp only [Cursor.advance, List.drop_drop, Nat.add_assoc]

end Attempt

open Attempt (Within within_none within_advance)

/-! ## The kinds of tokens -/

variable (c : Cursor)

lemma commonLength_le (xs ys : List Char) : commonLength xs ys ≤ ys.length := by
  induction xs generalizing ys with
  | nil => exact Nat.zero_le _
  | cons x xs ih =>
    cases ys with
    | nil => exact Nat.le_refl 0
    | cons y ys =>
      rw [commonLength]
      split
      · exact Nat.succ_le_succ (ih ys)
      · exact Nat.zero_le _

lemma within_readSymbol (ss : List Symbol) : Within c (readSymbol c ss) := by
  induction ss with
  | nil => exact within_none c.index_le_limit
  | cons s ss ih =>
    have hle := commonLength_le s.text c.rest
    have hpos : 0 < s.text.length := by cases s <;> decide
    rw [readSymbol]
    split
    · next h => exact within_advance (some s) (h ▸ hpos) hle c.index_le_limit
    · exact ⟨ih.result, Nat.max_le.2 ⟨Nat.add_le_add_left hle _, ih.reach⟩⟩

lemma blockLength?_le {cs : List Char} {n : Nat} (h : blockLength? cs = some n) :
    n ≤ cs.length := by
  fun_induction blockLength? cs generalizing n with
  | case1 rest =>
    cases h
    simp
  | case2 x cs _ ih =>
    obtain ⟨m, hm, rfl⟩ := Option.map_eq_some_iff.1 h
    exact Nat.succ_le_succ (ih hm)
  | case3 => cases h

lemma within_readComment : Within c (readComment c) := by
  rw [readComment]
  split
  · next cs hrest =>
    have hlen : c.rest.length = cs.length + 2 := by rw [hrest]; rfl
    have hline : (cs.takeWhile fun x => !Text.isLineEnd x).length ≤ cs.length :=
      (List.takeWhile_prefix _).length_le
    exact within_advance (some _) (by omega) (by omega) (Nat.add_le_add_left (by omega) _)
  · next cs hrest =>
    have hlen : c.rest.length = cs.length + 2 := by rw [hrest]; rfl
    split
    · next n hn =>
      have hblock := blockLength?_le hn
      exact within_advance (some _) (by omega) (by omega) (Nat.add_le_add_left (by omega) _)
    · exact within_none (Nat.le_refl _)
  · next cs _ _ hrest =>
    have hlen : c.rest.length = cs.length + 1 := by rw [hrest]; rfl
    exact within_none (Nat.add_le_add_left (by omega) _)
  · exact within_none c.index_le_limit

lemma within_readNumber : Within c (readNumber c) := by
  rw [readNumber]
  dsimp only
  -- what stands in front of a point lies in the text, whether it is a zero or other digits
  split
  case' h_1 zero hrest =>
    have hwhole : 1 ≤ c.rest.length := by rw [hrest]; exact Nat.succ_le_succ (Nat.zero_le _)
  case' h_2 =>
    have hwhole : (c.rest.takeWhile Char.isDigit).length ≤ c.rest.length :=
      (List.takeWhile_prefix _).length_le
  all_goals
    split
    · exact within_none c.index_le_limit
    · split
      · next cs hcs =>
        have hlen := congrArg List.length hcs
        have hfraction : (cs.takeWhile Char.isDigit).length ≤ cs.length :=
          (List.takeWhile_prefix _).length_le
        rw [List.length_drop, List.length_cons] at hlen
        split
        · exact within_advance _ (by omega) hwhole (by rw [Cursor.limit]; omega)
        · exact within_advance _ (by omega) (by omega) (by rw [Cursor.limit]; omega)
      · exact within_advance _ (by omega) hwhole (Nat.add_le_add_left hwhole _)

lemma within_readWord : Within c (readWord c) := by
  rw [readWord]
  split
  · next x cs hrest =>
    have hlen : c.rest.length = cs.length + 1 := by rw [hrest, List.length_cons]
    have hword : (cs.takeWhile inWord).length ≤ cs.length := (List.takeWhile_prefix _).length_le
    split
    · exact within_advance (some _) (by omega) (by omega) (Nat.add_le_add_left (by omega) _)
    · exact within_none c.index_le_limit
  · exact within_none c.index_le_limit

lemma within_readQuoted (quote : Char) (index : Nat) (cs : List Char) :
    Within ⟨index, cs⟩ (readQuoted quote index cs) := by
  fun_induction readQuoted quote index cs with
  | case1 index => exact within_none (Nat.le_refl _)
  | case2 index rest =>
    exact within_advance (n := 1) (some _) Nat.one_pos (by simp) (by simp [Cursor.limit])
  | case3 index => exact within_none (Nat.le_refl _)
  | case4 index c₁ c₂ c₃ c₄ rest digits _ _ ih => exact (ih.map _).of_advance (m := 6) (by simp)
  | case5 index c₁ c₂ c₃ c₄ rest digits =>
    have hhex : (digits.takeWhile isHex).length ≤ 4 := (List.takeWhile_prefix isHex).length_le
    exact within_none (by simp only [Cursor.limit, List.length_cons]; omega)
  | case6 index rest =>
    have hhex : (rest.takeWhile isHex).length ≤ rest.length := (List.takeWhile_prefix _).length_le
    exact within_none (by simp only [Cursor.limit, List.length_cons]; omega)
  | case7 index e rest _ _ x _ _ ih => exact (ih.map _).of_advance (m := 2) (by simp)
  | case8 index e rest => exact within_none (by simp [Cursor.limit])
  | case9 index c cs _ _ ih => exact (ih.map _).of_advance (m := 1) (by simp)

/-- The digits of an escape that names no character stand in front of what is left. -/
lemma badEscapes_readQuoted (quote : Char) (index : Nat) (cs : List Char) :
    ∀ q behind, (readQuoted quote index cs).result? = some (q, behind) →
      ∀ place ∈ q.badEscapes, place + 4 ≤ behind.index := by
  fun_induction readQuoted quote index cs with
  | case2 index rest =>
    intro q behind h
    cases h
    nofun
  | case4 index c₁ c₂ c₃ c₄ rest digits _ _ ih =>
    intro q behind h
    obtain ⟨⟨q, behind⟩, hq, heq⟩ := Option.map_eq_some_iff.1 h
    obtain ⟨rfl, rfl⟩ := Prod.mk.inj heq
    obtain ⟨n, -, -, hbehind⟩ := (within_readQuoted quote (index + 6) rest).result q _ hq
    have hindex : behind.index = index + 6 + n := congrArg Cursor.index hbehind
    intro place hplace
    rw [Quoted.consNumber] at hplace
    split at hplace
    · rcases List.mem_cons.1 hplace with rfl | hplace
      · omega
      · exact ih q behind hq place hplace
    · exact ih q behind hq place hplace
  | case7 index e rest _ _ x _ _ ih =>
    intro q behind h
    obtain ⟨⟨q, behind⟩, hq, heq⟩ := Option.map_eq_some_iff.1 h
    obtain ⟨rfl, rfl⟩ := Prod.mk.inj heq
    exact ih q behind hq
  | case9 index c cs _ _ ih =>
    intro q behind h
    obtain ⟨⟨q, behind⟩, hq, heq⟩ := Option.map_eq_some_iff.1 h
    obtain ⟨rfl, rfl⟩ := Prod.mk.inj heq
    exact ih q behind hq
  | _ => nofun

lemma within_readText : Within c (readText c) := by
  obtain ⟨index, rest⟩ := c
  rw [readText]
  split
  · next cs hrest =>
    obtain rfl : rest = _ := hrest
    exact (within_readQuoted '\'' (index + 1) cs).of_advance (m := 1) (by simp)
  · next cs hrest =>
    obtain rfl : rest = _ := hrest
    exact (within_readQuoted '"' (index + 1) cs).of_advance (m := 1) (by simp)
  · exact within_none (Cursor.index_le_limit _)

lemma within_readToken : Within c (readToken c) :=
  ((within_readSymbol c _).map _).orElse <|
    ((within_readComment c).map _).orElse <|
    ((within_readNumber c).map _).orElse <|
    ((within_readText c).map _).orElse <|
    ((within_readSymbol c _).map _).orElse <|
    (within_readWord c).map _

lemma badEscapes_readText {q : Quoted} {behind : Cursor}
    (h : (readText c).result? = some (q, behind)) :
    ∀ place ∈ q.badEscapes, place + 4 ≤ behind.index := by
  rw [readText] at h
  split at h
  · exact badEscapes_readQuoted _ _ _ _ _ h
  · exact badEscapes_readQuoted _ _ _ _ _ h
  · cases h

lemma badEscapes_plain (t : Token) (n : Nat) :
    ∀ place ∈ (Lexeme.plain t).badEscapes, place + 4 ≤ n :=
  fun _ h => absurd h List.not_mem_nil

lemma badEscapes_readToken {l : Lexeme} {behind : Cursor}
    (h : (readToken c).result? = some (l, behind)) :
    ∀ place ∈ l.badEscapes, place + 4 ≤ behind.index := by
  -- only quoted texts have escapes
  cases standsAt_of_readToken h with
  | text hread => exact badEscapes_readText c hread
  | _ => exact badEscapes_plain _ _

/-! ## The tokens and the faults of a text -/

/-- The place of a fault is in the text of the given length or at its end; the digits of a bad
escape are in it. -/
def Fault.Within (length : Nat) : Fault → Prop
  | .unexpected place => place ≤ length
  | .badEscape place => place + 4 ≤ length

/-- What has been read lies in a text of the given length. -/
structure Lexed.Within (length : Nat) (l : Lexed) : Prop where
  tokens : ∀ t ∈ l.tokens, t.start < t.stop ∧ t.stop ≤ length
  faults : ∀ f ∈ l.faults, f.Within length

lemma Lexed.within_nil (length : Nat) : Lexed.Within length ⟨[], []⟩ := ⟨nofun, nofun⟩

lemma Lexed.Within.cons {length start stop : Nat} {l : Lexeme} {next : Lexed}
    (h : next.Within length) (hstart : start < stop) (hstop : stop ≤ length)
    (hbad : ∀ place ∈ l.badEscapes, place + 4 ≤ stop) :
    (next.cons start stop l).Within length := by
  refine ⟨fun t ht => ?_, fun f hf => ?_⟩
  · rcases List.mem_cons.1 ht with rfl | ht
    · exact ⟨hstart, hstop⟩
    · exact h.tokens t ht
  · rcases List.mem_append.1 hf with hf | hf
    · obtain ⟨place, hplace, rfl⟩ := List.mem_map.1 hf
      exact Nat.le_trans (hbad place hplace) hstop
    · exact h.faults f hf

lemma Lexed.Within.fault {length : Nat} {l : Lexed} {f : Fault} (h : l.Within length)
    (hf : f.Within length) : Lexed.Within length ⟨l.tokens, f :: l.faults⟩ := by
  refine ⟨h.tokens, fun g hg => ?_⟩
  rcases List.mem_cons.1 hg with rfl | hg
  · exact hf
  · exact h.faults g hg

variable {c}

/-- A token that is read behind some blanks ends inside the text, behind its start. -/
lemma of_readToken {l : Lexeme} {behind : Cursor}
    (h : (readToken c.skipBlanks).result? = some (l, behind)) :
    c.skipBlanks.index < behind.index ∧ behind.limit = c.limit := by
  obtain ⟨n, hpos, hle, rfl⟩ := (within_readToken _).result l behind h
  refine ⟨Nat.lt_add_of_pos_right hpos, ?_⟩
  rw [Cursor.limit_advance hle, Cursor.limit_skipBlanks]

lemma reach_readToken (c : Cursor) : (readToken c.skipBlanks).reach ≤ c.limit :=
  c.limit_skipBlanks ▸ (within_readToken _).reach

/-- Passing over characters stays in the text, and what it finds is a token in it. -/
lemma of_recover {reach : Nat} (room : Nat) (hreach : reach ≤ c.limit) :
    (recover room c reach).2 ≤ c.limit ∧
      ∀ l start behind, (recover room c reach).1 = some ((l, start), behind) →
        start < behind.index ∧ behind.limit = c.limit ∧ l.badEscapes = [] := by
  induction room generalizing c reach with
  | zero => exact ⟨hreach, nofun⟩
  | succ room ih =>
    rw [recover]
    split
    · exact ⟨hreach, nofun⟩
    · next x rest hrest =>
      have hone : 1 ≤ c.rest.length := by rw [hrest]; exact Nat.succ_le_succ (Nat.zero_le _)
      have hlimit : (c.advance 1).limit = c.limit := Cursor.limit_advance hone
      have htoken := reach_readToken (c.advance 1)
      rw [hlimit] at htoken
      have hreach' := Nat.max_le.2 ⟨hreach, Nat.max_le.2 ⟨c.index_le_limit, htoken⟩⟩
      have hnext := ih (hlimit ▸ hreach')
      rw [hlimit] at hnext
      dsimp only
      split
      · next l behind hresult =>
        have hread := of_readToken hresult
        split
        · next hgood =>
          refine ⟨hreach', ?_⟩
          rintro l start behind h
          cases h
          exact ⟨hread.1, hread.2.trans hlimit, List.isEmpty_iff.1 hgood⟩
        · exact hnext
      · exact hnext

lemma within_readTokens {room reach : Nat} (hreach : reach ≤ c.limit) :
    (readTokens room c reach).Within c.limit := by
  induction room generalizing c reach with
  | zero => exact Lexed.within_nil _
  | succ room ih =>
    have hreach' := Nat.max_le.2 ⟨hreach, reach_readToken c⟩
    rw [readTokens]
    dsimp only
    split
    · next l behind hresult =>
      obtain ⟨hlt, hlimit⟩ := of_readToken hresult
      have hlater : behind.skipBlanks.limit = c.limit := by
        rw [Cursor.limit_skipBlanks, hlimit]
      have hnext := ih (hlater ▸ hreach')
      rw [hlater] at hnext
      exact hnext.cons hlt (hlimit ▸ behind.index_le_limit) (badEscapes_readToken _ hresult)
    · split
      · exact Lexed.within_nil _
      · have hunexpected : Fault.Within c.limit (.unexpected _) := hreach'
        split
        · next l start behind newReach hrecover =>
          have hfound := of_recover (c := c) c.rest.length (Nat.zero_le _)
          rw [hrecover] at hfound
          obtain ⟨hreach, hresult⟩ := hfound
          obtain ⟨hlt, hlimit, hgood⟩ := hresult l start behind rfl
          have hlater : behind.skipBlanks.limit = c.limit := by
            rw [Cursor.limit_skipBlanks, hlimit]
          have hnext := ih (hlater ▸ hreach)
          rw [hlater] at hnext
          refine (hnext.cons hlt (hlimit ▸ behind.index_le_limit) ?_).fault hunexpected
          rw [hgood]
          nofun
        · exact (Lexed.within_nil _).fault hunexpected

/-- The tokens and the faults of a text lie in the text. -/
theorem within_read (text : List Char) : (read text).Within text.length := by
  have h : (readTokens (text.length + 1) ⟨0, text⟩ 0).Within (Cursor.limit ⟨0, text⟩) :=
    within_readTokens (Nat.zero_le _)
  rwa [Cursor.limit, Nat.zero_add] at h

end ViewKit.Lexer
