/-
# Writing programs as text

The text of a program is the text of its tokens: a single space between any two of them,
strings between single quotes, compound operands in parentheses, bodies in braces, a
semicolon behind every statement.  Whatever program a text is parsed as, its own text is
parsed as that program again (`parse_text`), as long as its numbers are natural numbers that
doubles hold exactly.
-/
import ViewKit.Proofs.Grammar.Results

namespace ViewKit

/-- A legible token that is no number, or a natural number below `2 ^ 53`, can be written. -/
lemma Token.Legible.writable {t : Token} (h : t.Legible)
    (hnumber : ∀ x, t = .number x → ∃ n, n < Nat.pow 2 53 ∧ x = Number.ofNat n) :
    t.Writable := by
  cases t with
  | symbol s => exact .symbol s
  | keyword k => exact .keyword k
  | name s => exact .name (h.2 s rfl)
  | number x =>
    obtain ⟨n, hn, rfl⟩ := hnumber x rfl
    exact .number hn
  | text s => exact .text s
  | comment s => exact absurd h.1 Bool.noConfusion

namespace Program

/-- The text of a program. -/
def text (p : Program) : List Char := Token.spaced p.tokens

/-- The numbers that are written in a program.  The distance of a step of one up or down is
not written as a number. -/
def numbers (p : Program) : List Float :=
  p.tokens.filterMap fun t => match t with
    | .number x => some x
    | _ => none

lemma mem_numbers {p : Program} {x : Float} (h : .number x ∈ p.tokens) : x ∈ p.numbers :=
  List.mem_filterMap.2 ⟨_, h, rfl⟩

/-- A text is parsed as a program if it is parsed as one that is written with the same tokens. -/
lemma parse_of_tokens {source : List Char} {p : Program} (hp : ∀ s ∈ p, s.Formed)
    (h : (parse source).toOption.map tokens = some p.tokens) : parse source = .ok p := by
  cases hparse : parse source with
  | error ds =>
    rw [hparse] at h
    cases h
  | ok q =>
    rw [hparse] at h
    obtain ⟨ts, hread, hlegible⟩ := exists_read_of_parse hparse
    have hq := read_tokens (legible_of_read hread hlegible).1
    have htokens : q.tokens = p.tokens := Option.some.inj h
    rw [htokens, read_tokens hp] at hq
    exact congrArg Except.ok (Except.ok.inj hq).symm

/-- The text of a program that was parsed is parsed as the program. -/
theorem parse_text {source : List Char} {p : Program} (h : parse source = .ok p)
    (hnumbers : ∀ x ∈ p.numbers, ∃ n, n < Nat.pow 2 53 ∧ x = Number.ofNat n) :
    parse p.text = .ok p := by
  obtain ⟨ts, hread, hlegible⟩ := exists_read_of_parse h
  obtain ⟨hformed, htokens⟩ := legible_of_read hread hlegible
  have hwritable : ∀ t ∈ p.tokens, t.Writable := fun t ht =>
    (htokens t ht).writable fun x hx => hnumbers x (mem_numbers (hx ▸ ht))
  have hcomment : ∀ t ∈ p.tokens, t.isComment = false := fun t ht => (htokens t ht).1
  exact parse_of_lexes (Token.lexes_spaced p.tokens hwritable) (Token.head?_spaced hwritable)
    hcomment (read_tokens hformed)

/-- A countdown, whose text has more spaces, parentheses, braces and semicolons than what it
was parsed from. -/
theorem parse_text_countdown : ∃ p,
    parse "for(let i=3;i;i--)print(a[-i]*2,'it\\'s')".toList = .ok p ∧
    (∀ x ∈ p.numbers, ∃ n, n < Nat.pow 2 53 ∧ x = Number.ofNat n) ∧
    p.text = ("for ( let i = 3 ; i ; i-- ) \x7b " ++
      "print ( ( a [ - i ] ) * 2 , 'it\\'s' ) ; \x7d ;").toList ∧
    parse p.text = .ok p := by
  have hparts :
      (parse "for(let i=3;i;i--)print(a[-i]*2,'it\\'s')".toList).toOption.map
        (fun p => (p.text, p.numbers)) =
      some (("for ( let i = 3 ; i ; i-- ) \x7b " ++
        "print ( ( a [ - i ] ) * 2 , 'it\\'s' ) ; \x7d ;").toList,
        [Number.ofNat 3, Number.ofNat 2]) := by
    decide +kernel
  obtain ⟨p, hp, hparts⟩ := Option.map_eq_some_iff.1 hparts
  obtain ⟨htext, hnumbers⟩ := Prod.mk.inj hparts
  have hparse : parse "for(let i=3;i;i--)print(a[-i]*2,'it\\'s')".toList = .ok p := by
    generalize parse "for(let i=3;i;i--)print(a[-i]*2,'it\\'s')".toList = outcome at hp ⊢
    cases outcome with
    | error e => cases hp
    | ok q => exact congrArg Except.ok (Option.some.inj hp)
  have hwhole : ∀ x ∈ p.numbers, ∃ n, n < Nat.pow 2 53 ∧ x = Number.ofNat n := by
    rw [hnumbers]
    intro x hx
    rcases List.mem_cons.1 hx with rfl | hx
    · exact ⟨3, by decide, rfl⟩
    · exact ⟨2, by decide, List.mem_singleton.1 hx⟩
  exact ⟨p, hparse, hwhole, htext, parse_text hparse hwhole⟩

end Program
end ViewKit
