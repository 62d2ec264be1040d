/-
# Semicolons in front of a program

Semicolons in front of a statement are passed over.  In front of a program that has a
statement they change nothing (`read_semicolons`); but where no statement follows they stay,
and what is left is no program (`read_only_semicolons`).
-/
import ViewKit.Proofs.Grammar.Room

namespace ViewKit

namespace Grammar

/-- Whether a token is a semicolon. -/
def isSemicolon (t : Token) : Bool := t = .symbol .semicolon

/-- All semicolons in front are passed over. -/
lemma Gives.semicolons {ts : List Token} {room : Nat} (hroom : ts.length ≤ room) :
    Gives (semicolons room) ts () (ts.dropWhile isSemicolon) := by
  suffices h : ∃ us, Gives (many (Grammar.symbol .semicolon) room) ts us
      (ts.dropWhile isSemicolon) by
    obtain ⟨us, hus⟩ := h
    exact hus.map _
  induction ts generalizing room with
  | nil =>
    have hrefuses : Refuses (Grammar.symbol .semicolon) [] := .symbol nofun
    exact ⟨[], .many_nil hrefuses room⟩
  | cons t ts ih =>
    by_cases ht : t = .symbol .semicolon
    · obtain ⟨room, rfl⟩ : ∃ i, room = i + 1 := ⟨room - 1, by
        rw [List.length_cons] at hroom
        omega⟩
      obtain ⟨us, hus⟩ := ih (Nat.le_of_succ_le_succ hroom)
      have hdrop : (t :: ts).dropWhile isSemicolon = ts.dropWhile isSemicolon :=
        List.dropWhile_cons_of_pos (by simp [isSemicolon, ht])
      rw [hdrop, ht]
      exact ⟨() :: us, (Gives.symbol .semicolon ts).many_cons hus⟩
    · have hdrop : (t :: ts).dropWhile isSemicolon = t :: ts :=
        List.dropWhile_cons_of_neg (by simp [isSemicolon, ht])
      rw [hdrop]
      have hrefuses : Refuses (Grammar.symbol .semicolon) (t :: ts) :=
        .symbol fun h => ht (Option.some.inj h)
      exact ⟨[], .many_nil hrefuses room⟩

/-- Repeating a piece never fails: there may be none. -/
lemma not_refuses_many {α : Type} (g : Grammar α) (room : Nat) (ts : List Token) :
    ¬ Refuses (many g room) ts := by
  intro h
  obtain ⟨reach, hfailure⟩ := h 0 0
  cases room with
  | zero => cases hfailure
  | succ room =>
    simp only [many, Grammar.or] at hfailure
    split at hfailure <;> cases hfailure

/-! ## Programs -/

/-- The statements of a program. -/
def statements (room : Nat) : Grammar (List Statement) :=
  many (delimited (statement room room) room) room

section Reading

variable {ts : List Token} {p : Program}

lemma read_of_gives (h : Gives (statements (ts.length + 2)) ts p []) :
    Program.read ts = .ok p := by
  have hprogram : Gives (program (ts.length + 2)) ts p [] := by
    refine h.bind (Gives.bind (a := ()) (fun index reach => ⟨index, reach, rfl⟩) ?_)
    exact .pure p []
  obtain ⟨index, reach, hsuccess⟩ := hprogram 0 0
  rw [Program.read, hsuccess]

lemma read_of_gives_cons {t : Token} {rest : List Token}
    (h : Gives (statements (ts.length + 2)) ts p (t :: rest)) :
    ∃ place, Program.read ts = .error place := by
  have hprogram : Refuses (program (ts.length + 2)) ts := by
    refine h.bind_refuses (Refuses.bind fun index reach => ?_)
    exact ⟨max reach index, rfl⟩
  obtain ⟨reach, hfailure⟩ := hprogram 0 0
  exact ⟨reach, by rw [Program.read, hfailure]⟩

/-- A program that is read is what the statements come to, and no token is left. -/
lemma eq_of_gives {q : Program} {rest : List Token}
    (h : Gives (statements (ts.length + 2)) ts p rest) (hread : Program.read ts = .ok q) :
    rest = [] ∧ p = q := by
  cases rest with
  | nil =>
    rw [read_of_gives h] at hread
    exact ⟨rfl, Except.ok.inj hread⟩
  | cons t rest =>
    obtain ⟨place, herror⟩ := read_of_gives_cons h
    rw [herror] at hread
    cases hread

end Reading

/-- With any number of semicolons in front and room for them all, the same statements are read:
none at all, and then the semicolons stay, or at least one. -/
lemma gives_statements {front ts : List Token} {room room' : Nat}
    (hfront : ∀ t ∈ front, isSemicolon t = true) (hroom : ts.length + 1 < room)
    (hroom' : (front ++ ts).length + 1 < room') :
    Gives (statements room) ts [] ts ∧ Gives (statements room') (front ++ ts) [] (front ++ ts) ∨
      ∃ s ss rest, Gives (statements room) ts (s :: ss) rest ∧
        Gives (statements room') (front ++ ts) (s :: ss) rest := by
  rw [List.length_append] at hroom'
  obtain ⟨room, rfl⟩ : ∃ i, room = i + 1 := ⟨room - 1, by omega⟩
  obtain ⟨room', rfl⟩ : ∃ i, room' = i + 1 := ⟨room' - 1, by omega⟩
  have hdrop : (front ++ ts).dropWhile isSemicolon = ts.dropWhile isSemicolon :=
    List.dropWhile_append_of_pos hfront
  have hpassed : Gives (semicolons (room + 1)) ts () (ts.dropWhile isSemicolon) :=
    .semicolons (by omega)
  have hpassed' : Gives (semicolons (room' + 1)) (front ++ ts) () (ts.dropWhile isSemicolon) :=
    hdrop ▸ .semicolons (by rw [List.length_append]; omega)
  have hshorter : (ts.dropWhile isSemicolon).length ≤ ts.length :=
    (List.dropWhile_suffix _).length_le
  have hstatement : Alike 1 ts.length (statement (room + 1) (room + 1))
      (statement (room' + 1) (room' + 1)) :=
    alike_statement (by omega) (by omega) (by omega) (by omega)
  have hfits : ts.length ≤ room ∧ ts.length ≤ room' := ⟨by omega, by omega⟩
  have hlist : Alike 0 ts.length
      (many (delimited (statement (room + 1) (room + 1)) (room + 1)) room)
      (many (delimited (statement (room' + 1) (room' + 1)) (room' + 1)) room') :=
    .many (alike_delimited hstatement (Nat.le_succ_of_le hfits.1) (Nat.le_succ_of_le hfits.2))
      hfits.1 hfits.2
  have hone := alike_statementSemicolons hstatement (Nat.le_succ_of_le hfits.1)
    (Nat.le_succ_of_le hfits.2)
  -- the first statement decides: behind the semicolons both lists meet the same tokens
  rcases hone _ hshorter with ⟨s, mid, hmid, hs, hs'⟩ | ⟨hnone, hnone'⟩
  · have hfirst : Gives (delimited (statement (room + 1) (room + 1)) (room + 1)) ts s mid :=
      hpassed.bind hs
    have hfirst' : Gives (delimited (statement (room' + 1) (room' + 1)) (room' + 1)) (front ++ ts)
        s mid := hpassed'.bind hs'
    rcases hlist mid (by omega) with ⟨ss, rest, -, hss, hss'⟩ | ⟨hrefuses, -⟩
    · exact .inr ⟨s, ss, rest, hfirst.many_cons hss, hfirst'.many_cons hss'⟩
    · exact absurd hrefuses (not_refuses_many _ _ _)
  · have hrefuses : Refuses (delimited (statement (room + 1) (room + 1)) (room + 1)) ts :=
      hpassed.bind_refuses hnone
    have hrefuses' : Refuses (delimited (statement (room' + 1) (room' + 1)) (room' + 1))
        (front ++ ts) := hpassed'.bind_refuses hnone'
    exact .inl ⟨.many_nil hrefuses _, .many_nil hrefuses' _⟩

end Grammar

namespace Program

open Grammar

variable {front ts : List Token} {p : Program}

/-- Semicolons in front of a program that has a statement change nothing. -/
lemma read_semicolons (hfront : ∀ t ∈ front, isSemicolon t = true) (h : Program.read ts = .ok p)
    (hp : p ≠ []) : Program.read (front ++ ts) = .ok p := by
  have hroom : ts.length + 1 < ts.length + 2 := Nat.lt_succ_self _
  have hroom' : (front ++ ts).length + 1 < (front ++ ts).length + 2 := Nat.lt_succ_self _
  rcases gives_statements hfront hroom hroom' with ⟨hnone, -⟩ | ⟨s, ss, rest, hread, hread'⟩
  · exact absurd (eq_of_gives hnone h).2.symm hp
  · obtain ⟨rfl, rfl⟩ := eq_of_gives hread h
    exact read_of_gives hread'

/-- Only from no tokens at all a program without statements is read. -/
lemma eq_nil_of_read_nil (h : Program.read ts = .ok []) : ts = [] := by
  have hroom : ts.length + 1 < ts.length + 2 := Nat.lt_succ_self _
  have hfront : ∀ t ∈ ([] : List Token), isSemicolon t = true := nofun
  rcases gives_statements hfront hroom hroom with ⟨hnone, -⟩ | ⟨s, ss, rest, hread, -⟩
  · exact (eq_of_gives hnone h).1
  · exact absurd (eq_of_gives hread h).2 nofun

/-- Semicolons alone are no program. -/
lemma read_only_semicolons (hfront : ∀ t ∈ front, isSemicolon t = true) (hne : front ≠ []) :
    ∃ place, Program.read front = .error place := by
  have hempty : Program.read [] = .ok [] := rfl
  have hroom : ([] : List Token).length + 1 < ([] : List Token).length + 2 := Nat.lt_succ_self 1
  have hroom' : (front ++ []).length + 1 < front.length + 2 := by
    rw [List.append_nil]
    exact Nat.lt_succ_self _
  rcases gives_statements hfront hroom hroom' with ⟨-, hnone⟩ | ⟨s, ss, rest, hread, -⟩
  · rw [List.append_nil] at hnone
    obtain ⟨t, front, rfl⟩ := List.exists_cons_of_ne_nil hne
    exact read_of_gives_cons hnone
  · exact absurd (eq_of_gives hread hempty).2 nofun

end Program
end ViewKit
