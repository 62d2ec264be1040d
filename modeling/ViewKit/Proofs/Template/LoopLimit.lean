/-
# The limit of loops

A loop that would come to its end by itself within `loopLimit` rounds does so as if there were
no limit.  Any other loop is left behind the round with that number, where one with a condition
has found once more that the condition holds; what follows the loop runs from there
(`loop_limit`).  The bodies of loops are taken as they are, with the limits of the loops in them.

The two forms of loops keep to the limit in different ways: one takes no more items, the other
counts its rounds.  What a loop does by itself is said without a limit: it goes through any
number of rounds (`Rounds`), comes to an end (`FinishesAfter`) or would still go on
(`GoesOnAfter`).
-/
import ViewKit.Proofs.Template.Frames

namespace ViewKit

/-- Whether a statement is a loop, of either form. -/
def Statement.isLoop : Statement → Bool
  | .forEach .. | .loop .. => true
  | _ => false

namespace Run

/-! ## Rounds without a limit -/

/-- From one state to another there are some rounds, before each of which the condition holds. -/
inductive Rounds (condition : Run → Bool × Run) (round : Run → Run) : Nat → Run → Run → Prop where
  | zero (r : Run) : Rounds condition round 0 r r
  | succ {n : Nat} {r r' : Run} : (condition r).1 = true →
      Rounds condition round n (round (condition r).2) r' → Rounds condition round (n + 1) r r'

section Rounds

variable {condition : Run → Bool × Run} {round : Run → Run} {n m limit : Nat} {r q q' : Run}

lemma Rounds.unique (h : Rounds condition round n r q) (h' : Rounds condition round n r q') :
    q = q' := by
  induction h with
  | zero r =>
    cases h'
    rfl
  | succ _ _ ih =>
    cases h' with
    | succ _ h' => exact ih h'

/-- Where the condition fails there are no more rounds. -/
lemma Rounds.le_of_end (h : Rounds condition round n r q) (hend : (condition q).1 = false)
    (h' : Rounds condition round m r q') : m ≤ n := by
  induction h generalizing m with
  | zero r =>
    cases h' with
    | zero => exact Nat.le_refl 0
    | succ hgo _ => simp [hgo] at hend
  | succ _ _ ih =>
    cases h' with
    | zero => exact Nat.zero_le _
    | succ _ h' => exact Nat.succ_le_succ (ih hend h')

/-- Rounds that come to an end within the limit are not cut off by it. -/
lemma Rounds.rounds_of_end (h : Rounds condition round n r q) (hend : (condition q).1 = false)
    (hle : n ≤ limit) : rounds condition round limit r = (condition q).2 := by
  induction h generalizing limit with
  | zero r =>
    cases limit with
    | zero => rfl
    | succ limit => simp [rounds, hend]
  | succ hgo _ ih =>
    obtain ⟨limit, rfl⟩ : ∃ k, limit = k + 1 := ⟨limit - 1, by omega⟩
    rw [rounds]
    simp only [hgo, if_true]
    exact ih hend (Nat.le_of_succ_le_succ hle)

/-- As many rounds as there may be are followed by one more evaluation of the condition. -/
lemma Rounds.rounds_limit (h : Rounds condition round limit r q) :
    rounds condition round limit r = (condition q).2 := by
  induction h with
  | zero r => rfl
  | succ hgo _ ih =>
    rw [rounds]
    simp only [hgo, if_true]
    exact ih

/-- Either the rounds come to an end within the limit, or they reach it. -/
lemma exists_rounds (condition : Run → Bool × Run) (round : Run → Run) (limit : Nat) (r : Run) :
    (∃ n q, n ≤ limit ∧ Rounds condition round n r q ∧ (condition q).1 = false) ∨
      ∃ q, Rounds condition round limit r q ∧ (condition q).1 = true := by
  induction limit generalizing r with
  | zero =>
    cases hgo : (condition r).1 with
    | false => exact .inl ⟨0, r, Nat.le_refl 0, .zero r, hgo⟩
    | true => exact .inr ⟨r, .zero r, hgo⟩
  | succ limit ih =>
    cases hgo : (condition r).1 with
    | false => exact .inl ⟨0, r, Nat.zero_le _, .zero r, hgo⟩
    | true =>
      rcases ih (round (condition r).2) with ⟨n, q, hle, hq, hend⟩ | ⟨q, hq, hmore⟩
      · exact .inl ⟨n + 1, q, Nat.succ_le_succ hle, .succ hgo hq, hend⟩
      · exact .inr ⟨q, .succ hgo hq, hmore⟩

end Rounds

/-! ## Loops without a limit -/

/-- The state behind a loop, whose own frame is gone. -/
def leaveFrame (r : Run) : Run := ⟨r.frames.drop 1, r.output⟩

/-- Without a limit, the loop comes to its end behind `n` executions of its body. -/
inductive FinishesAfter (s : Scope) : Statement → Nat → Run → Run → Prop where
  | items {binding : String} {kind : LoopKind} {e : Expression} {body : List Statement} {r : Run}
      {parts : List Value} : (r.evaluate s e).1.parts kind = parts →
      FinishesAfter s (.forEach binding kind e body) parts.length r
        (parts.foldl (executeItem s binding body) (r.evaluate s e).2)
  | rounds {start step : Option Statement} {c : Option Expression} {body : List Statement}
      {n : Nat} {r q : Run} :
      Rounds (holds s c) (executeRound s step body) n
        (executeOption s start ⟨[] :: r.frames, r.output⟩) q →
      (holds s c q).1 = false →
      FinishesAfter s (.loop start c step body) n r (leaveFrame (holds s c q).2)

/-- Without a limit, the loop goes on behind `n` executions of its body, each with the step
behind it: there are more items, or the condition holds once more.  The last state is the one in
which that is known, but without the frame of the loop. -/
inductive GoesOnAfter (s : Scope) : Statement → Nat → Run → Run → Prop where
  | items {binding : String} {kind : LoopKind} {e : Expression} {body : List Statement} {r : Run}
      {done rest : List Value} {part : Value} :
      (r.evaluate s e).1.parts kind = done ++ part :: rest →
      GoesOnAfter s (.forEach binding kind e body) done.length r
        (done.foldl (executeItem s binding body) (r.evaluate s e).2)
  | rounds {start step : Option Statement} {c : Option Expression} {body : List Statement}
      {n : Nat} {r q : Run} :
      Rounds (holds s c) (executeRound s step body) n
        (executeOption s start ⟨[] :: r.frames, r.output⟩) q →
      (holds s c q).1 = true →
      GoesOnAfter s (.loop start c step body) n r (leaveFrame (holds s c q).2)

variable {s : Scope}

/-- A loop over the parts of a value as a fold over no more parts than there may be rounds. -/
lemma execute_forEach (binding : String) (kind : LoopKind) (e : Expression)
    (body : List Statement) (r : Run) :
    execute s (.forEach binding kind e body) r =
      (((r.evaluate s e).1.parts kind).take loopLimit).foldl (executeItem s binding body)
        (r.evaluate s e).2 := rfl

/-- A loop with a condition as rounds in a frame of its own. -/
lemma execute_loop (start : Option Statement) (c : Option Expression) (step : Option Statement)
    (body : List Statement) (r : Run) :
    execute s (.loop start c step body) r =
      leaveFrame (rounds (holds s c) (executeRound s step body) loopLimit
        (executeOption s start ⟨[] :: r.frames, r.output⟩)) := by
  have hround : executeRound s step body =
      fun r => executeOption s step (inFrame [] (executeAll s body) r) := rfl
  rw [execute, hround, inFrame, leaveFrame]

/-- A loop that ends by itself within the limit is executed as if there were none. -/
lemma FinishesAfter.execute {t : Statement} {n : Nat} {r after : Run}
    (h : FinishesAfter s t n r after) (hle : n ≤ loopLimit) : execute s t r = after := by
  cases h with
  | items hparts => rw [execute_forEach, hparts, List.take_of_length_le hle]
  | rounds hrounds hend => rw [execute_loop, hrounds.rounds_of_end hend hle]

/-- A loop that goes on behind as many rounds as there may be is left there. -/
lemma GoesOnAfter.execute {t : Statement} {r after : Run}
    (h : GoesOnAfter s t loopLimit r after) : execute s t r = after := by
  generalize hn : loopLimit = n at h
  cases h with
  | items hparts => rw [execute_forEach, hparts, hn, List.take_left]
  | rounds hrounds hmore => rw [execute_loop, hn, hrounds.rounds_limit]

/-- A loop ends by itself within the limit, or goes on behind it. -/
lemma exists_finishesAfter {t : Statement} (ht : t.isLoop = true) (r : Run) :
    (∃ n after, n ≤ loopLimit ∧ FinishesAfter s t n r after) ∨
      ∃ after, GoesOnAfter s t loopLimit r after := by
  cases t with
  | forEach binding kind e body =>
    by_cases hle : ((r.evaluate s e).1.parts kind).length ≤ loopLimit
    · exact .inl ⟨_, _, hle, .items rfl⟩
    · -- of more parts than there may be rounds, the first one that is left tells of the others
      obtain ⟨part, rest, hrest⟩ : ∃ part rest,
          ((r.evaluate s e).1.parts kind).drop loopLimit = part :: rest := by
        cases hdrop : ((r.evaluate s e).1.parts kind).drop loopLimit with
        | nil => exact absurd (List.drop_eq_nil_iff.1 hdrop) hle
        | cons part rest => exact ⟨part, rest, rfl⟩
      have hparts := List.take_append_drop loopLimit ((r.evaluate s e).1.parts kind)
      rw [hrest] at hparts
      have hlength : (((r.evaluate s e).1.parts kind).take loopLimit).length = loopLimit := by
        rw [List.length_take]
        omega
      have hmore : GoesOnAfter s (.forEach binding kind e body) _ r _ := .items hparts.symm
      rw [hlength] at hmore
      exact .inr ⟨_, hmore⟩
  | loop start c step body =>
    rcases exists_rounds (holds s c) (executeRound s step body) loopLimit
      (executeOption s start ⟨[] :: r.frames, r.output⟩) with ⟨n, q, hle, hq, hend⟩ | ⟨q, hq, hmore⟩
    · exact .inl ⟨n, _, hle, .rounds hq hend⟩
    · exact .inr ⟨_, .rounds hq hmore⟩
  | _ => cases ht

/-- A loop does not end by itself in front of a round that it goes on with. -/
lemma GoesOnAfter.lt {t : Statement} {n m : Nat} {r q q' : Run} (h : GoesOnAfter s t n r q)
    (h' : FinishesAfter s t m r q') : n < m := by
  cases h with
  | items hparts =>
    cases h' with
    | items hparts' =>
      rw [← hparts', hparts, List.length_append, List.length_cons]
      omega
  | rounds hrounds hmore =>
    cases h' with
    | rounds hrounds' hend =>
      -- as many rounds lead to the same state, in which the condition cannot both hold and fail
      refine Nat.lt_of_le_of_ne (hrounds'.le_of_end hend hrounds) ?_
      rintro rfl
      rw [hrounds.unique hrounds', hend] at hmore
      cases hmore

/-! ## The limit -/

/-- What the limit makes of a loop. -/
structure LoopLimit (s : Scope) (t : Statement) (r after : Run) : Prop where
  /-- The limit does not show where the loop ends by itself before or at it. -/
  transparent : ∀ n final, FinishesAfter s t n r final → n ≤ loopLimit → after = final
  /-- Any other loop is left behind the last round that is allowed. -/
  exact : (∀ n final, FinishesAfter s t n r final → loopLimit < n) →
    ∀ final, GoesOnAfter s t loopLimit r final ↔ after = final
  /-- A loop of the second kind does go on there by itself. -/
  stops : (∀ n final, FinishesAfter s t n r final → loopLimit < n) ↔
    ∃ final, GoesOnAfter s t loopLimit r final
  /-- In both cases the next statement follows. -/
  next : ∀ rest, executeAll s (t :: rest) r = executeAll s rest after

/-- Loops of both forms keep to the limit, from every state and in every scope. -/
theorem loop_limit (s : Scope) {t : Statement} (ht : t.isLoop = true) (r : Run) :
    LoopLimit s t r (execute s t r) := by
  have hstops : (∀ n final, FinishesAfter s t n r final → loopLimit < n) →
      ∃ final, GoesOnAfter s t loopLimit r final := by
    intro hlate
    rcases exists_finishesAfter ht r with ⟨n, final, hle, hfinish⟩ | hmore
    · exact absurd (hlate n final hfinish) (Nat.not_lt.2 hle)
    · exact hmore
  constructor
  case transparent =>
    intro n final hfinish hle
    exact hfinish.execute hle
  case exact =>
    intro hlate final
    constructor
    · intro hmore
      exact hmore.execute
    · rintro rfl
      obtain ⟨final, hmore⟩ := hstops hlate
      rwa [hmore.execute]
  case stops =>
    refine ⟨hstops, ?_⟩
    rintro ⟨final, hmore⟩ n final' hfinish
    exact hmore.lt hfinish
  case next =>
    intro rest
    rfl

/-- A loop without a condition, which counts its rounds in the text of a name. -/
def endless : Statement :=
  .loop none none (some (.assignment "last" .add (.literal (.text "i")))) []

/-- A loop without a condition has no end of its own, so it is left behind the last round that is
allowed. -/
theorem loop_limit_endless :
    endless.isLoop = true ∧
      (∀ n final, ¬ FinishesAfter scopeOfTwo endless n insideOfBlock final) ∧
      LoopLimit scopeOfTwo endless insideOfBlock (execute scopeOfTwo endless insideOfBlock) ∧
      GoesOnAfter scopeOfTwo endless loopLimit insideOfBlock
        (execute scopeOfTwo endless insideOfBlock) := by
  have hnever : ∀ n final, ¬ FinishesAfter scopeOfTwo endless n insideOfBlock final := by
    intro n final hfinish
    cases hfinish with
    | rounds _ hend => cases hend
  have hlimit := loop_limit scopeOfTwo (t := endless) rfl insideOfBlock
  have hlate : ∀ n final, FinishesAfter scopeOfTwo endless n insideOfBlock final → loopLimit < n :=
    fun n final hfinish => absurd hfinish (hnever n final)
  exact ⟨rfl, hnever, hlimit, (hlimit.exact hlate _).2 rfl⟩

end Run
end ViewKit
