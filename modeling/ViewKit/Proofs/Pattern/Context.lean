/-
# Patterns inside of patterns

A part of a pattern that stands in parentheses is read as it is read on its own, but for the
numbers of its groups, if white space counts everywhere in it: whatever reads some characters
of it stops at the parenthesis behind it (`Agree`).
-/
import ViewKit.Proofs.Pattern.Run
import ViewKit.Proofs.Pattern.Steps

namespace ViewKit.Pattern

/-- What stands around a part of a pattern: the text behind its closing parenthesis, and the
groups that were opened and named in front of it. -/
structure Surroundings where
  behind : List Char
  groups : Nat
  names : List String

namespace Source

/-- A source with one more character in front. -/
def cons (x : Char) (s : Source) : Source := { s with rest := x :: s.rest }

/-- A source with something around it. -/
def within (s : Source) (c : Surroundings) : Source :=
  ⟨s.rest ++ ')' :: c.behind, s.flags, c.groups + s.groups, s.names ++ c.names⟩

/-- White space counts. -/
def IsPlain (s : Source) : Prop := s.flags.ignoreSpace = false

variable (s : Source) (x : Char) (c : Surroundings)

variable {s}

variable {test : Char → Bool}

end Source

open Source (cons)

variable {α β : Type} (c : Surroundings)

/-- What is read of a part of a pattern is also read with something around it. -/
def Agree (alone inside : Option (α × Source)) : Prop :=
  ∀ a t, alone = some (a, t) → t.IsPlain ∧ inside = some (a, t.within c)

section

variable {c} {alone inside : Option (α × Source)}

lemma Agree.bind (h : Agree c alone inside) {f f' : α × Source → Option (β × Source)}
    (hf : ∀ a t, t.IsPlain → Agree c (f (a, t)) (f' (a, t.within c))) :
    Agree c (alone >>= f) (inside >>= f') := by
  intro b u hb
  obtain ⟨⟨a, t⟩, ha, hb⟩ := Option.bind_eq_some_iff.1 hb
  obtain ⟨ht, hinside⟩ := h a t ha
  rw [hinside]
  exact hf a t ht b u hb

lemma Agree.map (h : Agree c alone inside) (f : α → β) :
    Agree c (alone.map fun (a, t) => (f a, t)) (inside.map fun (a, t) => (f a, t)) := by
  intro b u hb
  obtain ⟨⟨a, t⟩, ha, heq⟩ := Option.map_eq_some_iff.1 hb
  obtain ⟨rfl, rfl⟩ := Prod.mk.inj heq
  obtain ⟨ht, hinside⟩ := h a t ha
  rw [hinside]
  exact ⟨ht, rfl⟩

end

/-! ## Escapes -/

variable {s : Source}

end ViewKit.Pattern
