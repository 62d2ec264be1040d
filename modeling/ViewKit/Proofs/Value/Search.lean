/-
# Searching texts and lists

The search methods of texts look for the text of their argument, those of lists for an item
that equals it.  `indexOf` gives the first place, counted in characters or in items, and minus
one if there is none; `includes` tells whether there is one (`search_methods`).  In a text, the
place that is found is the index of the first character that was looked for.
-/
import Mathlib.Order.Bounds.Basic
import ViewKit.Proofs.Value.Equality
import ViewKit.Proofs.Value.Index

namespace ViewKit

/-! ## The first place -/

/-- The least number with a property is given, or none if no number has the property. -/
def IsFirst (p : Nat → Prop) : Option Nat → Prop
  | some k => IsLeast {i | p i} k
  | none => ∀ i, ¬ p i

namespace IsFirst

variable {p : Nat → Prop} {r : Option Nat} {k : Nat}

lemma zero (h : p 0) : IsFirst p (some 0) := ⟨h, fun i _ => Nat.zero_le i⟩

/-- A property that zero does not have is looked for from one onwards. -/
lemma succ (hzero : ¬ p 0) (h : IsFirst (fun i => p (i + 1)) r) : IsFirst p (r.map (· + 1)) := by
  cases r with
  | none =>
    intro i hi
    cases i with
    | zero => exact hzero hi
    | succ i => exact h i hi
  | some k =>
    refine ⟨h.1, fun i hi => ?_⟩
    cases i with
    | zero => exact absurd hi hzero
    | succ i => exact Nat.succ_le_succ (h.2 hi)

lemma eq_some (h : IsFirst p r) (hk : IsLeast {i | p i} k) : r = some k := by
  cases r with
  | none => exact absurd hk.1 (h k)
  | some l => exact congrArg some (IsLeast.unique h hk)

lemma eq_none (h : IsFirst p r) (hnone : ∀ i, ¬ p i) : r = none := by
  cases r with
  | none => rfl
  | some k => exact absurd h.1 (hnone k)

lemma exists_of_exists (h : IsFirst p r) (hsome : ∃ i, p i) :
    ∃ k, r = some k ∧ IsLeast {i | p i} k := by
  obtain ⟨i, hi⟩ := hsome
  cases r with
  | none => exact absurd hi (h i)
  | some k => exact ⟨k, rfl, h⟩

end IsFirst

namespace Text

lemma isSome_after?_iff {xs cs : List Char} : (after? xs cs).isSome = true ↔ xs <+: cs := by
  rw [Option.isSome_iff_ne_none, Ne, after?_eq_none_iff, not_not]

/-- A text is found where it stands first. -/
lemma isFirst_find? (needle cs : List Char) :
    IsFirst (fun i => needle <+: cs.drop i) (find? needle cs) := by
  induction cs with
  | nil =>
    rw [find?]
    split
    · next hempty =>
      refine .zero ?_
      rw [List.isEmpty_iff.1 hempty]
      exact List.nil_prefix
    · next hne =>
      intro i hprefix
      rw [List.drop_nil, List.prefix_nil] at hprefix
      exact hne (List.isEmpty_iff.2 hprefix)
  | cons c cs ih =>
    rw [find?]
    split
    · next hstands => exact .zero (isSome_after?_iff.1 hstands)
    · next hstands => exact .succ (fun hprefix => hstands (isSome_after?_iff.2 hprefix)) ih

end Text

namespace Value

/-- An item is found where it stands first. -/
lemma isFirst_position? (v : Value) (items : List Value) :
    IsFirst (fun i => ∃ w, items[i]? = some w ∧ (w == v) = true) (position? v items) := by
  induction items with
  | nil => exact fun i ⟨w, hw, _⟩ => by simp at hw
  | cons w ws ih =>
    rw [position?]
    split
    · next heq => exact .zero ⟨w, rfl, heq⟩
    · next hne =>
      refine .succ ?_ ih
      rintro ⟨w', hw', heq⟩
      exact hne (Option.some.inj hw' ▸ heq)

/-! ## The search methods -/

/-- The values that can be searched: texts whose characters can be counted exactly, and lists. -/
inductive Searchable : Value → Prop where
  | text {s : String} : s.length < Nat.pow 2 53 → Searchable (.text s)
  | list (items : List Value) : Searchable (.list items)

/-- A value occurs in a text where its text begins, and in a list where an item equals it. -/
def OccursAt (v : Value) : Value → Nat → Prop
  | text s, i => v.display.toList <+: s.toList.drop i
  | list items, i => ∃ w, items[i]? = some w ∧ (w == v) = true
  | _, _ => False

/-- What the search methods of a receiver tell about a value. -/
structure Finds (receiver v : Value) (arguments : List Value) : Prop where
  /-- The place of a value that occurs is the first one. -/
  first : ∀ k, IsLeast {i | v.OccursAt receiver i} k →
    receiver.method "indexOf" arguments = ofNat k
  missing : (∀ i, ¬ v.OccursAt receiver i) →
    receiver.method "indexOf" arguments = number (Number.ofInt (-1))
  includes : receiver.method "includes" arguments =
    bool (receiver.method "indexOf" arguments != number (Number.ofInt (-1)))
  /-- At the place in a text stands the first character of what was looked for. -/
  character : ∀ s c cs, receiver = text s → v.display.toList = c :: cs →
    (∃ i, v.OccursAt receiver i) →
    receiver.atIndex (receiver.method "indexOf" arguments) = text (String.singleton c)

variable {receiver v : Value} {arguments : List Value} {r : Option Nat}

/-- A place is told apart from none. -/
lemma ofPosition_bne (r : Option Nat) :
    (ofPosition r != number (Number.ofInt (-1))) = r.isSome := by
  cases r with
  | none =>
    have hself : (number (Number.ofInt (-1)) == number (Number.ofInt (-1))) = true := by
      rw [beq_eq_same, same]
      exact Number.same_self _
    exact congrArg (!·) hself
  | some k =>
    have hother : (ofNat k == number (Number.ofInt (-1))) = false := by
      rw [beq_eq_same, ofNat, same]
      exact Number.same_ofNat_minusOne k
    exact congrArg (!·) hother

lemma character_of_prefix {s : String} {c : Char} {cs : List Char} {i : Nat}
    (h : c :: cs <+: s.toList.drop i) :
    character s i = text (String.singleton c) ∧ i < s.length := by
  obtain ⟨rest, hrest⟩ := h
  have hget : s.toList[i]? = some c := by
    rw [← Nat.add_zero i, ← List.getElem?_drop, ← hrest]
    rfl
  have hlt := (List.getElem?_eq_some_iff.1 hget).1
  rw [String.length_toList] at hlt
  rw [character, hget]
  exact ⟨rfl, hlt⟩

/-- Both methods go by one place, the first one. -/
lemma finds_of_isFirst (hr : receiver.Searchable) (hfirst : IsFirst (v.OccursAt receiver) r)
    (hindexOf : receiver.method "indexOf" arguments = ofPosition r)
    (hincludes : receiver.method "includes" arguments = bool r.isSome) :
    Finds receiver v arguments where
  first k hk := by
    rw [hindexOf, hfirst.eq_some hk]
    rfl
  missing hnone := by
    rw [hindexOf, hfirst.eq_none hnone]
    rfl
  includes := by
    rw [hindexOf, hincludes, ofPosition_bne]
  character s c cs hs hcs hsome := by
    obtain ⟨k, rfl, hleast⟩ := hfirst.exists_of_exists hsome
    subst hs
    cases hr with
    | text hlength =>
      have hprefix : c :: cs <+: s.toList.drop k := hcs ▸ hleast.1
      obtain ⟨hcharacter, hlt⟩ := character_of_prefix hprefix
      rw [hindexOf, ofPosition, atIndex_text_ofNat s (Nat.lt_trans hlt hlength), hcharacter]

/-- With an argument, the search methods of texts and lists give the first place at which it
occurs. -/
theorem search_methods (hr : receiver.Searchable) (v : Value) (more : List Value) :
    Finds receiver v (v :: more) := by
  cases hr with
  | @text s hlength =>
    exact finds_of_isFirst (.text hlength) (Text.isFirst_find? v.display.toList s.toList) rfl rfl
  | list items => exact finds_of_isFirst (.list items) (isFirst_position? v items) rfl rfl

/-- A number is looked for by its text, in which characters of two and three bytes stand in
front and occurrences overlap. -/
theorem search_methods_overlapping :
    let s : Value := .text "é→1212"
    let v : Value := .list [.number (Number.ofNat 12)]
    s.Searchable ∧ s.method "indexOf" [v] = ofNat 2 ∧
      s.method "includes" [v] = .bool (ofNat 2 != .number (Number.ofInt (-1))) ∧
      s.atIndex (ofNat 2) = .text "1" := by
  intro s v
  have hs : s.Searchable := .text (by decide)
  have hfinds := search_methods hs v []
  have hdisplay : v.display = "12" := by decide +kernel
  have hoccurs : v.OccursAt s 2 := by
    show v.display.toList <+: _
    rw [hdisplay]
    decide
  have hleast : IsLeast {i | v.OccursAt s i} 2 := by
    refine ⟨hoccurs, fun i hi => ?_⟩
    have hi : v.display.toList <+: "é→1212".toList.drop i := hi
    rw [hdisplay] at hi
    by_contra hlt
    have hnot : ∀ j < 2, ¬ "12".toList <+: "é→1212".toList.drop j := by decide
    exact hnot i (by omega) hi
  have hindexOf := hfinds.first 2 hleast
  have hcharacter := hfinds.character _ '1' ['2'] rfl (by rw [hdisplay]; decide) ⟨2, hoccurs⟩
  rw [hindexOf] at hcharacter
  refine ⟨hs, hindexOf, ?_, hcharacter⟩
  rw [hfinds.includes, hindexOf]

end Value
end ViewKit
