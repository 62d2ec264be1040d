/-
# Text in markup is safe and can be read back

A text written in markup has none of the characters that open or close a tag or an attribute,
and an ampersand only where an entity begins.  Reading the entities in one pass from the left
gives back the text, whatever it was, entities included: the ampersand of an entity that was
there before is an entity of its own afterwards (`unescape_escape`).  So values that are
written alike are shown alike (`escaped_reversible`).
-/
import Mathlib.Logic.Function.Basic
import Mathlib.Tactic.Lemma
import ViewKit.Value.Display

namespace ViewKit

namespace Text

/-- The characters that are written as entities. -/
def reserved : List Char := ['&', '<', '>', '"']

/-- How entities are written. -/
def entities : List (List Char) :=
  ["&amp;".toList, "&lt;".toList, "&gt;".toList, "&quot;".toList]

/-- A text with each entity read as its character, in one pass from the left. -/
def unescape : List Char → List Char
  | '&' :: 'a' :: 'm' :: 'p' :: ';' :: cs => '&' :: unescape cs
  | '&' :: 'l' :: 't' :: ';' :: cs => '<' :: unescape cs
  | '&' :: 'g' :: 't' :: ';' :: cs => '>' :: unescape cs
  | '&' :: 'q' :: 'u' :: 'o' :: 't' :: ';' :: cs => '"' :: unescape cs
  | c :: cs => c :: unescape cs
  | [] => []

variable {c : Char} {cs : List Char}

/-! ## One character -/

lemma entity_of_not_mem (h : c ∉ reserved) : entity c = [c] := by
  simp only [reserved, List.mem_cons, not_or] at h
  obtain ⟨hand, hless, hgreater, hquote, -⟩ := h
  rw [entity] <;> assumption

/-- A reserved character is written as an entity, with a single ampersand in front. -/
lemma entity_of_mem (h : c ∈ reserved) :
    ∃ name, entity c = '&' :: name ∧ entity c ∈ entities ∧
      ∀ x ∈ name, x ∉ reserved := by
  simp only [reserved, List.mem_cons, List.not_mem_nil, or_false] at h
  rcases h with rfl | rfl | rfl | rfl <;> exact ⟨_, rfl, by decide, by simp [reserved]⟩

lemma unescape_cons (h : c ≠ '&') (cs : List Char) : unescape (c :: cs) = c :: unescape cs := by
  rw [unescape] <;> simp [h]

/-- Reading the entity of a character gives back the character. -/
lemma unescape_entity (c : Char) (cs : List Char) :
    unescape (entity c ++ cs) = c :: unescape cs := by
  by_cases h : c ∈ reserved
  · simp only [reserved, List.mem_cons, List.not_mem_nil, or_false] at h
    rcases h with rfl | rfl | rfl | rfl <;> rfl
  · have hne : c ≠ '&' := fun e => h (e ▸ List.mem_cons_self)
    rw [entity_of_not_mem h]
    exact unescape_cons hne cs

/-! ## Whole texts -/

lemma escape_cons (c : Char) (cs : List Char) : escape (c :: cs) = entity c ++ escape cs := rfl

theorem unescape_escape (cs : List Char) : unescape (escape cs) = cs := by
  induction cs with
  | nil => rfl
  | cons c cs ih => rw [escape_cons, unescape_entity, ih]

theorem escape_injective : Function.Injective escape :=
  Function.LeftInverse.injective unescape_escape

/-- Of the reserved characters only the ampersand is left. -/
lemma eq_ampersand_of_mem_escape (hmem : c ∈ escape cs) (hc : c ∈ reserved) : c = '&' := by
  obtain ⟨x, -, hx⟩ := List.mem_flatMap.1 hmem
  by_cases hreserved : x ∈ reserved
  · obtain ⟨name, hentity, -, hname⟩ := entity_of_mem hreserved
    rw [hentity] at hx
    rcases List.mem_cons.1 hx with hx | hx
    · exact hx
    · exact absurd hc (hname c hx)
  · rw [entity_of_not_mem hreserved, List.mem_singleton] at hx
    exact absurd (hx ▸ hc) hreserved

/-- A character that is not in the front of a text stands behind this front. -/
lemma exists_eq_append_of_not_mem {xs ys front back : List Char} (hc : c ∉ xs)
    (h : xs ++ ys = front ++ c :: back) : ∃ more, ys = more ++ c :: back := by
  rcases List.append_eq_append_iff.1 h with ⟨more, -, hrest⟩ | ⟨more, hfront, hrest⟩
  · exact ⟨more, hrest⟩
  · cases more with
    | nil => exact ⟨[], hrest.symm⟩
    | cons x more =>
      obtain ⟨rfl, -⟩ := List.cons.inj hrest
      exact absurd (hfront ▸ List.mem_append_right front List.mem_cons_self) hc

/-- An ampersand stands only where an entity begins. -/
lemma entity_at_ampersand {front back : List Char} (h : escape cs = front ++ '&' :: back) :
    ∃ e ∈ entities, e <+: '&' :: back := by
  have hand : '&' ∈ reserved := List.mem_cons_self
  induction cs generalizing front with
  | nil => exact absurd h (by simp [escape])
  | cons c cs ih =>
    rw [escape_cons] at h
    by_cases hc : c ∈ reserved
    · obtain ⟨name, hentity, hmem, hname⟩ := entity_of_mem hc
      cases front with
      | nil => exact ⟨entity c, hmem, escape cs, h⟩
      | cons x front =>
        -- the rest of the entity has no ampersand
        rw [hentity] at h
        obtain ⟨more, hmore⟩ :=
          exists_eq_append_of_not_mem (fun hin => hname '&' hin hand) (List.cons.inj h).2
        exact ih hmore
    · have hne : '&' ∉ [c] := fun hin => hc (List.mem_singleton.1 hin ▸ hand)
      rw [entity_of_not_mem hc] at h
      obtain ⟨more, hmore⟩ := exists_eq_append_of_not_mem hne h
      exact ih hmore

end Text

namespace Value

lemma toList_escaped {v : Value} (h : v.isNull = false) :
    v.escaped.toList = Text.escape v.display.toList := by
  rw [escaped, h]
  simp

/-- What a value prints into markup to read as itself there has no angle bracket and no quote,
and an ampersand only where an entity begins; reading the entities gives back the text of the
value, so values print alike exactly if their texts are the same. -/
theorem escaped_reversible (v w : Value) (hv : v.isNull = false) (hw : w.isNull = false) :
    (∀ c ∈ ['<', '>', '"'], c ∉ v.escaped.toList) ∧
      (∀ front back, v.escaped.toList = front ++ '&' :: back →
        ∃ e ∈ Text.entities, e <+: '&' :: back) ∧
      Text.unescape v.escaped.toList = v.display.toList ∧
      (v.escaped = w.escaped ↔ v.display = w.display) := by
  rw [toList_escaped hv]
  refine ⟨?_, fun front back => Text.entity_at_ampersand, Text.unescape_escape _, ?_⟩
  · intro c hc hmem
    have hreserved : c ∈ Text.reserved := List.mem_cons_of_mem '&' hc
    rw [Text.eq_ampersand_of_mem_escape hmem hreserved] at hc
    exact absurd hc (by decide)
  · rw [← String.toList_inj, ← String.toList_inj, toList_escaped hv, toList_escaped hw]
    exact Text.escape_injective.eq_iff

/-- A text with entities of its own, and a list that is shown as this text. -/
theorem escaped_reversible_entities :
    let v : Value := .text "<a title=\"&amp;lt;\">"
    let w : Value := .list [v]
    v.isNull = false ∧ w.isNull = false ∧
      v.escaped = "&lt;a title=&quot;&amp;amp;lt;&quot;&gt;" ∧
      (∀ c ∈ ['<', '>', '"'], c ∉ v.escaped.toList) ∧
      Text.unescape v.escaped.toList = "<a title=\"&amp;lt;\">".toList ∧ v.escaped = w.escaped := by
  intro v w
  obtain ⟨hsafe, -, hback, halike⟩ := escaped_reversible v w rfl rfl
  exact ⟨rfl, rfl, by decide, hsafe, hback, halike.2 rfl⟩

end Value

end ViewKit
