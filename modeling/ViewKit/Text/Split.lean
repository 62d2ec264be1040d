/-
# Splitting, joining and searching texts

The plain operations on lists of characters that paths, placeholders and the search methods
of markup share.  Positions are counted in characters.
-/

namespace ViewKit.Text

/-- The pieces of a text between its separators; there is always at least one. -/
def splitAt (separator : Char) : List Char → List (List Char)
  | [] => [[]]
  | c :: cs =>
    if c = separator then [] :: splitAt separator cs
    else
      match splitAt separator cs with
      | [] => [[c]]
      | piece :: pieces => (c :: piece) :: pieces

theorem splitAt_ne_nil (separator : Char) (cs : List Char) : splitAt separator cs ≠ [] := by
  cases cs with
  | nil => simp [splitAt]
  | cons c cs =>
    rw [splitAt]
    split
    · simp
    · split <;> simp

theorem splitAt_cons_of_ne {separator c : Char} (h : c ≠ separator) (cs : List Char) :
    ∃ piece pieces, splitAt separator cs = piece :: pieces ∧
      splitAt separator (c :: cs) = (c :: piece) :: pieces := by
  cases hs : splitAt separator cs with
  | nil => exact absurd hs (splitAt_ne_nil separator cs)
  | cons piece pieces => exact ⟨piece, pieces, rfl, by rw [splitAt, if_neg h, hs]⟩

theorem splitAt_of_not_mem {separator : Char} {cs : List Char} (h : separator ∉ cs) :
    splitAt separator cs = [cs] := by
  induction cs with
  | nil => rfl
  | cons c cs ih =>
    rw [List.mem_cons, not_or] at h
    rw [splitAt, if_neg (Ne.symm h.1), ih h.2]

theorem splitAt_append (separator : Char) (xs ys : List Char) :
    splitAt separator (xs ++ separator :: ys) = splitAt separator xs ++ splitAt separator ys := by
  induction xs with
  | nil => simp [splitAt]
  | cons x xs ih =>
    rw [List.cons_append]
    by_cases hx : x = separator
    · rw [splitAt, if_pos hx, splitAt, if_pos hx, ih]
      rfl
    · obtain ⟨piece, pieces, hs, hcons⟩ := splitAt_cons_of_ne hx xs
      rw [splitAt, if_neg hx, ih, hcons, hs]
      rfl

/-- Pieces of text with a separator between each two of them. -/
def join (separator : String) : List String → String
  | [] => ""
  | [piece] => piece
  | piece :: pieces => piece ++ separator ++ join separator pieces

/-- The text behind a given beginning, if it begins so. -/
def after? : List Char → List Char → Option (List Char)
  | [], cs => some cs
  | _ :: _, [] => none
  | x :: xs, c :: cs => if x = c then after? xs cs else none

theorem after?_eq_some_iff {xs cs rest : List Char} :
    after? xs cs = some rest ↔ cs = xs ++ rest := by
  induction xs generalizing cs with
  | nil => simp [after?]
  | cons x xs ih =>
    cases cs with
    | nil => simp [after?]
    | cons c cs =>
      by_cases h : x = c
      · simp [after?, h, ih]
      · have hne : c ≠ x := fun e => h e.symm
        simp [after?, h, hne]

theorem after?_eq_none_iff {xs cs : List Char} : after? xs cs = none ↔ ¬ xs <+: cs := by
  rw [← Option.not_isSome_iff_eq_none, Option.isSome_iff_exists]
  refine not_congr (exists_congr fun rest => ?_)
  rw [after?_eq_some_iff, eq_comm]

/-- The position of the first occurrence of a text in another. -/
def find? (needle : List Char) : List Char → Option Nat
  | [] => if needle.isEmpty then some 0 else none
  | c :: cs =>
    if (after? needle (c :: cs)).isSome then some 0 else (find? needle cs).map (· + 1)

/-- A text with the first occurrence of another one replaced. -/
def replaceFirst (needle replacement : List Char) : List Char → List Char
  | [] => if needle.isEmpty then replacement else []
  | c :: cs =>
    match after? needle (c :: cs) with
    | some rest => replacement ++ rest
    | none => c :: replaceFirst needle replacement cs

/-- A text that begins with what is replaced is replaced there. -/
theorem replaceFirst_of_begins {needle replacement : List Char} (h : needle ≠ []) (cs : List Char) :
    replaceFirst needle replacement (needle ++ cs) = replacement ++ cs := by
  obtain ⟨x, xs, rfl⟩ := List.exists_cons_of_ne_nil h
  have hafter : after? (x :: xs) (x :: (xs ++ cs)) = some cs := after?_eq_some_iff.2 rfl
  rw [List.cons_append, replaceFirst, hafter]

theorem replaceFirst_cons {needle replacement : List Char} {c : Char} {cs : List Char}
    (h : ¬ needle <+: c :: cs) :
    replaceFirst needle replacement (c :: cs) = c :: replaceFirst needle replacement cs := by
  rw [replaceFirst, after?_eq_none_iff.2 h]

/-- The number of bytes of a text in UTF-8. -/
def byteLength (cs : List Char) : Nat := cs.foldr (fun c n => c.utf8Size + n) 0

end ViewKit.Text
