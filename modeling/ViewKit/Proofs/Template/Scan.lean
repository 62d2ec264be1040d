/-
# Scanning for regions

With the settings that nobody changed, the regions of a text can be found without patterns:
an opening mark with a closing mark behind it starts a region, the character behind the
opening mark tells its kind, and the first closing mark that leaves it some content ends it
(`scan`).  No character is lost (`source_scan`).

Positions are counted from the start of a text.  What stands behind a first character is
found one position further than without it (`closing?_cons`, `regionAt?_cons`), so the first
region of a text is the one at its start or the first one of the rest (`first?_cons`).
-/
import Mathlib.Tactic.Lemma
import Mathlib.Data.List.Range
import ViewKit.Template.Region

namespace ViewKit

/-! ## The scanner -/

namespace Scan

/-- The mark with which a region starts. -/
def opening : List Char := ['<', '%']

/-- The mark with which a region ends. -/
def closing : List Char := ['%', '>']

/-- Whether a mark stands at a position of a text. -/
def standsAt (mark text : List Char) (i : Nat) : Bool := mark.isPrefixOf (text.drop i)

/-- The least position in a text that passes a test. -/
def position? (test : Nat → Bool) (text : List Char) : Option Nat :=
  (List.range text.length).find? test

/-- The least position from `start` on at which a closing mark stands. -/
def closing? (text : List Char) (start : Nat) : Option Nat :=
  position? (fun j => decide (start ≤ j) && standsAt closing text j) text

/-- Whether a region starts at a position: an opening mark, and a closing mark that leaves at
least one character between them. -/
def opensAt (text : List Char) (i : Nat) : Bool :=
  standsAt opening text i && (closing? text (i + 3)).isSome

/-- A region by the positions of its content. -/
structure Region where
  kind : RegionKind
  /-- The position at which the content starts. -/
  start : Nat
  /-- The position behind the content, at which the closing mark stands. -/
  stop : Nat

/-- The region at the position of an opening mark.  A sign behind the mark tells the kind, if
there is some content between the sign and a closing mark. -/
def regionAt? (text : List Char) (i : Nat) : Option Region :=
  let signed (kind : RegionKind) := (closing? text (i + 4)).map (Region.mk kind (i + 3))
  let plain := (closing? text (i + 3)).map (Region.mk .evaluate (i + 2))
  if text[i + 2]? = some '-' then (signed .escape).or plain
  else if text[i + 2]? = some '=' then (signed .interpolate).or plain
  else plain

/-- The content of a region. -/
def Region.content (text : List Char) (r : Region) : List Char :=
  (text.drop r.start).take (r.stop - r.start)

/-- The first region of a text with its position. -/
def first? (text : List Char) : Option (Nat × Region) :=
  (position? (opensAt text) text).bind fun i => (regionAt? text i).map (i, ·)

lemma length_pos_of_first? {text : List Char} {found : Nat × Region}
    (h : first? text = some found) : 0 < text.length := by
  cases text with
  | nil => cases h
  | cons => exact Nat.zero_lt_succ _

/-- The pieces of a text: the text in front of the first region, the region, and the pieces
behind it. -/
def scan (text : List Char) : List Piece :=
  match h : first? text with
  | none => [.literal text]
  | some (i, r) =>
    .literal (text.take i) :: .region r.kind (r.content text) :: scan (text.drop (r.stop + 2))
termination_by text.length
decreasing_by
  have := length_pos_of_first? h
  rw [List.length_drop]
  omega

end Scan

/-- The sign of a kind of regions behind the opening mark. -/
def RegionKind.sign : RegionKind → List Char
  | escape => ['-']
  | interpolate => ['=']
  | evaluate => []

/-- The text of a piece in a template with the default settings. -/
def Piece.source : Piece → List Char
  | literal text => text
  | region kind content => Scan.opening ++ kind.sign ++ content ++ Scan.closing

namespace Scan

/-! ## Positions -/

lemma position?_cons (test : Nat → Bool) (c : Char) (cs : List Char) :
    position? test (c :: cs) =
      if test 0 then some 0 else (position? (fun i => test (i + 1)) cs).map (· + 1) := by
  rw [position?, List.length_cons, List.range_succ_eq_map, List.find?_cons, List.find?_map]
  cases test 0 <;> rfl

lemma standsAt_cons (mark : List Char) (c : Char) (cs : List Char) (i : Nat) :
    standsAt mark (c :: cs) (i + 1) = standsAt mark cs i := rfl

lemma closing?_cons (c : Char) (cs : List Char) (start : Nat) :
    closing? (c :: cs) (start + 1) = (closing? cs start).map (· + 1) := by
  rw [closing?, position?_cons]
  simp [closing?, standsAt_cons]

lemma opensAt_cons (c : Char) (cs : List Char) (i : Nat) :
    opensAt (c :: cs) (i + 1) = opensAt cs i := by
  rw [opensAt, opensAt, standsAt_cons, closing?_cons, Option.isSome_map]

/-- A region in a text with one more character in front. -/
def Region.shift (r : Region) : Region := ⟨r.kind, r.start + 1, r.stop + 1⟩

lemma regionAt?_cons (c : Char) (cs : List Char) (i : Nat) :
    regionAt? (c :: cs) (i + 1) = (regionAt? cs i).map Region.shift := by
  have hget : (c :: cs)[i + 1 + 2]? = cs[i + 2]? := rfl
  have hsigned : closing? (c :: cs) (i + 1 + 4) = (closing? cs (i + 4)).map (· + 1) :=
    closing?_cons c cs (i + 4)
  have hplain : closing? (c :: cs) (i + 1 + 3) = (closing? cs (i + 3)).map (· + 1) :=
    closing?_cons c cs (i + 3)
  rw [regionAt?, regionAt?, hget, hsigned, hplain]
  cases closing? cs (i + 4) <;> cases closing? cs (i + 3) <;>
    simp only [Option.map_none, Option.map_some, Option.none_or, Option.some_or] <;>
    split <;> first | rfl | (split <;> rfl)

lemma closing?_nil (start : Nat) : closing? [] start = none := rfl

lemma closing?_cons_zero (c : Char) (cs : List Char) :
    closing? (c :: cs) 0 =
      if standsAt closing (c :: cs) 0 then some 0 else (closing? cs 0).map (· + 1) := by
  rw [closing?, position?_cons]
  simp [closing?, standsAt_cons]

/-- Behind a content without closing marks, the first closing mark is found. -/
lemma closing?_of_not_infix {content : List Char} (h : ¬ closing <:+: content)
    (rest : List Char) : closing? (content ++ (closing ++ rest)) 0 = some content.length := by
  induction content with
  | nil => exact closing?_cons_zero '%' ('>' :: rest)
  | cons c cs ih =>
    have hcs : ¬ closing <:+: cs := fun hcs => h (hcs.trans (List.suffix_cons c cs).isInfix)
    have hstands : standsAt closing (c :: (cs ++ (closing ++ rest))) 0 = false := by
      refine Bool.eq_false_iff.2 fun hstands => ?_
      obtain ⟨tail, htail⟩ := List.isPrefixOf_iff_prefix.1 hstands
      obtain ⟨rfl, hbehind⟩ := List.cons.inj htail
      -- the mark would be part of the content, or its `>` a `%`
      cases cs with
      | nil => exact absurd (List.cons.inj hbehind).1 (by decide)
      | cons d ds =>
        obtain rfl : '>' = d := (List.cons.inj hbehind).1
        exact h ⟨[], ds, rfl⟩
    rw [List.cons_append, closing?_cons_zero, hstands, ih hcs]
    rfl

lemma standsAt_opening_zero {text : List Char} :
    standsAt opening text 0 = true ↔ ∃ rest, text = '<' :: '%' :: rest := by
  rw [standsAt, List.drop_zero, List.isPrefixOf_iff_prefix]
  constructor
  · rintro ⟨rest, h⟩
    exact ⟨rest, h.symm⟩
  · rintro ⟨rest, rfl⟩
    exact ⟨rest, rfl⟩

/-- A sign needs some content behind it, which is then also behind the mark. -/
lemma isSome_closing?_of_succ {text : List Char} {start : Nat}
    (h : (closing? text (start + 1)).isSome = true) : (closing? text start).isSome = true := by
  rw [closing?, position?, List.find?_isSome] at h ⊢
  obtain ⟨j, hj, htest⟩ := h
  rw [Bool.and_eq_true, decide_eq_true_eq] at htest
  refine ⟨j, hj, ?_⟩
  rw [Bool.and_eq_true, decide_eq_true_eq]
  exact ⟨Nat.le_of_succ_le htest.1, htest.2⟩

lemma isSome_regionAt? (text : List Char) (i : Nat) :
    (regionAt? text i).isSome = (closing? text (i + 3)).isSome := by
  rw [regionAt?]
  cases hsigned : closing? text (i + 4) with
  | none =>
    simp only [Option.map_none, Option.none_or]
    split <;> [skip; split] <;> exact Option.isSome_map
  | some j =>
    have hplain : (closing? text (i + 3)).isSome = true :=
      isSome_closing?_of_succ (Option.isSome_iff_exists.2 ⟨j, hsigned⟩)
    rw [hplain]
    split <;> [rfl; split] <;> [rfl; exact Option.isSome_map.trans hplain]

/-- A region of a text in the text with one more character in front. -/
def shiftFound (found : Nat × Region) : Nat × Region := (found.1 + 1, found.2.shift)

/-- The first region is the one at the start of a text, or else the first one behind it. -/
lemma first?_cons (c : Char) (cs : List Char) :
    first? (c :: cs) =
      if standsAt opening (c :: cs) 0 then
        ((regionAt? (c :: cs) 0).map (0, ·)).or ((first? cs).map shiftFound)
      else (first? cs).map shiftFound := by
  have hlater : (((position? (fun i => opensAt (c :: cs) (i + 1)) cs).map (· + 1)).bind fun i =>
      (regionAt? (c :: cs) i).map (i, ·)) = (first? cs).map shiftFound := by
    have htest : (fun i => opensAt (c :: cs) (i + 1)) = opensAt cs := funext (opensAt_cons c cs)
    rw [htest, first?]
    cases position? (opensAt cs) cs with
    | none => rfl
    | some i =>
      rw [Option.map_some, Option.bind_some, Option.bind_some, regionAt?_cons]
      cases regionAt? cs i <;> rfl
  have hopens : opensAt (c :: cs) 0 =
      (standsAt opening (c :: cs) 0 && (regionAt? (c :: cs) 0).isSome) := by
    rw [isSome_regionAt?, opensAt]
  rw [first?, position?_cons, hopens]
  cases standsAt opening (c :: cs) 0 with
  | false => exact hlater
  | true =>
    cases hr : regionAt? (c :: cs) 0 with
    | none => exact hlater
    | some r => simp [hr]

/-! ## No character is lost -/

lemma scan_of_first?_eq_none {text : List Char} (h : first? text = none) :
    scan text = [.literal text] := by
  rw [scan]
  split
  · rfl
  · next hfound => rw [h] at hfound; cases hfound

lemma scan_of_first?_eq_some {text : List Char} {i : Nat} {r : Region}
    (h : first? text = some (i, r)) :
    scan text = .literal (text.take i) :: .region r.kind (r.content text) ::
      scan (text.drop (r.stop + 2)) := by
  rw [scan]
  split
  · next hfound => rw [h] at hfound; cases hfound
  · next hfound =>
    rw [h] at hfound
    cases hfound
    rfl

lemma drop_of_standsAt {mark text : List Char} {i : Nat} (h : standsAt mark text i = true) :
    text.drop i = mark ++ text.drop (i + mark.length) := by
  obtain ⟨rest, hrest⟩ := List.isPrefixOf_iff_prefix.1 h
  rw [← List.drop_drop, ← hrest, List.drop_left]

lemma of_closing?_eq_some {text : List Char} {start n : Nat} (h : closing? text start = some n) :
    start ≤ n ∧ standsAt closing text n = true := by
  have htest := List.find?_some h
  rwa [Bool.and_eq_true, decide_eq_true_eq] at htest

/-- The region at an opening mark starts behind the sign of its kind and ends at the first
closing mark that leaves it some content. -/
lemma of_regionAt?_eq_some {text : List Char} {i : Nat} {r : Region}
    (h : regionAt? text i = some r) :
    r.start = i + 2 + r.kind.sign.length ∧ closing? text (r.start + 1) = some r.stop ∧
      text.drop (i + 2) = r.kind.sign ++ text.drop r.start := by
  have hplain (h : (closing? text (i + 3)).map (Region.mk .evaluate (i + 2)) = some r) :
      r.start = i + 2 + r.kind.sign.length ∧ closing? text (r.start + 1) = some r.stop ∧
        text.drop (i + 2) = r.kind.sign ++ text.drop r.start := by
    obtain ⟨n, hn, rfl⟩ := Option.map_eq_some_iff.1 h
    exact ⟨rfl, hn, rfl⟩
  have hsigned (kind : RegionKind) (c : Char) (hc : text[i + 2]? = some c)
      (hsign : kind.sign = [c])
      (h : ((closing? text (i + 4)).map (Region.mk kind (i + 3))).or
        ((closing? text (i + 3)).map (Region.mk .evaluate (i + 2))) = some r) :
      r.start = i + 2 + r.kind.sign.length ∧ closing? text (r.start + 1) = some r.stop ∧
        text.drop (i + 2) = r.kind.sign ++ text.drop r.start := by
    cases hclosing : closing? text (i + 4) with
    | none =>
      rw [hclosing, Option.map_none, Option.none_or] at h
      exact hplain h
    | some n =>
      rw [hclosing, Option.map_some, Option.some_or, Option.some.injEq] at h
      subst h
      obtain ⟨hlt, hget⟩ := List.getElem?_eq_some_iff.1 hc
      refine ⟨by simp [hsign], hclosing, ?_⟩
      rw [hsign, List.drop_eq_getElem_cons hlt, hget]
      rfl
  rw [regionAt?] at h
  split at h
  · next hc => exact hsigned .escape '-' hc rfl h
  · split at h
    · next hc => exact hsigned .interpolate '=' hc rfl h
    · exact hplain h

/-- A text from an opening mark on is the region there with its marks, and what stands behind
it. -/
lemma drop_of_regionAt? {text : List Char} {i : Nat} {r : Region}
    (hopening : standsAt opening text i = true) (h : regionAt? text i = some r) :
    text.drop i = (Piece.region r.kind (r.content text)).source ++ text.drop (r.stop + 2) := by
  obtain ⟨-, hclosing, hsign⟩ := of_regionAt?_eq_some h
  obtain ⟨hle, hstands⟩ := of_closing?_eq_some hclosing
  have hcontent : text.drop r.start = r.content text ++ text.drop r.stop := by
    have hstop : r.stop = r.start + (r.stop - r.start) := by omega
    conv_lhs => rw [← List.take_append_drop (r.stop - r.start) (text.drop r.start)]
    rw [List.drop_drop, ← hstop]
    rfl
  calc text.drop i
    _ = opening ++ text.drop (i + 2) := drop_of_standsAt hopening
    _ = opening ++ (r.kind.sign ++ (r.content text ++ (closing ++ text.drop (r.stop + 2)))) := by
        rw [hsign, hcontent, drop_of_standsAt hstands]
        rfl
    _ = _ := by simp only [Piece.source, List.append_assoc]

lemma of_first?_eq_some {text : List Char} {i : Nat} {r : Region}
    (h : first? text = some (i, r)) :
    standsAt opening text i = true ∧ regionAt? text i = some r := by
  obtain ⟨j, hj, hr⟩ := Option.bind_eq_some_iff.1 h
  obtain ⟨r', hr', heq⟩ := Option.map_eq_some_iff.1 hr
  cases heq
  have htest := List.find?_some hj
  rw [opensAt, Bool.and_eq_true] at htest
  exact ⟨htest.1, hr'⟩

/-- Every character of a text is in exactly one of its pieces. -/
lemma source_scan (text : List Char) : (scan text).flatMap Piece.source = text := by
  induction text using scan.induct with
  | case1 text h => simp [scan_of_first?_eq_none h, Piece.source]
  | case2 text i r h ih =>
    obtain ⟨hopening, hr⟩ := of_first?_eq_some h
    rw [scan_of_first?_eq_some h, List.flatMap_cons, List.flatMap_cons, ih,
      ← drop_of_regionAt? hopening hr]
    exact List.take_append_drop i text

end Scan
end ViewKit
