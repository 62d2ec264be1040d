/-
# The regions that the default settings mark

The three patterns of the default settings overlap: each region with a sign also fits the
pattern of those without one.  All the same they find the regions that a scanner finds which
looks at each character once (`program_default`).

Matching is described on the text behind a place.  A lazy repetition ends at the first
closing mark (`run_content`), so the match at a place is the region that starts there
(`matchAt?_ofRegions`), and the leftmost match is the first region (`find?_ofRegions`).
-/
import Mathlib
import ViewKit.Proofs.Pattern.Run
import ViewKit.Proofs.Template.Scan

namespace ViewKit

/-! ## Matching at a place -/

namespace Pattern

variable {α : Type}

lemma run_seq_one_of_rest {accepts : Char → Bool} {q : Pattern} {p : Place} {c : Char}
    {cs : List Char} (h : p.rest = c :: cs) (captures : Captures) (k : Continuation α) :
    run (seq (one accepts) q) p captures k =
      if accepts c then run q (p.forward 1) captures k else none := by
  rw [run, run, p.next?_of_rest h]

lemma run_seq_one_of_rest_nil {accepts : Char → Bool} {q : Pattern} {p : Place}
    (h : p.rest = []) (captures : Captures) (k : Continuation α) :
    run (seq (one accepts) q) p captures k = none := by
  rw [run, run, p.next?_of_rest_nil h]

/-- The closing mark as a pattern. -/
def closingMark : Pattern := seq (one (CharClass.single '%')) (one (CharClass.single '>'))

/-- Some characters of a class, at least one but as few as possible, and a closing mark. -/
def content (any : CharClass) (group : Nat) : Pattern :=
  seq (.group group (plus false (one any))) closingMark

lemma run_closingMark (p : Place) (captures : Captures) (k : Continuation α) :
    run closingMark p captures k =
      if Scan.standsAt Scan.closing p.rest 0 then k (p.forward 2) captures else none := by
  rw [closingMark]
  cases hp : p.rest with
  | nil => exact run_seq_one_of_rest_nil hp captures k
  | cons c cs =>
    rw [run_seq_one_of_rest hp, run]
    cases cs with
    | nil =>
      rw [(p.forward 1).next?_of_rest_nil (by simp [hp])]
      cases hc : CharClass.single '%' c <;> simp_all [Scan.standsAt, Scan.closing, CharClass.single]
    | cons d ds =>
      have hrest : (p.forward 1).rest = d :: ds := by simp [hp]
      rw [(p.forward 1).next?_of_rest hrest, p.forward_forward]
      simp only [CharClass.single, beq_iff_eq, Scan.standsAt, Scan.closing, List.drop_zero,
        List.isPrefixOf_cons_cons, List.isPrefixOf_nil_left, Bool.and_true, Bool.and_eq_true]
      grind

variable {any : CharClass} (hany : ∀ c, any c = true)
include hany

lemma run_any_of_rest {p : Place} {c : Char} {cs : List Char} (h : p.rest = c :: cs)
    (captures : Captures) (k : Continuation α) :
    run (one any) p captures k = k (p.forward 1) captures := by
  rw [run, p.next?_of_rest h]
  exact if_pos (hany c)

omit hany in
lemma run_any_of_rest_nil {p : Place} (h : p.rest = []) (captures : Captures)
    (k : Continuation α) : run (one any) p captures k = none := by
  rw [run, p.next?_of_rest_nil h]

/-- A lazy repetition of any character goes on to the first closing mark. -/
lemma iterate_any (group : Nat) (start : Place) (captures : Captures)
    (f : Place → Captures → α) (room : Nat) (p : Place) (hroom : p.rest.length ≤ room) :
    iterate (run (one any)) false room p captures
        (fun q captures => run closingMark q ((group, ⟨start, q⟩) :: captures)
          fun q captures => some (f q captures)) =
      (Scan.closing? p.rest 0).map fun n =>
        f (p.forward (n + 2)) ((group, ⟨start, p.forward n⟩) :: captures) := by
  induction room generalizing p with
  | zero =>
    have hp : p.rest = [] := List.eq_nil_of_length_eq_zero (Nat.le_zero.1 hroom)
    rw [iterate, run_closingMark, hp]
    rfl
  | succ room ih =>
    rw [iterate, run_closingMark]
    cases hp : p.rest with
    | nil =>
      simp [run_any_of_rest_nil hp, Scan.standsAt, Scan.closing, Scan.closing?_nil]
    | cons c cs =>
      rw [Scan.closing?_cons_zero]
      by_cases hstands : Scan.standsAt Scan.closing (c :: cs) 0 = true
      · simp [hstands]
      · have hrest : (p.forward 1).rest = cs := by simp [hp]
        have hcs : cs.length ≤ room := by simpa [hp] using hroom
        have hlater := ih (p.forward 1) (by rwa [hrest])
        have hstep : p.index < (p.forward 1).index := Nat.lt_succ_self _
        rw [hrest] at hlater
        simp only [hstands, run_any_of_rest hany hp, hstep, hlater, p.forward_forward]
        simp [Function.comp_def, Nat.add_comm 1, Nat.add_right_comm _ 1 2]

/-- The content of a region ends at the first closing mark that leaves one character. -/
lemma run_content (group : Nat) (p : Place) (captures : Captures) (f : Place → Captures → α) :
    run (content any group) p captures (fun q captures => some (f q captures)) =
      (Scan.closing? p.rest 1).map fun n =>
        f (p.forward (n + 2)) ((group, ⟨p, p.forward n⟩) :: captures) := by
  rw [content, run, run, run]
  cases hp : p.rest with
  | nil => exact run_any_of_rest_nil hp captures _
  | cons c cs =>
    have hrest : (p.forward 1).rest = cs := by simp [hp]
    have hstep : p.index < (p.forward 1).index := Nat.lt_succ_self _
    have hiterate := iterate_any hany group p captures f cs.length (p.forward 1) (by rw [hrest])
    rw [hrest] at hiterate
    rw [run_any_of_rest hany hp, if_pos hstep, hrest, hiterate, Scan.closing?_cons]
    simp [Function.comp_def, p.forward_forward, Nat.add_comm 1, Nat.add_right_comm _ 1 2]

/-- The pattern of the regions without a sign. -/
def unsigned (any : CharClass) (group : Nat) : Pattern :=
  seq (one (CharClass.single '<')) (seq (one (CharClass.single '%')) (content any group))

/-- The pattern of the regions with a sign. -/
def signed (any : CharClass) (sign : Char) (group : Nat) : Pattern :=
  seq (one (CharClass.single '<')) (seq (one (CharClass.single '%'))
    (seq (one (CharClass.single sign)) (content any group)))

omit hany in
/-- Behind an opening mark a pattern goes on two characters further. -/
lemma run_opening (q : Pattern) (p : Place) (captures : Captures) (k : Continuation α) :
    run (seq (one (CharClass.single '<')) (seq (one (CharClass.single '%')) q)) p captures k =
      if Scan.standsAt Scan.opening p.rest 0 then run q (p.forward 2) captures k else none := by
  cases hp : p.rest with
  | nil => exact run_seq_one_of_rest_nil hp captures k
  | cons c cs =>
    rw [run_seq_one_of_rest hp]
    cases cs with
    | nil =>
      rw [run_seq_one_of_rest_nil (by simp [hp])]
      simp [Scan.standsAt, Scan.opening]
    | cons d ds =>
      have hrest : (p.forward 1).rest = d :: ds := by simp [hp]
      rw [run_seq_one_of_rest hrest, p.forward_forward]
      simp only [CharClass.single, beq_iff_eq, Scan.standsAt, Scan.opening, List.drop_zero,
        List.isPrefixOf_cons_cons, List.isPrefixOf_nil_left, Bool.and_true, Bool.and_eq_true]
      grind

lemma run_unsigned (group : Nat) (p : Place) (captures : Captures) (f : Place → Captures → α) :
    run (unsigned any group) p captures (fun q captures => some (f q captures)) =
      if Scan.standsAt Scan.opening p.rest 0 then
        (Scan.closing? p.rest 3).map fun n =>
          f (p.forward (n + 2)) ((group, ⟨p.forward 2, p.forward n⟩) :: captures)
      else none := by
  rw [unsigned, run_opening, run_content hany]
  split
  · next h =>
    obtain ⟨rest, hp⟩ := Scan.standsAt_opening_zero.1 h
    simp [hp, Scan.closing?_cons, Function.comp_def, p.forward_forward, Nat.add_comm 2]
  · rfl

lemma run_signed (sign : Char) (group : Nat) (p : Place) (captures : Captures)
    (f : Place → Captures → α) :
    run (signed any sign group) p captures (fun q captures => some (f q captures)) =
      if Scan.standsAt Scan.opening p.rest 0 && decide (p.rest[2]? = some sign) then
        (Scan.closing? p.rest 4).map fun n =>
          f (p.forward (n + 2)) ((group, ⟨p.forward 3, p.forward n⟩) :: captures)
      else none := by
  rw [signed, run_opening]
  by_cases h : Scan.standsAt Scan.opening p.rest 0 = true
  · obtain ⟨rest, hp⟩ := Scan.standsAt_opening_zero.1 h
    rw [if_pos h, h]
    cases rest with
    | nil =>
      rw [run_seq_one_of_rest_nil (by simp [hp])]
      simp [hp]
    | cons c cs =>
      have hrest : (p.forward 2).rest = c :: cs := by simp [hp]
      rw [run_seq_one_of_rest hrest, run_content hany]
      simp [hp, CharClass.single, Scan.closing?_cons, Function.comp_def, p.forward_forward,
        Nat.add_comm 3, Nat.add_right_comm _ 3 2]
  · rw [if_neg h]
    simp [h]

/-- The pattern of the default settings: the regions with a sign first, then those without,
and last the end of the text. -/
def ofRegions (any : CharClass) : Pattern :=
  alt (signed any '-' 1) (alt (signed any '=' 2) (alt (unsigned any 3) (look .stop)))

end Pattern

/-- The number of the group that holds the content of a kind of regions. -/
def RegionKind.group : RegionKind → Nat
  | escape => 1
  | interpolate => 2
  | evaluate => 3

/-- The match at a place for the region that was found first behind it; where none was found
it is the end of the text. -/
def Scan.toMatch (p : Place) : Option (Nat × Scan.Region) → Pattern.Match
  | some (i, r) =>
    ⟨p.forward i, p.forward (r.stop + 2), [(r.kind.group, ⟨p.forward r.start, p.forward r.stop⟩)]⟩
  | none => ⟨p.forward p.rest.length, p.forward p.rest.length, []⟩

lemma Scan.toMatch_shift {p : Place} {c : Char} {cs : List Char} (h : p.rest = c :: cs)
    (found : Option (Nat × Scan.Region)) :
    Scan.toMatch (p.forward 1) found = Scan.toMatch p (found.map Scan.shiftFound) := by
  cases found with
  | none => simp [Scan.toMatch, h, p.forward_forward, Nat.add_comm 1]
  | some found =>
    simp [Scan.toMatch, Scan.shiftFound, Scan.Region.shift, p.forward_forward, Nat.add_comm 1,
      Nat.add_right_comm _ 1 2]

namespace Pattern

variable {any : CharClass} (hany : ∀ c, any c = true)
include hany

/-- The match at a place is the region that starts there, or the end of the text. -/
lemma matchAt?_ofRegions (p : Place) :
    (ofRegions any).matchAt? p =
      if Scan.standsAt Scan.opening p.rest 0 then
        (Scan.regionAt? p.rest 0).map fun r => Scan.toMatch p (some (0, r))
      else if p.rest = [] then some ⟨p, p, []⟩ else none := by
  rw [matchAt?, ofRegions, run_alt, run_alt, run_alt, run_signed hany, run_signed hany,
    run_unsigned hany]
  by_cases h : Scan.standsAt Scan.opening p.rest 0 = true
  · have hne : p.rest ≠ [] := by
      obtain ⟨rest, hp⟩ := Scan.standsAt_opening_zero.1 h
      simp [hp]
    have hstop : run (look .stop) p [] (fun q captures => some (Match.mk p q captures)) = none := by
      simp [run, Look.holds, hne]
    rw [hstop, if_pos h, h, Scan.regionAt?]
    -- a sign without content behind it is content of a region without a sign
    by_cases hescape : p.rest[2]? = some '-'
    · cases Scan.closing? p.rest 4 <;> cases Scan.closing? p.rest 3 <;>
        simp [hescape, Scan.toMatch, RegionKind.group]
    · by_cases hinterpolate : p.rest[2]? = some '='
      · cases Scan.closing? p.rest 4 <;> cases Scan.closing? p.rest 3 <;>
          simp [hinterpolate, Scan.toMatch, RegionKind.group]
      · cases Scan.closing? p.rest 3 <;>
          simp [hescape, hinterpolate, Scan.toMatch, RegionKind.group]
  · simp [h, run, Look.holds, List.isEmpty_iff]

/-- The leftmost match is the first region, or else the end of the text. -/
lemma find?_ofRegions (p : Place) :
    (ofRegions any).find? p = some (Scan.toMatch p (Scan.first? p.rest)) := by
  rw [find?]
  generalize htext : p.rest = text
  induction text generalizing p with
  | nil =>
    rw [findFrom?, matchAt?_ofRegions hany, htext]
    simp [Scan.toMatch, Scan.first?, Scan.position?, Scan.standsAt, Scan.opening, htext]
  | cons c cs ih =>
    have hlater : findFrom? (ofRegions any) (cs.length + 1) (p.forward 1) =
        some (Scan.toMatch p ((Scan.first? cs).map Scan.shiftFound)) := by
      rw [← Scan.toMatch_shift htext]
      exact ih (p.forward 1) (by simp [htext])
    rw [List.length_cons, findFrom?, matchAt?_ofRegions hany, htext, Scan.first?_cons,
      p.next?_of_rest htext]
    cases Scan.standsAt Scan.opening (c :: cs) 0 with
    | false => exact hlater
    | true =>
      cases Scan.regionAt? (c :: cs) 0 with
      | none => exact hlater
      | some r => rfl

end Pattern

/-! ## From matches to pieces -/

namespace Scan

variable {any : CharClass} (hany : ∀ c, any c = true)

/-- The number of the group for each kind of regions. -/
def groups : List (RegionKind × Nat) := [(.escape, 1), (.interpolate, 2), (.evaluate, 3)]

lemma region?_toMatch (pattern : Pattern) (p : Place) (i : Nat) (r : Region) :
    Delimiters.region? ⟨pattern, groups⟩ (toMatch p (some (i, r))) =
      some (.region r.kind (r.content p.rest)) := by
  obtain ⟨kind, start, stop⟩ := r
  have htext : Span.text ⟨p.forward start, p.forward stop⟩ =
      Region.content p.rest ⟨kind, start, stop⟩ := p.textTo_forward start stop
  cases kind <;>
    simp [Delimiters.region?, groups, toMatch, Pattern.Match.group?, RegionKind.group, htext]

lemma region?_toMatch_none (d : Delimiters) (p : Place) : d.region? (toMatch p none) = none := by
  simp [Delimiters.region?, toMatch, Pattern.Match.group?]

include hany

/-- A match that is not empty always counts. -/
lemma nextMatch?_of_first? {p : Place} {i : Nat} {r : Region} (h : first? p.rest = some (i, r))
    (last : Option Nat) :
    (Pattern.ofRegions any).nextMatch? p last = some (toMatch p (some (i, r))) := by
  obtain ⟨-, hr⟩ := of_first?_eq_some h
  obtain ⟨hstart, hclosing, -⟩ := of_regionAt?_eq_some hr
  obtain ⟨hstop, -⟩ := of_closing?_eq_some hclosing
  have hnonempty : r.stop + 2 ≠ i := by omega
  rw [Pattern.nextMatch?, Pattern.find?_ofRegions hany, h]
  simp [toMatch, hnonempty]

/-- The empty match at the end of the text counts unless the last match ended there. -/
lemma nextMatch?_of_first?_eq_none {p : Place} {last : Option Nat}
    (h : first? p.rest = none) (hlast : ∀ n ∈ last, n = p.index) :
    (Pattern.ofRegions any).nextMatch? p last =
      if p.rest = [] ∧ last.isSome then none else some (toMatch p none) := by
  rw [Pattern.nextMatch?, Pattern.find?_ofRegions hany, h]
  cases hp : p.rest with
  | nil =>
    cases last with
    | none => simp [toMatch]
    | some n =>
      obtain rfl := hlast n rfl
      simp [toMatch, hp, p.next?_of_rest_nil hp]
  | cons c cs =>
    have hbehind : last ≠ some (p.index + (cs.length + 1)) := by
      intro hsome
      have := hlast _ hsome
      omega
    simp [toMatch, hp, hbehind]

lemma matchesFrom_end {p : Place} (h : p.rest = []) (room : Nat) :
    (Pattern.ofRegions any).matchesFrom room p (some p.index) = [] := by
  cases room with
  | zero => rfl
  | succ room =>
    have hfirst : first? p.rest = none := by rw [h]; rfl
    rw [Pattern.matchesFrom,
      nextMatch?_of_first?_eq_none hany hfirst (by simp), if_pos ⟨h, rfl⟩]

/-- The pieces between and in the matches behind a place make the same program as those that
the scanner finds there. -/
lemma code_piecesFrom (room : Nat) (p : Place) (last : Option Nat)
    (hroom : p.rest.length < room) (hlast : ∀ n ∈ last, n = p.index) :
    (Delimiters.piecesFrom ⟨Pattern.ofRegions any, groups⟩ p
        ((Pattern.ofRegions any).matchesFrom room p last)).flatMap Piece.code =
      (scan p.rest).flatMap Piece.code := by
  induction room generalizing p last with
  | zero => cases hroom
  | succ room ih =>
    rw [Pattern.matchesFrom]
    cases hfirst : first? p.rest with
    | none =>
      rw [scan_of_first?_eq_none hfirst, nextMatch?_of_first?_eq_none hany hfirst hlast]
      -- the empty match at the end of the text counts unless a region ends there
      by_cases hend : p.rest = [] ∧ last.isSome = true
      · simp only [if_pos hend, Delimiters.piecesFrom]
      · have hend' : (p.forward p.rest.length).rest = [] := by simp
        have hmatches := matchesFrom_end hany hend' room
        have htext : p.textTo (p.forward p.rest.length) = p.rest := by simp [Place.textTo]
        simp only [if_neg hend, Delimiters.piecesFrom, region?_toMatch_none]
        simp only [toMatch, hmatches, Delimiters.piecesFrom, hend', htext]
        rfl
    | some found =>
      obtain ⟨i, r⟩ := found
      have hpos := length_pos_of_first? hfirst
      have htext : p.textTo (p.forward i) = p.rest.take i := by simp [Place.textTo]
      rw [scan_of_first?_eq_some hfirst, nextMatch?_of_first? hany hfirst]
      have hlater := ih (p.forward (r.stop + 2)) (some (p.index + (r.stop + 2)))
        (by rw [Place.rest_forward, List.length_drop]; omega) (by simp)
      simp only [Delimiters.piecesFrom, region?_toMatch]
      simp only [toMatch, htext, Option.toList_some, List.cons_append, List.nil_append,
        List.flatMap_cons, Place.index_forward]
      rw [hlater, Place.rest_forward]

end Scan

namespace Delimiters

/-- Any character at all, as the default settings write it: a blank or no blank. -/
def anyChar : CharClass :=
  CharClass.negateIf false ((CharClass.nothing.union CharClass.space).union
    (CharClass.negateIf true CharClass.space))

lemma anyChar_eq_true (c : Char) : anyChar c = true := by
  simp [anyChar, CharClass.negateIf, CharClass.union, CharClass.nothing]

lemma ofSettings_default : ofSettings {} = .ok ⟨Pattern.ofRegions anyChar, Scan.groups⟩ := by
  cbv

/-- With the default settings the pieces of a text make the program that a scanner would make
of it. -/
lemma program_default (text : List Char) :
    program ⟨Pattern.ofRegions anyChar, Scan.groups⟩ text =
      (Scan.scan text).flatMap Piece.code :=
  Scan.code_piecesFrom anyChar_eq_true (text.length + 2) (Place.start text) none
    (by simp [Place.start]) (by simp)

end Delimiters

end ViewKit
