/-
# Patterns tried one by one

The patterns of settings are put together to one pattern of alternatives, with the groups of
all of them numbered through.  Finding regions with it is the same as trying the patterns one
by one at each place (`program_eq_separate`), if no pattern is read with white space passed
over, and if every pattern with another one behind it has as many groups as it opens.

A pattern has fewer groups than it opens when its last ones stand in a piece that may not
occur at all.  Then the groups of the patterns behind it are looked for under numbers of other
groups (`program_ne_separate`).

The combined pattern matches at a place what the first pattern that matches there does, under
other numbers of groups (`Same`).  What is found from a place on is found place by place
(`nextMatch?_eq_find?`), so both ways to find regions go on alike.
-/
import Mathlib.Data.List.Basic
import Mathlib.Data.List.Infix
import ViewKit.Proofs.Pattern.Parts
import ViewKit.Template.Region

namespace ViewKit

open Pattern (Match)

/-! ## The patterns one by one -/

namespace Separate

/-- The match at a place of the first pattern that matches there, with the kind of regions that
the pattern marks. -/
def matchAt? (patterns : List (RegionKind × Pattern)) (p : Place) : Option (RegionKind × Match) :=
  patterns.findSome? fun (kind, pattern) => (pattern.matchAt? p).map (kind, ·)

/-- The region of a match; there is none if the first group of the pattern took no part. -/
def region? (kind : RegionKind) (m : Match) : Option Piece :=
  (m.group? 1).map (Piece.region kind)

/-- What is found from the next place on; if there is none, the text from `start` on is
literal. -/
def onward (later : Place → List Piece) (start p : Place) : List Piece :=
  match p.next? with
  | some (_, q) => later q
  | none => [.literal start.rest]

/-- The pieces from a place on; at most `room` places are tried.  The text between `start` and
the next match is literal.  An empty match does not count right `behind` another match, and
behind an empty match the search goes on one character later. -/
def piecesFrom (patterns : List (RegionKind × Pattern)) : Nat → Place → Place → Bool → List Piece
  | 0, start, _, _ => [.literal start.rest]
  | room + 1, start, p, behind =>
    match matchAt? patterns p with
    | none => onward (piecesFrom patterns room start · false) start p
    | some (kind, m) =>
      if m.stop.index = p.index then
        if behind then onward (piecesFrom patterns room start · false) start p
        else .literal (start.textTo p) :: (region? kind m).toList ++
          onward (piecesFrom patterns room p · false) p p
      else
        .literal (start.textTo p) :: (region? kind m).toList ++
          piecesFrom patterns room m.stop m.stop true

/-- The program that a text becomes when the patterns are tried one by one. -/
def program (patterns : List (RegionKind × Pattern)) (text : List Char) : List Char :=
  (piecesFrom patterns (text.length + 1) (Place.start text) (Place.start text) false).flatMap
    Piece.code

end Separate

namespace Settings

/-- The enabled kinds of regions in order, with the texts of their patterns. -/
def written (s : Settings) : List (RegionKind × String) :=
  RegionKind.all.filterMap fun kind => (s.pattern? kind).map (kind, ·)

/-- The enabled kinds of regions in order, each with its own pattern. -/
def patterns (s : Settings) : List (RegionKind × Pattern) :=
  s.written.filterMap fun (kind, text) => (Pattern.read? text.toList).map (kind, ·)

end Settings

/-! ## Matches from place to place -/

namespace Pattern

variable {pattern : Pattern} {p q : Place} {c : Char}

lemma find?_eq (pattern : Pattern) (p : Place) :
    pattern.find? p = (pattern.matchAt? p).or (p.next?.bind fun x => pattern.find? x.2) := by
  rw [find?, findFrom?]
  cases pattern.matchAt? p with
  | some m => rfl
  | none =>
    cases hrest : p.rest with
    | nil => rw [p.next?_of_rest_nil hrest]; rfl
    | cons c cs =>
      rw [p.next?_of_rest hrest, Option.none_or, Option.bind_some, find?, Place.rest_forward, hrest]
      rfl

lemma index_le_of_findFrom? {room : Nat} {m : Match} (h : pattern.findFrom? room p = some m) :
    p.index ≤ m.stop.index := by
  induction room generalizing p with
  | zero => cases h
  | succ room ih =>
    rw [findFrom?] at h
    split at h
    · next hm =>
      cases h
      exact (of_matchAt? hm).2.1.index_le
    · split at h
      · next hnext => exact Nat.le_trans (Place.ahead_of_next? hnext).index_le (ih h)
      · cases h

variable {last : Option Nat}

/-- A match that ends elsewhere than the last one counts. -/
lemma nextMatch?_eq_find? (h : ∀ m ∈ pattern.find? p, last ≠ some m.stop.index) :
    pattern.nextMatch? p last = pattern.find? p := by
  rw [nextMatch?]
  split
  · next hnone => exact hnone.symm
  · next m hm =>
    rw [if_neg, hm]
    rintro ⟨-, hlast⟩
    exact h m hm hlast

lemma ne_of_find? (h : ∀ l ∈ last, l < p.index) :
    ∀ m ∈ pattern.find? p, last ≠ some m.stop.index := by
  intro m hm hlast
  exact absurd (index_le_of_findFrom? hm) (Nat.not_le.2 (h _ hlast))

lemma lt_of_next? (hlast : ∀ l ∈ last, l ≤ p.index) (hnext : p.next? = some (c, q)) :
    ∀ l ∈ last, l < q.index := by
  rw [Place.index_of_next? hnext]
  exact fun l hl => Nat.lt_succ_of_le (hlast l hl)

/-- A match at the place counts, unless it is an empty one at the end of the last match. -/
lemma nextMatch?_of_counts {m : Match} (hm : pattern.matchAt? p = some m)
    (hcounts : ¬(m.stop.index = p.index ∧ last = some p.index)) :
    pattern.nextMatch? p last = some m := by
  have hstart : m.start.index = p.index := by rw [(of_matchAt? hm).1]
  rw [nextMatch?, find?_eq, hm, Option.some_or]
  refine if_neg ?_
  rintro ⟨hempty, hlast⟩
  rw [hstart] at hempty
  exact hcounts ⟨hempty, hempty ▸ hlast⟩

/-- Where no match counts, the search goes on one character later. -/
lemma nextMatch?_onward (hlast : ∀ l ∈ last, l ≤ p.index)
    (h : ∀ m ∈ pattern.matchAt? p, m.stop.index = p.index ∧ last = some p.index) :
    pattern.nextMatch? p last = p.next?.bind fun x => pattern.nextMatch? x.2 last := by
  have hlater : p.next?.bind (fun x => pattern.nextMatch? x.2 last) =
      p.next?.bind fun x => pattern.find? x.2 := by
    cases hnext : p.next? with
    | none => rfl
    | some x => exact nextMatch?_eq_find? (ne_of_find? (lt_of_next? hlast hnext))
  rw [hlater]
  cases hm : pattern.matchAt? p with
  | none =>
    have hfind : pattern.find? p = p.next?.bind fun x => pattern.find? x.2 := by
      rw [find?_eq, hm, Option.none_or]
    rw [← hfind]
    refine nextMatch?_eq_find? fun m hm => ?_
    rw [hfind] at hm
    obtain ⟨x, hnext, hm⟩ := Option.bind_eq_some_iff.1 hm
    exact ne_of_find? (lt_of_next? hlast hnext) m hm
  | some m =>
    obtain ⟨hempty, rfl⟩ := h m hm
    have hstart : m.start.index = p.index := by rw [(of_matchAt? hm).1]
    rw [nextMatch?, find?_eq, hm, Option.some_or]
    refine (if_pos ⟨hempty.trans hstart.symm, congrArg some hempty.symm⟩).trans ?_
    cases p.next? <;> rfl

lemma matchesFrom_onward (room : Nat) (hlast : ∀ l ∈ last, l ≤ p.index)
    (h : ∀ m ∈ pattern.matchAt? p, m.stop.index = p.index ∧ last = some p.index) :
    pattern.matchesFrom room p last =
      p.next?.elim [] fun x => pattern.matchesFrom room x.2 last := by
  cases room with
  | zero => cases p.next? <;> rfl
  | succ room =>
    rw [matchesFrom, nextMatch?_onward hlast h]
    cases p.next? <;> rfl

end Pattern

/-! ## The combined pattern at one place -/

/-- An enabled kind of regions with the text of its pattern and the pattern. -/
structure Enabled where
  kind : RegionKind
  text : String
  pattern : Pattern

namespace Delimiters

/-- The alternatives for enabled kinds, numbered as their groups are counted. -/
def alternatives (n : Nat) (es : List Enabled) : List Pattern :=
  Pattern.numbered n (es.map fun e => (e.pattern, e.pattern.groupCount))

/-- The region of a match by the numbers of the groups of kinds. -/
def regionIn? (groups : List (RegionKind × Nat)) (m : Match) : Option Piece :=
  groups.findSome? fun (kind, group) => (m.group? group).map (Piece.region kind)

/-- What the alternatives match at a place is what the patterns match there one by one, under
other numbers for the groups, or else the end of the text. -/
inductive Same (groups : List (RegionKind × Nat)) (least : Nat) (p : Place) :
    Option Match → Option (RegionKind × Match) → Prop where
  | found {kind : RegionKind} {m : Match} {n : Nat} : least ≤ n →
      regionIn? groups (m.shift n) = Separate.region? kind m →
      Same groups least p (some (m.shift n)) (some (kind, m))
  | stop : p.rest = [] → Same groups least p (some ⟨p, p, []⟩) none
  | nothing : p.rest ≠ [] → Same groups least p none none

/-- No group of a kind took part in a match when its groups have other numbers. -/
lemma regionIn?_eq_none {groups : List (RegionKind × Nat)} {m : Match}
    (h : ∀ x ∈ groups, m.group? x.2 = none) : regionIn? groups m = none := by
  rw [regionIn?, List.findSome?_eq_none_iff]
  rintro ⟨kind, group⟩ hx
  exact Option.map_eq_none_iff.2 (h _ hx)

/-- With the groups of one more kind in front, no match of the others is one of this kind. -/
lemma Same.behind {groups : List (RegionKind × Nat)} {n count : Nat} {p : Place}
    {kind : RegionKind} {m? : Option Match} {own? : Option (RegionKind × Match)}
    (h : Same groups (n + count) p m? own?) (hcount : count ≠ 0) :
    Same ((kind, n + 1) :: groups) n p m? own? := by
  cases h with
  | @found kind' m n' hle hregion =>
    refine .found (Nat.le_trans (Nat.le_add_right _ _) hle) ?_
    have hnone : (m.shift n').group? (n + 1) = none := by
      rw [Match.group?, Match.shift, Pattern.lookup_shift_of_le (Nat.succ_ne_zero n) (by omega)]
      rfl
    rw [regionIn?, List.findSome?_cons, ← regionIn?]
    dsimp only
    rw [hnone]
    exact hregion
  | stop hrest => exact .stop hrest
  | nothing hrest => exact .nothing hrest

section

variable {d : Delimiters} {patterns : List (RegionKind × Pattern)}

lemma region?_eq (m : Match) : d.region? m = regionIn? d.groups m := rfl

lemma region?_eq_none (p : Place) : d.region? ⟨p, p, []⟩ = none :=
  regionIn?_eq_none (m := ⟨p, p, []⟩) fun _ _ => rfl

lemma textTo_of_end {start p : Place} (h : start.Ahead p) (hrest : p.rest = []) :
    start.textTo p = start.rest := by
  obtain ⟨n, hn, rfl⟩ := h
  rw [Place.rest_forward] at hrest
  have hlength := congrArg List.length hrest
  rw [List.length_drop, List.length_nil] at hlength
  rw [Place.textTo, Place.index_forward, Nat.add_sub_cancel_left]
  exact List.take_of_length_le (by omega)

/-- No match counts at the end of the text if the last one ended there. -/
lemma matchesFrom_end {p : Place} (hrest : p.rest = []) (room : Nat) :
    d.pattern.matchesFrom room p (some p.index) = [] := by
  rw [Pattern.matchesFrom_onward room (by simp), p.next?_of_rest_nil hrest]
  · rfl
  · intro m hm
    have hahead := (Pattern.of_matchAt? hm).2.1
    have hindex := hahead.index_add
    rw [hrest, List.length_nil] at hindex
    exact ⟨Nat.le_antisymm (by omega) hahead.index_le, rfl⟩

/-- Where no match counts, what is found is found from the next place on. -/
lemma code_onward {room : Nat} {start p : Place} {last : Option Nat} {later : Place → List Piece}
    (hlast : ∀ l ∈ last, l ≤ p.index)
    (h : ∀ m ∈ d.pattern.matchAt? p, m.stop.index = p.index ∧ last = some p.index)
    (hlater : ∀ x q, p.next? = some (x, q) →
      (d.piecesFrom start (d.pattern.matchesFrom room q last)).flatMap Piece.code =
        (later q).flatMap Piece.code) :
    (d.piecesFrom start (d.pattern.matchesFrom room p last)).flatMap Piece.code =
      (Separate.onward later start p).flatMap Piece.code := by
  rw [Pattern.matchesFrom_onward room hlast h, Separate.onward]
  cases hnext : p.next? with
  | none => rfl
  | some x => exact hlater x.1 x.2 hnext

/-- Where a match counts, there are the text in front of it, its region and what is found behind
it. -/
lemma code_counted {room : Nat} {start p : Place} {last : Option Nat} {m : Match}
    {pieces : List Piece} (hm : d.pattern.matchAt? p = some m)
    (hcounts : ¬(m.stop.index = p.index ∧ last = some p.index))
    (hlater : (d.piecesFrom m.stop (d.pattern.matchesFrom room m.stop
      (some m.stop.index))).flatMap Piece.code = pieces.flatMap Piece.code) :
    (d.piecesFrom start (d.pattern.matchesFrom (room + 1) p last)).flatMap Piece.code =
      (.literal (start.textTo p) :: (d.region? m).toList ++ pieces).flatMap Piece.code := by
  rw [Pattern.matchesFrom, Pattern.nextMatch?_of_counts hm hcounts]
  dsimp only
  rw [piecesFrom, (Pattern.of_matchAt? hm).1, List.flatMap_append, hlater, ← List.flatMap_append]

/-- At the end of the text an empty match adds no more than an empty literal text. -/
lemma code_end {room : Nat} {start p : Place} {last : Option Nat} (hstart : start.Ahead p)
    (hrest : p.rest = []) (hm : d.pattern.matchAt? p = some ⟨p, p, []⟩) :
    (d.piecesFrom start (d.pattern.matchesFrom (room + 1) p last)).flatMap Piece.code =
      Piece.code (.literal start.rest) := by
  by_cases hbehind : last = some p.index
  · rw [hbehind, matchesFrom_end hrest, piecesFrom, List.flatMap_singleton]
  · have hlater : (d.piecesFrom p (d.pattern.matchesFrom room p (some p.index))).flatMap
        Piece.code = ([] : List Piece).flatMap Piece.code := by
      rw [matchesFrom_end hrest, piecesFrom, List.flatMap_singleton, hrest]
      rfl
    rw [code_counted hm (fun h => hbehind h.2) hlater, region?_eq_none, textTo_of_end hstart hrest,
      Option.toList_none, List.append_nil, List.flatMap_singleton]

/-- From a place on, the combined pattern finds what the patterns find one by one. -/
lemma code_piecesFrom
    (hsame : ∀ p, Same d.groups 0 p (d.pattern.matchAt? p) (Separate.matchAt? patterns p))
    (room : Nat) {room' : Nat} {start p : Place} {last : Option Nat} (hstart : start.Ahead p)
    (hroom : p.rest.length < room) (hroom' : p.rest.length < room')
    (hlast : ∀ l ∈ last, l ≤ p.index) :
    (d.piecesFrom start (d.pattern.matchesFrom room' p last)).flatMap Piece.code =
      (Separate.piecesFrom patterns room start p (last == some p.index)).flatMap Piece.code := by
  induction room generalizing room' start p last with
  | zero => exact absurd hroom (Nat.not_lt_zero _)
  | succ room ih =>
    obtain ⟨room', rfl⟩ : ∃ n, room' = n + 1 := ⟨room' - 1, by omega⟩
    -- behind the next character there is no match that ended there
    have hnext {room' : Nat} {start : Place} (hstart : start.Ahead p) {last : Option Nat}
        (hroom' : p.rest.length ≤ room') (hlast : ∀ l ∈ last, l ≤ p.index) (x : Char) (q : Place)
        (hnext : p.next? = some (x, q)) :
        (d.piecesFrom start (d.pattern.matchesFrom room' q last)).flatMap Piece.code =
          (Separate.piecesFrom patterns room start q false).flatMap Piece.code := by
      have hlt := Pattern.lt_of_next? hlast hnext
      have hahead := Place.ahead_of_next? hnext
      have hlength := hahead.index_add
      have hindex := Place.index_of_next? hnext
      have hfalse : (last == some q.index) = false := by
        rw [beq_eq_false_iff_ne]
        intro heq
        exact absurd (hlt _ heq) (Nat.lt_irrefl _)
      have hroom' : q.rest.length < room' := by omega
      have hlater := ih (hstart.trans hahead) (by omega) hroom' fun l hl => Nat.le_of_lt (hlt l hl)
      rwa [hfalse] at hlater
    have hp := hsame p
    rw [Separate.piecesFrom]
    generalize hm : d.pattern.matchAt? p = m? at hp
    generalize Separate.matchAt? patterns p = own? at hp
    cases hp with
    | nothing hrest =>
      have hnone : ∀ m ∈ d.pattern.matchAt? p, m.stop.index = p.index ∧ last = some p.index := by
        rw [hm]
        nofun
      exact code_onward hlast hnone (hnext hstart (Nat.le_of_lt hroom') hlast)
    | stop hrest =>
      dsimp only
      rw [code_end hstart hrest hm, Separate.onward, p.next?_of_rest_nil hrest,
        List.flatMap_singleton]
    | @found kind m n _ hregion =>
      have hahead : p.Ahead m.stop := (Pattern.of_matchAt? hm).2.1
      have hregion' : (Separate.region? kind m).toList = (d.region? (m.shift n)).toList := by
        rw [region?_eq, hregion]
      dsimp only
      rw [hregion']
      by_cases hempty : m.stop.index = p.index
      · rw [if_pos hempty]
        have honly (last : Option Nat) (hlast : last = some p.index) :
            ∀ m' ∈ d.pattern.matchAt? p, m'.stop.index = p.index ∧ last = some p.index := by
          rw [hm]
          rintro _ ⟨⟩
          exact ⟨hempty, hlast⟩
        by_cases hbehind : last = some p.index
        · subst hbehind
          rw [beq_self_eq_true, if_pos rfl]
          exact code_onward hlast (honly _ rfl) (hnext hstart (Nat.le_of_lt hroom') hlast)
        · have hfalse : (last == some p.index) = false := beq_eq_false_iff_ne.2 hbehind
          have hstop : (m.shift n).stop = p := hahead.eq_of_index hempty
          have hlater := code_onward (by simp) (honly _ rfl)
            (hnext (.refl p) (Nat.le_of_lt_succ hroom') (by simp))
          rw [hfalse, if_neg Bool.false_ne_true]
          refine code_counted hm (fun h => hbehind h.2) ?_
          rw [hstop]
          exact hlater
      · rw [if_neg hempty]
        have hlength := hahead.index_add
        have hle := hahead.index_le
        have hroom' : m.stop.rest.length < room' := by omega
        have hlast : ∀ l ∈ some m.stop.index, l ≤ m.stop.index := by simp
        have hlater := ih (.refl m.stop) (by omega) hroom' hlast
        rw [beq_self_eq_true] at hlater
        exact code_counted hm (fun h => hempty h.1) hlater

end

end Delimiters

end ViewKit
