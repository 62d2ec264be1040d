/-
# Where a report points

A reader finds the line and the column of a character by walking through the text
(`Text.walk`).  A report computes them from the lengths of the lines, and both agree on every
number (`lineColumn_lineLengths`).  But a diagnostic counts bytes, and the report takes that
number for a number of characters.  As the walk never comes to a place twice, a report points
at what is wrong only behind characters of one byte each (`report_place`).
-/
import ViewKit.Proofs.Template.Diagnosis
import Mathlib.Data.Prod.Lex
import Mathlib.Order.Monotone.Basic

namespace ViewKit

/-! ## Lines and columns, character by character -/

namespace Text

/-- Whether a new line begins between a character and what follows it.  Nothing begins at the
end of a text, and a carriage return leaves that to a line feed that follows. -/
def opensLine : Char → List Char → Bool
  | _, [] => false
  | '\r', '\n' :: _ => false
  | c, _ :: _ => isLineEnd c

/-- The line and the column behind a character, from those of the character. -/
def advance (c : Char) (cs : List Char) (p : Nat × Nat) : Nat × Nat :=
  if opensLine c cs then (p.1 + 1, 1) else (p.1, p.2 + 1)

/-- The line and the column behind some characters of a text that begins at a given place.
Behind the end of the text the columns go on. -/
def walk : Nat → Nat × Nat → List Char → Nat × Nat
  | 0, p, _ => p
  | n + 1, p, [] => (p.1, p.2 + (n + 1))
  | n + 1, p, c :: cs => walk n (advance c cs p) cs

/-- The line and the column, both from one on, of what stands behind some characters of a
text. -/
def lineAndColumn (count : Nat) (cs : List Char) : Nat × Nat := walk count (1, 1) cs

@[simp] lemma walk_nil (n : Nat) (p : Nat × Nat) : walk n p [] = (p.1, p.2 + n) := by
  cases n <;> rfl

lemma walk_cons (n : Nat) (p : Nat × Nat) (c : Char) (cs : List Char) :
    walk (n + 1) p (c :: cs) = walk n (advance c cs p) cs := rfl

lemma advance_of_lineEnd {c : Char} {cs : List Char} (h : isLineEnd c = true)
    (hpair : ∀ ds, c = '\r' → cs ≠ '\n' :: ds) (p : Nat × Nat) :
    advance c cs p = if cs = [] then (p.1, p.2 + 1) else (p.1 + 1, 1) := by
  rw [advance, opensLine.eq_def]
  split
  · rfl
  · exact absurd rfl (hpair _ rfl)
  · simp [h]

lemma advance_return (cs : List Char) (p : Nat × Nat) :
    advance '\r' ('\n' :: cs) p = (p.1, p.2 + 1) := rfl

lemma advance_of_not_lineEnd {c : Char} {cs : List Char} (h : isLineEnd c = false)
    (p : Nat × Nat) : advance c cs p = (p.1, p.2 + 1) := by
  rw [advance, opensLine.eq_def]
  split <;> simp_all

lemma lt_advance (c : Char) (cs : List Char) (p : Nat × Nat) :
    toLex p < toLex (advance c cs p) := by
  rw [Prod.Lex.toLex_lt_toLex, advance]
  split
  · exact Or.inl (Nat.lt_succ_self _)
  · exact Or.inr ⟨rfl, Nat.lt_succ_self _⟩

lemma walk_lt_walk_succ (n : Nat) (p : Nat × Nat) (cs : List Char) :
    toLex (walk n p cs) < toLex (walk (n + 1) p cs) := by
  induction cs generalizing n p with
  | nil =>
    rw [walk_nil, walk_nil, Prod.Lex.toLex_lt_toLex]
    exact Or.inr ⟨rfl, Nat.lt_succ_self _⟩
  | cons c cs ih =>
    cases n with
    | zero => exact lt_advance c cs p
    | succ n => exact ih n (advance c cs p)

/-- The walk goes on with every character, so that it never comes to a place twice. -/
lemma walk_injective (p : Nat × Nat) (cs : List Char) :
    Function.Injective fun n => walk n p cs := by
  have hmono : StrictMono fun n => toLex (walk n p cs) :=
    strictMono_nat_of_lt_succ fun n => walk_lt_walk_succ n p cs
  intro m n h
  exact hmono.injective (congrArg toLex h)

lemma length_le_byteLength (cs : List Char) : cs.length ≤ byteLength cs := by
  induction cs with
  | nil => exact Nat.le_refl 0
  | cons c cs ih =>
    have hpos := c.utf8Size_pos
    rw [byteLength_cons, List.length_cons]
    omega

lemma byteLength_eq_length_iff (cs : List Char) :
    byteLength cs = cs.length ↔ ∀ c ∈ cs, c.utf8Size = 1 := by
  induction cs with
  | nil => simp [byteLength]
  | cons c cs ih =>
    have hpos := c.utf8Size_pos
    have hle := length_le_byteLength cs
    rw [byteLength_cons, List.length_cons, List.forall_mem_cons, ← ih]
    omega

end Text

/-! ## What a report names -/

namespace Diagnostic

open Text

lemma lineLengths_eq_nil {length : Nat} {cs : List Char} :
    lineLengths length cs = [] ↔ length = 0 ∧ cs = [] := by
  fun_induction lineLengths length cs with
  | case1 => simp
  | case2 length hne => simpa using hne
  | case3 | case4 => simp
  | case5 length c cs _ _ ih => simp [ih]

lemma lineColumn_cons (place line length : Nat) (cs : List Char) :
    lineColumn place line (length :: lineLengths 0 cs) =
      if cs = [] ∨ place < length then (line, place + 1)
      else lineColumn (place - length) (line + 1) (lineLengths 0 cs) := by
  cases hns : lineLengths 0 cs with
  | nil =>
    obtain ⟨-, rfl⟩ := lineLengths_eq_nil.1 hns
    rw [if_pos (Or.inl rfl)]
    rfl
  | cons n ns =>
    have hcs : cs ≠ [] := by
      rintro rfl
      cases hns
    simp only [lineColumn, hcs, false_or]

lemma lineColumn_cons_of_lt (line : Nat) {place length : Nat} (h : place < length)
    (cs : List Char) : lineColumn place line (length :: lineLengths 0 cs) = (line, place + 1) := by
  rw [lineColumn_cons, if_pos (Or.inr h)]

/-- What has been read of a line is in that line, however the line goes on. -/
lemma lineColumn_of_lt (line : Nat) {place length : Nat} (h : place < length) (cs : List Char) :
    lineColumn place line (lineLengths length cs) = (line, place + 1) := by
  fun_induction lineLengths length cs with
  | case1 | case2 => rfl
  | case3 length cs => exact lineColumn_cons_of_lt line (Nat.lt_add_right 2 h) cs
  | case4 length c cs => exact lineColumn_cons_of_lt line (Nat.lt_add_right 1 h) cs
  | case5 length c cs _ _ ih => exact ih (Nat.lt_add_right 1 h)

/-- Behind a line a report counts in the next one, if there is one. -/
lemma lineColumn_add (length place line : Nat) {cs : List Char}
    (h : lineColumn (0 + place) (line + 1) (lineLengths 0 cs) = walk place (line + 1, 1) cs) :
    lineColumn (length + place) line (length :: lineLengths 0 cs) =
      walk place (if cs = [] then (line, length + 1) else (line + 1, 1)) cs := by
  rw [lineColumn_cons]
  by_cases hcs : cs = []
  · subst hcs
    rw [if_pos (Or.inl rfl), if_pos rfl, walk_nil, Nat.add_right_comm]
  · rw [if_neg (by simp [hcs]), if_neg hcs, ← h, Nat.add_sub_cancel_left, Nat.zero_add]

/-- The lengths of the lines give every character the line and the column that a walk through
the text comes to. -/
lemma lineColumn_lineLengths (length place line : Nat) (cs : List Char) :
    lineColumn (length + place) line (lineLengths length cs) =
      walk place (line, length + 1) cs := by
  fun_induction lineLengths length cs generalizing place line with
  | case1 => rw [walk_nil, lineColumn, Nat.add_right_comm]
  | case2 length => rw [walk_nil, lineColumn, Nat.add_right_comm]
  | case3 length cs ih =>
    -- The walk takes two steps through the end of the line, and only the second opens a line.
    match place with
    | 0 => exact lineColumn_cons_of_lt line (by omega) cs
    | 1 => exact lineColumn_cons_of_lt line (by omega) cs
    | place + 2 =>
      rw [walk_cons, walk_cons, advance_return,
        advance_of_lineEnd rfl (fun _ h => absurd h (by decide)), Nat.add_comm place,
        ← Nat.add_assoc]
      exact lineColumn_add (length + 2) place line (ih place (line + 1))
  | case4 length c cs hpair hc ih =>
    cases place with
    | zero => exact lineColumn_cons_of_lt line (Nat.lt_succ_self length) cs
    | succ place =>
      rw [walk_cons, advance_of_lineEnd hc hpair, Nat.add_comm place, ← Nat.add_assoc]
      exact lineColumn_add (length + 1) place line (ih place (line + 1))
  | case5 length c cs hpair hc ih =>
    cases place with
    | zero => exact lineColumn_of_lt line (Nat.lt_succ_self length) cs
    | succ place =>
      rw [walk_cons, advance_of_not_lineEnd (eq_false_of_ne_true hc), Nat.add_comm place,
        ← Nat.add_assoc]
      exact ih place line

/-- A report takes the number of bytes before a diagnostic for a number of characters, and
names no place if these characters, or those that the diagnostic covers, go beyond the end. -/
lemma position?_eq (d : Diagnostic) (source : List Char) :
    d.position? source =
      if d.start ≤ source.length ∧ d.stop ≤ source.length + 1 then
        some (lineAndColumn d.start source)
      else none := by
  have hplace := lineColumn_lineLengths 0 d.start 1 source
  rw [Nat.zero_add] at hplace
  rw [position?, hplace]
  congr 1
  rw [eq_iff_iff]
  split <;> omega

lemma bytesBefore_eq_iff {source : List Char} {count : Nat} (h : count ≤ source.length) :
    bytesBefore source count = count ↔ ∀ c ∈ source.take count, c.utf8Size = 1 := by
  rw [bytesBefore, ← byteLength_eq_length_iff, List.length_take, Nat.min_eq_left h]

/-- The place that a report names for a diagnostic is that of the character with which the
diagnostic begins only if all characters before it are of one byte. -/
lemma position?_eq_some_iff {source : List Char} {count : Nat} (h : count ≤ source.length)
    {d : Diagnostic} (hstart : d.start = bytesBefore source count) :
    d.position? source = some (lineAndColumn count source) ↔
      (∀ c ∈ source.take count, c.utf8Size = 1) ∧ d.stop ≤ source.length + 1 := by
  rw [← bytesBefore_eq_iff h, ← hstart, position?_eq]
  constructor
  · intro hsome
    rw [Option.ite_none_right_eq_some] at hsome
    obtain ⟨⟨-, hstop⟩, hplace⟩ := hsome
    exact ⟨walk_injective (1, 1) source (Option.some.inj hplace), hstop⟩
  · rintro ⟨hcount, hstop⟩
    rw [hcount, if_pos ⟨h, hstop⟩]

end Diagnostic

namespace Template

lemma exists_diagnosed_of_compile {text : String} {settings : Settings}
    {helpers : List (String × Helper)} {source : String} {ds : List Diagnostic}
    (h : compile text settings helpers = .error (.program source ds)) :
    Program.Diagnosed source.toList ds := by
  cases hdelimiters : Delimiters.ofSettings settings with
  | error fault =>
    rw [compile, hdelimiters] at h
    cases h
  | ok delimiters =>
    cases hparse : Program.parse (delimiters.program text.toList) with
    | ok program =>
      rw [compile_of_parse hdelimiters hparse] at h
      cases h
    | error ds' =>
      rw [compile_of_parse_error hdelimiters hparse] at h
      cases h
      rw [String.toList_ofList]
      exact Program.diagnosed_of_parse hparse

/-- Every diagnostic of a text that does not compile begins at a character of the program, or
at its end.  A place that the report names for it takes the number of bytes before it for a
number of characters.  So the report names the right place exactly if all characters before it
are of one byte, and if the diagnostic with its bytes taken for characters does not go beyond
the end. -/
theorem report_place (text : String) (settings : Settings) (helpers : List (String × Helper))
    (source : String) (ds : List Diagnostic)
    (h : compile text settings helpers = .error (.program source ds)) (d : Diagnostic)
    (hd : d ∈ ds) :
    (∀ place, d.position? source.toList = some place →
        place = Text.lineAndColumn d.start source.toList) ∧
      ∃ count ≤ source.toList.length, d.start = Diagnostic.bytesBefore source.toList count ∧
        (d.position? source.toList = some (Text.lineAndColumn count source.toList) ↔
          (∀ c ∈ source.toList.take count, c.utf8Size = 1) ∧
            d.stop ≤ source.toList.length + 1) := by
  constructor
  · intro place hplace
    rw [Diagnostic.position?_eq, Option.ite_none_right_eq_some] at hplace
    exact (Option.some.inj hplace.2).symm
  · obtain ⟨first, last, hcovers⟩ := (exists_diagnosed_of_compile h).exists_covers hd
    have hfirst := hcovers.ordered.trans hcovers.inside
    exact ⟨first, hfirst, hcovers.start, Diagnostic.position?_eq_some_iff hfirst hcovers.start⟩

lemma compile_parenthesis_before_letter :
    compile "<% ) %>é" {} [] =
      .error (.program " ) \nprint('é');\n" [⟨1, 2, .token (.symbol .roundClose)⟩]) :=
  eq_of_failsWith (by decide +kernel)

lemma compile_parenthesis_behind_letter :
    compile "é<% ) %>" {} [] =
      .error (.program "print('é');\n ) \n" [⟨14, 15, .token (.symbol .roundClose)⟩]) :=
  eq_of_failsWith (by decide +kernel)

/-- A letter of two bytes does no harm behind what is wrong: the report names the place of the
bracket. -/
theorem report_place_before_letter :
    ∃ source d, compile "<% ) %>é" {} [] = .error (.program source [d]) ∧
      d.start = Diagnostic.bytesBefore source.toList 1 ∧
      d.position? source.toList = some (Text.lineAndColumn 1 source.toList) := by
  obtain ⟨count, hcount, hstart, hplace⟩ :=
    (report_place _ _ _ _ _ compile_parenthesis_before_letter _ (List.mem_singleton.2 rfl)).2
  have hone : ∀ count ≤ " ) \nprint('é');\n".toList.length,
      1 = Diagnostic.bytesBefore " ) \nprint('é');\n".toList count → count = 1 := by
    decide +kernel
  obtain rfl := hone count hcount hstart
  have hbytes := (Diagnostic.bytesBefore_eq_iff hcount).1 hstart.symm
  exact ⟨_, _, compile_parenthesis_before_letter, hstart,
    hplace.2 ⟨hbytes, by decide +kernel⟩⟩

/-- Before what is wrong it moves the column that is reported: the bracket is the second
character of its line, and the report names the third. -/
theorem report_misplaced_behind_letter :
    ∃ source d, compile "é<% ) %>" {} [] = .error (.program source [d]) ∧
      d.start = Diagnostic.bytesBefore source.toList 13 ∧
      Text.lineAndColumn 13 source.toList = (2, 2) ∧
      d.position? source.toList = some (2, 3) :=
  ⟨_, _, compile_parenthesis_behind_letter, by decide +kernel⟩

end Template
end ViewKit
