/-
# Forms

A form is a text in which named values are filled in: literal text in which no region starts,
and slots, which are regions that hold nothing but a name with blanks around it.  As template
text a form is its pieces one behind the other, and with the default settings the scanner
finds these pieces again (`Form.scan_text`): no literal text runs into the mark of the slot
behind it, and no slot ends early.
-/
import ViewKit.Proofs.Lexer.Text
import ViewKit.Proofs.Template.Scan

namespace ViewKit

/-- Text in which no region starts. -/
structure PlainText where
  chars : List Char
  not_opening : ¬ Scan.opening <:+: chars

/-- A place at which a named value is shown. -/
structure Slot where
  /-- Whether the value is escaped for markup. -/
  escaped : Bool
  /-- The blanks in front of the name. -/
  before : List Char
  name : String
  /-- The blanks behind the name. -/
  after : List Char
  isName : Lexer.IsName name
  isBlank_before : ∀ c ∈ before, Text.isBlank c = true
  isBlank_after : ∀ c ∈ after, Text.isBlank c = true

namespace Slot

/-- The kind of region that a slot is. -/
def kind (s : Slot) : RegionKind := if s.escaped then .escape else .interpolate

/-- What stands between the marks of a slot. -/
def content (s : Slot) : List Char := s.before ++ (s.name.toList ++ s.after)

end Slot

/-- Literal text with slots in it. -/
inductive Form where
  | plain (text : PlainText)
  | slot (text : PlainText) (slot : Slot) (rest : Form)

namespace Form

/-- The pieces of a form. -/
def pieces : Form → List Piece
  | plain text => [.literal text.chars]
  | slot text s rest => .literal text.chars :: .region s.kind s.content :: rest.pieces

/-- A form as template text. -/
def text (f : Form) : List Char := f.pieces.flatMap Piece.source

/-- Literal text may end like an opening mark and start like a closing one. -/
example : text (.slot ⟨['<'], by decide⟩
      ⟨true, [' '], "n", [], ⟨'n', [], rfl, rfl, nofun, fun k => by cases k <;> decide⟩,
        List.all_eq_true.1 rfl, nofun⟩
      (.plain ⟨['%', '>'], by decide⟩)) = "<<%- n%>%>".toList := rfl

end Form

/-! ## Scanning a form -/

namespace Slot

/-- The sign that tells the kind of a slot. -/
def sign (s : Slot) : Char := if s.escaped then '-' else '='

lemma kind_sign (s : Slot) : s.kind.sign = [s.sign] := by
  unfold kind sign
  split <;> rfl

lemma not_mem_content (s : Slot) : '%' ∉ s.content := by
  obtain ⟨c, cs, hname, hc, hcs, -⟩ := s.isName
  intro h
  rw [content, hname, String.toList_ofList] at h
  simp only [List.mem_append, List.mem_cons] at h
  rcases h with h | (rfl | h) | h
  · exact absurd (s.isBlank_before _ h) (by decide)
  · exact absurd hc (by decide)
  · exact absurd (hcs _ h) (by decide)
  · exact absurd (s.isBlank_after _ h) (by decide)

lemma content_ne_nil (s : Slot) : s.content ≠ [] := by
  obtain ⟨c, cs, hname, -⟩ := s.isName
  simp [content, hname]

end Slot

namespace Scan

lemma closing?_of_not_mem {content : List Char} (h : '%' ∉ content) (rest : List Char) :
    closing? (content ++ (closing ++ rest)) 0 = some content.length :=
  closing?_of_not_infix (fun hclosing => h (hclosing.subset List.mem_cons_self)) rest

/-- The slot at the start of a text is a region, and its first closing mark is its own. -/
lemma regionAt?_slot (s : Slot) (rest : List Char) :
    regionAt? ((Piece.region s.kind s.content).source ++ rest) 0 =
      some ⟨s.kind, 3, 3 + s.content.length⟩ := by
  have htext : (Piece.region s.kind s.content).source ++ rest =
      '<' :: '%' :: s.sign :: (s.content ++ (closing ++ rest)) := by
    simp [Piece.source, s.kind_sign, opening]
  have hclosing : closing? (s.content ++ (closing ++ rest)) 1 = some s.content.length := by
    have hmem := s.not_mem_content
    cases hcontent : s.content with
    | nil => exact absurd hcontent s.content_ne_nil
    | cons c cs =>
      rw [hcontent, List.mem_cons, not_or] at hmem
      rw [List.cons_append, closing?_cons, closing?_of_not_mem hmem.2]
      rfl
  have hsigned : closing? ((Piece.region s.kind s.content).source ++ rest) 4 =
      some (3 + s.content.length) := by
    rw [htext, closing?_cons, closing?_cons, closing?_cons, hclosing]
    simp only [Option.map_some, Option.some.injEq]
    omega
  have hget : ((Piece.region s.kind s.content).source ++ rest)[2]? = some s.sign := by
    rw [htext]
    rfl
  rw [regionAt?, hget, hsigned]
  cases hescaped : s.escaped <;> simp [Slot.sign, Slot.kind, hescaped]

/-- Where no region starts in a text, none is found. -/
lemma first?_plain (text : PlainText) : first? text.chars = none := by
  have hposition : position? (opensAt text.chars) text.chars = none := by
    refine List.find?_eq_none.2 fun i _ hopens => ?_
    have hstands := (Bool.and_eq_true_iff.1 hopens).1
    have hcontained : opening <:+: text.chars.drop i :=
      (List.isPrefixOf_iff_prefix.1 hstands).isInfix
    exact text.not_opening (hcontained.trans (List.drop_suffix i text.chars).isInfix)
  rw [first?, hposition]
  rfl

/-- The first region behind some plain text is the slot there. -/
lemma first?_slot {cs : List Char} (hplain : ¬ opening <:+: cs) (s : Slot) (rest : List Char) :
    first? (cs ++ ((Piece.region s.kind s.content).source ++ rest)) =
      some (cs.length, ⟨s.kind, cs.length + 3, cs.length + (3 + s.content.length)⟩) := by
  induction cs with
  | nil =>
    obtain ⟨tail, htail⟩ : ∃ tail, (Piece.region s.kind s.content).source ++ rest = '<' :: tail :=
      ⟨_, rfl⟩
    have hstands : standsAt opening ('<' :: tail) 0 = true := by
      rw [← htail]
      rfl
    have hregion := regionAt?_slot s rest
    rw [htail] at hregion
    rw [List.nil_append, htail, first?_cons, if_pos hstands, hregion]
    simp
  | cons c cs ih =>
    have hcs : ¬ opening <:+: cs := fun h => hplain (h.trans (List.suffix_cons c cs).isInfix)
    have hstands : standsAt opening
        (c :: (cs ++ ((Piece.region s.kind s.content).source ++ rest))) 0 = false := by
      refine Bool.eq_false_iff.2 fun h => ?_
      obtain ⟨tail, htail⟩ := standsAt_opening_zero.1 h
      obtain ⟨rfl, hbehind⟩ := List.cons.inj htail
      -- the mark would be part of the literal text, or end with the `<` of the slot
      cases cs with
      | nil => exact absurd (List.cons.inj hbehind).1 (by decide)
      | cons d ds =>
        obtain rfl : d = '%' := (List.cons.inj hbehind).1
        exact hplain ⟨[], ds, rfl⟩
    rw [List.cons_append, first?_cons, if_neg (by rw [hstands]; exact Bool.false_ne_true), ih hcs]
    simp only [Option.map_some, shiftFound, Region.shift, List.length_cons, Option.some.injEq,
      Prod.mk.injEq, Region.mk.injEq, true_and]
    omega

end Scan

/-- The scanner finds the pieces of a form in its text. -/
lemma Form.scan_text (f : Form) : Scan.scan f.text = f.pieces := by
  induction f with
  | plain text =>
    have htext : (plain text).text = text.chars := List.append_nil _
    rw [htext, Scan.scan_of_first?_eq_none (Scan.first?_plain text)]
    rfl
  | slot text s rest ih =>
    have htext : (slot text s rest).text =
        text.chars ++ ((Piece.region s.kind s.content).source ++ rest.text) := rfl
    have hsource : (Piece.region s.kind s.content).source ++ rest.text =
        ['<', '%', s.sign] ++ (s.content ++ (Scan.closing ++ rest.text)) := by
      simp [Piece.source, s.kind_sign, Scan.opening]
    have hcontent : ((slot text s rest).text.drop (text.chars.length + 3)).take
        (text.chars.length + (3 + s.content.length) - (text.chars.length + 3)) = s.content := by
      have hlength : text.chars.length + (3 + s.content.length) - (text.chars.length + 3) =
          s.content.length := by omega
      rw [hlength, htext, hsource, List.drop_length_add_append]
      exact List.take_left
    have hbehind : (slot text s rest).text.drop
        (text.chars.length + (3 + s.content.length) + 2) = rest.text := by
      have hwhole : (slot text s rest).text =
          (text.chars ++ (['<', '%', s.sign] ++ (s.content ++ Scan.closing))) ++ rest.text := by
        rw [htext, hsource]
        simp
      rw [hwhole]
      refine List.drop_left' ?_
      simp only [List.length_append, List.length_cons, List.length_nil, Scan.closing]
      omega
    have hfirst := Scan.first?_slot text.not_opening s rest.text
    rw [← htext] at hfirst
    rw [Scan.scan_of_first?_eq_some hfirst, Scan.Region.content, hcontent, hbehind, ih, htext,
      List.take_left]
    rfl

end ViewKit
