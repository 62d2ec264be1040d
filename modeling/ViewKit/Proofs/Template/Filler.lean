/-
# Regions that say nothing

A region of statements whose content is a filler (blanks, semicolons and complete comments)
puts the filler on a line of its own in front of the program (`program_filled`).  If the
program has a statement, the filler is passed over, and the text renders as without the region.

If it has none there is nothing to pass the filler over for: semicolons are no program, and
neither are blanks where there is no other token (`renderWith_filler`).
-/
import ViewKit.Proofs.Grammar.Semicolons
import ViewKit.Proofs.Lexer.Filler
import ViewKit.Proofs.Template.Delimiters
import ViewKit.Proofs.Template.Diagnosis

namespace ViewKit

/-! ## Fillers in front of a program -/

namespace Program

open Lexer (Fills)

/-- The tokens that a program is read from: all but the comments. -/
def significant (ts : List Token) : List Token := ts.filter fun t => !t.isComment

lemma parse_eq_ok_iff {cs : List Char} {p : Program} :
    parse cs = .ok p ↔ (Lexer.read cs).faults = [] ∧
      Program.read (significant ((Lexer.read cs).tokens.map (·.token))) = .ok p := by
  have hsignificant : significant ((Lexer.read cs).tokens.map (·.token)) =
      ((Lexer.read cs).tokens.filter fun t => !t.token.isComment).map (·.token) :=
    List.filter_map
  rw [hsignificant, parse]
  cases hfaults : (Lexer.read cs).faults with
  | nil =>
    dsimp only
    split
    · next program hread => simp [hread]
    · next place hread => simp [hread]
  | cons => simp

variable {w cs : List Char} {ts : List Token} {p : Program}

lemma isSemicolon_of_mem_significant (hw : Fills w ts) :
    ∀ t ∈ significant ts, Grammar.isSemicolon t = true := by
  intro t ht
  obtain ⟨hmem, hcomment⟩ := List.mem_filter.1 ht
  rw [hw.eq_semicolon_of_mem t hmem (by simpa using hcomment)]
  rfl

/-- On a line of its own in front of a text, a filler adds its tokens, unless there are none at
all then. -/
lemma tokens_filled (hw : Fills w ts) (h : parse cs = .ok p)
    (hne : ts ++ (Lexer.read cs).tokens.map (·.token) ≠ []) :
    (Lexer.read (w ++ '\n' :: cs)).tokens.map (·.token) =
        ts ++ (Lexer.read cs).tokens.map (·.token) ∧
      (Lexer.read (w ++ '\n' :: cs)).faults = [] :=
  (hw.lexes (Lexer.lexes_of_read (parse_eq_ok_iff.1 h).1)).read_of_ne_nil hne

/-- In front of a program with a statement a filler changes nothing.  In front of one without
any it does not either, if it has no semicolon and not all of the text is blank. -/
lemma parse_filled (hw : Fills w ts) (h : parse cs = .ok p)
    (hp : p = [] → .symbol .semicolon ∉ ts ∧ (ts ≠ [] ∨ cs ≠ [])) :
    parse (w ++ '\n' :: cs) = .ok p := by
  obtain ⟨hfaults, hread⟩ := parse_eq_ok_iff.1 h
  have hne : ts ++ (Lexer.read cs).tokens.map (·.token) ≠ [] := by
    -- a text that is read without tokens and faults is empty
    intro hnil
    obtain ⟨rfl, htokens⟩ := List.append_eq_nil_iff.1 hnil
    rw [List.map_eq_nil_iff] at htokens
    rw [htokens] at hread
    obtain ⟨-, hts | hcs⟩ := hp (Except.ok.inj hread).symm
    · exact hts rfl
    · exact hcs (Lexer.eq_nil_of_read htokens hfaults)
  obtain ⟨htokens, hfilled⟩ := tokens_filled hw h hne
  refine parse_eq_ok_iff.2 ⟨hfilled, ?_⟩
  have hfront := isSemicolon_of_mem_significant hw
  rw [htokens, significant, List.filter_append]
  by_cases hnil : p = []
  · have hnone : significant ts = [] := by
      refine List.eq_nil_iff_forall_not_mem.2 fun t ht => ?_
      have hsemicolon : t = .symbol .semicolon := by simpa [Grammar.isSemicolon] using hfront t ht
      exact (hp hnil).1 (hsemicolon ▸ (List.mem_filter.1 ht).1)
    rw [← significant, hnone]
    exact hread
  · exact read_semicolons hfront hread hnil

/-- Where no statement follows, a semicolon is an error, and so is a text of blanks. -/
lemma parse_filled_error (hw : Fills w ts) (h : parse cs = .ok [])
    (hts : .symbol .semicolon ∈ ts ∨ (ts = [] ∧ cs = [])) :
    ∃ ds, parse (w ++ '\n' :: cs) = .error ds := by
  cases hparse : parse (w ++ '\n' :: cs) with
  | error ds => exact ⟨ds, rfl⟩
  | ok q =>
    exfalso
    obtain ⟨hfaults, hread⟩ := parse_eq_ok_iff.1 hparse
    rcases hts with hts | ⟨rfl, rfl⟩
    · have hne : ts ++ (Lexer.read cs).tokens.map (·.token) ≠ [] :=
        List.append_ne_nil_of_left_ne_nil (List.ne_nil_of_mem hts) _
      have hnone : significant ((Lexer.read cs).tokens.map (·.token)) = [] :=
        eq_nil_of_read_nil (parse_eq_ok_iff.1 h).2
      have hfront : significant ts ≠ [] :=
        List.ne_nil_of_mem (List.mem_filter.2 ⟨hts, rfl⟩)
      obtain ⟨place, herror⟩ := read_only_semicolons (isSemicolon_of_mem_significant hw) hfront
      rw [(tokens_filled hw h hne).1, significant, List.filter_append, ← significant,
        ← significant, hnone, List.append_nil, herror] at hread
      cases hread
    · have hblank : ∀ c ∈ w ++ ['\n'], Text.isBlank c = true := by
        intro c hc
        rcases List.mem_append.1 hc with hc | hc
        · exact hw.isBlank_of_mem c hc
        · rw [List.mem_singleton.1 hc]
          rfl
      exact Lexer.faults_of_blank hblank (List.append_ne_nil_of_right_ne_nil _ nofun) hfaults

end Program

/-! ## The region at the start of a text -/

namespace Scan

/-- Statements between the marks at the start of a text are a region. -/
lemma regionAt?_evaluate {c : Char} {cs : List Char} (hescape : c ≠ '-') (hinterpolate : c ≠ '=')
    (h : ¬ closing <:+: cs) (rest : List Char) :
    regionAt? ('<' :: '%' :: c :: (cs ++ (closing ++ rest))) 0 =
      some ⟨.evaluate, 2, cs.length + 3⟩ := by
  have hclosing : closing? ('<' :: '%' :: c :: (cs ++ (closing ++ rest))) 3 =
      some (cs.length + 3) := by
    rw [closing?_cons, closing?_cons, closing?_cons, closing?_of_not_infix h]
    rfl
  have hget : ('<' :: '%' :: c :: (cs ++ (closing ++ rest)))[2]? = some c := rfl
  rw [regionAt?, hget, hclosing]
  simp [hescape, hinterpolate]

lemma scan_evaluate {c : Char} {cs : List Char} (hescape : c ≠ '-') (hinterpolate : c ≠ '=')
    (h : ¬ closing <:+: cs) (rest : List Char) :
    scan ('<' :: '%' :: c :: (cs ++ (closing ++ rest))) =
      .literal [] :: .region .evaluate (c :: cs) :: scan rest := by
  have hstands : standsAt opening ('<' :: '%' :: c :: (cs ++ (closing ++ rest))) 0 = true := rfl
  have hfirst : first? ('<' :: '%' :: c :: (cs ++ (closing ++ rest))) =
      some (0, ⟨.evaluate, 2, cs.length + 3⟩) := by
    rw [first?_cons, if_pos hstands, regionAt?_evaluate hescape hinterpolate h]
    rfl
  have hcontent : (Region.mk .evaluate 2 (cs.length + 3)).content
      ('<' :: '%' :: c :: (cs ++ (closing ++ rest))) = c :: cs := by
    show (c :: cs ++ (closing ++ rest)).take (cs.length + 1) = c :: cs
    exact List.take_left' rfl
  have hbehind :
      ('<' :: '%' :: c :: (cs ++ (closing ++ rest))).drop (cs.length + 3 + 2) = rest := by
    have hwhole : '<' :: '%' :: c :: (cs ++ (closing ++ rest)) =
        '<' :: '%' :: c :: (cs ++ closing) ++ rest := by simp
    rw [hwhole]
    refine List.drop_left' ?_
    simp only [List.length_append, List.length_cons, List.length_nil, closing]
  rw [scan_of_first?_eq_some hfirst, hcontent, hbehind]
  rfl

/-- A piece that makes no program is empty literal text. -/
lemma source_of_code_eq_nil {piece : Piece} (h : piece.code = []) : piece.source = [] := by
  have hlast {front back : List Char} (h : front ++ back = []) : back = [] :=
    (List.append_eq_nil_iff.1 h).2
  rw [Piece.code.eq_def] at h
  split at h
  · rfl
  · exact absurd (hlast h) (by decide)
  · exact absurd (hlast h) (by decide)
  · exact absurd (hlast h) (by decide)
  · exact absurd (hlast h) (List.cons_ne_nil _ _)

/-- Only the empty text makes an empty program. -/
lemma code_eq_nil_iff {text : List Char} : (scan text).flatMap Piece.code = [] ↔ text = [] := by
  constructor
  · intro h
    rw [← source_scan text, List.flatMap_eq_nil_iff]
    exact fun piece hpiece => source_of_code_eq_nil (List.flatMap_eq_nil_iff.1 h piece hpiece)
  · rintro rfl
    rw [scan_of_first?_eq_none rfl]
    rfl

end Scan

/-! ## Templates with a filler in front -/

namespace Template

variable {w : List Char} {ts : List Token}

/-- The text of a region of statements. -/
def evaluated (content : List Char) : String := "<%" ++ String.ofList content ++ "%>"

/-- The program of a text behind a region that holds a filler is the program of the text behind
the line of the filler. -/
lemma program_filled (hw : Lexer.Fills w ts) (hne : w ≠ []) (hclosing : ¬ Scan.closing <:+: w)
    (text : String) :
    (Scan.scan (evaluated w ++ text).toList).flatMap Piece.code =
      w ++ '\n' :: (Scan.scan text.toList).flatMap Piece.code := by
  obtain ⟨c, cs, rfl⟩ := List.exists_cons_of_ne_nil hne
  have htext : (evaluated (c :: cs) ++ text).toList =
      '<' :: '%' :: c :: (cs ++ (Scan.closing ++ text.toList)) := by
    simp [evaluated, Scan.closing, String.toList_append]
  -- a filler starts with no sign of another kind of regions
  have hescape : c ≠ '-' := by
    rintro rfl
    cases hw with
    | blank hblank => cases hblank
  have hinterpolate : c ≠ '=' := by
    rintro rfl
    cases hw with
    | blank hblank => cases hblank
  have hcs : ¬ Scan.closing <:+: cs := fun h => hclosing (h.trans (List.suffix_cons c cs).isInfix)
  have hnothing : (Piece.literal []).code = [] := rfl
  have hline : (Piece.region .evaluate (c :: cs)).code = c :: cs ++ ['\n'] := rfl
  rw [htext, Scan.scan_evaluate hescape hinterpolate hcs, List.flatMap_cons, List.flatMap_cons,
    hnothing, hline, List.nil_append, List.append_assoc]
  rfl

/-- A text that compiles with the default settings has a program, which is that of its scanned
pieces. -/
lemma of_compile_default {text : String} {helpers : List (String × Helper)} {t : Template}
    (h : compile text {} helpers = .ok t) :
    Program.parse ((Scan.scan text.toList).flatMap Piece.code) = .ok t.program ∧
      t.variableName = "data" ∧ t.helpers = Fields.ofList helpers := by
  have hprogram := Delimiters.program_default text.toList
  cases hparse : Program.parse ((Scan.scan text.toList).flatMap Piece.code) with
  | ok p =>
    rw [← hprogram] at hparse
    rw [compile_of_parse Delimiters.ofSettings_default hparse] at h
    cases h
    exact ⟨rfl, rfl, rfl⟩
  | error ds =>
    rw [← hprogram] at hparse
    rw [compile_of_parse_error Delimiters.ofSettings_default hparse] at h
    cases h

/-- Let a filler stand in a region in front of a text that compiles.  If the program of the text
has a statement, the text with the region compiles too and renders the same.  Without any
statement it does so as well, unless the filler has a semicolon, or it has only blanks and the
text is empty; then it does not compile. -/
theorem renderWith_filler (text : String) (helpers : List (String × Helper)) (t : Template)
    (ht : compile text {} helpers = .ok t) (w : List Char) (ts : List Token)
    (hw : Lexer.Fills w ts) (hne : w ≠ []) (hclosing : ¬ ['%', '>'] <:+: w) :
    if t.program = [] ∧ (.symbol .semicolon ∈ ts ∨ (ts = [] ∧ text = "")) then
      ∃ source ds, compile (evaluated w ++ text) {} helpers = .error (.program source ds)
    else
      ∃ t', compile (evaluated w ++ text) {} helpers = .ok t' ∧
        ∀ data owner, t'.renderWith data owner = t.renderWith data owner := by
  obtain ⟨hparse, hvariable, hhelpers⟩ := of_compile_default ht
  have hprogram := Delimiters.program_default (evaluated w ++ text).toList
  rw [program_filled hw hne hclosing] at hprogram
  -- a program without tokens may hold comments, so it is the text that tells if it is empty
  have hempty : (Scan.scan text.toList).flatMap Piece.code = [] ↔ text = "" :=
    Scan.code_eq_nil_iff.trans String.toList_eq_nil_iff
  split
  · next hspoilt =>
    obtain ⟨hnil, hts⟩ := hspoilt
    rw [hnil] at hparse
    obtain ⟨ds, hds⟩ :=
      Program.parse_filled_error hw hparse (hts.imp_right fun h => ⟨h.1, hempty.2 h.2⟩)
    rw [← hprogram] at hds
    exact ⟨_, ds, compile_of_parse_error Delimiters.ofSettings_default hds⟩
  · next hinert =>
    rw [not_and, not_or, not_and] at hinert
    have hfilled : Program.parse (w ++ '\n' :: (Scan.scan text.toList).flatMap Piece.code) =
        .ok t.program := by
      refine Program.parse_filled hw hparse fun hnil => ?_
      obtain ⟨hsemicolon, hblank⟩ := hinert hnil
      refine ⟨hsemicolon, ?_⟩
      by_cases hts : ts = []
      · exact .inr fun hcode => hblank hts (hempty.1 hcode)
      · exact .inl hts
    rw [← hprogram] at hfilled
    refine ⟨_, compile_of_parse Delimiters.ofSettings_default hfilled, fun data owner => ?_⟩
    rw [renderWith, renderWith, hvariable, hhelpers]

/-- Comments of both kinds between semicolons. -/
def notes : List Char :=
  ';' :: (Lexer.lineComment ['a'] ++ '\n' :: (Lexer.blockComment ['b'] ++ [';']))

lemma fills_notes : Lexer.Fills notes
    [.symbol .semicolon, .comment (String.ofList (Lexer.lineComment ['a'])),
      .comment (String.ofList (Lexer.blockComment ['b'])), .symbol .semicolon] := by
  have hlast : Lexer.Fills [';'] [.symbol .semicolon] := .semicolon .nil
  have hblock : ¬ ['*', '/'] <:+: ['b'] := by decide
  have hline : ∀ c ∈ ['a'], Text.isLineEnd c = false := by simp [Text.isLineEnd]
  have hbreak : ∀ c ∈ ('\n' :: (Lexer.blockComment ['b'] ++ [';'])).head?,
      Text.isLineEnd c = true := by simp [Text.isLineEnd]
  exact .semicolon (.line hline hbreak (.blank rfl (.block hblock hlast)))

/-- Whether compiling ends with a template that passes a test. -/
def succeedsWith (test : Template → Bool) : Except CompileError Template → Bool
  | .ok t => test t
  | .error _ => false

lemma exists_of_succeedsWith {test : Template → Bool} {result : Except CompileError Template}
    (h : succeedsWith test result = true) : ∃ t, result = .ok t ∧ test t = true := by
  cases result with
  | ok t => exact ⟨t, rfl, h⟩
  | error e => cases h

/-- Notes in front of a letter leave the letter. -/
theorem renderWith_filler_notes :
    ∃ t t', compile "a" {} [] = .ok t ∧ compile (evaluated notes ++ "a") {} [] = .ok t' ∧
      ∀ data owner, t'.renderWith data owner = t.renderWith data owner := by
  obtain ⟨t, ht, hstatement⟩ : ∃ t, compile "a" {} [] = .ok t ∧ !t.program.isEmpty :=
    exists_of_succeedsWith (by decide +kernel)
  have hfilled := renderWith_filler "a" [] t ht notes _ fills_notes (by decide) (by decide)
  have hne : t.program ≠ [] := by simpa using hstatement
  rw [if_neg fun hspoilt => hne hspoilt.1] at hfilled
  obtain ⟨t', ht', hrender⟩ := hfilled
  exact ⟨t, t', ht, ht', hrender⟩

/-- In front of no text at all a comment does no harm, but a blank does, and so does a
semicolon. -/
theorem blank_region_of_empty :
    (∃ t, compile "" {} [] = .ok t) ∧ (∃ t, compile "<%/**/%>" {} [] = .ok t) ∧
      compile "<% %>" {} [] = .error (.program " \n" [⟨2, 2, .endOfInput⟩]) ∧
      compile "<%;%>" {} [] = .error (.program ";\n" [⟨2, 2, .endOfInput⟩]) := by
  refine ⟨?_, ?_, eq_of_failsWith (by decide +kernel), eq_of_failsWith (by decide +kernel)⟩
  · obtain ⟨t, ht, -⟩ : ∃ t, compile "" {} [] = .ok t ∧ t.program.isEmpty :=
      exists_of_succeedsWith (by decide +kernel)
    exact ⟨t, ht⟩
  · obtain ⟨t, ht, -⟩ : ∃ t, compile "<%/**/%>" {} [] = .ok t ∧ t.program.isEmpty :=
      exists_of_succeedsWith (by decide +kernel)
    exact ⟨t, ht⟩

end Template
end ViewKit
