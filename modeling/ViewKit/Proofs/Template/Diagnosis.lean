/-
# What comes of compiling

Where the patterns of the settings are accepted, a text either compiles or has diagnostics,
and the program at hand is the same in both cases (`compile_outcome`).  The diagnostics are
those of the characters, all of them, or a single one of the tokens.  Each of them covers
whole characters of the program (`Covers`), because what is read from a text and what is
missed there lies in the text.
-/
import ViewKit.Proofs.Lexer.Place
import ViewKit.Proofs.Template.Delimiters
import ViewKit.Template.Basic

namespace ViewKit

/-! ## Bytes -/

lemma Text.byteLength_cons (c : Char) (cs : List Char) :
    Text.byteLength (c :: cs) = c.utf8Size + Text.byteLength cs := rfl

lemma Text.byteLength_eq (cs : List Char) :
    Text.byteLength cs = (String.ofList cs).utf8ByteSize := by
  induction cs with
  | nil => rfl
  | cons c cs ih =>
    rw [Text.byteLength_cons, ih, String.ofList_cons, String.utf8ByteSize_append,
      String.utf8ByteSize_singleton]

namespace Diagnostic

variable {source : List Char} {d : Diagnostic}

lemma bytesBefore_eq (source : List Char) (count : Nat) :
    bytesBefore source count = (String.ofList (source.take count)).utf8ByteSize :=
  Text.byteLength_eq _

lemma bytesBefore_mono {first last : Nat} (h : first ≤ last) :
    bytesBefore source first ≤ bytesBefore source last := by
  obtain ⟨n, rfl⟩ := Nat.exists_eq_add_of_le h
  rw [bytesBefore_eq, bytesBefore_eq, List.take_add, String.ofList_append,
    String.utf8ByteSize_append]
  exact Nat.le_add_right _ _

lemma bytesBefore_length (source : List Char) :
    bytesBefore source source.length = Text.byteLength source := by
  rw [bytesBefore, List.take_length]

/-! ## What diagnostics cover -/

/-- A diagnostic covers the characters of a text from one place to another. -/
structure Covers (source : List Char) (first last : Nat) (d : Diagnostic) : Prop where
  ordered : first ≤ last
  inside : last ≤ source.length
  start : d.start = bytesBefore source first
  stop : d.stop = bytesBefore source last

/-- The bytes of a diagnostic are bytes of a text, from one border between characters to
another. -/
structure Fits (source : String) (d : Diagnostic) : Prop where
  ordered : d.start ≤ d.stop
  inside : d.stop ≤ source.utf8ByteSize
  start : String.Pos.Raw.IsValid source ⟨d.start⟩
  stop : String.Pos.Raw.IsValid source ⟨d.stop⟩

lemma Covers.fits {first last : Nat} (h : Covers source first last d) :
    Fits (String.ofList source) d where
  ordered := by
    rw [h.start, h.stop]
    exact bytesBefore_mono h.ordered
  inside := by
    rw [h.stop, ← Text.byteLength_eq, ← bytesBefore_length]
    exact bytesBefore_mono h.inside
  start := String.Pos.Raw.isValid_ofList.2 ⟨first, h.start.trans (bytesBefore_eq source first)⟩
  stop := String.Pos.Raw.isValid_ofList.2 ⟨last, h.stop.trans (bytesBefore_eq source last)⟩

lemma covers_atEnd (source : List Char) :
    Covers source source.length source.length (atEnd source) :=
  ⟨Nat.le_refl _, Nat.le_refl _, (bytesBefore_length source).symm,
    (bytesBefore_length source).symm⟩

lemma exists_covers_ofFault {f : Lexer.Fault} (h : f.Within source.length) :
    ∃ first last, Covers source first last (ofFault source f) := by
  cases f with
  | unexpected place =>
    rw [ofFault]
    split
    · next c hc =>
      obtain ⟨hlt, -⟩ := List.getElem?_eq_some_iff.1 hc
      exact ⟨place, place + 1, Nat.le_succ place, hlt, rfl, rfl⟩
    · exact ⟨_, _, covers_atEnd source⟩
  | badEscape place => exact ⟨place, place + 4, Nat.le_add_right _ _, h, rfl, rfl⟩

lemma exists_covers_ofToken {tokens : List Lexer.Placed}
    (h : ∀ t ∈ tokens, t.start < t.stop ∧ t.stop ≤ source.length) (place : Nat) :
    ∃ first last, Covers source first last (ofToken source tokens place) := by
  rw [ofToken]
  split
  · next t ht =>
    obtain ⟨hlt, hle⟩ := h t (List.mem_of_getElem? ht)
    exact ⟨t.start, t.stop, Nat.le_of_lt hlt, hle, rfl, rfl⟩
  · exact ⟨_, _, covers_atEnd source⟩

end Diagnostic

/-! ## Reading a program -/

namespace Program

/-- The tokens of a text without the comments, which is what the grammar reads. -/
def tokensOf (source : List Char) : List Lexer.Placed :=
  (Lexer.read source).tokens.filter fun t => !t.token.isComment

/-- The diagnostics of a text that is no program: those of all faults of its characters if
there are any, and otherwise the one of the token at which the grammar failed. -/
def Diagnosed (source : List Char) (ds : List Diagnostic) : Prop :=
  ((Lexer.read source).faults ≠ [] ∧
      ds = (Lexer.read source).faults.map (Diagnostic.ofFault source)) ∨
    (Lexer.read source).faults = [] ∧ ∃ place,
      Program.read ((tokensOf source).map (·.token)) = .error place ∧
      ds = [Diagnostic.ofToken source (tokensOf source) place]

variable {source : List Char} {ds : List Diagnostic}

lemma diagnosed_of_parse (h : Program.parse source = .error ds) : Diagnosed source ds := by
  rw [Program.parse] at h
  dsimp only at h
  split at h
  · next hfaults =>
    split at h
    · cases h
    · next place hread =>
      obtain rfl := Except.error.inj h
      exact Or.inr ⟨hfaults, place, hread, rfl⟩
  · next hfaults =>
    obtain rfl := Except.error.inj h
    exact Or.inl ⟨hfaults, rfl⟩

lemma Diagnosed.ne_nil (h : Diagnosed source ds) : ds ≠ [] := by
  rcases h with ⟨hfaults, rfl⟩ | ⟨-, place, -, rfl⟩
  · simpa using hfaults
  · exact List.cons_ne_nil _ _

lemma Diagnosed.exists_covers (h : Diagnosed source ds) {d : Diagnostic} (hd : d ∈ ds) :
    ∃ first last, Diagnostic.Covers source first last d := by
  have hwithin := Lexer.within_read source
  rcases h with ⟨-, rfl⟩ | ⟨-, place, -, rfl⟩
  · obtain ⟨f, hf, rfl⟩ := List.mem_map.1 hd
    exact Diagnostic.exists_covers_ofFault (hwithin.faults f hf)
  · obtain rfl := List.mem_singleton.1 hd
    exact Diagnostic.exists_covers_ofToken
      (fun t ht => hwithin.tokens t (List.mem_filter.1 ht).1) place

end Program

/-! ## Compiling -/

namespace Template

variable {text : String} {settings : Settings} {helpers : List (String × Helper)}
  {delimiters : Delimiters}

lemma compile_of_parse (h : Delimiters.ofSettings settings = .ok delimiters) {program : Program}
    (hparse : Program.parse (delimiters.program text.toList) = .ok program) :
    compile text settings helpers =
      .ok ⟨program, String.ofList (delimiters.program text.toList), settings.variableName,
        Fields.ofList helpers⟩ := by
  simp only [compile, h, hparse]

lemma compile_of_parse_error (h : Delimiters.ofSettings settings = .ok delimiters)
    {ds : List Diagnostic} (hparse : Program.parse (delimiters.program text.toList) = .error ds) :
    compile text settings helpers =
      .error (.program (String.ofList (delimiters.program text.toList)) ds) := by
  simp only [compile, h, hparse]

/-- Whether compiling ends with a given program and given diagnostics. -/
def failsWith (source : String) (ds : List Diagnostic) : Except CompileError Template → Bool
  | .error (.program source' ds') => source' == source && ds' == ds
  | _ => false

lemma eq_of_failsWith {source : String} {ds : List Diagnostic}
    {result : Except CompileError Template} (h : failsWith source ds result = true) :
    result = .error (.program source ds) := by
  rw [failsWith.eq_def] at h
  split at h
  · rw [Bool.and_eq_true, beq_iff_eq, beq_iff_eq] at h
    rw [h.1, h.2]
  · cases h

/-- Where the patterns of the settings are accepted, a text compiles and the source of the
template is its program, or it fails with that program and at least one diagnostic.  Every
diagnostic lies in the program on borders between characters, and they are all those of the
faults of its characters, or there are no such faults and there is one of its tokens. -/
theorem compile_outcome (text : String) (settings : Settings) (helpers : List (String × Helper))
    (delimiters : Delimiters) (h : Delimiters.ofSettings settings = .ok delimiters) :
    let source := delimiters.program text.toList
    (∃ t, compile text settings helpers = .ok t ∧ t.source = String.ofList source) ∨
      ∃ ds, compile text settings helpers = .error (.program (String.ofList source) ds) ∧
        ds ≠ [] ∧ (∀ d ∈ ds, d.Fits (String.ofList source)) ∧ Program.Diagnosed source ds := by
  intro source
  cases hparse : Program.parse source with
  | ok program => exact Or.inl ⟨_, compile_of_parse h hparse, rfl⟩
  | error ds =>
    have hds := Program.diagnosed_of_parse hparse
    refine Or.inr ⟨ds, compile_of_parse_error h hparse, hds.ne_nil, fun d hd => ?_, hds⟩
    obtain ⟨first, last, hcovers⟩ := hds.exists_covers hd
    exact hcovers.fits

lemma compile_two_faults :
    compile "é<% # ) @ %>" {} [] = .error (.program "print('é');\n # ) @ \n"
      [⟨14, 15, .character '#'⟩, ⟨18, 19, .character '@'⟩]) :=
  eq_of_failsWith (by decide +kernel)

/-- Both faults of a text are reported, in bytes behind the one letter of two bytes. -/
theorem compile_outcome_of_two_faults :
    ∃ ds, compile "é<% # ) @ %>" {} [] = .error (.program "print('é');\n # ) @ \n" ds) ∧
      ds.map (fun d => (d.start, d.stop)) = [(14, 15), (18, 19)] ∧
      (∀ d ∈ ds, d.Fits "print('é');\n # ) @ \n") ∧
      Program.Diagnosed "print('é');\n # ) @ \n".toList ds := by
  have houtcome := compile_outcome "é<% # ) @ %>" {} [] _ Delimiters.ofSettings_default
  rw [compile_two_faults] at houtcome
  rcases houtcome with ⟨t, ht, -⟩ | ⟨ds, hds, -, hfits, hdiagnosed⟩
  · cases ht
  · obtain ⟨hsource, rfl⟩ := CompileError.program.inj (Except.error.inj hds)
    rw [← hsource] at hfits
    refine ⟨_, compile_two_faults, rfl, hfits, ?_⟩
    rw [hsource, String.toList_ofList]
    exact hdiagnosed

end Template
end ViewKit
