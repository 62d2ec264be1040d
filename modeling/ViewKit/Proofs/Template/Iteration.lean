/-
# Going through a list or a text

The elements of a text are its characters, and those of a list are its items.  A loop over the
elements and one over the indices go through the same ones: an index stands for the element at
its place, and there are as many indices as elements, which is the length that programs see.
So a template that prints each element prints the same text whichever of the two loops it is
written with, up to the limit that both loops have (`iteration_agrees`).
-/
import ViewKit.Proofs.Program.Text
import ViewKit.Proofs.Template.Diagnosis
import ViewKit.Proofs.Template.LoopLimit
import ViewKit.Proofs.Template.Rendering
import ViewKit.Proofs.Value.Index

namespace ViewKit

/-! ## Elements -/

namespace Value

/-- The elements of a value, as loops, indices and the length show them. -/
structure HasElements (xs : Value) (elements : List Value) : Prop where
  items : xs.parts .items = elements
  keys : xs.parts .keys = indices elements.length
  /-- An index that fits into a word stands for the element at its place. -/
  atIndex : ∀ i < Nat.pow 2 64, xs.atIndex (.text (toString i)) = (elements[i]?).getD .null
  length : xs.property "length" = ofNat elements.length

/-- The characters of a text, each as a text. -/
def characters (s : String) : List Value := s.toList.map fun c => .text (String.singleton c)

lemma length_characters (s : String) : (characters s).length = s.length := by
  rw [characters, List.length_map, String.length_toList]

lemma hasElements_list (vs : List Value) : HasElements (.list vs) vs where
  items := rfl
  keys := rfl
  atIndex _ hi := property_list_toString vs hi
  length := rfl

lemma hasElements_text (s : String) : HasElements (.text s) (characters s) where
  items := rfl
  keys := by
    rw [length_characters]
    rfl
  atIndex i hi := by
    have hcharacter : (Value.text s).atIndex (.text (toString i)) = character s i :=
      property_text_toString s hi
    rw [hcharacter, character, characters, List.getElem?_map]
    cases s.toList[i]? <;> rfl
  length := by
    rw [length_characters]
    rfl

/-- Of no more indices than there are words, each stands for its element. -/
lemma HasElements.map_atIndex {xs : Value} {elements : List Value} (h : xs.HasElements elements)
    (limit : Nat) (hlimit : limit ≤ Nat.pow 2 64) :
    ((xs.parts .keys).take limit).map xs.atIndex = elements.take limit := by
  refine List.ext_getElem (by simp [h.keys, indices]) fun i _ hi => ?_
  rw [List.length_take, Nat.lt_min] at hi
  simp only [h.keys, indices, List.getElem_map, List.getElem_take, List.getElem_range]
  rw [h.atIndex i (Nat.lt_of_lt_of_le hi.1 hlimit), List.getElem?_eq_getElem hi.2]
  rfl

end Value

/-! ## Loops that print -/

namespace Run

variable {s : Scope} {frames : List Frame} {binding : String} {e x : Expression}
  {parts : List Value} {v : Value}

/-- Going through some parts prints a value for each of them and leaves the frames alone. -/
lemma foldl_executeItem_printing (f : Value → Value)
    (hx : ∀ part ∈ parts, ∀ out,
      ViewKit.evaluate s ([(binding, part)] :: frames) x out = (f part, out)) (out : String) :
    parts.foldl (executeItem s binding [printing x]) ⟨frames, out⟩ =
      ⟨frames, out ++ String.join (parts.map fun part => (f part).printed)⟩ := by
  induction parts generalizing out with
  | nil => simp
  | cons part parts ih =>
    have hitem : executeItem s binding [printing x] ⟨frames, out⟩ part =
        ⟨frames, out ++ (f part).printed⟩ := by
      rw [executeItem, inFrame, executeAll, executeAll,
        execute_printing (hx part List.mem_cons_self)]
      rfl
    rw [List.foldl_cons, hitem, ih fun part' hpart' => hx part' (List.mem_cons_of_mem part hpart'),
      List.map_cons, String.join_cons, String.append_assoc]

/-- A loop whose body prints an expression prints its value for each part, as far as the limit
allows. -/
lemma execute_forEach_printing (kind : LoopKind) (f : Value → Value)
    (he : ∀ out, ViewKit.evaluate s frames e out = (v, out))
    (hx : ∀ part ∈ (v.parts kind).take loopLimit, ∀ out,
      ViewKit.evaluate s ([(binding, part)] :: frames) x out = (f part, out)) (out : String) :
    execute s (.forEach binding kind e [printing x]) ⟨frames, out⟩ =
      ⟨frames, out ++ String.join
        (((v.parts kind).take loopLimit).map fun part => (f part).printed)⟩ := by
  rw [execute_forEach, Run.evaluate, he]
  exact foldl_executeItem_printing f hx out

end Run

/-! ## The two templates -/

/-- The list or text of the data. -/
def dataElements : Expression := .member (.name "data") "xs"

/-- A template that prints each element. -/
def eachElement : String := "<% for (const x of data.xs) \x7b %><%= x %><% \x7d %>"

def eachElementProgram : Program := [.forEach "x" .items dataElements [printing (.name "x")]]

/-- A template that prints what stands at each index. -/
def eachIndex : String := "<% for (const i in data.xs) \x7b %><%= data.xs[i] %><% \x7d %>"

def eachIndexProgram : Program :=
  [.forEach "i" .keys dataElements [printing (.index dataElements (.name "i"))]]

/-- A template that prints the length. -/
def theLength : String := "<%= data.xs.length %>"

def theLengthProgram : Program := [printing (.member dataElements "length")]

/-- A text compiles to a program if its code is parsed as one with the same tokens. -/
lemma Template.exists_compile {text : String} {p : Program} (hp : ∀ s ∈ p, s.Formed)
    (h : (Program.parse ((Scan.scan text.toList).flatMap Piece.code)).toOption.map
      Program.tokens = some p.tokens) (helpers : List (String × Helper)) :
    ∃ source, compile text {} helpers =
      .ok ⟨p, source, ({} : Settings).variableName, Fields.ofList helpers⟩ := by
  have hparse := Program.parse_of_tokens hp h
  rw [← Delimiters.program_default] at hparse
  exact ⟨_, compile_of_parse Delimiters.ofSettings_default hparse⟩

lemma Statement.formed_single {t : Statement} (h : t.Formed) : ∀ s ∈ [t], s.Formed :=
  fun _ hs => List.mem_singleton.1 hs ▸ h

/-- Data with a list or a text under one name. -/
def dataOf (xs : Value) : Value := .map [("xs", xs)]

section Rendering

variable (xs owner : Value) (helpers : List (String × Helper)) {elements : List Value}

/-- The name of the data stands for the data, unless it is declared. -/
lemma evaluate_dataElements (frames : List Frame)
    (hframes : frames.findSome? (Fields.get? "data") = none) (out : String) :
    evaluate (formScope (dataOf xs) owner helpers) frames dataElements out = (xs, out) := by
  have hlookup : (formScope (dataOf xs) owner helpers).lookup frames "data" = dataOf xs := by
    rw [Scope.lookup, hframes]
    rfl
  have hne : Expression.name "data" ≠ .this := Expression.noConfusion
  rw [dataElements, Qualifier.evaluate_member _ frames hne, evaluate, hlookup]
  rfl

lemma evaluate_theLength (h : xs.HasElements elements) (out : String) :
    evaluate (formScope (dataOf xs) owner helpers) [[]] (.member dataElements "length") out =
      (.ofNat elements.length, out) := by
  have hne : dataElements ≠ .this := Expression.noConfusion
  rw [Qualifier.evaluate_member _ [[]] hne, evaluate_dataElements xs owner helpers [[]] rfl,
    ← h.length]

/-- The name that a loop binds stands for the part. -/
lemma evaluate_binding (s : Scope) (binding : String) (part : Value) (out : String) :
    evaluate s [[(binding, part)], []] (.name binding) out = (part, out) := by
  simp [evaluate, Scope.lookup, Fields.get?]

lemma evaluate_atIndex (part : Value) (out : String) :
    evaluate (formScope (dataOf xs) owner helpers) [[("i", part)], []]
      (.index dataElements (.name "i")) out = (xs.atIndex part, out) := by
  rw [evaluate, evaluate_binding]
  dsimp only
  rw [evaluate_dataElements xs owner helpers _ rfl]

lemma output_eachElement (h : xs.HasElements elements) :
    eachElementProgram.output (formScope (dataOf xs) owner helpers) =
      String.join ((elements.take loopLimit).map Value.printed) := by
  have hloop := Run.execute_forEach_printing .items id
    (evaluate_dataElements xs owner helpers [[]] rfl)
    (fun part _ out => evaluate_binding _ "x" part out) ""
  rw [h.items, String.empty_append] at hloop
  exact congrArg Run.output hloop

lemma output_eachIndex (h : xs.HasElements elements) :
    eachIndexProgram.output (formScope (dataOf xs) owner helpers) =
      String.join ((elements.take loopLimit).map Value.printed) := by
  have hloop := Run.execute_forEach_printing .keys xs.atIndex
    (evaluate_dataElements xs owner helpers [[]] rfl)
    (fun part _ out => evaluate_atIndex xs owner helpers part out) ""
  have hparts := h.map_atIndex loopLimit (by decide)
  rw [String.empty_append] at hloop
  rw [← hparts, List.map_map]
  exact congrArg Run.output hloop

lemma output_theLength (h : xs.HasElements elements) :
    theLengthProgram.output (formScope (dataOf xs) owner helpers) =
      (Value.ofNat elements.length).display := by
  have hprinting := execute_printing (evaluate_theLength xs owner helpers h) ""
  rw [String.empty_append] at hprinting
  exact congrArg Run.output hprinting

end Rendering

/-- Templates go through the elements of a value alike: one over the elements, one over the
indices, while a third one prints the length. -/
structure IteratesAlike (byElement byIndex byLength : Template) (xs : Value)
    (elements : List Value) : Prop where
  /-- Each element is printed, as far as the limit of loops allows. -/
  eachElement : ∀ owner, byElement.renderWith (dataOf xs) owner =
    String.join ((elements.take loopLimit).map Value.printed)
  eachIndex : ∀ owner, byIndex.renderWith (dataOf xs) owner =
    String.join ((elements.take loopLimit).map Value.printed)
  length : xs.property "length" = .ofNat elements.length
  /-- A length that a double holds exactly is printed with its digits. -/
  theLength : elements.length < Nat.pow 2 53 →
    ∀ owner, byLength.renderWith (dataOf xs) owner = toString elements.length
  /-- Without the limit, both loops would go through as many parts. -/
  parts : (xs.parts .items).length = elements.length ∧ (xs.parts .keys).length = elements.length

lemma Value.HasElements.iteratesAlike {xs : Value} {elements : List Value}
    (h : xs.HasElements elements) (helpers : List (String × Helper)) {s s' s'' : String} :
    IteratesAlike
      ⟨eachElementProgram, s, ({} : Settings).variableName, Fields.ofList helpers⟩
      ⟨eachIndexProgram, s', ({} : Settings).variableName, Fields.ofList helpers⟩
      ⟨theLengthProgram, s'', ({} : Settings).variableName, Fields.ofList helpers⟩ xs elements where
  eachElement owner := output_eachElement xs owner helpers h
  eachIndex owner := output_eachIndex xs owner helpers h
  length := h.length
  theLength hlength owner :=
    (output_theLength xs owner helpers h).trans (Number.display_ofNat hlength)
  parts := by
    rw [h.items, h.keys, Value.indices, List.length_map, List.length_range]
    exact ⟨rfl, rfl⟩

/-- A template that goes through the elements of a list or text and one that goes through its
indices compile, and they print the same: each element, a null as nothing, until the limit of
loops is reached.  The length is the number of the elements that both would go through. -/
theorem iteration_agrees (helpers : List (String × Helper)) :
    ∃ byElement byIndex byLength, Template.compile eachElement {} helpers = .ok byElement ∧
      Template.compile eachIndex {} helpers = .ok byIndex ∧
      Template.compile theLength {} helpers = .ok byLength ∧
      (∀ vs, IteratesAlike byElement byIndex byLength (.list vs) vs) ∧
      ∀ s, IteratesAlike byElement byIndex byLength (.text s) (Value.characters s) := by
  obtain ⟨_, helement⟩ : ∃ source, Template.compile eachElement {} helpers =
      .ok ⟨eachElementProgram, source, _, _⟩ :=
    Template.exists_compile
      (Statement.formed_single (.forEach (Statement.formed_single .expression)))
      (by decide +kernel) helpers
  obtain ⟨_, hindex⟩ : ∃ source, Template.compile eachIndex {} helpers =
      .ok ⟨eachIndexProgram, source, _, _⟩ :=
    Template.exists_compile
      (Statement.formed_single (.forEach (Statement.formed_single .expression)))
      (by decide +kernel) helpers
  obtain ⟨_, hlength⟩ : ∃ source, Template.compile theLength {} helpers =
      .ok ⟨theLengthProgram, source, _, _⟩ :=
    Template.exists_compile (Statement.formed_single .expression) (by decide +kernel) helpers
  exact ⟨_, _, _, helement, hindex, hlength,
    fun vs => (Value.hasElements_list vs).iteratesAlike helpers,
    fun s => (Value.hasElements_text s).iteratesAlike helpers⟩

end ViewKit
