/-
# The frames of a running program

Blocks and loops run in frames of their own, which are gone behind them, while declarations
with `var` and assignments reach frames further out.  What a statement leaves behind is put
together over blocks, items and rounds (`grows_execute`), and traced back to the statements
that were executed on the way, each from the state in which it was reached (`Performs`).  So
`let`, `const` and the bindings of loops leave nothing behind, and a name can only come into
the outermost frame by `var` or by an assignment to a name that no frame holds
(`frame_discipline`).
-/
import Mathlib.Logic.Relation
import ViewKit.Proofs.Template.Growth

namespace ViewKit

/-- The statements that a statement is made of. -/
def Statement.parts : Statement → List Statement
  | .branch _ thenBody elseBody => thenBody ++ elseBody
  | .forEach _ _ _ body => body
  | .loop start _ step body => start.toList ++ body ++ step.toList
  | _ => []

/-- A statement is another one or lies in one of its parts, however deep. -/
def Statement.Within (u t : Statement) : Prop :=
  Relation.ReflTransGen (fun t u => u ∈ t.parts) t u

/-! ## What is executed on the way -/

namespace Run

/-- A round of a loop begins in a state in which the condition has just held; the loop came
there from another state, with a number of rounds still allowed. -/
inductive RoundBegins (condition : Run → Bool × Run) (round : Run → Run) :
    Nat → Run → Run → Prop where
  | first {limit : Nat} {r : Run} : (condition r).1 = true →
      RoundBegins condition round (limit + 1) r (condition r).2
  | later {limit : Nat} {r r' : Run} : (condition r).1 = true →
      RoundBegins condition round limit (round (condition r).2) r' →
      RoundBegins condition round (limit + 1) r r'

/-- Rounds that each do no more than they may. -/
lemma Grows.rounds {declared : String → Prop} {performed : Statement → Run → Prop}
    {condition : Run → Bool × Run} {round : Run → Run} {limit : Nat} {r : Run}
    (hc : ∀ r, Grows declared performed r (condition r).2)
    (h : ∀ r', RoundBegins condition round limit r r' → Grows declared performed r' (round r')) :
    Grows declared performed r (Run.rounds condition round limit r) := by
  induction limit generalizing r with
  | zero => exact hc r
  | succ limit ih =>
    rw [Run.rounds]
    dsimp only
    split
    · next hgo =>
      have hrest := ih fun r' hr' => h r' (.later hgo hr')
      exact (hc r).trans ((h _ (.first hgo)).trans hrest)
    · exact hc r

/-- A statement of a block is reached when those in front of it have been executed, in the
frame of the block. -/
def Reaches (s : Scope) (frame : Frame) (ts : List Statement) (r : Run) (u : Statement)
    (r' : Run) : Prop :=
  ∃ before after, ts = before ++ u :: after ∧
    r' = executeAll s before ⟨frame :: r.frames, r.output⟩

/-- One item of a loop over the parts of a value. -/
def executeItem (s : Scope) (binding : String) (body : List Statement) (r : Run) (part : Value) :
    Run :=
  inFrame [(binding, part)] (executeAll s body) r

/-- One round of a loop with a condition: the body and the step behind it. -/
def executeRound (s : Scope) (step : Option Statement) (body : List Statement) (r : Run) : Run :=
  executeOption s step (inFrame [] (executeAll s body) r)

/-- While a statement is executed from a state, one of its own parts is executed from another
state. -/
inductive Enters (s : Scope) : Statement → Run → Statement → Run → Prop where
  | thenBody {c : Expression} {a b : List Statement} {r r' : Run} {u : Statement} :
      (r.evaluate s c).1.truthy = true → Reaches s [] a (r.evaluate s c).2 u r' →
      Enters s (.branch c a b) r u r'
  | elseBody {c : Expression} {a b : List Statement} {r r' : Run} {u : Statement} :
      ¬ (r.evaluate s c).1.truthy = true → Reaches s [] b (r.evaluate s c).2 u r' →
      Enters s (.branch c a b) r u r'
  | item {binding : String} {kind : LoopKind} {e : Expression} {body : List Statement}
      {r r' : Run} {u : Statement} {done rest : List Value} {part : Value} :
      ((r.evaluate s e).1.parts kind).take loopLimit = done ++ part :: rest →
      Reaches s [(binding, part)] body
        (done.foldl (executeItem s binding body) (r.evaluate s e).2) u r' →
      Enters s (.forEach binding kind e body) r u r'
  | start {u : Statement} {c : Option Expression} {step : Option Statement}
      {body : List Statement} {r : Run} :
      Enters s (.loop (some u) c step body) r u ⟨[] :: r.frames, r.output⟩
  | round {start step : Option Statement} {c : Option Expression} {body : List Statement}
      {r begun r' : Run} {u : Statement} :
      RoundBegins (holds s c) (executeRound s step body) loopLimit
        (executeOption s start ⟨[] :: r.frames, r.output⟩) begun →
      Reaches s [] body begun u r' → Enters s (.loop start c step body) r u r'
  | step {start : Option Statement} {c : Option Expression} {body : List Statement}
      {r begun : Run} {u : Statement} :
      RoundBegins (holds s c) (executeRound s (some u) body) loopLimit
        (executeOption s start ⟨[] :: r.frames, r.output⟩) begun →
      Enters s (.loop start c (some u) body) r u (inFrame [] (executeAll s body) begun)

/-- While a statement is executed from a state, a statement is executed from another state: it
is that statement itself, or it lies in one of its parts, however deep. -/
inductive Performs (s : Scope) : Statement → Run → Statement → Run → Prop where
  | self (t : Statement) (r : Run) : Performs s t r t r
  | inside {t u w : Statement} {r r' r'' : Run} : Enters s t r u r' → Performs s u r' w r'' →
      Performs s t r w r''

/-- While some statements are executed one after the other, a statement is executed. -/
def PerformsAll (s : Scope) (ts : List Statement) (r : Run) (u : Statement) (r' : Run) : Prop :=
  ∃ before t after, ts = before ++ t :: after ∧ Performs s t (executeAll s before r) u r'

variable {s : Scope}

/-- What is performed in a block is performed by the statement that the block belongs to. -/
lemma PerformsAll.inside {t u : Statement} {ts : List Statement} {frame : Frame} {r outer r' : Run}
    (hblock : ∀ w r'', Reaches s frame ts r w r'' → Enters s t outer w r'')
    (h : PerformsAll s ts ⟨frame :: r.frames, r.output⟩ u r') : Performs s t outer u r' := by
  obtain ⟨before, w, after, hts, hw⟩ := h
  exact .inside (hblock w _ ⟨before, after, hts, rfl⟩) hw

lemma Reaches.mem {frame : Frame} {ts : List Statement} {r r' : Run} {u : Statement}
    (h : Reaches s frame ts r u r') : u ∈ ts := by
  obtain ⟨before, after, rfl, -⟩ := h
  exact List.mem_append_right before List.mem_cons_self

lemma Enters.mem_parts {t u : Statement} {r r' : Run} (h : Enters s t r u r') : u ∈ t.parts := by
  cases h with
  | thenBody _ hreaches => exact List.mem_append_left _ hreaches.mem
  | elseBody _ hreaches => exact List.mem_append_right _ hreaches.mem
  | item _ hreaches => exact hreaches.mem
  | start => exact List.mem_append_left _ List.mem_cons_self
  | round _ hreaches => exact List.mem_append_left _ (List.mem_append_right _ hreaches.mem)
  | step _ => exact List.mem_append_right _ (List.mem_singleton_self u)

/-- What is performed stands in the text of the statement. -/
lemma Performs.within {t u : Statement} {r r' : Run} (h : Performs s t r u r') : u.Within t := by
  induction h with
  | self => exact .refl
  | inside henters _ ih => exact .head henters.mem_parts ih

/-! ## Statements -/

lemma continues_evaluate_run (s : Scope) (e : Expression) (r : Run) :
    Continues r.output (r.evaluate s e).2.output :=
  continues_evaluate s r.frames e r.output

lemma grows_evaluate {declared : String → Prop} {performed : Statement → Run → Prop}
    (s : Scope) (e : Expression) (r : Run) :
    Grows declared performed r (r.evaluate s e).2 :=
  .of_frames_eq rfl (continues_evaluate_run s e r)

lemma grows_holds {declared : String → Prop} {performed : Statement → Run → Prop}
    (s : Scope) (c : Option Expression) (r : Run) :
    Grows declared performed r (holds s c r).2 := by
  cases c with
  | none => exact .refl r
  | some e => exact grows_evaluate s e r

section Binding

variable {declared : String → Prop} {performed : Statement → Run → Prop} {name : String} (v : Value)
  {r : Run}

lemma grows_declare (h : declared name) :
    Grows declared performed r ⟨Frame.declare name v r.frames, r.output⟩ := by
  refine ⟨.refl _, Frame.length_declare name v r.frames, fun i f hf => ?_⟩
  obtain ⟨f', hf', hgrows⟩ := Frame.declare_grows name v r.frames i hf
  refine ⟨f', hf', hgrows.mono ?_ ?_⟩ <;> rintro x ⟨hi, rfl⟩ <;> exact .inl ⟨hi, h⟩

lemma grows_declareOutermost {value : Option Expression} {r' : Run}
    (h : performed (.declaration .varKind name value) r') (hframes : r.frames = r'.frames) :
    Grows declared performed r ⟨Frame.declareOutermost name v r.frames, r.output⟩ := by
  refine ⟨.refl _, Frame.length_declareOutermost name v r.frames, fun i f hf => ?_⟩
  obtain ⟨f', hf', hgrows⟩ := Frame.declareOutermost_grows name v r.frames i hf
  rw [hframes] at hgrows hf' ⊢
  refine ⟨f', hf', hgrows.mono ?_ ?_⟩
  · rintro x ⟨hi, rfl⟩
    exact .inr ⟨hi, _, _, h, rfl, rfl⟩
  · rintro x ⟨hi, rfl⟩
    exact .inr ⟨_, _, i, h, rfl, ⟨rfl, rfl⟩, hi⟩

lemma grows_assign {operator : AssignmentOperator} {e : Expression} {r' : Run}
    (h : performed (.assignment name operator e) r') (hframes : r.frames = r'.frames) :
    Grows declared performed r ⟨Frame.assign name v r.frames, r.output⟩ := by
  refine ⟨.refl _, Frame.length_assign name v r.frames, fun i f hf => ?_⟩
  obtain ⟨f', hf', hgrows⟩ := Frame.assign_grows name v r.frames i hf
  rw [hframes] at hgrows hf' ⊢
  refine ⟨f', hf', hgrows.mono ?_ ?_⟩
  · rintro x ⟨hi, rfl, hnot⟩
    exact .inr ⟨hi, _, _, h, rfl, hnot⟩
  · rintro x ⟨rfl, htarget⟩
    exact .inr ⟨_, _, i, h, rfl, rfl, htarget⟩

end Binding

/-- A block of a statement leaves nothing of its own behind. -/
lemma Grows.block {t : Statement} {ts : List Statement} {frame : Frame} {r outer : Run}
    {declared declared' : String → Prop}
    (h : Grows declared (PerformsAll s ts ⟨frame :: r.frames, r.output⟩)
      ⟨frame :: r.frames, r.output⟩ (executeAll s ts ⟨frame :: r.frames, r.output⟩))
    (hblock : ∀ w r'', Reaches s frame ts r w r'' → Enters s t outer w r'') :
    Grows declared' (Performs s t outer) r (Run.inFrame frame (executeAll s ts) r) :=
  .inFrame (h.mono (fun _ hx => hx) fun _ _ hu => hu.inside hblock)

mutual

/-- Executing a statement declares what it declares itself, and anything else comes from the
statements that are performed. -/
theorem grows_execute (s : Scope) : ∀ (t : Statement) (r : Run),
    Grows t.Declares (Performs s t r) r (execute s t r)
  | .declaration kind name value, r => by
    -- The value has been evaluated before it is stored, if there is one to evaluate.
    have hvalue : ∀ (v : Value) (out : String), Continues r.output out →
        Grows (Statement.declaration kind name value).Declares
          (Performs s (.declaration kind name value) r) r
          (match kind with
            | .varKind => ⟨Frame.declareOutermost name v r.frames, out⟩
            | _ => ⟨Frame.declare name v r.frames, out⟩) := by
      intro v out hout
      have hmiddle : Grows (Statement.declaration kind name value).Declares
          (Performs s (.declaration kind name value) r) r ⟨r.frames, out⟩ := .of_frames_eq rfl hout
      cases kind with
      | varKind => exact hmiddle.trans (grows_declareOutermost v (.self _ r) rfl)
      | _ => exact hmiddle.trans (grows_declare v ⟨nofun, rfl⟩)
    cases value with
    | none => exact hvalue .null r.output (.refl _)
    | some e => exact hvalue _ _ (continues_evaluate_run s e r)
  | .assignment name operator value, r =>
    (grows_evaluate s value r).trans (grows_assign _ (.self _ r) rfl)
  | .branch c a b, r => by
    have hcondition : Grows (Statement.branch c a b).Declares (Performs s (.branch c a b) r) r
        (r.evaluate s c).2 := grows_evaluate s c r
    rw [execute]
    dsimp only
    split
    · next htrue =>
      exact hcondition.trans ((grows_executeAll s a _).block fun _ _ => .thenBody htrue)
    · next hfalse =>
      exact hcondition.trans ((grows_executeAll s b _).block fun _ _ => .elseBody hfalse)
  | .forEach binding kind e body, r => by
    refine (grows_evaluate s e r).trans (.foldl fun done part rest hparts => ?_)
    exact (grows_executeAll s body _).block fun _ _ => .item hparts
  | .loop start c step body, r => by
    rw [execute]
    have hstart : Grows (fun _ => True) (Performs s (.loop start c step body) r)
        ⟨[] :: r.frames, r.output⟩ (executeOption s start ⟨[] :: r.frames, r.output⟩) := by
      cases start with
      | none => exact .refl _
      | some t =>
        exact (grows_execute s t _).mono (fun _ _ => trivial) fun _ _ hu => .inside .start hu
    -- Whatever the start and the steps declare is in the frame of the loop, which is dropped.
    refine .inFrame (hstart.trans (.rounds (fun r => grows_holds s c r) fun begun hbegun => ?_))
    have hbody : Grows (fun _ => True) (Performs s (.loop start c step body) r) begun
        (inFrame [] (executeAll s body) begun) :=
      (grows_executeAll s body _).block fun _ _ => .round hbegun
    cases step with
    | none => exact hbody
    | some t =>
      refine hbody.trans ((grows_execute s t _).mono (fun _ _ => trivial) fun _ _ hu => ?_)
      exact .inside (.step hbegun) hu
  | .expression e, r => grows_evaluate s e r

theorem grows_executeAll (s : Scope) : ∀ (ts : List Statement) (r : Run),
    Grows (fun x => ∃ t ∈ ts, t.Declares x) (PerformsAll s ts r) r (executeAll s ts r)
  | [], r => .refl r
  | t :: ts, r => by
    have hfirst := grows_execute s t r
    have hrest := grows_executeAll s ts (execute s t r)
    refine (hfirst.mono ?_ ?_).trans (hrest.mono ?_ ?_)
    · exact fun x hx => ⟨t, List.mem_cons_self, hx⟩
    · exact fun u r' hu => ⟨[], t, ts, rfl, hu⟩
    · exact fun x ⟨w, hw, hx⟩ => ⟨w, List.mem_cons_of_mem t hw, hx⟩
    · exact fun u r' ⟨before, w, after, hts, hu⟩ => ⟨t :: before, w, after, by rw [hts]; rfl, hu⟩

end

/-! ## Frames on the way -/

lemma length_reaches {frame : Frame} {ts : List Statement} {r r' : Run} {u : Statement}
    (h : Reaches s frame ts r u r') : r'.frames.length = r.frames.length + 1 := by
  obtain ⟨before, after, -, rfl⟩ := h
  exact (grows_executeAll s before _).length

lemma length_executeOption (t : Option Statement) (r : Run) :
    (executeOption s t r).frames.length = r.frames.length := by
  cases t with
  | none => rfl
  | some t => exact (grows_execute s t r).length

lemma length_inFrame (frame : Frame) (ts : List Statement) (r : Run) :
    (inFrame frame (executeAll s ts) r).frames.length = r.frames.length := by
  have hgrows : Grows (fun _ => False) (PerformsAll s ts ⟨frame :: r.frames, r.output⟩) r
      (inFrame frame (executeAll s ts) r) := .inFrame (grows_executeAll s ts _)
  exact hgrows.length

lemma length_items (binding : String) (body : List Statement) (parts : List Value) (r : Run) :
    (parts.foldl (executeItem s binding body) r).frames.length = r.frames.length := by
  induction parts generalizing r with
  | nil => rfl
  | cons part parts ih => exact (ih _).trans (length_inFrame _ body r)

lemma length_holds (c : Option Expression) (r : Run) :
    (holds s c r).2.frames.length = r.frames.length := by
  cases c <;> rfl

lemma length_begun {c : Option Expression} {step : Option Statement} {body : List Statement}
    {limit : Nat} {r begun : Run}
    (h : RoundBegins (holds s c) (executeRound s step body) limit r begun) :
    begun.frames.length = r.frames.length := by
  induction h with
  | first => exact length_holds c _
  | later _ _ ih =>
    rw [ih, executeRound, length_executeOption, length_inFrame, length_holds]

/-- What a statement enters is executed with more frames. -/
lemma length_enters {t u : Statement} {r r' : Run} (h : Enters s t r u r') :
    r.frames.length < r'.frames.length := by
  cases h with
  | thenBody _ hreaches =>
    rw [length_reaches hreaches]
    exact Nat.lt_succ_self _
  | elseBody _ hreaches =>
    rw [length_reaches hreaches]
    exact Nat.lt_succ_self _
  | item _ hreaches =>
    rw [length_reaches hreaches, length_items]
    exact Nat.lt_succ_self _
  | start => exact Nat.lt_succ_self _
  | round hbegun hreaches =>
    rw [length_reaches hreaches, length_begun hbegun, length_executeOption, List.length_cons]
    omega
  | step hbegun =>
    rw [length_inFrame, length_begun hbegun, length_executeOption, List.length_cons]
    exact Nat.lt_succ_self _

lemma length_performs {t u : Statement} {r r' : Run} (h : Performs s t r u r') :
    (u = t ∧ r' = r) ∨ r.frames.length < r'.frames.length := by
  induction h with
  | self => exact .inl ⟨rfl, rfl⟩
  | inside henters _ ih =>
    have hlt := length_enters henters
    rcases ih with ⟨-, rfl⟩ | hmore
    · exact .inr hlt
    · exact .inr (Nat.lt_trans hlt hmore)

/-- What a declaration or an assignment gives a value to, and the value. -/
def stored (s : Scope) (t : Statement) (r : Run) : Option (String × Value) :=
  match t with
  | .declaration _ name none => some (name, .null)
  | .declaration _ name (some e) => some (name, (r.evaluate s e).1)
  | .assignment name .set e => some (name, (r.evaluate s e).1)
  | .assignment name .add e => some (name, (s.lookup r.frames name).add (r.evaluate s e).1)
  | _ => none

/-- What is declared or assigned is held by a frame, if there are any. -/
lemma held_execute {t : Statement} {r : Run} {x : String} {v : Value} (hframes : r.frames ≠ [])
    (h : stored s t r = some (x, v)) :
    ∃ frame ∈ (execute s t r).frames, Fields.get? x frame = some v := by
  cases t with
  | declaration kind name value =>
    have hdeclared : ∀ w, some (name, w) = some (x, v) →
        ∃ frame ∈ (match kind with
          | .varKind => Frame.declareOutermost name w r.frames
          | _ => Frame.declare name w r.frames), Fields.get? x frame = some v := by
      rintro w ⟨⟩
      cases kind with
      | varKind => exact Frame.held_declareOutermost x v hframes
      | _ => exact Frame.held_declare x v hframes
    cases value with
    | none => cases kind <;> exact hdeclared _ h
    | some e => cases kind <;> exact hdeclared _ h
  | assignment name operator value =>
    cases operator <;> cases h <;> exact Frame.held_assign _ _ hframes
  | _ => cases h

/-! ## The discipline -/

/-- A name has the same value in frames that hold the same under it. -/
lemma lookup_congr {frames frames' : List Frame} {x : String}
    (h : frames.map (Fields.get? x) = frames'.map (Fields.get? x)) :
    s.lookup frames x = s.lookup frames' x := by
  have hmap : ∀ fs : List Frame,
      fs.findSome? (Fields.get? x) = (fs.map (Fields.get? x)).findSome? id := by
    intro fs
    rw [List.findSome?_map]
    rfl
  rw [Scope.lookup, Scope.lookup, hmap, hmap, h]

/-- What executing a statement does to the frames and the output.  The frames count from the
innermost one. -/
structure FrameDiscipline (s : Scope) (t : Statement) (r after : Run) : Prop where
  length : after.frames.length = r.frames.length
  output : Continues r.output after.output
  kept : ∀ (i : Nat) (f f' : Frame), r.frames[i]? = some f → after.frames[i]? = some f' →
    ∀ x ∈ Fields.names f, x ∈ Fields.names f'
  /-- Names come into the innermost frame by the statement's own `let` or `const` and into the
  outermost one by `var` or by assigning to a name that no frame holds; nowhere else. -/
  added : ∀ (i : Nat) (f f' : Frame), r.frames[i]? = some f → after.frames[i]? = some f' →
    ∀ x ∈ Fields.names f', x ∉ Fields.names f →
      i = 0 ∧ t.Declares x ∨ CreatedIn (Performs s t r) r.frames.length i x
  /-- An assignment on the way changes this frame only if no frame further in holds the name, not
  even one that is gone by now. -/
  values : ∀ (i : Nat) (f f' : Frame), r.frames[i]? = some f → after.frames[i]? = some f' →
    ∀ x, Fields.get? x f' = Fields.get? x f ∨
      i = 0 ∧ t.Declares x ∨ WrittenIn (Performs s t r) r.frames.length i x
  between : ∀ (i : Nat) (f f' : Frame), r.frames[i]? = some f → after.frames[i]? = some f' →
    i ≠ 0 → i + 1 ≠ r.frames.length → ∀ x, x ∈ Fields.names f' ↔ x ∈ Fields.names f
  /-- Only statements inside of it are performed on the way, and those in frames further in. -/
  inside : ∀ u r', Performs s t r u r' →
    u.Within t ∧ (u = t ∧ r' = r ∨ r.frames.length < r'.frames.length)
  /-- Whatever is declared or assigned on the way is held by a frame. -/
  held : ∀ u r', Performs s t r u r' → ∀ x v, stored s u r' = some (x, v) →
    ∃ frame ∈ (execute s u r').frames, Fields.get? x frame = some v
  /-- Names that are declared inside, or bound by a loop, are not visible afterwards. -/
  hidden : ∀ x, ¬ t.Declares x → (∀ u r', Performs s t r u r' → ¬ u.Creates r'.frames x) →
    (∀ frame ∈ r.frames, x ∉ Fields.names frame) → ∀ frame ∈ after.frames, x ∉ Fields.names frame
  /-- Names that nothing inside writes have their value, whatever is declared inside. -/
  unwritten : ∀ x, ¬ t.Declares x → (∀ u r', Performs s t r u r' → ¬ u.Writes x) →
    s.lookup after.frames x = s.lookup r.frames x

section

variable {declared : String → Prop} {performed : Statement → Run → Prop} {r after : Run} {i : Nat}
  {f f' : Frame}

/-- What became of a frame is found in its place. -/
lemma Grows.frame_of (h : Grows declared performed r after) (hf : r.frames[i]? = some f)
    (hf' : after.frames[i]? = some f') :
    Frame.Grows (fun x => i = 0 ∧ declared x ∨ CreatedIn performed r.frames.length i x)
      (fun x => i = 0 ∧ declared x ∨ WrittenIn performed r.frames.length i x) f f' := by
  obtain ⟨g, hg, hgrows⟩ := h.frame i f hf
  obtain rfl : g = f' := Option.some.inj (hg.symm.trans hf')
  exact hgrows

/-- Every frame was there before. -/
lemma Grows.before (h : Grows declared performed r after) (hf' : after.frames[i]? = some f') :
    ∃ f, r.frames[i]? = some f := by
  obtain ⟨hi, -⟩ := List.getElem?_eq_some_iff.1 hf'
  exact ⟨_, List.getElem?_eq_getElem (h.length ▸ hi)⟩

/-- Under a name that is neither declared nor written the frames hold what they held. -/
lemma Grows.map_get? {x : String} (h : Grows declared performed r after) (hd : ¬ declared x)
    (hw : ∀ u r', performed u r' → ¬ u.Writes x) :
    after.frames.map (Fields.get? x) = r.frames.map (Fields.get? x) := by
  refine List.ext_getElem? fun i => ?_
  rw [List.getElem?_map, List.getElem?_map]
  cases hf : r.frames[i]? with
  | none =>
    rw [List.getElem?_eq_none (h.length ▸ List.getElem?_eq_none_iff.1 hf)]
  | some f =>
    obtain ⟨f', hf', hgrows⟩ := h.frame i f hf
    have hsame : Fields.get? x f' = Fields.get? x f := by
      refine (hgrows.values x).resolve_right ?_
      rintro (⟨-, hx⟩ | ⟨u, r', j, hu, -, hx⟩)
      · exact hd hx
      · exact hw u r' hu hx.writes
    rw [hf', Option.map_some, Option.map_some, hsame]

end

/-- Where there is a frame at all, executing a statement keeps to the discipline, however deeply
it is nested and however often its loops run. -/
theorem frame_discipline (s : Scope) (t : Statement) (r : Run) (h : r.frames ≠ []) :
    FrameDiscipline s t r (execute s t r) := by
  have hgrows := grows_execute s t r
  have hadded : ∀ (i : Nat) (f f' : Frame),
      r.frames[i]? = some f → (execute s t r).frames[i]? = some f' →
      ∀ x ∈ Fields.names f', x ∉ Fields.names f →
        i = 0 ∧ t.Declares x ∨ CreatedIn (Performs s t r) r.frames.length i x :=
    fun i f f' hf hf' x hx hnot => ((hgrows.frame_of hf hf').added x hx).resolve_left hnot
  exact {
    length := hgrows.length
    output := hgrows.output
    kept := fun i f f' hf hf' => (hgrows.frame_of hf hf').kept
    added := hadded
    values := fun i f f' hf hf' => (hgrows.frame_of hf hf').values
    between := by
      intro i f f' hf hf' hfirst hlast x
      refine ⟨fun hx => by_contra fun hnot => ?_, (hgrows.frame_of hf hf').kept x⟩
      rcases hadded i f f' hf hf' x hx hnot with ⟨hi, -⟩ | ⟨hi, -⟩
      · exact hfirst hi
      · exact hlast hi
    inside := fun u r' hu => ⟨hu.within, length_performs hu⟩
    held := by
      intro u r' hu x v hx
      refine held_execute ?_ hx
      rcases length_performs hu with ⟨-, rfl⟩ | hmore
      · exact h
      · exact List.ne_nil_of_length_pos (Nat.zero_lt_of_lt hmore)
    hidden := by
      intro x hd hc hnot f' hf' hx
      -- The frame was there before, so that the name would have to be new in it.
      obtain ⟨i, hi⟩ := List.mem_iff_getElem?.1 hf'
      obtain ⟨f, hf⟩ := hgrows.before hi
      rcases hadded i f f' hf hi x hx (hnot f (List.mem_of_getElem? hf)) with
        ⟨-, hx⟩ | ⟨-, u, r', hu, hx⟩
      · exact hd hx
      · exact hc u r' hu hx
    unwritten := fun x hd hw => lookup_congr (hgrows.map_get? hd hw) }

/-- A loop with a line of its own, which also keeps the last person in the outermost frame. -/
def lastPerson : Statement :=
  .forEach "person" .items (.name "people")
    [.declaration .letKind "line" (some (.name "person")),
      .assignment "last" .set (.name "line")]

/-- A program that has declared a line itself, in a block. -/
def insideOfBlock : Run := ⟨[[("line", .text "-")], []], "hi"⟩

/-- A scope without an owner, with the two people as its data. -/
def scopeOfTwo : Scope := ⟨.map twoPeople, .null, "data", []⟩

/-- The line of the loop is gone behind it, and so is the person; the line around it is as it
was. -/
theorem frame_discipline_lastPerson :
    insideOfBlock.frames ≠ [] ∧
      FrameDiscipline scopeOfTwo lastPerson insideOfBlock
        (execute scopeOfTwo lastPerson insideOfBlock) ∧
      (execute scopeOfTwo lastPerson insideOfBlock).frames.map Fields.names =
        [["line"], ["last"]] ∧
      scopeOfTwo.lookup (execute scopeOfTwo lastPerson insideOfBlock).frames "line" = .text "-" ∧
      scopeOfTwo.lookup (execute scopeOfTwo lastPerson insideOfBlock).frames "last" =
        .text "bo" := by
  have hframes : insideOfBlock.frames ≠ [] := List.cons_ne_nil _ _
  exact ⟨hframes, frame_discipline _ _ _ hframes, by decide +kernel, rfl, rfl⟩

end Run
end ViewKit
