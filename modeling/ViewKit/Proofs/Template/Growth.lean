/-
# What programs do to frames

Frames keep their names while a program runs; names are added to them and values in them are
replaced, and the output goes on.  What may be added where is said for every frame that was
there before (`Frame.Grows`), for the frames of a state together (`Run.Grows`), and for the
ways of putting programs together: one action after the other, and an action in a frame of
its own.
-/
import ViewKit.Proofs.Template.Qualified

namespace ViewKit

/-! ## What expressions print -/

/-- A text goes on where another one ends. -/
def Continues (out after : String) : Prop := ∃ more, after = out ++ more

namespace Continues

lemma refl (out : String) : Continues out out := ⟨"", (String.append_empty).symm⟩

lemma append (out more : String) : Continues out (out ++ more) := ⟨more, rfl⟩

lemma trans {out middle after : String} (h : Continues out middle) (h' : Continues middle after) :
    Continues out after := by
  obtain ⟨more, rfl⟩ := h
  obtain ⟨rest, rfl⟩ := h'
  exact ⟨more ++ rest, String.append_assoc⟩

end Continues

mutual

/-- Evaluating an expression only adds to the output. -/
theorem continues_evaluate (s : Scope) (frames : List Frame) :
    ∀ (e : Expression) (out : String), Continues out (evaluate s frames e out).2
  | .literal _, out | .name _, out | .this, out => .refl out
  | .list items, out => continues_evaluateAll s frames items out
  | .object fields, out => continues_evaluateFields s frames fields out
  | .member e p, out => by
    by_cases he : e = .this
    · subst he
      rw [evaluate]
      split <;> exact .refl out
    · rw [Qualifier.evaluate_member s frames he]
      exact continues_evaluate s frames e out
  | .index e i, out =>
    (continues_evaluate s frames i out).trans (continues_evaluate s frames e _)
  | .call (.name n) arguments, out => by
    have harguments := continues_evaluateAll s frames arguments out
    rw [evaluate]
    dsimp only
    split
    · exact harguments.trans (.append _ _)
    · exact harguments
  | .call (.member e p) arguments, out => by
    have harguments := continues_evaluateAll s frames arguments out
    by_cases he : e = .this
    · subst he
      rw [evaluate]
      dsimp only
      split <;> exact harguments
    · rw [Qualifier.evaluate_call_member s frames he]
      exact harguments.trans (continues_evaluate s frames e _)
  | .call (.literal _) arguments, out
  | .call .this arguments, out
  | .call (.list _) arguments, out
  | .call (.object _) arguments, out
  | .call (.index _ _) arguments, out
  | .call (.call _ _) arguments, out
  | .call (.unary _ _) arguments, out
  | .call (.binary _ _ _) arguments, out
  | .call (.conditional _ _ _) arguments, out => continues_evaluateAll s frames arguments out
  | .unary operator e, out => continues_evaluate s frames e out
  | .binary operator a b, out => by
    have ha := continues_evaluate s frames a out
    have hb := continues_evaluate s frames b (evaluate s frames a out).2
    cases operator with
    | and =>
      rw [evaluate]
      dsimp only
      split
      · exact ha.trans hb
      · exact ha
    | or =>
      rw [evaluate]
      dsimp only
      split
      · exact ha
      · exact ha.trans hb
    | _ => exact ha.trans hb
  | .conditional c a b, out => by
    have hc := continues_evaluate s frames c out
    rw [evaluate]
    dsimp only
    split
    · exact hc.trans (continues_evaluate s frames a _)
    · exact hc.trans (continues_evaluate s frames b _)

theorem continues_evaluateAll (s : Scope) (frames : List Frame) :
    ∀ (es : List Expression) (out : String), Continues out (evaluateAll s frames es out).2
  | [], out => .refl out
  | e :: es, out =>
    (continues_evaluate s frames e out).trans (continues_evaluateAll s frames es _)

theorem continues_evaluateFields (s : Scope) (frames : List Frame) :
    ∀ (fields : List (String × Expression)) (out : String),
    Continues out (evaluateFields s frames fields out).2
  | [], out => .refl out
  | (_, e) :: fields, out =>
    (continues_evaluate s frames e out).trans (continues_evaluateFields s frames fields _)

end

/-! ## What becomes of a frame -/

/-- A frame keeps its names.  Only some names may be new in it, and only under some names it may
hold something else. -/
structure Frame.Grows (new changed : String → Prop) (f after : Frame) : Prop where
  kept : ∀ x ∈ Fields.names f, x ∈ Fields.names after
  added : ∀ x ∈ Fields.names after, x ∈ Fields.names f ∨ new x
  values : ∀ x, Fields.get? x after = Fields.get? x f ∨ changed x

namespace Frame.Grows

variable {new changed new' changed' : String → Prop} {f middle after : Frame}

lemma refl (f : Frame) : Grows new changed f f :=
  ⟨fun _ h => h, fun _ h => .inl h, fun _ => .inl rfl⟩

lemma mono (h : Grows new changed f after) (hnew : ∀ x, new x → new' x)
    (hchanged : ∀ x, changed x → changed' x) : Grows new' changed' f after :=
  ⟨h.kept, fun x hx => (h.added x hx).imp_right (hnew x),
    fun x => (h.values x).imp_right (hchanged x)⟩

lemma trans (h : Grows new changed f middle) (h' : Grows new changed middle after) :
    Grows new changed f after where
  kept x hx := h'.kept x (h.kept x hx)
  added x hx := (h'.added x hx).elim (h.added x) .inr
  values x := by
    rcases h'.values x with hsame | hx
    · rw [hsame]
      exact h.values x
    · exact .inr hx

/-- Something is put under a name, which may be new. -/
lemma insert (name : String) (v : Value) (f : Frame) :
    Grows (fun x => x = name ∧ name ∉ Fields.names f) (· = name) f (Fields.insert name v f) where
  kept x hx := by
    rw [Fields.names_insert]
    split
    · exact hx
    · exact List.mem_append_left _ hx
  added x hx := by
    rw [Fields.names_insert] at hx
    split at hx
    · exact .inl hx
    · next hname => exact (List.mem_append.1 hx).imp_right fun h => ⟨List.mem_singleton.1 h, hname⟩
  values x := by
    rw [Fields.get?_insert]
    split
    · next h => exact .inr h
    · exact .inl rfl

end Frame.Grows

/-! ## What statements do to names -/

/-- A statement declares a name in the innermost frame. -/
def Statement.Declares (t : Statement) (x : String) : Prop :=
  match t with
  | .declaration kind name _ => kind ≠ .varKind ∧ x = name
  | _ => False

/-- A statement gives a name a value in whichever frame is found for it. -/
def Statement.Writes (t : Statement) (x : String) : Prop :=
  match t with
  | .declaration kind name _ => kind = .varKind ∧ x = name
  | .assignment name _ _ => x = name
  | _ => False

/-- A statement gives a name a place in the outermost frame: `var` does, and an assignment
where no frame holds the name. -/
def Statement.Creates (t : Statement) (frames : List Frame) (x : String) : Prop :=
  match t with
  | .declaration kind name _ => kind = .varKind ∧ x = name
  | .assignment name _ _ => x = name ∧ ∀ frame ∈ frames, name ∉ Fields.names frame
  | _ => False

/-- An assignment to a name is for this frame: none further in holds the name, and it holds the
name itself or is the outermost one. -/
def Frame.IsTarget (frames : List Frame) (name : String) (i : Nat) : Prop :=
  (∀ frame ∈ frames.take i, name ∉ Fields.names frame) ∧
    ∀ f, frames[i]? = some f → name ∈ Fields.names f ∨ i + 1 = frames.length

/-- A statement gives a name a value in a certain frame. -/
def Statement.WritesTo (t : Statement) (frames : List Frame) (i : Nat) (x : String) : Prop :=
  match t with
  | .declaration kind name _ => (kind = .varKind ∧ x = name) ∧ i + 1 = frames.length
  | .assignment name _ _ => x = name ∧ Frame.IsTarget frames name i
  | _ => False

lemma Statement.WritesTo.writes {t : Statement} {frames : List Frame} {i : Nat} {x : String}
    (h : t.WritesTo frames i x) : t.Writes x := by
  cases t with
  | declaration => exact h.1
  | assignment => exact h.1
  | _ => exact h

/-! ## What becomes of the frames and the output -/

section Places

variable (performed : Statement → Run → Prop) (n i : Nat) (x : String)

/-- A name was created in the frame with this place among `n` frames. -/
def Run.CreatedIn : Prop :=
  i + 1 = n ∧ ∃ u r', performed u r' ∧ u.Creates r'.frames x

/-- A name was written in the frame with this place among `n` frames.  It has another place
where there are more frames, but as many frames are further out. -/
def Run.WrittenIn : Prop :=
  ∃ u r' j, performed u r' ∧ j + n = i + r'.frames.length ∧ u.WritesTo r'.frames j x

variable {performed n i x}

lemma Run.CreatedIn.mono {performed' : Statement → Run → Prop} (h : CreatedIn performed n i x)
    (hp : ∀ u r', performed u r' → performed' u r') : CreatedIn performed' n i x := by
  obtain ⟨hi, u, r', hu, hx⟩ := h
  exact ⟨hi, u, r', hp u r' hu, hx⟩

lemma Run.WrittenIn.mono {performed' : Statement → Run → Prop} (h : WrittenIn performed n i x)
    (hp : ∀ u r', performed u r' → performed' u r') : WrittenIn performed' n i x := by
  obtain ⟨u, r', j, hu, hj, hx⟩ := h
  exact ⟨u, r', j, hp u r' hu, hj, hx⟩

lemma Run.CreatedIn.outer (h : CreatedIn performed (n + 1) (i + 1) x) :
    CreatedIn performed n i x :=
  ⟨Nat.succ.inj h.1, h.2⟩

lemma Run.WrittenIn.outer (h : WrittenIn performed (n + 1) (i + 1) x) :
    WrittenIn performed n i x := by
  obtain ⟨u, r', j, hu, hj, hx⟩ := h
  exact ⟨u, r', j, hu, by omega, hx⟩

end Places

/-- What a program did between two states while some statements were performed, each from its
own state.  The frames are those that were there before; the innermost one may have gained
names by declarations and the outermost one names that were created, and only declared names
and those written in a frame may have other values there.  The output goes on. -/
structure Run.Grows (declared : String → Prop) (performed : Statement → Run → Prop)
    (r after : Run) : Prop where
  output : Continues r.output after.output
  length : after.frames.length = r.frames.length
  frame : ∀ i f, r.frames[i]? = some f → ∃ f', after.frames[i]? = some f' ∧
    Frame.Grows (fun x => i = 0 ∧ declared x ∨ CreatedIn performed r.frames.length i x)
      (fun x => i = 0 ∧ declared x ∨ WrittenIn performed r.frames.length i x) f f'

namespace Run.Grows

variable {declared declared' : String → Prop} {performed performed' : Statement → Run → Prop}
  {r middle after : Run}

/-- Where the frames are as they were only the output matters. -/
lemma of_frames_eq (hframes : after.frames = r.frames) (h : Continues r.output after.output) :
    Grows declared performed r after :=
  ⟨h, congrArg List.length hframes, fun _ f hf => ⟨f, hframes ▸ hf, .refl f⟩⟩

lemma refl (r : Run) : Grows declared performed r r := of_frames_eq rfl (.refl _)

lemma mono (h : Grows declared performed r after) (hd : ∀ x, declared x → declared' x)
    (hp : ∀ u r', performed u r' → performed' u r') : Grows declared' performed' r after := by
  refine ⟨h.output, h.length, fun i f hf => ?_⟩
  obtain ⟨f', hf', hgrows⟩ := h.frame i f hf
  refine ⟨f', hf', hgrows.mono (fun x => ?_) fun x => ?_⟩
  · exact .imp (.imp_right (hd x)) fun hx => hx.mono hp
  · exact .imp (.imp_right (hd x)) fun hx => hx.mono hp

lemma trans (h : Grows declared performed r middle) (h' : Grows declared performed middle after) :
    Grows declared performed r after := by
  refine ⟨h.output.trans h'.output, h'.length.trans h.length, fun i f hf => ?_⟩
  obtain ⟨g, hg, hfirst⟩ := h.frame i f hf
  obtain ⟨f', hf', hsecond⟩ := h'.frame i g hg
  rw [h.length] at hsecond
  exact ⟨f', hf', hfirst.trans hsecond⟩

/-- What a block declares is gone with its frame. -/
lemma inFrame {frame : Frame} {action : Run → Run}
    (h : Grows declared performed ⟨frame :: r.frames, r.output⟩
      (action ⟨frame :: r.frames, r.output⟩)) :
    Grows declared' performed r (Run.inFrame frame action r) := by
  refine ⟨h.output, ?_, fun i f hf => ?_⟩
  · rw [Run.inFrame, List.length_drop, h.length, List.length_cons, Nat.add_sub_cancel]
  · obtain ⟨f', hf', hgrows⟩ := h.frame (i + 1) f hf
    refine ⟨f', ?_, hgrows.mono (fun x hx => ?_) fun x hx => ?_⟩
    · rw [Run.inFrame, List.getElem?_drop, Nat.add_comm]
      exact hf'
    · exact .inr (hx.resolve_left fun h => Nat.succ_ne_zero i h.1).outer
    · exact .inr (hx.resolve_left fun h => Nat.succ_ne_zero i h.1).outer

/-- Actions one after the other, each from the state that those before it have left. -/
lemma foldl {α : Type} {f : Run → α → Run} {as : List α}
    (h : ∀ before a rest, as = before ++ a :: rest →
      Grows declared performed (before.foldl f r) (f (before.foldl f r) a)) :
    Grows declared performed r (as.foldl f r) := by
  induction as generalizing r with
  | nil => exact .refl r
  | cons a as ih =>
    refine (h [] a as rfl).trans (ih fun before b rest hrest => ?_)
    exact h (a :: before) b rest (by rw [hrest, List.cons_append])

end Run.Grows

/-! ## Declaring and assigning -/

section Binding

variable (name : String) (v : Value) (frames : List Frame)

lemma Frame.length_declare : (declare name v frames).length = frames.length := by
  cases frames <;> rfl

lemma Frame.length_declareOutermost : (declareOutermost name v frames).length = frames.length := by
  fun_induction declareOutermost name v frames with
  | case3 f fs _ ih => exact congrArg Nat.succ ih
  | _ => rfl

lemma Frame.length_assign : (assign name v frames).length = frames.length := by
  fun_induction assign name v frames with
  | case4 f fs _ _ ih => exact congrArg Nat.succ ih
  | _ => rfl

lemma Frame.declare_grows (i : Nat) {f : Frame} (hf : frames[i]? = some f) :
    ∃ f', (declare name v frames)[i]? = some f' ∧
      Grows (fun x => i = 0 ∧ x = name) (fun x => i = 0 ∧ x = name) f f' := by
  cases frames with
  | nil => cases hf
  | cons g fs =>
    cases i with
    | zero =>
      obtain rfl : g = f := Option.some.inj hf
      exact ⟨_, rfl, (Grows.insert name v g).mono (fun x hx => ⟨rfl, hx.1⟩) fun x hx => ⟨rfl, hx⟩⟩
    | succ i => exact ⟨f, hf, .refl f⟩

lemma Frame.declareOutermost_grows (i : Nat) {f : Frame} (hf : frames[i]? = some f) :
    ∃ f', (declareOutermost name v frames)[i]? = some f' ∧
      Grows (fun x => i + 1 = frames.length ∧ x = name) (fun x => i + 1 = frames.length ∧ x = name)
        f f' := by
  fun_induction declareOutermost name v frames generalizing i with
  | case1 => cases hf
  | case2 g =>
    cases i with
    | zero =>
      obtain rfl : g = f := Option.some.inj hf
      exact ⟨_, rfl, (Grows.insert name v g).mono (fun x hx => ⟨rfl, hx.1⟩) fun x hx => ⟨rfl, hx⟩⟩
    | succ i => cases hf
  | case3 g fs hfs ih =>
    cases i with
    | zero => exact ⟨f, hf, .refl f⟩
    | succ i =>
      obtain ⟨f', hf', hgrows⟩ := ih i hf
      refine ⟨f', hf', hgrows.mono (fun x hx => ?_) fun x hx => ?_⟩
      · exact ⟨congrArg Nat.succ hx.1, hx.2⟩
      · exact ⟨congrArg Nat.succ hx.1, hx.2⟩

section Target

variable {name} {g : Frame} {fs : List Frame}

lemma Frame.isTarget_outermost : IsTarget [g] name 0 :=
  ⟨List.forall_mem_nil _, fun _ _ => .inr rfl⟩

lemma Frame.isTarget_zero (h : name ∈ Fields.names g) : IsTarget (g :: fs) name 0 := by
  refine ⟨List.forall_mem_nil _, fun f hf => .inl ?_⟩
  obtain rfl : g = f := Option.some.inj hf
  exact h

lemma Frame.IsTarget.succ {i : Nat} (h : IsTarget fs name i) (hg : name ∉ Fields.names g) :
    IsTarget (g :: fs) name (i + 1) :=
  ⟨List.forall_mem_cons.2 ⟨hg, h.1⟩, fun f hf => (h.2 f hf).imp_right (congrArg Nat.succ)⟩

end Target

/-- An assignment adds its name only where no frame holds it, and then to the outermost one, and
it changes one frame only. -/
lemma Frame.assign_grows (i : Nat) {f : Frame} (hf : frames[i]? = some f) :
    ∃ f', (assign name v frames)[i]? = some f' ∧
      Grows (fun x => i + 1 = frames.length ∧ x = name ∧
          ∀ frame ∈ frames, name ∉ Fields.names frame)
        (fun x => x = name ∧ IsTarget frames name i) f f' := by
  fun_induction assign name v frames generalizing i with
  | case1 => cases hf
  | case2 g =>
    cases i with
    | zero =>
      obtain rfl : g = f := Option.some.inj hf
      refine ⟨_, rfl, (Grows.insert name v g).mono (fun x hx => ⟨rfl, hx.1, ?_⟩) fun x hx => ?_⟩
      · exact List.forall_mem_singleton.2 hx.2
      · exact ⟨hx, isTarget_outermost⟩
    | succ i => cases hf
  | case3 g fs hfs hg =>
    have hmem : name ∈ Fields.names g := Fields.contains_iff.1 hg
    cases i with
    | zero =>
      obtain rfl : g = f := Option.some.inj hf
      refine ⟨_, rfl, (Grows.insert name v g).mono (fun x hx => absurd hmem hx.2) fun x hx => ?_⟩
      exact ⟨hx, isTarget_zero hmem⟩
    | succ i => exact ⟨f, hf, .refl f⟩
  | case4 g fs hfs hg ih =>
    have hnot : name ∉ Fields.names g := fun hmem => hg (Fields.contains_iff.2 hmem)
    cases i with
    | zero => exact ⟨f, hf, .refl f⟩
    | succ i =>
      obtain ⟨f', hf', hgrows⟩ := ih i hf
      refine ⟨f', hf', hgrows.mono (fun x hx => ?_) fun x hx => ⟨hx.1, hx.2.succ hnot⟩⟩
      exact ⟨congrArg Nat.succ hx.1, hx.2.1, List.forall_mem_cons.2 ⟨hnot, hx.2.2⟩⟩

variable {frames}

/-- With a frame to declare it in, a value is not lost. -/
lemma Frame.held_declare (h : frames ≠ []) :
    ∃ frame ∈ declare name v frames, Fields.get? name frame = some v := by
  cases frames with
  | nil => exact absurd rfl h
  | cons f fs => exact ⟨_, List.mem_cons_self, Fields.get?_insert_self name v f⟩

lemma Frame.held_declareOutermost (h : frames ≠ []) :
    ∃ frame ∈ declareOutermost name v frames, Fields.get? name frame = some v := by
  fun_induction declareOutermost name v frames with
  | case1 => exact absurd rfl h
  | case2 f => exact ⟨_, List.mem_cons_self, Fields.get?_insert_self name v f⟩
  | case3 f fs hfs ih =>
    obtain ⟨frame, hframe, hv⟩ := ih hfs
    exact ⟨frame, List.mem_cons_of_mem f hframe, hv⟩

lemma Frame.held_assign (h : frames ≠ []) :
    ∃ frame ∈ assign name v frames, Fields.get? name frame = some v := by
  fun_induction assign name v frames with
  | case1 => exact absurd rfl h
  | case2 f => exact ⟨_, List.mem_cons_self, Fields.get?_insert_self name v f⟩
  | case3 f fs hfs hf => exact ⟨_, List.mem_cons_self, Fields.get?_insert_self name v f⟩
  | case4 f fs hfs hf ih =>
    obtain ⟨frame, hframe, hv⟩ := ih hfs
    exact ⟨frame, List.mem_cons_of_mem f hframe, hv⟩

end Binding

end ViewKit
