/-
# Bare and qualified names

The fields of the data can be named directly, and as members of the variable that stands for
the data as a whole.  A bare name is looked up in all frames first, so the two agree only as
long as no frame declares the name or the variable.  A program that binds none of them keeps
its frames that way (`Qualifier.Clear`), whatever blocks and loops it goes through; so naming
the fields through the variable wherever they are evaluated changes nothing that is rendered
(`Template.renderWith_qualified`).
-/
import Mathlib.Tactic.Lemma
import ViewKit.Proofs.Fields
import ViewKit.Template.Basic

namespace ViewKit

/-! ## Binding and qualifying names -/

mutual

/-- The names that a statement declares, assigns or binds in a loop. -/
def Statement.boundNames : Statement → List String
  | .declaration _ name _ => [name]
  | .assignment name _ _ => [name]
  | .branch _ thenBody elseBody => boundNamesOfAll thenBody ++ boundNamesOfAll elseBody
  | .forEach binding _ _ body => binding :: boundNamesOfAll body
  | .loop start _ step body =>
    boundNamesOfOption start ++ (boundNamesOfOption step ++ boundNamesOfAll body)
  | .expression _ => []

/-- The names that some statements bind. -/
def Statement.boundNamesOfAll : List Statement → List String
  | [] => []
  | t :: ts => t.boundNames ++ boundNamesOfAll ts

/-- The names that a statement binds if there is one. -/
def Statement.boundNamesOfOption : Option Statement → List String
  | none => []
  | some t => t.boundNames

end

/-- The names that a program binds. -/
def Program.boundNames (p : Program) : List String := Statement.boundNamesOfAll p

/-- A variable, and names that are to be written as its members. -/
structure Qualifier where
  variableName : String
  names : List String

namespace Qualifier

mutual

/-- The expression with the names written as members of the variable where they are
evaluated.  The name of a called function is not evaluated. -/
def expression (q : Qualifier) : Expression → Expression
  | .literal l => .literal l
  | .name n => if n ∈ q.names then .member (.name q.variableName) n else .name n
  | .this => .this
  | .list items => .list (expressions q items)
  | .object fields => .object (fieldExpressions q fields)
  | .member e p => .member (expression q e) p
  | .index e i => .index (expression q e) (expression q i)
  | .call (.name n) arguments => .call (.name n) (expressions q arguments)
  | .call callee arguments => .call (expression q callee) (expressions q arguments)
  | .unary operator e => .unary operator (expression q e)
  | .binary operator a b => .binary operator (expression q a) (expression q b)
  | .conditional c a b => .conditional (expression q c) (expression q a) (expression q b)

/-- The expressions of a list, qualified. -/
def expressions (q : Qualifier) : List Expression → List Expression
  | [] => []
  | e :: es => expression q e :: expressions q es

/-- The fields of an object, their values qualified. -/
def fieldExpressions (q : Qualifier) : List (String × Expression) → List (String × Expression)
  | [] => []
  | (name, e) :: fields => (name, expression q e) :: fieldExpressions q fields

end

mutual

/-- The statement with all its expressions qualified. -/
def statement (q : Qualifier) : Statement → Statement
  | .declaration kind name value => .declaration kind name (value.map q.expression)
  | .assignment name operator value => .assignment name operator (q.expression value)
  | .branch condition thenBody elseBody =>
    .branch (q.expression condition) (statements q thenBody) (statements q elseBody)
  | .forEach binding kind iterable body =>
    .forEach binding kind (q.expression iterable) (statements q body)
  | .loop start condition step body =>
    .loop (optionalStatement q start) (condition.map q.expression) (optionalStatement q step)
      (statements q body)
  | .expression e => .expression (q.expression e)

/-- The statements of a list, qualified. -/
def statements (q : Qualifier) : List Statement → List Statement
  | [] => []
  | t :: ts => statement q t :: statements q ts

/-- A statement qualified, if there is one. -/
def optionalStatement (q : Qualifier) : Option Statement → Option Statement
  | none => none
  | some t => some (statement q t)

end

/-- The program with its names qualified. -/
def program (q : Qualifier) (p : Program) : Program := q.statements p

/-! ## Frames that leave the names to the data -/

/-- The variable and the names that are written as its members. -/
def Covers (q : Qualifier) (name : String) : Prop := name = q.variableName ∨ name ∈ q.names

/-- A frame declares no name that is covered. -/
def ClearFrame (q : Qualifier) (frame : Frame) : Prop :=
  ∀ name, q.Covers name → Fields.get? name frame = none

/-- No frame declares a name that is covered. -/
def Clear (q : Qualifier) (frames : List Frame) : Prop := ∀ frame ∈ frames, q.ClearFrame frame

variable {q : Qualifier}

lemma clearFrame_nil : q.ClearFrame [] := fun _ _ => rfl

lemma ClearFrame.insert {frame : Frame} (h : q.ClearFrame frame) {name : String}
    (hname : ¬ q.Covers name) (v : Value) : q.ClearFrame (Fields.insert name v frame) := by
  intro other hother
  have hne : other ≠ name := fun e => hname (e ▸ hother)
  rw [Fields.get?_insert_of_ne hne]
  exact h other hother

lemma Clear.cons {frame : Frame} {frames : List Frame} (hframe : q.ClearFrame frame)
    (h : q.Clear frames) : q.Clear (frame :: frames) := by
  intro other hother
  rcases List.mem_cons.1 hother with rfl | hother
  · exact hframe
  · exact h other hother

lemma Clear.head {frame : Frame} {frames : List Frame} (h : q.Clear (frame :: frames)) :
    q.ClearFrame frame :=
  h frame List.mem_cons_self

lemma Clear.tail {frame : Frame} {frames : List Frame} (h : q.Clear (frame :: frames)) :
    q.Clear frames :=
  fun other hother => h other (List.mem_cons_of_mem _ hother)

lemma Clear.drop {frames : List Frame} (h : q.Clear frames) (n : Nat) :
    q.Clear (frames.drop n) :=
  fun other hother => h other (List.mem_of_mem_drop hother)

section Binding

variable {frames : List Frame} {name : String} (h : q.Clear frames) (hname : ¬ q.Covers name)
  (v : Value)

include h hname

lemma Clear.declare : q.Clear (Frame.declare name v frames) := by
  cases frames with
  | nil => exact h
  | cons frame frames => exact .cons (h.head.insert hname v) h.tail

lemma Clear.declareOutermost : q.Clear (Frame.declareOutermost name v frames) := by
  fun_induction Frame.declareOutermost name v frames with
  | case1 => exact h
  | case2 frame => exact .cons (h.head.insert hname v) h.tail
  | case3 frame frames _ ih => exact .cons h.head (ih h.tail)

lemma Clear.assign : q.Clear (Frame.assign name v frames) := by
  fun_induction Frame.assign name v frames with
  | case1 => exact h
  | case2 frame => exact .cons (h.head.insert hname v) h.tail
  | case3 frame frames _ _ => exact .cons (h.head.insert hname v) h.tail
  | case4 frame frames _ _ ih => exact .cons h.head (ih h.tail)

end Binding

/-- Frames that are clear play no part in looking up a covered name. -/
lemma Clear.findSome? {frames : List Frame} (h : q.Clear frames) {name : String}
    (hname : q.Covers name) : frames.findSome? (Fields.get? name) = none :=
  List.findSome?_eq_none_iff.2 fun frame hframe => h frame hframe name hname

/-- The data of a scope has the names as fields, and it is reached through the variable, of
which no field has the name. -/
structure Suits (q : Qualifier) (s : Scope) : Prop where
  variableName_eq : s.variableName = q.variableName
  isMap : ∃ fields, s.data = .map fields
  variable_not_field : s.data.field? q.variableName = none
  isField : ∀ name ∈ q.names, ∃ v, s.data.field? name = some v

variable {s : Scope} {frames : List Frame}

/-- A field has the same value by its bare name and as a member of the variable. -/
lemma lookup_qualified (hs : q.Suits s) (hframes : q.Clear frames) {name : String}
    (hname : name ∈ q.names) :
    (s.lookup frames q.variableName).property name = s.lookup frames name := by
  obtain ⟨fields, hdata⟩ := hs.isMap
  obtain ⟨v, hv⟩ := hs.isField name hname
  have hbare : s.lookup frames name = v := by
    rw [Scope.lookup, hframes.findSome? (.inr hname), hv]
  have hwhole : s.lookup frames q.variableName = s.data := by
    rw [Scope.lookup, hframes.findSome? (.inl rfl), hs.variable_not_field]
    simp [hs.variableName_eq]
  rw [hwhole, hbare]
  rw [hdata] at hv ⊢
  have hchild : (Value.map fields).child? name = some v := hv
  rw [Value.property, hchild]
  · rfl
  · nofun
  · nofun

/-! ## Expressions -/

/-- Qualifying makes no other expression the owner. -/
lemma expression_ne_this {e : Expression} (h : e ≠ .this) : q.expression e ≠ .this := by
  fun_cases expression q e with
  | case4 => exact absurd rfl h
  | _ => simp

/-- A call stays a call. -/
lemma expression_call (q : Qualifier) (callee : Expression) (arguments : List Expression) :
    ∃ callee',
      q.expression (.call callee arguments) = .call callee' (q.expressions arguments) := by
  by_cases h : ∃ n, callee = .name n
  · obtain ⟨n, rfl⟩ := h
    exact ⟨.name n, rfl⟩
  · refine ⟨q.expression callee, ?_⟩
    rw [expression]
    exact fun n hn => h ⟨n, hn⟩

/-- A member of anything but the owner is a property of its value. -/
lemma evaluate_member (s : Scope) (frames : List Frame) {e : Expression} (h : e ≠ .this)
    (p : String) (out : String) :
    evaluate s frames (.member e p) out =
      ((evaluate s frames e out).1.property p, (evaluate s frames e out).2) := by
  cases e with
  | this => exact absurd rfl h
  | _ => rfl

/-- A member of anything but the owner is called as a method, after the arguments. -/
lemma evaluate_call_member (s : Scope) (frames : List Frame) {e : Expression} (h : e ≠ .this)
    (p : String) (arguments : List Expression) (out : String) :
    evaluate s frames (.call (.member e p) arguments) out =
      ((evaluate s frames e (evaluateAll s frames arguments out).2).1.method p
          (evaluateAll s frames arguments out).1,
        (evaluate s frames e (evaluateAll s frames arguments out).2).2) := by
  cases e with
  | this => exact absurd rfl h
  | _ => rfl

mutual

/-- In clear frames a qualified expression has the value of the expression, and prints the
same. -/
theorem evaluate_expression (hs : q.Suits s) (hframes : q.Clear frames) :
    ∀ (e : Expression) (out : String),
    evaluate s frames (q.expression e) out = evaluate s frames e out
  | .literal _, _ => rfl
  | .this, _ => rfl
  | .name n, out => by
    rw [expression]
    split
    · next hn =>
      have hlookup := lookup_qualified hs hframes hn
      have hne : Expression.name q.variableName ≠ .this := nofun
      rw [evaluate_member s frames hne]
      simp only [evaluate, hlookup]
    · rfl
  | .list items, out => by
    rw [expression, evaluate, evaluate, evaluate_expressions hs hframes items]
  | .object fields, out => by
    rw [expression, evaluate, evaluate, evaluate_fieldExpressions hs hframes fields]
  | .member e p, out => by
    rw [expression]
    by_cases he : e = .this
    · subst he
      rfl
    · rw [evaluate_member s frames he, evaluate_member s frames (expression_ne_this he),
        evaluate_expression hs hframes e]
  | .index e i, out => by
    rw [expression, evaluate, evaluate, evaluate_expression hs hframes i]
    simp only [evaluate_expression hs hframes e]
  | .call (.name n) arguments, out => by
    rw [expression, evaluate, evaluate, evaluate_expressions hs hframes arguments]
  | .call (.member e p) arguments, out => by
    rw [expression, expression]
    by_cases he : e = .this
    · subst he
      rw [expression, evaluate, evaluate, evaluate_expressions hs hframes arguments]
    · rw [evaluate_call_member s frames he, evaluate_call_member s frames (expression_ne_this he),
        evaluate_expressions hs hframes arguments, evaluate_expression hs hframes e]
    · nofun
  | .call (.literal _) arguments, out
  | .call .this arguments, out
  | .call (.list _) arguments, out
  | .call (.object _) arguments, out
  | .call (.index _ _) arguments, out
  | .call (.unary _ _) arguments, out
  | .call (.binary _ _ _) arguments, out
  | .call (.conditional _ _ _) arguments, out => by
    simp [expression, evaluate, evaluate_expressions hs hframes arguments]
  | .call (.call callee arguments') arguments, out => by
    obtain ⟨callee', hcallee⟩ := expression_call q callee arguments'
    rw [expression, hcallee]
    · simp only [evaluate, evaluate_expressions hs hframes arguments]
    · nofun
  | .unary operator e, out => by
    rw [expression, evaluate, evaluate, evaluate_expression hs hframes e]
  | .binary operator a b, out => by
    have ha := evaluate_expression hs hframes a
    have hb := evaluate_expression hs hframes b
    rw [expression]
    cases operator <;> simp only [evaluate, ha, hb]
  | .conditional c a b, out => by
    rw [expression, evaluate, evaluate, evaluate_expression hs hframes c]
    simp only [evaluate_expression hs hframes a, evaluate_expression hs hframes b]

theorem evaluate_expressions (hs : q.Suits s) (hframes : q.Clear frames) :
    ∀ (es : List Expression) (out : String),
    evaluateAll s frames (q.expressions es) out = evaluateAll s frames es out
  | [], _ => rfl
  | e :: es, out => by
    rw [expressions, evaluateAll, evaluateAll, evaluate_expression hs hframes e]
    simp only [evaluate_expressions hs hframes es]

theorem evaluate_fieldExpressions (hs : q.Suits s) (hframes : q.Clear frames) :
    ∀ (fields : List (String × Expression)) (out : String),
    evaluateFields s frames (q.fieldExpressions fields) out = evaluateFields s frames fields out
  | [], _ => rfl
  | (name, e) :: fields, out => by
    rw [fieldExpressions, evaluateFields, evaluateFields, evaluate_expression hs hframes e]
    simp only [evaluate_fieldExpressions hs hframes fields]

end

/-! ## Statements -/

/-- Two actions that, from clear frames on, leave the same state, its frames clear. -/
def SameRuns (q : Qualifier) (f g : Run → Run) : Prop :=
  ∀ r : Run, q.Clear r.frames → f r = g r ∧ q.Clear (g r).frames

namespace SameRuns

variable {f g f' g' : Run → Run}

lemma refl_id : q.SameRuns id id := fun _ hr => ⟨rfl, hr⟩

lemma comp (h : q.SameRuns f g) (h' : q.SameRuns f' g') :
    q.SameRuns (fun r => f' (f r)) (fun r => g' (g r)) := by
  intro r hr
  obtain ⟨heq, hclear⟩ := h r hr
  simp only [heq]
  exact h' (g r) hclear

lemma inFrame {frame : Frame} (hframe : q.ClearFrame frame) (h : q.SameRuns f g) :
    q.SameRuns (Run.inFrame frame f) (Run.inFrame frame g) := by
  intro r hr
  obtain ⟨heq, hclear⟩ := h ⟨frame :: r.frames, r.output⟩ (.cons hframe hr)
  refine ⟨?_, hclear.drop 1⟩
  rw [Run.inFrame, heq]
  rfl

lemma ite (h : q.SameRuns f g) (h' : q.SameRuns f' g') (c : Bool) :
    q.SameRuns (fun r => if c then f r else f' r) (fun r => if c then g r else g' r) := by
  cases c with
  | true => exact h
  | false => exact h'

lemma foldl {α : Type} {f g : α → Run → Run} (h : ∀ a, q.SameRuns (f a) (g a))
    (as : List α) :
    q.SameRuns (fun r => as.foldl (fun r a => f a r) r)
      (fun r => as.foldl (fun r a => g a r) r) := by
  induction as with
  | nil => exact refl_id
  | cons a as ih => exact (h a).comp ih

/-- Rounds stay together if each one does and the condition has the same truth, round by
round. -/
lemma rounds {c c' : Run → Bool × Run}
    (hc : ∀ r : Run, q.Clear r.frames → c r = c' r ∧ q.Clear (c' r).2.frames)
    (h : q.SameRuns f g) (limit : Nat) :
    q.SameRuns (Run.rounds c f limit) (Run.rounds c' g limit) := by
  induction limit with
  | zero =>
    intro r hr
    obtain ⟨heq, hclear⟩ := hc r hr
    exact ⟨congrArg Prod.snd heq, hclear⟩
  | succ limit ih =>
    intro r hr
    obtain ⟨heq, hclear⟩ := hc r hr
    rw [Run.rounds, Run.rounds, heq]
    generalize c' r = result at hclear
    obtain ⟨goOn, r'⟩ := result
    cases goOn with
    | true => exact h.comp ih r' hclear
    | false => exact ⟨rfl, hclear⟩

end SameRuns

lemma evaluate_run (hs : q.Suits s) (e : Expression) {r : Run} (hr : q.Clear r.frames) :
    r.evaluate s (q.expression e) = r.evaluate s e := by
  rw [Run.evaluate, Run.evaluate, evaluate_expression hs hr]

lemma holds_qualified (hs : q.Suits s) (c : Option Expression) (r : Run)
    (hr : q.Clear r.frames) :
    Run.holds s (c.map q.expression) r = Run.holds s c r ∧
      q.Clear (Run.holds s c r).2.frames := by
  cases c with
  | none => exact ⟨rfl, hr⟩
  | some e =>
    rw [Option.map_some, Run.holds, Run.holds, evaluate_run hs e hr]
    exact ⟨rfl, hr⟩

mutual

/-- A qualified statement does what the statement does, and no name that it binds gets into
the way of the covered ones. -/
theorem sameRuns_statement (hs : q.Suits s) :
    ∀ (t : Statement), (∀ name ∈ t.boundNames, ¬ q.Covers name) →
      q.SameRuns (Run.execute s (q.statement t)) (Run.execute s t)
  | .declaration kind name value, hbound => by
    intro r hr
    have hname : ¬ q.Covers name := hbound name List.mem_cons_self
    cases value with
    | none =>
      cases kind with
      | varKind => exact ⟨rfl, hr.declareOutermost hname _⟩
      | _ => exact ⟨rfl, hr.declare hname _⟩
    | some e =>
      rw [statement, Option.map_some, Run.execute, Run.execute, evaluate_run hs e hr]
      cases kind with
      | varKind => exact ⟨rfl, hr.declareOutermost hname _⟩
      | _ => exact ⟨rfl, hr.declare hname _⟩
  | .assignment name operator value, hbound => by
    intro r hr
    have hname : ¬ q.Covers name := hbound name List.mem_cons_self
    rw [statement, Run.execute, Run.execute, evaluate_run hs value hr]
    exact ⟨rfl, hr.assign hname _⟩
  | .branch condition thenBody elseBody, hbound => by
    intro r hr
    have hthen := sameRuns_statements hs thenBody fun n hn =>
      hbound n (List.mem_append_left _ hn)
    have helse := sameRuns_statements hs elseBody fun n hn =>
      hbound n (List.mem_append_right _ hn)
    rw [statement, Run.execute, Run.execute, evaluate_run hs condition hr]
    exact (hthen.inFrame clearFrame_nil).ite (helse.inFrame clearFrame_nil)
      (r.evaluate s condition).1.truthy (r.evaluate s condition).2 hr
  | .forEach binding kind iterable body, hbound => by
    intro r hr
    have hbinding : ¬ q.Covers binding := hbound binding List.mem_cons_self
    have hbody := sameRuns_statements hs body fun n hn => hbound n (List.mem_cons_of_mem _ hn)
    have hround : ∀ part : Value, q.SameRuns
        (Run.inFrame [(binding, part)] (Run.executeAll s (q.statements body)))
        (Run.inFrame [(binding, part)] (Run.executeAll s body)) :=
      fun part => hbody.inFrame (clearFrame_nil.insert hbinding part)
    rw [statement, Run.execute, Run.execute, evaluate_run hs iterable hr]
    exact SameRuns.foldl hround _ _ hr
  | .loop start condition step body, hbound => by
    have hstart := sameRuns_optionalStatement hs start fun n hn =>
      hbound n (List.mem_append_left _ hn)
    have hstep := sameRuns_optionalStatement hs step fun n hn =>
      hbound n (List.mem_append_right _ (List.mem_append_left _ hn))
    have hbody := sameRuns_statements hs body fun n hn =>
      hbound n (List.mem_append_right _ (List.mem_append_right _ hn))
    have hround := (hbody.inFrame clearFrame_nil).comp hstep
    exact (hstart.comp (hround.rounds (holds_qualified hs condition) loopLimit)).inFrame
      clearFrame_nil
  | .expression e, _ => by
    intro r hr
    rw [statement, Run.execute, Run.execute, evaluate_run hs e hr]
    exact ⟨rfl, hr⟩

theorem sameRuns_statements (hs : q.Suits s) :
    ∀ (ts : List Statement), (∀ name ∈ Statement.boundNamesOfAll ts, ¬ q.Covers name) →
      q.SameRuns (Run.executeAll s (q.statements ts)) (Run.executeAll s ts)
  | [], _ => fun _ hr => ⟨rfl, hr⟩
  | t :: ts, hbound =>
    (sameRuns_statement hs t fun n hn => hbound n (List.mem_append_left _ hn)).comp
      (sameRuns_statements hs ts fun n hn => hbound n (List.mem_append_right _ hn))

theorem sameRuns_optionalStatement (hs : q.Suits s) :
    ∀ (t : Option Statement), (∀ name ∈ Statement.boundNamesOfOption t, ¬ q.Covers name) →
      q.SameRuns (Run.executeOption s (q.optionalStatement t)) (Run.executeOption s t)
  | none, _ => fun _ hr => ⟨rfl, hr⟩
  | some t, hbound => sameRuns_statement hs t hbound

end

/-- A program that binds no covered name has the same output when it is qualified. -/
lemma output_program (hs : q.Suits s) {p : Program}
    (hbound : ∀ name ∈ p.boundNames, ¬ q.Covers name) :
    (q.program p).output s = p.output s := by
  have hclear : q.Clear [[]] := Clear.cons clearFrame_nil nofun
  exact congrArg Run.output (sameRuns_statements hs p hbound ⟨[[]], ""⟩ hclear).1

end Qualifier

/-- A template renders the same with fields of the data named directly and as members of its
variable, if no field has the name of the variable and the program binds neither the variable
nor any of these fields. -/
theorem Template.renderWith_qualified (t : Template) (names : List String)
    (fields : List (String × Value)) (owner : Value)
    (hvariable : t.variableName ∉ Fields.names fields) (hnames : names ⊆ Fields.names fields)
    (hbound : ∀ name ∈ t.program.boundNames, name ≠ t.variableName ∧ name ∉ names) :
    { t with program := Qualifier.program ⟨t.variableName, names⟩ t.program }.renderWith
        (.map fields) owner =
      t.renderWith (.map fields) owner := by
  have hsuits : Qualifier.Suits ⟨t.variableName, names⟩
      ⟨.map fields, owner, t.variableName, t.helpers⟩ :=
    { variableName_eq := rfl
      isMap := ⟨fields, rfl⟩
      variable_not_field := Fields.get?_eq_none_iff.2 hvariable
      isField := fun _ hname => Fields.mem_names_iff.1 (hnames hname) }
  refine Qualifier.output_program hsuits fun name hname => ?_
  obtain ⟨hne, hnot⟩ := hbound name hname
  exact not_or.2 ⟨hne, hnot⟩

/-- A template that greets the people of its data, with a variable of its own for what was
printed so far. -/
def roundOfGreetings : Template where
  program :=
    [.declaration .letKind "line" (some (.name "greeting")),
      .forEach "person" .items (.name "people")
        [.assignment "line" .add (.binary .add (.name "mark") (.name "person")),
          .branch (.name "greeting")
            [.expression (.call (.name "print") [.call (.member (.name "line") "trim") []])]
            []]]
  source := ""
  variableName := "data"
  helpers := []

/-- Data for the greetings. -/
def twoPeople : List (String × Value) :=
  [("greeting", .text "hi"), ("mark", .text " "),
    ("people", .list [.text "ann", .text "bo"])]

/-- Greeting and people can be named through the data inside of blocks and loops, next to names
that the program binds. -/
theorem Template.renderWith_qualified_greetings :
    "data" ∉ Fields.names twoPeople ∧ ["greeting", "people"] ⊆ Fields.names twoPeople ∧
      { roundOfGreetings with
          program := Qualifier.program ⟨"data", ["greeting", "people"]⟩
            roundOfGreetings.program }.renderWith (.map twoPeople) .null =
        "hi annhi ann bo" := by
  have hvariable : "data" ∉ Fields.names twoPeople := by decide
  have hnames : ["greeting", "people"] ⊆ Fields.names twoPeople := by decide
  have hbound : ∀ name ∈ roundOfGreetings.program.boundNames,
      name ≠ "data" ∧ name ∉ ["greeting", "people"] := by decide
  have hplain : roundOfGreetings.renderWith (.map twoPeople) .null = "hi annhi ann bo" := by
    decide +kernel
  refine ⟨hvariable, hnames, ?_⟩
  rw [← hplain]
  exact renderWith_qualified roundOfGreetings ["greeting", "people"] twoPeople .null hvariable
    hnames hbound

end ViewKit
