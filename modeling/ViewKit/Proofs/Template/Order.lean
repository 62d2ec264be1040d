/-
# The order of evaluation

A program is written from left to right, and its expressions are evaluated in that order but in
two places: an index is evaluated before the value it is applied to, and the arguments of a
method before the receiver.  What is called and is neither a name nor a member is not evaluated
at all.  Values do not show this, because an expression can change nothing but the output; the
output does, where both parts print (`evaluation_order`).

The evaluator that keeps to the order of the source gives a value together with the text that
is printed, the texts of the parts one behind the other as they are written
(`Expression.inOrder`).  It prints the same wherever the two texts can be interchanged
(`Expression.Orderly`), and so at least where one of the two sides has no call of `print`
(`Expression.oneSided`).
-/
import ViewKit.Proofs.Template.Filler
import ViewKit.Proofs.Template.Qualified

namespace ViewKit

/-- It makes no difference which of two texts comes first, as when one of them is empty. -/
def Interchangeable (a b : String) : Prop := a ++ b = b ++ a

namespace Interchangeable

lemma of_left {a b : String} (h : a = "") : Interchangeable a b := by
  rw [Interchangeable, h, String.empty_append, String.append_empty]

lemma of_right {a b : String} (h : b = "") : Interchangeable a b := by
  rw [Interchangeable, h, String.empty_append, String.append_empty]

end Interchangeable

namespace Expression

/-! ## Evaluation in the order of the source -/

mutual

/-- The value of an expression and what it prints, if each part is evaluated before those that
are written behind it.  A call prints behind its arguments. -/
def inOrder (s : Scope) (frames : List Frame) : Expression → Value × String
  | .literal l => (l.value, "")
  | .name n => (s.lookup frames n, "")
  | .this => (s.owner, "")
  | .list items =>
    let (vs, text) := inOrderAll s frames items
    (.list vs, text)
  | .object fields =>
    let (vs, text) := inOrderFields s frames fields
    (.map (Fields.ofList vs), text)
  | .member .this p =>
    match s.owner.field? p, s.helper? p with
    | none, some helper => (helper [], "")
    | _, _ => (s.owner.property p, "")
  | .member e p =>
    let (v, text) := inOrder s frames e
    (v.property p, text)
  | .index e i =>
    let (v, text) := inOrder s frames e
    let (key, more) := inOrder s frames i
    (v.atIndex key, text ++ more)
  | .call (.name n) arguments =>
    let (vs, text) := inOrderAll s frames arguments
    if n = "print" then (.null, text ++ printedText vs) else (s.callNamed n vs, text)
  | .call (.member .this p) arguments =>
    let (vs, text) := inOrderAll s frames arguments
    match s.helper? p with
    | some helper => (helper vs, text)
    | none => (s.owner.method p vs, text)
  | .call (.member e p) arguments =>
    let (receiver, text) := inOrder s frames e
    let (vs, more) := inOrderAll s frames arguments
    (receiver.method p vs, text ++ more)
  | .call e arguments =>
    let (_, text) := inOrder s frames e
    let (_, more) := inOrderAll s frames arguments
    (.null, text ++ more)
  | .unary operator e =>
    let (v, text) := inOrder s frames e
    (operator.apply v, text)
  | .binary .and a b =>
    let (v, text) := inOrder s frames a
    let (w, more) := inOrder s frames b
    if v.truthy then (w, text ++ more) else (v, text)
  | .binary .or a b =>
    let (v, text) := inOrder s frames a
    let (w, more) := inOrder s frames b
    if v.truthy then (v, text) else (w, text ++ more)
  | .binary operator a b =>
    let (v, text) := inOrder s frames a
    let (w, more) := inOrder s frames b
    (operator.apply v w, text ++ more)
  | .conditional c a b =>
    let (v, text) := inOrder s frames c
    let (w, more) := if v.truthy then inOrder s frames a else inOrder s frames b
    (w, text ++ more)

/-- The values of expressions and what they print, in order. -/
def inOrderAll (s : Scope) (frames : List Frame) : List Expression → List Value × String
  | [] => ([], "")
  | e :: es =>
    let (v, text) := inOrder s frames e
    let (vs, more) := inOrderAll s frames es
    (v :: vs, text ++ more)

/-- The fields of an object with their values and what these print, in order. -/
def inOrderFields (s : Scope) (frames : List Frame) :
    List (String × Expression) → List (String × Value) × String
  | [] => ([], "")
  | (field, e) :: fields =>
    let (v, text) := inOrder s frames e
    let (vs, more) := inOrderFields s frames fields
    ((field, v) :: vs, text ++ more)

end

/-- The value of an expression. -/
def value (s : Scope) (frames : List Frame) (e : Expression) : Value := (e.inOrder s frames).1

/-- What an expression prints in the order of the source. -/
def printed (s : Scope) (frames : List Frame) (e : Expression) : String := (e.inOrder s frames).2

/-- What some expressions print in the order of the source. -/
def printedAll (s : Scope) (frames : List Frame) (es : List Expression) : String :=
  (inOrderAll s frames es).2

/-- Whether an expression that is called can be a function or a method. -/
def isCallable : Expression → Bool
  | .name _ | .member .. => true
  | _ => false

section Sides

variable (s : Scope) (frames : List Frame)

lemma inOrder_member {e : Expression} (h : e ≠ .this) (p : String) :
    (Expression.member e p).inOrder s frames =
      ((e.value s frames).property p, e.printed s frames) := by
  cases e with
  | this => exact absurd rfl h
  | _ => rfl

lemma inOrder_call_member {e : Expression} (h : e ≠ .this) (p : String)
    (arguments : List Expression) :
    (Expression.call (.member e p) arguments).inOrder s frames =
      ((e.value s frames).method p (inOrderAll s frames arguments).1,
        e.printed s frames ++ printedAll s frames arguments) := by
  cases e with
  | this => exact absurd rfl h
  | _ => rfl

lemma inOrder_call_vain {e : Expression} (h : e.isCallable = false)
    (arguments : List Expression) :
    (Expression.call e arguments).inOrder s frames =
      (.null, e.printed s frames ++ printedAll s frames arguments) := by
  cases e with
  | name _ | member _ _ => cases h
  | _ => rfl

/-- A member prints what the value does that it is taken of. -/
lemma printed_member (e : Expression) (p : String) :
    (Expression.member e p).printed s frames = e.printed s frames := by
  by_cases he : e = .this
  · subst he
    rw [printed, inOrder]
    cases s.owner.field? p <;> cases s.helper? p <;> rfl
  · rw [printed, inOrder_member s frames he]

/-- Whether an expression is the name of `print`. -/
def isPrint : Expression → Bool
  | .name n => n = "print"
  | _ => false

/-- Any call but one of `print` prints what its two sides do. -/
lemma printed_call {e : Expression} (h : e.isPrint = false) (arguments : List Expression) :
    (Expression.call e arguments).printed s frames =
      e.printed s frames ++ printedAll s frames arguments := by
  cases e with
  | name n =>
    have hne : n ≠ "print" := of_decide_eq_false h
    rw [printed, inOrder]
    dsimp only
    rw [if_neg hne]
    exact String.empty_append.symm
  | member e p =>
    rw [printed_member]
    by_cases he : e = .this
    · subst he
      rw [printed, inOrder]
      dsimp only
      cases s.helper? p <;> exact String.empty_append.symm
    · rw [printed, inOrder_call_member s frames he]
  | _ => rfl

end Sides

/-! ## Where the order does not show -/

mutual

/-- Wherever the order of evaluation is not that of the source, the texts that are printed can
be interchanged, and what is not evaluated prints nothing. -/
def Orderly (s : Scope) (frames : List Frame) : Expression → Prop
  | .literal _ | .name _ | .this => True
  | .list items => OrderlyAll s frames items
  | .object fields => OrderlyFields s frames fields
  | .member e _ => Orderly s frames e
  | .index e i =>
    Orderly s frames e ∧ Orderly s frames i ∧
      Interchangeable (e.printed s frames) (i.printed s frames)
  | .call e arguments =>
    Orderly s frames e ∧ OrderlyAll s frames arguments ∧
      Interchangeable (e.printed s frames) (printedAll s frames arguments) ∧
      (e.isCallable = false → e.printed s frames = "")
  | .unary _ e => Orderly s frames e
  | .binary .and a b =>
    Orderly s frames a ∧ ((a.value s frames).truthy = true → Orderly s frames b)
  | .binary .or a b =>
    Orderly s frames a ∧ ((a.value s frames).truthy = false → Orderly s frames b)
  | .binary _ a b => Orderly s frames a ∧ Orderly s frames b
  | .conditional c a b =>
    Orderly s frames c ∧ ((c.value s frames).truthy = true → Orderly s frames a) ∧
      ((c.value s frames).truthy = false → Orderly s frames b)

/-- Each of some expressions is orderly. -/
def OrderlyAll (s : Scope) (frames : List Frame) : List Expression → Prop
  | [] => True
  | e :: es => Orderly s frames e ∧ OrderlyAll s frames es

/-- Each value of some fields is orderly. -/
def OrderlyFields (s : Scope) (frames : List Frame) : List (String × Expression) → Prop
  | [] => True
  | (_, e) :: fields => Orderly s frames e ∧ OrderlyFields s frames fields

end

/-! ## Printing on one side only -/

mutual

/-- Whether there is a call of `print` in an expression. -/
def callsPrint : Expression → Bool
  | .literal _ | .name _ | .this => false
  | .list items => callPrint items
  | .object fields => fieldsCallPrint fields
  | .member e _ => e.callsPrint
  | .index e i => e.callsPrint || i.callsPrint
  | .call e arguments => e.isPrint || (e.callsPrint || callPrint arguments)
  | .unary _ e => e.callsPrint
  | .binary _ a b => a.callsPrint || b.callsPrint
  | .conditional c a b => c.callsPrint || (a.callsPrint || b.callsPrint)

/-- Whether there is a call of `print` in some expressions. -/
def callPrint : List Expression → Bool
  | [] => false
  | e :: es => e.callsPrint || callPrint es

/-- Whether there is a call of `print` in the values of some fields. -/
def fieldsCallPrint : List (String × Expression) → Bool
  | [] => false
  | (_, e) :: fields => e.callsPrint || fieldsCallPrint fields

end

mutual

/-- Whether at each index and each call of a method only one of the two sides calls `print`,
and nothing does that is called in vain. -/
def oneSided : Expression → Bool
  | .literal _ | .name _ | .this => true
  | .list items => oneSidedAll items
  | .object fields => oneSidedFields fields
  | .member e _ => e.oneSided
  | .index e i => e.oneSided && (i.oneSided && (!e.callsPrint || !i.callsPrint))
  | .call e arguments =>
    e.oneSided && (oneSidedAll arguments &&
      (!e.callsPrint || (e.isCallable && !callPrint arguments)))
  | .unary _ e => e.oneSided
  | .binary _ a b => a.oneSided && b.oneSided
  | .conditional c a b => c.oneSided && (a.oneSided && b.oneSided)

/-- Whether each of some expressions prints on one side only. -/
def oneSidedAll : List Expression → Bool
  | [] => true
  | e :: es => e.oneSided && oneSidedAll es

/-- Whether each value of some fields prints on one side only. -/
def oneSidedFields : List (String × Expression) → Bool
  | [] => true
  | (_, e) :: fields => e.oneSided && oneSidedFields fields

end

section OneSided

variable (s : Scope) (frames : List Frame)

mutual

/-- Nothing is printed but by `print`. -/
theorem printed_eq_empty : ∀ e : Expression, e.callsPrint = false → e.printed s frames = ""
  | .literal _, _ | .name _, _ | .this, _ => rfl
  | .list items, h => printedAll_eq_empty items h
  | .object fields, h => printedFields_eq_empty fields h
  | .member e p, h => (printed_member s frames e p).trans (printed_eq_empty e h)
  | .index e i, h => by
    obtain ⟨he, hi⟩ := Bool.or_eq_false_iff.1 h
    exact String.append_eq_empty_iff.2 ⟨printed_eq_empty e he, printed_eq_empty i hi⟩
  | .call e arguments, h => by
    obtain ⟨hprint, h⟩ := Bool.or_eq_false_iff.1 h
    obtain ⟨he, harguments⟩ := Bool.or_eq_false_iff.1 h
    have harguments := printedAll_eq_empty arguments harguments
    rw [printed_call s frames hprint]
    exact String.append_eq_empty_iff.2 ⟨printed_eq_empty e he, harguments⟩
  | .unary _ e, h => printed_eq_empty e h
  | .binary operator a b, h => by
    obtain ⟨ha, hb⟩ := Bool.or_eq_false_iff.1 h
    have ha := printed_eq_empty a ha
    have hab := String.append_eq_empty_iff.2 ⟨ha, printed_eq_empty b hb⟩
    rw [printed]
    cases operator with
    | and | or =>
      rw [inOrder]
      dsimp only
      split
      · assumption
      · assumption
    | _ => exact hab
  | .conditional c a b, h => by
    obtain ⟨hc, h⟩ := Bool.or_eq_false_iff.1 h
    obtain ⟨ha, hb⟩ := Bool.or_eq_false_iff.1 h
    have hc := printed_eq_empty c hc
    rw [printed, inOrder]
    dsimp only
    split
    · exact String.append_eq_empty_iff.2 ⟨hc, printed_eq_empty a ha⟩
    · exact String.append_eq_empty_iff.2 ⟨hc, printed_eq_empty b hb⟩

/-- No values are printed but by `print`. -/
theorem printedAll_eq_empty : ∀ es : List Expression, callPrint es = false →
    printedAll s frames es = ""
  | [], _ => rfl
  | e :: es, h => by
    obtain ⟨he, hes⟩ := Bool.or_eq_false_iff.1 h
    exact String.append_eq_empty_iff.2 ⟨printed_eq_empty e he, printedAll_eq_empty es hes⟩

theorem printedFields_eq_empty : ∀ fields : List (String × Expression),
    fieldsCallPrint fields = false → (inOrderFields s frames fields).2 = ""
  | [], _ => rfl
  | (_, e) :: fields, h => by
    obtain ⟨he, hfields⟩ := Bool.or_eq_false_iff.1 h
    have hfields := printedFields_eq_empty fields hfields
    exact String.append_eq_empty_iff.2 ⟨printed_eq_empty e he, hfields⟩

end

mutual

/-- What prints on one side only is orderly, whatever the values are. -/
theorem orderly_of_oneSided : ∀ e : Expression, e.oneSided = true → e.Orderly s frames
  | .literal _, _ | .name _, _ | .this, _ => trivial
  | .list items, h => orderlyAll_of_oneSided items h
  | .object fields, h => orderlyFields_of_oneSided fields h
  | .member e _, h => orderly_of_oneSided e h
  | .index e i, h => by
    obtain ⟨he, h⟩ := Bool.and_eq_true_iff.1 h
    obtain ⟨hi, hsides⟩ := Bool.and_eq_true_iff.1 h
    refine ⟨orderly_of_oneSided e he, orderly_of_oneSided i hi, ?_⟩
    obtain hempty | hempty : e.callsPrint = false ∨ i.callsPrint = false := by
      simpa using hsides
    · exact .of_left (printed_eq_empty s frames e hempty)
    · exact .of_right (printed_eq_empty s frames i hempty)
  | .call e arguments, h => by
    obtain ⟨he, h⟩ := Bool.and_eq_true_iff.1 h
    obtain ⟨harguments, hsides⟩ := Bool.and_eq_true_iff.1 h
    refine ⟨orderly_of_oneSided e he, orderlyAll_of_oneSided arguments harguments, ?_⟩
    obtain hempty | ⟨hcallable, hempty⟩ :
        e.callsPrint = false ∨ e.isCallable = true ∧ callPrint arguments = false := by
      simpa using hsides
    · have hprinted := printed_eq_empty s frames e hempty
      exact ⟨.of_left hprinted, fun _ => hprinted⟩
    · refine ⟨.of_right (printedAll_eq_empty s frames arguments hempty), fun hvain => ?_⟩
      exact absurd (hcallable.symm.trans hvain) Bool.noConfusion
  | .unary _ e, h => orderly_of_oneSided e h
  | .binary operator a b, h => by
    obtain ⟨ha, hb⟩ := Bool.and_eq_true_iff.1 h
    have ha := orderly_of_oneSided a ha
    have hb := orderly_of_oneSided b hb
    cases operator with
    | and | or => exact ⟨ha, fun _ => hb⟩
    | _ => exact ⟨ha, hb⟩
  | .conditional c a b, h => by
    obtain ⟨hc, h⟩ := Bool.and_eq_true_iff.1 h
    obtain ⟨ha, hb⟩ := Bool.and_eq_true_iff.1 h
    exact ⟨orderly_of_oneSided c hc, fun _ => orderly_of_oneSided a ha,
      fun _ => orderly_of_oneSided b hb⟩

theorem orderlyAll_of_oneSided : ∀ es : List Expression, oneSidedAll es = true →
    OrderlyAll s frames es
  | [], _ => trivial
  | e :: es, h => by
    obtain ⟨he, hes⟩ := Bool.and_eq_true_iff.1 h
    exact ⟨orderly_of_oneSided e he, orderlyAll_of_oneSided es hes⟩

theorem orderlyFields_of_oneSided : ∀ fields : List (String × Expression),
    oneSidedFields fields = true → OrderlyFields s frames fields
  | [], _ => trivial
  | (_, e) :: fields, h => by
    obtain ⟨he, hfields⟩ := Bool.and_eq_true_iff.1 h
    exact ⟨orderly_of_oneSided e he, orderlyFields_of_oneSided fields hfields⟩

end

end OneSided

end Expression

open Expression

/-! ## What is printed, part by part -/

/-- Something was evaluated with the value that it has in the order of the source; where the
order does not show, it also printed the same. -/
structure Follows {α : Type} (result : α × String) (out : String) (inOrder : α × String)
    (orderly : Prop) : Prop where
  value : result.1 = inOrder.1
  output : orderly → result.2 = out ++ inOrder.2

namespace Follows

variable {α β γ : Type} {result inOrder : α × String} {result' inOrder' : β × String}
  {out : String} {orderly orderly' : Prop}

lemma silent (a : α) (out : String) (orderly : Prop) : Follows (a, out) out (a, "") orderly :=
  ⟨rfl, fun _ => String.append_empty.symm⟩

lemma mono (h : Follows result out inOrder orderly) (himp : orderly' → orderly) :
    Follows result out inOrder orderly' :=
  ⟨h.value, h.output ∘ himp⟩

lemma map (f : α → β) (h : Follows result out inOrder orderly) :
    Follows (f result.1, result.2) out (f inOrder.1, inOrder.2) orderly :=
  ⟨congrArg f h.value, h.output⟩

/-- The part that is written first is evaluated first. -/
lemma forwards (f : α → β → γ) (h : Follows result out inOrder orderly)
    (h' : Follows result' result.2 inOrder' orderly') :
    Follows (f result.1 result'.1, result'.2) out (f inOrder.1 inOrder'.1, inOrder.2 ++ inOrder'.2)
      (orderly ∧ orderly') := by
  refine ⟨congrArg₂ f h.value h'.value, fun ⟨ho, ho'⟩ => ?_⟩
  rw [h'.output ho', h.output ho, String.append_assoc]

/-- The part that is written first is evaluated last: the order of the source shows unless the
texts can be interchanged. -/
lemma backwards_iff (h' : Follows result' out inOrder' orderly')
    (h : Follows result result'.2 inOrder orderly) (ho : orderly) (ho' : orderly') :
    result.2 = out ++ (inOrder.2 ++ inOrder'.2) ↔ Interchangeable inOrder.2 inOrder'.2 := by
  rw [h.output ho, h'.output ho', String.append_assoc, String.append_right_inj, Interchangeable]
  exact eq_comm

lemma backwards (f : α → β → γ) (h' : Follows result' out inOrder' orderly')
    (h : Follows result result'.2 inOrder orderly) :
    Follows (f result.1 result'.1, result.2) out (f inOrder.1 inOrder'.1, inOrder.2 ++ inOrder'.2)
      (orderly ∧ orderly' ∧ Interchangeable inOrder.2 inOrder'.2) :=
  ⟨congrArg₂ f h.value h'.value,
    fun ⟨ho, ho', hinterchange⟩ => (backwards_iff h' h ho ho').2 hinterchange⟩

/-- The part that is written first is not evaluated. -/
lemma skip (b : γ) (h' : Follows result' out inOrder' orderly') :
    Follows (b, result'.2) out (b, inOrder.2 ++ inOrder'.2) (orderly' ∧ inOrder.2 = "") := by
  refine ⟨rfl, fun ⟨ho', hempty⟩ => ?_⟩
  rw [h'.output ho', hempty, String.empty_append]

end Follows

variable (s : Scope) (frames : List Frame)

/-- What is called in vain is not evaluated, but its arguments are. -/
lemma evaluate_call_vain {e : Expression} (h : e.isCallable = false)
    (arguments : List Expression) (out : String) :
    evaluate s frames (.call e arguments) out =
      (.null, (evaluateAll s frames arguments out).2) := by
  cases e with
  | name _ | member _ _ => cases h
  | _ => rfl

/-- What is called in vain prints nothing. -/
lemma Follows.vain {s : Scope} {frames : List Frame} {e : Expression} {arguments : List Expression}
    {out : String} (he : e.isCallable = false)
    (h : Follows (evaluateAll s frames arguments out) out (inOrderAll s frames arguments)
      (OrderlyAll s frames arguments)) :
    Follows (evaluate s frames (.call e arguments) out) out
      ((Expression.call e arguments).inOrder s frames)
      ((Expression.call e arguments).Orderly s frames) := by
  rw [evaluate_call_vain s frames he, inOrder_call_vain s frames he]
  exact (h.skip Value.null).mono fun ⟨_, ho, _, hempty⟩ => ⟨ho, hempty he⟩

mutual

/-- Evaluating an expression follows the order of the source.  Values agree also where the
output does not, so the same branches are taken in any case. -/
theorem follows_evaluate : ∀ (e : Expression) (out : String),
    Follows (evaluate s frames e out) out (e.inOrder s frames) (e.Orderly s frames)
  | .literal _, out | .name _, out | .this, out => .silent _ out _
  | .list items, out => (follows_evaluateAll items out).map Value.list
  | .object fields, out =>
    (follows_evaluateFields fields out).map (Value.map <| Fields.ofList ·)
  | .member e p, out => by
    by_cases he : e = .this
    · subst he
      rw [evaluate, inOrder]
      cases s.owner.field? p <;> cases s.helper? p <;> exact .silent _ out _
    · rw [Qualifier.evaluate_member s frames he, inOrder_member s frames he]
      exact (follows_evaluate e out).map (Value.property · p)
  | .index e i, out =>
    (follows_evaluate i out).backwards Value.atIndex (follows_evaluate e _)
  | .call (.name n) arguments, out => by
    have harguments := follows_evaluateAll arguments out
    rw [evaluate, inOrder]
    dsimp only
    split
    · refine ⟨rfl, fun h => ?_⟩
      rw [harguments.output h.2.1, harguments.value, String.append_assoc]
    · exact (harguments.map (s.callNamed n)).mono fun h => h.2.1
  | .call (.member e p) arguments, out => by
    have harguments := follows_evaluateAll arguments out
    by_cases he : e = .this
    · subst he
      rw [evaluate, inOrder]
      dsimp only
      cases s.helper? p with
      | some helper => exact (harguments.map helper).mono fun h => h.2.1
      | none => exact (harguments.map (s.owner.method p)).mono fun h => h.2.1
    · have hreceiver := follows_evaluate e (evaluateAll s frames arguments out).2
      rw [Qualifier.evaluate_call_member s frames he, inOrder_call_member s frames he]
      refine (harguments.backwards (Value.method · p) hreceiver).mono fun h => ?_
      rw [Orderly, printed_member] at h
      exact ⟨h.1, h.2.1, h.2.2.1⟩
  -- anything else is called in vain
  | .call (.literal _) arguments, out
  | .call .this arguments, out
  | .call (.list _) arguments, out
  | .call (.object _) arguments, out
  | .call (.index _ _) arguments, out
  | .call (.call _ _) arguments, out
  | .call (.unary _ _) arguments, out
  | .call (.binary _ _ _) arguments, out
  | .call (.conditional _ _ _) arguments, out =>
    .vain rfl (follows_evaluateAll arguments out)
  | .unary operator e, out => (follows_evaluate e out).map operator.apply
  | .binary operator a b, out => by
    have ha := follows_evaluate a out
    have hb := follows_evaluate b (evaluate s frames a out).2
    cases operator with
    | and =>
      rw [evaluate, inOrder, Orderly]
      dsimp only [value]
      rw [ha.value]
      split
      case isTrue htrue => exact (ha.forwards (fun _ w => w) hb).mono (And.imp_right (· htrue))
      case isFalse => exact ⟨rfl, ha.output ∘ And.left⟩
    | or =>
      rw [evaluate, inOrder, Orderly]
      dsimp only [value]
      rw [ha.value]
      split
      case isTrue => exact ⟨rfl, ha.output ∘ And.left⟩
      case isFalse htrue =>
        have hfalse := Bool.eq_false_of_not_eq_true htrue
        exact (ha.forwards (fun _ w => w) hb).mono (And.imp_right (· hfalse))
    | _ => exact ha.forwards _ hb
  | .conditional c a b, out => by
    have hc := follows_evaluate c out
    rw [evaluate, inOrder, Orderly]
    dsimp only [value]
    rw [hc.value]
    split
    case isTrue htrue =>
      have ha := follows_evaluate a (evaluate s frames c out).2
      exact (hc.forwards (fun _ v => v) ha).mono fun ⟨horderly, hif, _⟩ => ⟨horderly, hif htrue⟩
    case isFalse htrue =>
      have hb := follows_evaluate b (evaluate s frames c out).2
      have hfalse := Bool.eq_false_of_not_eq_true htrue
      exact (hc.forwards (fun _ v => v) hb).mono
        fun ⟨horderly, _, helse⟩ => ⟨horderly, helse hfalse⟩

/-- Evaluating some expressions follows the order of the source. -/
theorem follows_evaluateAll :
    ∀ (es : List Expression) (out : String),
    Follows (evaluateAll s frames es out) out (inOrderAll s frames es) (OrderlyAll s frames es)
  | [], out => .silent [] out _
  | e :: es, out =>
    (follows_evaluate e out).forwards List.cons (follows_evaluateAll es _)

theorem follows_evaluateFields :
    ∀ (fields : List (String × Expression)) (out : String),
    Follows (evaluateFields s frames fields out) out (inOrderFields s frames fields)
      (OrderlyFields s frames fields)
  | [], out => .silent [] out _
  | (field, e) :: fields, out =>
    (follows_evaluate e out).forwards (fun v vs => (field, v) :: vs)
      (follows_evaluateFields fields _)

end

/-! ## The order of evaluation -/

/-- How the evaluation of expressions compares with the order of the source. -/
structure EvaluationOrder (s : Scope) (frames : List Frame) : Prop where
  /-- Values do not depend on the order. -/
  value : ∀ (e : Expression) (out : String), (evaluate s frames e out).1 = e.value s frames
  orderly : ∀ (e : Expression) (out : String), e.Orderly s frames →
    (evaluate s frames e out).2 = out ++ e.printed s frames
  oneSided : ∀ (e : Expression) (out : String), e.oneSided = true →
    (evaluate s frames e out).2 = out ++ e.printed s frames
  /-- An index comes before what it is applied to. -/
  index : ∀ (e i : Expression) (out : String), e.Orderly s frames → i.Orderly s frames →
    ((evaluate s frames (.index e i) out).2 = out ++ (Expression.index e i).printed s frames ↔
      Interchangeable (e.printed s frames) (i.printed s frames))
  /-- The arguments of a method come before the receiver. -/
  method : ∀ (e : Expression) (p : String) (arguments : List Expression) (out : String),
    e.Orderly s frames → OrderlyAll s frames arguments →
    ((evaluate s frames (.call (.member e p) arguments) out).2 =
        out ++ (Expression.call (.member e p) arguments).printed s frames ↔
      Interchangeable (e.printed s frames) (printedAll s frames arguments))
  /-- What is called in vain is not evaluated. -/
  vain : ∀ (e : Expression) (arguments : List Expression) (out : String),
    e.isCallable = false → OrderlyAll s frames arguments →
    ((evaluate s frames (.call e arguments) out).2 =
        out ++ (Expression.call e arguments).printed s frames ↔ e.printed s frames = "")

/-- Expressions have the values that they have in the order of the source, and print in that
order but for an index and the arguments of a method, which come before what they are written
behind, and for what is called in vain.  Each of these shows exactly if the texts that the two
sides print cannot be interchanged; so nothing shows if one side only calls `print`. -/
theorem evaluation_order (s : Scope) (frames : List Frame) : EvaluationOrder s frames where
  value e out := (follows_evaluate s frames e out).value
  orderly e out := (follows_evaluate s frames e out).output
  oneSided e out h := (follows_evaluate s frames e out).output (orderly_of_oneSided s frames e h)
  index e i out he hi := by
    have hindex := follows_evaluate s frames i out
    have hobject := follows_evaluate s frames e (evaluate s frames i out).2
    have hsides := hindex.backwards_iff hobject he hi
    exact hsides
  method e p arguments out he harguments := by
    by_cases hthis : e = .this
    · subst hthis
      have hcall := follows_evaluate s frames (.call (.member .this p) arguments) out
      have hmember := printed_member s frames .this p
      have horder := hcall.output ⟨trivial, harguments, .of_left hmember, nofun⟩
      exact iff_of_true horder (.of_left rfl)
    · have hfirst := follows_evaluateAll s frames arguments out
      have hreceiver := follows_evaluate s frames e (evaluateAll s frames arguments out).2
      have hsides := hfirst.backwards_iff hreceiver he harguments
      rw [Qualifier.evaluate_call_member s frames hthis, printed,
        inOrder_call_member s frames hthis]
      exact hsides
  vain e arguments out he harguments := by
    have hfirst := follows_evaluateAll s frames arguments out
    rw [evaluate_call_vain s frames he, printed, inOrder_call_vain s frames he,
      hfirst.output harguments, String.append_right_inj, eq_comm]
    exact String.append_eq_right_iff

/-- A program with no data and no helpers. -/
def bareScope : Scope := ⟨.map [], .map [], "data", []⟩

/-- A call of `print` with a text. -/
def Expression.print (text : String) : Expression := .call (.name "print") [.literal (.text text)]

/-- The expression `print("a") + [print("b")].indexOf("c")`. -/
def sumOfPrints : Expression :=
  .binary .add (.print "a")
    (.call (.member (.list [.print "b"]) "indexOf") [.literal (.text "c")])

/-- Operands print from left to right, and so does a receiver whose arguments print nothing. -/
theorem evaluation_order_sum : (evaluate bareScope [[]] sumOfPrints "").2 = "ab" :=
  ((evaluation_order bareScope [[]]).oneSided sumOfPrints "" (by decide)).trans (by decide)

/-- The expression `[print("a")][print("b")]`. -/
def indexOfPrints : Expression := .index (.list [.print "a"]) (.print "b")

/-- The expression `[print("c")].join(print("d"))`. -/
def joinOfPrints : Expression := .call (.member (.list [.print "c"]) "join") [.print "d"]

/-- Where an index or an argument prints and so does what it is written behind, the texts come
in the wrong order. -/
theorem printed_out_of_order :
    (evaluate bareScope [[]] indexOfPrints "").2 = "ba" ∧
      indexOfPrints.printed bareScope [[]] = "ab" ∧
      (evaluate bareScope [[]] joinOfPrints "").2 = "dc" ∧
      joinOfPrints.printed bareScope [[]] = "cd" ∧
      ∃ t, Template.compile
          "<%= [print(\"a\")][print(\"b\")] %><%= [print(\"c\")].join(print(\"d\")) %>" {} [] =
          .ok t ∧ t.render (.map []) = "badc" := by
  refine ⟨by decide, by decide, by decide, by decide, ?_⟩
  obtain ⟨t, ht, hrender⟩ : ∃ t, Template.compile
      "<%= [print(\"a\")][print(\"b\")] %><%= [print(\"c\")].join(print(\"d\")) %>" {} [] =
      .ok t ∧ (t.render (.map []) == "badc") = true :=
    Template.exists_of_succeedsWith (by decide +kernel)
  exact ⟨t, ht, eq_of_beq hrender⟩

end ViewKit
