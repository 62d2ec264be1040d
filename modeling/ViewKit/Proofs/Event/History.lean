/-
# The table of a hub and its history

The table of a hub is determined name by name by the changes that were made to it
(`table_of_history`).  A change acts through the occurrences of names in it, one after the
other, so that a history is taken apart into these (`foldl_change`).  An occurrence of one
name leaves the handlers under all others alone (`handlers_edit`).

The place of a name in the table is that of its first registration after it was last dropped
as a whole.  Dropping single handlers neither moves a name nor takes it out.
-/
import Mathlib.Data.List.Induction
import Mathlib.Data.Nat.Find
import ViewKit.Event.Hub
import ViewKit.Proofs.Fields

namespace ViewKit

/-! ## Occurrences -/

/-- What one occurrence of a name in a change does to the handlers under it. -/
inductive Edit where
  | add (handler : HandlerId)
  | remove (handler : HandlerId)
  | clear
deriving DecidableEq

/-- The handlers under a name afterwards: a handler comes last when it is added, and of several
registrations the first one is removed. -/
def Edit.apply (hs : List HandlerId) : Edit → List HandlerId
  | add h => hs ++ [h]
  | remove h => hs.erase h
  | clear => []

namespace Change

def names : Change → List String
  | on names _ => names
  | off names _ => names

def edit : Change → Edit
  | on _ h => .add h
  | off _ (some h) => .remove h
  | off _ none => .clear

/-- The occurrences of names in a history, in order. -/
def occurrences (history : List Change) : List (String × Edit) :=
  history.flatMap fun c => c.names.map (·, c.edit)

/-- What the occurrences of one name do. -/
def editsOf (name : String) (os : List (String × Edit)) : List Edit :=
  os.filterMap fun (n, e) => if n = name then some e else none

lemma occurrences_cons (c : Change) (history : List Change) :
    occurrences (c :: history) = c.names.map (·, c.edit) ++ occurrences history :=
  List.flatMap_cons

lemma editsOf_cons_self (name : String) (e : Edit) (os : List (String × Edit)) :
    editsOf name ((name, e) :: os) = e :: editsOf name os := by
  simp [editsOf]

lemma editsOf_cons_of_ne {name n : String} (h : n ≠ name) (e : Edit)
    (os : List (String × Edit)) : editsOf name ((n, e) :: os) = editsOf name os := by
  simp [editsOf, h]

/-- A change has no occurrence of a name that it does not name. -/
lemma editsOf_of_not_mem {name : String} {c : Change} (h : name ∉ c.names) :
    editsOf name (c.names.map (·, c.edit)) = [] := by
  refine List.filterMap_eq_nil_iff.2 (List.forall_mem_map.2 fun n hn => if_neg ?_)
  rintro rfl
  exact h hn

/-- An occurrence registers a name, which is not dropped as a whole from there on. -/
def Lists (os : List (String × Edit)) (name : String) (i : Nat) : Prop :=
  (∃ h, os[i]? = some (name, .add h)) ∧ ∀ j, os[j]? = some (name, .clear) → j < i

/-- The first such occurrence. -/
def ListedSince (os : List (String × Edit)) (name : String) (i : Nat) : Prop :=
  Lists os name i ∧ ∀ j, Lists os name j → i ≤ j

end Change

open Change (occurrences editsOf Lists ListedSince)

namespace Hub

/-- Makes the part of a change that one occurrence of a name stands for. -/
def edit (hub : Hub) : String × Edit → Hub
  | (name, .add h) => subscribe h hub name
  | (name, .remove h) => unsubscribe (some h) hub name
  | (name, .clear) => unsubscribe none hub name

lemma change_eq (hub : Hub) (c : Change) :
    hub.change c = (c.names.map (·, c.edit)).foldl edit hub := by
  rw [List.foldl_map]
  cases c with
  | on names h => rfl
  | off names h => cases h <;> rfl

lemma foldl_change (history : List Change) (hub : Hub) :
    history.foldl change hub = (occurrences history).foldl edit hub := by
  induction history generalizing hub with
  | nil => rfl
  | cons c history ih =>
    rw [List.foldl_cons, ih, change_eq, Change.occurrences_cons, List.foldl_append]

/-! ## One occurrence -/

/-- No name stands twice in the table. -/
def WellFormed (hub : Hub) : Prop := Fields.Distinct hub.subscriptions

variable {hub : Hub} {name : String} {hs : List HandlerId}

lemma wellFormed_empty : WellFormed empty := List.nodup_nil

lemma handlers_of_get? (h : Fields.get? name hub.subscriptions = some hs) :
    hub.handlers name = hs := by
  rw [handlers, h]
  rfl

lemma handlers_of_get?_eq_none (h : Fields.get? name hub.subscriptions = none) :
    hub.handlers name = [] := by
  rw [handlers, h]
  rfl

lemma handlers_insert (name other : String) (hs : List HandlerId) (hub : Hub) :
    handlers ⟨Fields.insert name hs hub.subscriptions⟩ other =
      if other = name then hs else hub.handlers other := by
  rw [handlers, Fields.get?_insert]
  split <;> rfl

lemma unsubscribe_of_get? (h : Fields.get? name hub.subscriptions = some hs)
    (handler : HandlerId) :
    unsubscribe (some handler) hub name =
      ⟨Fields.insert name (hs.erase handler) hub.subscriptions⟩ := by
  rw [unsubscribe, h]

lemma unsubscribe_of_get?_eq_none (h : Fields.get? name hub.subscriptions = none)
    (handler : HandlerId) : unsubscribe (some handler) hub name = hub := by
  rw [unsubscribe, h]

lemma WellFormed.edit (h : hub.WellFormed) (o : String × Edit) : (hub.edit o).WellFormed := by
  obtain ⟨name, e⟩ := o
  cases e with
  | add handler => exact Fields.Distinct.insert h name _
  | clear => exact Fields.Distinct.erase h name
  | remove handler =>
    rw [Hub.edit]
    cases hget : Fields.get? name hub.subscriptions with
    | none => rwa [unsubscribe_of_get?_eq_none hget]
    | some hs =>
      rw [unsubscribe_of_get? hget]
      exact Fields.Distinct.insert h name _

/-- An occurrence of a name acts on the handlers under it and on no others. -/
lemma handlers_edit (h : hub.WellFormed) (name other : String) (e : Edit) :
    (hub.edit (name, e)).handlers other =
      if other = name then e.apply (hub.handlers name) else hub.handlers other := by
  cases e with
  | add handler => exact handlers_insert name other _ hub
  | clear =>
    rw [edit, unsubscribe, handlers, Fields.Distinct.get?_erase h]
    split <;> rfl
  | remove handler =>
    rw [edit]
    cases hget : Fields.get? name hub.subscriptions with
    | none =>
      rw [unsubscribe_of_get?_eq_none hget, handlers_of_get?_eq_none hget]
      split
      · next heq => rw [heq, handlers_of_get?_eq_none hget, Edit.apply, List.erase_nil]
      · rfl
    | some hs =>
      rw [unsubscribe_of_get? hget, handlers_insert, handlers_of_get? hget]
      rfl

/-- Adding puts a new name behind the others, clearing takes the name out. -/
lemma names_edit (name : String) (e : Edit) :
    (hub.edit (name, e)).names = match e with
      | .add _ => if name ∈ hub.names then hub.names else hub.names ++ [name]
      | .remove _ => hub.names
      | .clear => hub.names.erase name := by
  cases e with
  | add handler => exact Fields.names_insert name _ hub.subscriptions
  | clear => exact Fields.names_erase name hub.subscriptions
  | remove handler =>
    rw [edit]
    cases hget : Fields.get? name hub.subscriptions with
    | none => rw [unsubscribe_of_get?_eq_none hget]
    | some hs =>
      have hmem : name ∈ Fields.names hub.subscriptions := Fields.mem_names_iff.2 ⟨hs, hget⟩
      rw [unsubscribe_of_get? hget]
      exact (Fields.names_insert name _ hub.subscriptions).trans (if_pos hmem)

/-! ## A history -/

lemma WellFormed.foldl_edit (h : hub.WellFormed) (os : List (String × Edit)) :
    (os.foldl Hub.edit hub).WellFormed := by
  induction os generalizing hub with
  | nil => exact h
  | cons o os ih => exact ih (h.edit o)

lemma handlers_foldl_edit (h : hub.WellFormed) (os : List (String × Edit)) (name : String) :
    (os.foldl edit hub).handlers name = (editsOf name os).foldl Edit.apply (hub.handlers name) := by
  induction os generalizing hub with
  | nil => rfl
  | cons o os ih =>
    obtain ⟨n, e⟩ := o
    rw [List.foldl_cons, ih (h.edit _), handlers_edit h]
    by_cases hn : n = name
    · subst hn
      rw [if_pos rfl, Change.editsOf_cons_self, List.foldl_cons]
    · rw [if_neg (Ne.symm hn), Change.editsOf_cons_of_ne hn]

end Hub

/-! ## Places -/

namespace Change

variable {os : List (String × Edit)} {name n : String} {i : Nat} {handler : HandlerId}

lemma getElem?_concat_eq_some_iff {o p : String × Edit} :
    (os ++ [o])[i]? = some p ↔ os[i]? = some p ∨ i = os.length ∧ o = p := by
  rcases Nat.lt_trichotomy i os.length with h | rfl | h
  · rw [List.getElem?_append_left h]
    exact ⟨.inl, fun h' => h'.resolve_right fun h' => absurd h'.1 (Nat.ne_of_lt h)⟩
  · rw [List.getElem?_concat_length, List.getElem?_eq_none (Nat.le_refl _)]
    simp
  · have hend : (os ++ [o]).length ≤ i := by
      rw [List.length_append, List.length_singleton]
      exact h
    rw [List.getElem?_eq_none hend, List.getElem?_eq_none (Nat.le_of_lt h)]
    simp [Nat.ne_of_gt h]

lemma Lists.lt_length (h : Lists os name i) : i < os.length := by
  obtain ⟨⟨handler, h⟩, -⟩ := h
  exact (List.getElem?_eq_some_iff.1 h).1

lemma lt_length_of_clear {j : Nat} (h : os[j]? = some (name, .clear)) : j < os.length :=
  (List.getElem?_eq_some_iff.1 h).1

lemma lists_add : Lists (os ++ [(n, .add handler)]) name i ↔
    Lists os name i ∨ n = name ∧ i = os.length := by
  simp only [Lists, getElem?_concat_eq_some_iff]
  constructor
  · rintro ⟨⟨h, hadd | ⟨hi, heq⟩⟩, hclear⟩
    · exact .inl ⟨⟨h, hadd⟩, fun j hj => hclear j (.inl hj)⟩
    · exact .inr ⟨congrArg Prod.fst heq, hi⟩
  · rintro (⟨⟨h, hadd⟩, hclear⟩ | ⟨rfl, rfl⟩)
    · refine ⟨⟨h, .inl hadd⟩, fun j hj => ?_⟩
      rcases hj with hj | ⟨-, heq⟩
      · exact hclear j hj
      · cases heq
    · refine ⟨⟨handler, .inr ⟨rfl, rfl⟩⟩, fun j hj => ?_⟩
      rcases hj with hj | ⟨-, heq⟩
      · exact lt_length_of_clear hj
      · cases heq

lemma lists_remove : Lists (os ++ [(n, .remove handler)]) name i ↔ Lists os name i := by
  simp [Lists, getElem?_concat_eq_some_iff]

lemma lists_clear : Lists (os ++ [(n, .clear)]) name i ↔ Lists os name i ∧ n ≠ name := by
  simp only [Lists, getElem?_concat_eq_some_iff]
  constructor
  · rintro ⟨⟨h, hadd | ⟨-, heq⟩⟩, hclear⟩
    · refine ⟨⟨⟨h, hadd⟩, fun j hj => hclear j (.inl hj)⟩, ?_⟩
      rintro rfl
      -- a registration before the end is not behind a drop at the end
      have hlt : os.length < i := hclear os.length (.inr ⟨rfl, rfl⟩)
      exact Nat.lt_asymm hlt (List.getElem?_eq_some_iff.1 hadd).1
    · cases heq
  · rintro ⟨⟨⟨h, hadd⟩, hclear⟩, hne⟩
    refine ⟨⟨h, .inl hadd⟩, fun j hj => ?_⟩
    rcases hj with hj | ⟨-, heq⟩
    · exact hclear j hj
    · exact absurd (congrArg Prod.fst heq) hne

lemma exists_listedSince_iff : (∃ i, ListedSince os name i) ↔ ∃ i, Lists os name i := by
  classical
  constructor
  · rintro ⟨i, hi, -⟩
    exact ⟨i, hi⟩
  · intro h
    exact ⟨Nat.find h, Nat.find_spec h, fun j hj => Nat.find_min' h hj⟩

lemma listedSince_congr {os' : List (String × Edit)} (h : ∀ i, Lists os' name i ↔ Lists os name i) :
    ListedSince os' name i ↔ ListedSince os name i := by
  simp only [ListedSince, h]

/-- A name that is listed keeps its place when it is registered again. -/
lemma listedSince_of_add (hlisted : ∃ k, Lists os name k)
    (h : ListedSince (os ++ [(n, .add handler)]) name i) : ListedSince os name i := by
  obtain ⟨k, hk⟩ := hlisted
  obtain ⟨hi, hleast⟩ := h
  -- the new registration is the last one and so not the first while there is another
  rcases lists_add.1 hi with hi | ⟨-, rfl⟩
  · exact ⟨hi, fun j hj => hleast j (lists_add.2 (.inl hj))⟩
  · have hle : os.length ≤ k := hleast k (lists_add.2 (.inl hk))
    exact absurd hk.lt_length (Nat.not_lt.2 hle)

/-- A name that is new comes last. -/
lemma eq_length_of_add (hnew : ¬ ∃ k, Lists os name k)
    (h : ListedSince (os ++ [(n, .add handler)]) name i) : i = os.length := by
  rcases lists_add.1 h.1 with hi | ⟨-, hi⟩
  · exact absurd ⟨i, hi⟩ hnew
  · exact hi

/-- A list of names is the table of some occurrences: it holds the names that are listed after
them, in the order of the occurrences since which they are. -/
structure Tabulates (os : List (String × Edit)) (names : List String) : Prop where
  mem_iff : ∀ name, name ∈ names ↔ ∃ i, Lists os name i
  order : names.Pairwise fun m n => ∀ i j, ListedSince os m i → ListedSince os n j → i < j

lemma Tabulates.nil : Tabulates [] [] :=
  ⟨fun name => iff_of_false List.not_mem_nil (by simp [Lists]), List.Pairwise.nil⟩

/-- An occurrence that leaves the places of some names alone leaves their order alone. -/
lemma Tabulates.order_of_imp {os' : List (String × Edit)} {names names' : List String}
    (h : Tabulates os names) (hsub : names'.Sublist names)
    (himp : ∀ name ∈ names', ∀ i, ListedSince os' name i → ListedSince os name i) :
    names'.Pairwise fun m n => ∀ i j, ListedSince os' m i → ListedSince os' n j → i < j :=
  (h.order.sublist hsub).imp_of_mem fun hm hn hlt i j hi hj =>
    hlt i j (himp _ hm i hi) (himp _ hn j hj)

variable {names : List String}

lemma Tabulates.remove (h : Tabulates os names) (n : String) (handler : HandlerId) :
    Tabulates (os ++ [(n, .remove handler)]) names where
  mem_iff name := by simp only [h.mem_iff, lists_remove]
  order := h.order_of_imp (List.Sublist.refl names) fun _ _ _ hi =>
    (listedSince_congr fun _ => lists_remove).1 hi

lemma Tabulates.clear (h : Tabulates os names) (hnodup : names.Nodup) (n : String) :
    Tabulates (os ++ [(n, .clear)]) (names.erase n) where
  mem_iff name := by
    rw [hnodup.mem_erase_iff, h.mem_iff]
    simp only [lists_clear]
    exact ⟨fun ⟨hne, i, hi⟩ => ⟨i, hi, hne.symm⟩, fun ⟨i, hi, hne⟩ => ⟨hne.symm, i, hi⟩⟩
  order := by
    refine h.order_of_imp List.erase_sublist fun name hname i hi => ?_
    have hne : n ≠ name := fun heq => (hnodup.mem_erase_iff.1 hname).1 heq.symm
    exact (listedSince_congr fun _ => lists_clear.trans (and_iff_left hne)).1 hi

lemma Tabulates.add (h : Tabulates os names) (n : String) (handler : HandlerId) :
    Tabulates (os ++ [(n, .add handler)]) (if n ∈ names then names else names ++ [n]) := by
  have hold : ∀ name ∈ names, ∀ i, ListedSince (os ++ [(n, .add handler)]) name i →
      ListedSince os name i :=
    fun name hname i hi => listedSince_of_add ((h.mem_iff name).1 hname) hi
  have horder := h.order_of_imp (List.Sublist.refl names) hold
  -- a listed name keeps its place, a new one comes behind all others
  split
  · next hn =>
    refine ⟨fun name => ?_, horder⟩
    simp only [h.mem_iff, lists_add]
    constructor
    · rintro ⟨i, hi⟩
      exact ⟨i, .inl hi⟩
    · rintro ⟨i, hi | ⟨rfl, -⟩⟩
      · exact ⟨i, hi⟩
      · exact (h.mem_iff n).1 hn
  · next hn =>
    have hnew : ¬ ∃ k, Lists os n k := fun hk => hn ((h.mem_iff n).2 hk)
    refine ⟨fun name => ?_, ?_⟩
    · simp only [List.mem_append, List.mem_singleton, h.mem_iff, lists_add]
      constructor
      · rintro (⟨i, hi⟩ | rfl)
        · exact ⟨i, .inl hi⟩
        · exact ⟨os.length, .inr ⟨rfl, rfl⟩⟩
      · rintro ⟨i, hi | ⟨rfl, -⟩⟩
        · exact .inl ⟨i, hi⟩
        · exact .inr rfl
    · refine List.pairwise_append.2 ⟨horder, List.pairwise_singleton _ _, ?_⟩
      intro m hm x hx i j hi hj
      obtain rfl := List.mem_singleton.1 hx
      rw [eq_length_of_add hnew hj]
      exact (hold m hm i hi).1.lt_length

end Change

namespace Hub

lemma tabulates_foldl_edit (os : List (String × Edit)) :
    Change.Tabulates os (os.foldl edit empty).names := by
  induction os using List.reverseRecOn with
  | nil => exact Change.Tabulates.nil
  | append_singleton os o ih =>
    obtain ⟨n, e⟩ := o
    have hwf : (os.foldl edit empty).WellFormed := wellFormed_empty.foldl_edit os
    rw [List.foldl_append, List.foldl_cons, List.foldl_nil, names_edit]
    cases e with
    | add handler => exact ih.add n handler
    | remove handler => exact ih.remove n handler
    | clear => exact ih.clear hwf n

lemma summary_eq {hub : Hub} (h : hub.WellFormed) :
    hub.summary = "\x7b" ++ Text.join ", " (hub.names.map fun name =>
      Text.quoted name ++ ": " ++ toString (hub.handlerCount name)) ++ "\x7d" := by
  rw [summary, names, Fields.names, List.map_map]
  congr 3
  refine List.map_congr_left fun p hmem => ?_
  obtain ⟨name, hs⟩ := p
  have hhandlers : hub.handlers name = hs := handlers_of_get? (Fields.Distinct.get?_of_mem h hmem)
  simp [handlerCount, hhandlers]

/-- The table of a hub is what its history makes of it.  The handlers under a name come from
the occurrences of that name alone, and the names that the summary shows are those that were
registered after they were last dropped, in the order of the first such registration. -/
theorem table_of_history (history : List Change) :
    let hub := history.foldl Hub.change Hub.empty
    let os := occurrences history
    (∀ name, hub.handlers name = (editsOf name os).foldl Edit.apply [] ∧
      hub.handlerCount name = ((editsOf name os).foldl Edit.apply []).length) ∧
    (∀ name c, name ∉ c.names → (hub.change c).handlers name = hub.handlers name) ∧
    hub.summary = "\x7b" ++ Text.join ", " (hub.names.map fun name =>
      Text.quoted name ++ ": " ++ toString (hub.handlerCount name)) ++ "\x7d" ∧
    (∀ name, name ∈ hub.names ↔ ∃ i, ListedSince os name i) ∧
    hub.names.Pairwise fun m n => ∀ i j, ListedSince os m i → ListedSince os n j → i < j := by
  intro hub os
  have heq : hub = os.foldl edit empty := foldl_change history empty
  have hwf : hub.WellFormed := heq ▸ wellFormed_empty.foldl_edit os
  have htable : Change.Tabulates os hub.names := heq ▸ tabulates_foldl_edit os
  have hhandlers : ∀ name, hub.handlers name = (editsOf name os).foldl Edit.apply [] := by
    intro name
    rw [heq]
    exact handlers_foldl_edit wellFormed_empty os name
  refine ⟨fun name => ⟨hhandlers name, ?_⟩, fun name c hname => ?_, summary_eq hwf,
    fun name => (htable.mem_iff name).trans Change.exists_listedSince_iff.symm, htable.order⟩
  · rw [handlerCount, hhandlers]
  · rw [change_eq, handlers_foldl_edit hwf, Change.editsOf_of_not_mem hname, List.foldl_nil]

/-- A name whose last handler was dropped alone stays; one that was dropped as a whole comes
back behind the others. -/
example : ([.on ["a", "b", "b"] "h", .off ["a"] none, .off ["b", "b"] (some "h"),
    .on ["a"] "h"] : List Change).foldl Hub.change Hub.empty = ⟨[("b", []), ("a", ["h"])]⟩ := by
  rfl

end Hub
end ViewKit
