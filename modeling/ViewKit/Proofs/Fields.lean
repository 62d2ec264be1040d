/-
# Looking up, replacing and removing fields

What the operations on fields do to a look-up under every name, and when two lists of
fields with distinct names have the same length.  Replacing is exact: putting back what is
there changes nothing, and of two contents put under one name the later one counts.
-/
import Mathlib.Data.List.Perm.Subperm
import Mathlib.Tactic.Lemma
import ViewKit.Fields

namespace ViewKit.Fields

variable {α : Type} {name other : String} {fields : List (String × α)}

/-! ## Look-up -/

lemma get?_cons (name n : String) (a : α) (fields : List (String × α)) :
    get? name ((n, a) :: fields) = if n = name then some a else get? name fields := rfl

lemma mem_of_get? {a : α} (h : get? name fields = some a) : (name, a) ∈ fields := by
  induction fields with
  | nil => exact absurd h (by simp [get?])
  | cons p fields ih =>
    obtain ⟨n, b⟩ := p
    rw [get?_cons] at h
    split at h
    · next hn =>
      obtain rfl : b = a := Option.some.inj h
      exact hn ▸ List.mem_cons_self
    · exact List.mem_cons_of_mem _ (ih h)

lemma mem_names_of_mem {a : α} (h : (name, a) ∈ fields) : name ∈ names fields :=
  List.mem_map_of_mem (f := (·.1)) h

/-- With distinct names a field is found under its name. -/
lemma Distinct.get?_of_mem (hd : Distinct fields) {a : α} (h : (name, a) ∈ fields) :
    get? name fields = some a := by
  induction fields with
  | nil => exact absurd h (List.not_mem_nil)
  | cons p fields ih =>
    obtain ⟨n, b⟩ := p
    have hn : n ∉ names fields := (List.nodup_cons.1 hd).1
    rw [get?_cons]
    rcases List.mem_cons.1 h with h | h
    · obtain ⟨rfl, rfl⟩ := Prod.mk.inj h
      exact if_pos rfl
    · have hne : n ≠ name := fun e => hn (e ▸ mem_names_of_mem h)
      rw [if_neg hne]
      exact ih (List.nodup_cons.1 hd).2 h

lemma contains_iff : contains name fields = true ↔ name ∈ names fields := by
  rw [contains, Option.isSome_iff_ne_none, ne_eq, get?_eq_none_iff, not_not]

lemma mem_names_iff : name ∈ names fields ↔ ∃ a, get? name fields = some a := by
  rw [← contains_iff, contains, Option.isSome_iff_exists]

lemma get?_append (xs ys : List (String × α)) :
    get? name (xs ++ ys) = (get? name xs).or (get? name ys) := by
  induction xs with
  | nil => rfl
  | cons p xs ih =>
    obtain ⟨n, b⟩ := p
    rw [List.cons_append, get?_cons, get?_cons, ih]
    split <;> rfl

/-! ## Replacing -/

lemma get?_insert (name other : String) (a : α) (fields : List (String × α)) :
    get? other (insert name a fields) = if other = name then some a else get? other fields := by
  split
  · next h => rw [h, get?_insert_self]
  · next h => exact get?_insert_of_ne h a fields

/-- Putting back what is there changes nothing. -/
lemma insert_of_get? {a : α} (h : get? name fields = some a) : insert name a fields = fields := by
  induction fields with
  | nil => exact absurd h (by simp [get?])
  | cons p fields ih =>
    obtain ⟨n, b⟩ := p
    rw [get?_cons] at h
    by_cases hn : n = name
    · rw [if_pos hn] at h
      simp [insert, hn, Option.some.inj h]
    · rw [if_neg hn] at h
      simp [insert, hn, ih h]

@[simp] lemma insert_insert (name : String) (a b : α) (fields : List (String × α)) :
    insert name a (insert name b fields) = insert name a fields := by
  induction fields with
  | nil => simp [insert]
  | cons p fields ih =>
    obtain ⟨n, c⟩ := p
    by_cases hn : n = name <;> simp [insert, hn, ih]

/-- A new name comes last. -/
lemma insert_of_not_mem (h : name ∉ names fields) (a : α) :
    insert name a fields = fields ++ [(name, a)] := by
  induction fields with
  | nil => rfl
  | cons p fields ih =>
    obtain ⟨n, b⟩ := p
    have hne : n ≠ name := fun e => h (e ▸ List.mem_cons_self)
    have hrest : name ∉ names fields := fun hmem => h (List.mem_cons_of_mem n hmem)
    rw [insert, if_neg hne, ih hrest]
    rfl

/-- Pairs with distinct names are fields already. -/
lemma Distinct.ofList_eq (hd : Distinct fields) : ofList fields = fields := by
  have hfold : ∀ done : List (String × α), Distinct (done ++ fields) →
      fields.foldl (fun fields p => Fields.insert p.1 p.2 fields) done = done ++ fields := by
    clear hd
    induction fields with
    | nil => exact fun done _ => (List.append_nil done).symm
    | cons p fields ih =>
      intro done hd
      have hnot : p.1 ∉ names done := by
        intro hmem
        rw [Distinct, names, List.map_append, List.nodup_append] at hd
        exact hd.2.2 _ hmem _ List.mem_cons_self rfl
      have hmove : done ++ p :: fields = done ++ [p] ++ fields := by
        rw [List.append_assoc, List.singleton_append]
      rw [List.foldl_cons, insert_of_not_mem hnot, hmove]
      exact ih _ (hmove ▸ hd)
  exact hfold [] hd

/-! ## Changing the contents -/

/-- The fields with their contents changed. -/
def mapContents {β : Type} (f : α → β) (fields : List (String × α)) : List (String × β) :=
  fields.map fun p => (p.1, f p.2)

section Contents

variable {β γ : Type} (f : α → β)

@[simp] lemma names_mapContents (fields : List (String × α)) :
    names (mapContents f fields) = names fields := by
  simp [names, mapContents]

lemma Distinct.mapContents (hd : Distinct fields) : Distinct (mapContents f fields) := by
  rw [Distinct, names_mapContents]
  exact hd

lemma mapContents_mapContents (g : β → γ) (fields : List (String × α)) :
    Fields.mapContents g (Fields.mapContents f fields) =
      Fields.mapContents (fun a => g (f a)) fields := by
  simp [Fields.mapContents]

lemma mem_mapContents {b : β} :
    (name, b) ∈ Fields.mapContents f fields ↔ ∃ a, (name, a) ∈ fields ∧ f a = b := by
  simp [Fields.mapContents]

end Contents

/-! ## Removing -/

lemma names_erase (name : String) (fields : List (String × α)) :
    names (erase name fields) = (names fields).erase name := by
  induction fields with
  | nil => rfl
  | cons p fields ih =>
    obtain ⟨n, b⟩ := p
    have hnames : names ((n, b) :: fields) = n :: names fields := rfl
    rw [erase, hnames]
    by_cases h : n = name
    · rw [if_pos h, h, List.erase_cons_head]
    · rw [if_neg h, List.erase_cons_tail (by simpa using h), ← ih]
      rfl

lemma erase_of_get?_eq_none (h : get? name fields = none) : erase name fields = fields := by
  induction fields with
  | nil => rfl
  | cons p fields ih =>
    obtain ⟨n, b⟩ := p
    rw [get?_cons] at h
    split at h
    · cases h
    · next hn => rw [erase, if_neg hn, ih h]

lemma Distinct.get?_erase_self (hd : Distinct fields) (name : String) :
    get? name (Fields.erase name fields) = none := by
  induction fields with
  | nil => rfl
  | cons p fields ih =>
    obtain ⟨n, b⟩ := p
    obtain ⟨hn, hd⟩ := List.nodup_cons.1 hd
    by_cases h : n = name
    · have hnot : name ∉ names fields := h ▸ hn
      simpa [Fields.erase, h] using get?_eq_none_iff.2 hnot
    · simpa [Fields.erase, h, get?_cons] using ih hd

lemma Distinct.get?_erase (hd : Distinct fields) (name other : String) :
    get? other (Fields.erase name fields) = if other = name then none else get? other fields := by
  split
  · next h => rw [h, hd.get?_erase_self]
  · next h => exact get?_erase_of_ne h fields

/-! ## Selecting -/

/-- The fields for which a rule gives a content, with that content. -/
def select {β : Type} (rule : String → α → Option β) (fields : List (String × α)) :
    List (String × β) :=
  fields.filterMap fun p => (rule p.1 p.2).map (p.1, ·)

variable {β : Type} (rule : String → α → Option β)

lemma select_cons (n : String) (a : α) (fields : List (String × α)) :
    select rule ((n, a) :: fields) =
      match rule n a with
      | none => select rule fields
      | some b => (n, b) :: select rule fields := by
  cases h : rule n a <;> simp [select, h]

lemma names_select_sublist (fields : List (String × α)) :
    (names (select rule fields)).Sublist (names fields) := by
  induction fields with
  | nil => exact List.Sublist.refl _
  | cons p fields ih =>
    obtain ⟨n, a⟩ := p
    rw [select_cons]
    cases rule n a with
    | none => exact ih.cons n
    | some b => exact ih.cons_cons n

/-- The names that are selected, where a rule is known to select by name. -/
lemma names_select {p : String → Bool}
    (h : ∀ name a, (name, a) ∈ fields → (rule name a).isSome = p name) :
    names (select rule fields) = (names fields).filter p := by
  induction fields with
  | nil => rfl
  | cons q fields ih =>
    obtain ⟨n, a⟩ := q
    have hrest := ih fun name b hb => h name b (List.mem_cons_of_mem _ hb)
    have hhead := h n a List.mem_cons_self
    have hnames : names ((n, a) :: fields) = n :: names fields := rfl
    rw [select_cons, hnames, List.filter_cons, ← hhead]
    cases rule n a with
    | none => exact hrest
    | some b => exact congrArg (n :: ·) hrest

lemma Distinct.select (hd : Distinct fields) : Distinct (select rule fields) :=
  List.Nodup.sublist (names_select_sublist rule fields) hd

lemma Distinct.get?_select (hd : Distinct fields) (name : String) :
    get? name (Fields.select rule fields) = (get? name fields).bind (rule name) := by
  induction fields with
  | nil => rfl
  | cons p fields ih =>
    obtain ⟨n, a⟩ := p
    obtain ⟨hn, hd⟩ := List.nodup_cons.1 hd
    by_cases h : n = name
    · subst h
      have hnot : n ∉ names (Fields.select rule fields) :=
        fun hm => hn ((names_select_sublist rule fields).subset hm)
      rw [select_cons, get?_cons, if_pos rfl, Option.bind_some]
      cases hr : rule n a with
      | none => exact get?_eq_none_iff.2 hnot
      | some b => exact if_pos rfl
    · rw [select_cons, get?_cons, if_neg h, ← ih hd]
      cases rule n a with
      | none => rfl
      | some b => exact if_neg h

/-! ## Fields under some names only -/

section Filter

variable {p : String → Bool} (hp : p name = false)
include hp

/-- Replacing the field of one name leaves those of other names, in their order. -/
lemma filter_insert (a : α) (fields : List (String × α)) :
    (insert name a fields).filter (fun f => p f.1) = fields.filter fun f => p f.1 := by
  induction fields with
  | nil => simp [insert, hp]
  | cons q fields ih =>
    obtain ⟨n, b⟩ := q
    by_cases hn : n = name
    · subst hn
      simp [insert, hp]
    · simp [insert, hn, List.filter_cons, ih]

lemma filter_erase (fields : List (String × α)) :
    (erase name fields).filter (fun f => p f.1) = fields.filter fun f => p f.1 := by
  induction fields with
  | nil => rfl
  | cons q fields ih =>
    obtain ⟨n, b⟩ := q
    by_cases hn : n = name
    · subst hn
      simp [erase, hp]
    · simp [erase, hn, List.filter_cons, ih]

end Filter

/-! ## Two lists of fields -/

/-- Without a field under any name there is no field. -/
lemma eq_nil_iff : fields = [] ↔ ∀ name, get? name fields = none := by
  constructor
  · rintro rfl name
    rfl
  · intro h
    cases fields with
    | nil => rfl
    | cons p fields =>
      have hp := h p.1
      rw [get?_cons, if_pos rfl] at hp
      cases hp

lemma Distinct.append {gs : List (String × α)} (hf : Distinct fields) (hg : Distinct gs)
    (h : ∀ name ∈ names fields, name ∉ names gs) : Distinct (fields ++ gs) := by
  rw [Distinct, names, List.map_append, List.nodup_append]
  refine ⟨hf, hg, fun x hx y hy e => ?_⟩
  exact h x hx (e ▸ hy)

@[simp] lemma length_names (fields : List (String × α)) : (names fields).length = fields.length :=
  List.length_map _

/-- Distinct names of one list that are all names of the other are no more than those. -/
lemma Distinct.length_le {gs : List (String × β)} (hd : Distinct fields)
    (h : names fields ⊆ names gs) : fields.length ≤ gs.length := by
  have hle := (List.subperm_of_subset hd h).length_le
  rwa [length_names, length_names] at hle

/-- Among as many distinct names all names are found. -/
lemma Distinct.names_subset {gs : List (String × β)} (hd : Distinct fields)
    (h : names fields ⊆ names gs) (hlen : gs.length ≤ fields.length) :
    names gs ⊆ names fields := by
  have hp : (names fields).Perm (names gs) :=
    (List.subperm_of_subset hd h).perm_of_length_le (by rwa [length_names, length_names])
  exact hp.symm.subset

/-! ## Fields in another order -/

lemma Distinct.perm {gs : List (String × α)} (hd : Distinct fields) (h : fields.Perm gs) :
    Distinct gs :=
  (h.map Prod.fst).nodup_iff.1 hd

/-- With distinct names the order of the fields does not matter to a look-up. -/
lemma Distinct.get?_perm {gs : List (String × α)} (hd : Distinct fields) (h : fields.Perm gs)
    (name : String) : get? name fields = get? name gs := by
  cases hget : get? name gs with
  | some a => exact hd.get?_of_mem (h.mem_iff.2 (mem_of_get? hget))
  | none =>
    rw [get?_eq_none_iff] at hget ⊢
    exact fun hmem => hget ((h.map Prod.fst).mem_iff.1 hmem)

end ViewKit.Fields
