/-
# Fields in insertion order

A list of fields, each a name and what it holds, is the dictionary behind maps of values,
subscription tables, helpers and the frames of a running template.  Names are distinct, and
the fields stand in the order in which their names were first inserted.
-/

namespace ViewKit.Fields

variable {α : Type}

/-- What the field with the given name holds. -/
def get? (name : String) : List (String × α) → Option α
  | [] => none
  | (n, a) :: fields => if n = name then some a else get? name fields

/-- Whether there is a field with the given name. -/
def contains (name : String) (fields : List (String × α)) : Bool := (get? name fields).isSome

/-- The names in order. -/
def names (fields : List (String × α)) : List String := fields.map (·.1)

/-- Puts a new content into the field with the given name, which comes last if it is new. -/
def insert (name : String) (a : α) : List (String × α) → List (String × α)
  | [] => [(name, a)]
  | (n, b) :: fields => if n = name then (n, a) :: fields else (n, b) :: insert name a fields

/-- Takes the field with the given name out; the others keep their order. -/
def erase (name : String) : List (String × α) → List (String × α)
  | [] => []
  | (n, b) :: fields => if n = name then fields else (n, b) :: erase name fields

/-- The fields of a list of pairs, of which a later one of the same name replaces the
content of an earlier one. -/
def ofList (pairs : List (String × α)) : List (String × α) :=
  pairs.foldl (fun fields p => insert p.1 p.2 fields) []

/-- No two fields have the same name. -/
def Distinct (fields : List (String × α)) : Prop := (names fields).Nodup

@[simp] theorem get?_insert_self (name : String) (a : α) (fields : List (String × α)) :
    get? name (insert name a fields) = some a := by
  induction fields with
  | nil => simp [insert, get?]
  | cons p fields ih =>
    obtain ⟨n, b⟩ := p
    by_cases h : n = name <;> simp [insert, get?, h, ih]

theorem get?_insert_of_ne {name other : String} (h : other ≠ name) (a : α)
    (fields : List (String × α)) : get? other (insert name a fields) = get? other fields := by
  induction fields with
  | nil => simp [insert, get?, Ne.symm h]
  | cons p fields ih =>
    obtain ⟨n, b⟩ := p
    by_cases hn : n = name
    · subst hn
      simp [insert, get?, Ne.symm h]
    · by_cases ho : n = other <;> simp [insert, get?, hn, ho, h, ih]

theorem get?_erase_of_ne {name other : String} (h : other ≠ name)
    (fields : List (String × α)) : get? other (erase name fields) = get? other fields := by
  induction fields with
  | nil => simp [erase]
  | cons p fields ih =>
    obtain ⟨n, b⟩ := p
    by_cases hn : n = name
    · subst hn
      simp [erase, get?, Ne.symm h]
    · by_cases ho : n = other <;> simp [erase, get?, hn, ho, h, ih]

/-! ## Names -/

theorem get?_eq_none_iff {name : String} {fields : List (String × α)} :
    get? name fields = none ↔ name ∉ names fields := by
  induction fields with
  | nil => simp [get?, names]
  | cons p fields ih =>
    obtain ⟨n, b⟩ := p
    by_cases h : n = name
    · simp [get?, names, h]
    · have hne : name ≠ n := fun e => h e.symm
      simpa [get?, names, h, hne] using ih

/-- A field that is there keeps its place, and a new one comes last. -/
theorem names_insert (name : String) (a : α) (fields : List (String × α)) :
    names (insert name a fields) =
      if name ∈ names fields then names fields else names fields ++ [name] := by
  induction fields with
  | nil => simp [insert, names]
  | cons p fields ih =>
    obtain ⟨n, b⟩ := p
    by_cases h : n = name
    · simp [insert, names, h]
    · have hne : name ≠ n := fun e => h e.symm
      have hcons : names (insert name a ((n, b) :: fields)) = n :: names (insert name a fields) := by
        simp [insert, names, h]
      rw [hcons, ih]
      by_cases hm : name ∈ names fields
      · have hm' : name ∈ names ((n, b) :: fields) := List.mem_cons_of_mem n hm
        rw [if_pos hm, if_pos hm']
        rfl
      · have hm' : name ∉ names ((n, b) :: fields) := by
          intro hmem
          rcases List.mem_cons.1 hmem with e | hmem
          · exact hne e
          · exact hm hmem
        rw [if_neg hm, if_neg hm']
        rfl

theorem names_erase_sublist (name : String) (fields : List (String × α)) :
    (names (erase name fields)).Sublist (names fields) := by
  induction fields with
  | nil => exact List.Sublist.refl _
  | cons p fields ih =>
    obtain ⟨n, b⟩ := p
    by_cases h : n = name
    · have herase : erase name ((n, b) :: fields) = fields := by simp [erase, h]
      rw [herase]
      exact List.sublist_cons_self n (names fields)
    · have herase : erase name ((n, b) :: fields) = (n, b) :: erase name fields := by
        simp [erase, h]
      rw [herase]
      exact ih.cons_cons n

theorem Distinct.insert {fields : List (String × α)} (h : Distinct fields) (name : String)
    (a : α) : Distinct (insert name a fields) := by
  unfold Distinct
  rw [names_insert]
  split
  · exact h
  · next hm =>
    refine List.nodup_append.2 ⟨h, by simp, ?_⟩
    intro x hx y hy e
    rw [List.mem_singleton] at hy
    exact hm (hy ▸ e ▸ hx)

theorem Distinct.erase {fields : List (String × α)} (h : Distinct fields) (name : String) :
    Distinct (erase name fields) :=
  List.Nodup.sublist (names_erase_sublist name fields) h

end ViewKit.Fields
