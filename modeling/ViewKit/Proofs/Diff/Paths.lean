/-
# When the paths of entries are distinct

Each entry of changes is a leaf that some names lead to, and its path is these names with dots
between them.  The path of a name at the top is taken for the whole path so far, so an empty
name there leaves no trace: what is flattened are the names behind the leading empty ones
(`segments_flatten`).  If no name contains a dot, two leaves therefore have the same path
exactly if the names that lead to them are the same but for leading empty ones
(`paths_distinct_iff`), which happens as soon as two maps differ inside of a field with an
empty name and beside it (`paths_collide`).
-/
import Mathlib.Data.List.Induction
import Mathlib.Data.List.Nodup
import Mathlib.Data.List.TakeWhile
import ViewKit.Proofs.Diff.Entries
import ViewKit.Proofs.Diff.Tree
import ViewKit.Proofs.Path.Level

namespace ViewKit.Diff

/-- The path of what some names lead to. -/
def flatten (names : List String) : String := names.foldl joinPath ""

/-- Names without the empty ones in front. -/
def withoutLeadingEmpty (names : List String) : List String := names.dropWhile (·.isEmpty)

/-- Some names lead to a leaf. -/
def LeadsToLeaf (d : Diff) (names : List String) : Prop :=
  ∃ leaf, d.at? names = some leaf ∧ leaf.isLeaf = true

mutual

/-- The names that lead to the leaves, in the order of the leaves. -/
def leafNames : Diff → List (List String)
  | nested changes => leafNamesOf changes
  | _ => [[]]

/-- The names that lead to the leaves of the changes of some fields. -/
def leafNamesOf : List (String × Diff) → List (List String)
  | [] => []
  | (name, change) :: changes => (leafNames change).map (name :: ·) ++ leafNamesOf changes

end

variable {d : Diff} {cs : List (String × Diff)} {names others : List String} {name : String}

/-! ## The names of leaves -/

lemma mem_leafNamesOf :
    names ∈ leafNamesOf cs ↔
      ∃ name d more, (name, d) ∈ cs ∧ more ∈ leafNames d ∧ names = name :: more := by
  induction cs with
  | nil => simp [leafNamesOf]
  | cons p cs ih =>
    obtain ⟨n, e⟩ := p
    rw [leafNamesOf, List.mem_append, ih, List.mem_map]
    constructor
    · rintro (⟨more, hmore, rfl⟩ | ⟨name, d, more, hmem, hmore⟩)
      · exact ⟨n, e, more, List.mem_cons_self, hmore, rfl⟩
      · exact ⟨name, d, more, List.mem_cons_of_mem _ hmem, hmore⟩
    · rintro ⟨name, d, more, hmem, hmore, rfl⟩
      rcases List.mem_cons.1 hmem with heq | hmem
      · obtain ⟨rfl, rfl⟩ := Prod.mk.inj heq
        exact Or.inl ⟨more, hmore, rfl⟩
      · exact Or.inr ⟨name, d, more, hmem, hmore, rfl⟩

/-- The names of leaves are those that lead to leaves. -/
lemma mem_leafNames_iff (hd : d.WellFormed) : names ∈ leafNames d ↔ d.LeadsToLeaf names := by
  induction d using inductionOnChanges generalizing names with
  | set v => cases names <;> simp [leafNames, LeadsToLeaf, Diff.at?, change?, isLeaf]
  | removed => cases names <;> simp [leafNames, LeadsToLeaf, Diff.at?, change?, isLeaf]
  | nested cs ih =>
    obtain ⟨hdistinct, hparts⟩ := wellFormed_nested_iff.1 hd
    rw [leafNames, mem_leafNamesOf]
    constructor
    · rintro ⟨name, c, more, hmem, hmore, rfl⟩
      obtain ⟨leaf, hat, hleaf⟩ := (ih name c hmem (hparts name c hmem)).1 hmore
      refine ⟨leaf, ?_, hleaf⟩
      rw [Diff.at?, change?, hdistinct.get?_of_mem hmem]
      exact hat
    · rintro ⟨leaf, hat, hleaf⟩
      cases names with
      | nil =>
        obtain rfl := Option.some.inj hat
        cases hleaf
      | cons name more =>
        obtain ⟨c, hc, hat⟩ := Option.bind_eq_some_iff.1 hat
        have hmem : (name, c) ∈ cs := Fields.mem_of_get? hc
        have hmore := (ih name c hmem (hparts name c hmem)).2 ⟨leaf, hat, hleaf⟩
        exact ⟨name, c, more, hmem, hmore, rfl⟩

lemma nodup_leafNamesOf (hc : Fields.Distinct cs)
    (h : ∀ name c, (name, c) ∈ cs → (leafNames c).Nodup) : (leafNamesOf cs).Nodup := by
  induction cs with
  | nil => exact List.nodup_nil
  | cons p cs ih =>
    obtain ⟨n, e⟩ := p
    obtain ⟨hn, hc⟩ := List.nodup_cons.1 hc
    rw [leafNamesOf, List.nodup_append]
    refine ⟨?_, ih hc fun name c hmem => h name c (List.mem_cons_of_mem _ hmem), ?_⟩
    · exact (h n e List.mem_cons_self).map fun _ _ heq => (List.cons.inj heq).2
    · -- the first names differ
      rintro _ hx _ hy rfl
      obtain ⟨more, -, rfl⟩ := List.mem_map.1 hx
      obtain ⟨name, c, more', hmem, -, heq⟩ := mem_leafNamesOf.1 hy
      obtain ⟨rfl, -⟩ := List.cons.inj heq
      exact hn (Fields.mem_names_of_mem hmem)

/-- Different leaves have different names that lead to them. -/
lemma nodup_leafNames (hd : d.WellFormed) : (leafNames d).Nodup := by
  induction d using inductionOnChanges with
  | set v => exact List.nodup_singleton _
  | removed => exact List.nodup_singleton _
  | nested cs ih =>
    obtain ⟨hdistinct, hparts⟩ := wellFormed_nested_iff.1 hd
    exact nodup_leafNamesOf hdistinct fun name c hmem => ih name c hmem (hparts name c hmem)

/-! ## The paths of entries from the names of leaves -/

mutual

lemma names_entriesAt (path : String) (d : Diff) :
    Fields.names (entriesAt path d) = (leafNames d).map fun names => names.foldl joinPath path := by
  cases d with
  | set v => rfl
  | removed => rfl
  | nested cs => exact names_entriesOf path cs

lemma names_entriesOf (path : String) (cs : List (String × Diff)) :
    Fields.names (entriesOf path cs) =
      (leafNamesOf cs).map fun names => names.foldl joinPath path := by
  cases cs with
  | nil => rfl
  | cons p cs =>
    obtain ⟨name, c⟩ := p
    have hhead := names_entriesAt (joinPath path name) c
    have htail := names_entriesOf path cs
    rw [leafNamesOf, List.map_append, List.map_map, ← htail]
    rw [entriesOf, Fields.names, List.map_append]
    exact congrArg (· ++ _) hhead

end

lemma names_entries (d : Diff) : Fields.names d.entries = (leafNames d).map flatten :=
  names_entriesAt "" d

/-! ## What is left of names in a path -/

lemma flatten_concat (names : List String) (name : String) :
    flatten (names ++ [name]) = joinPath (flatten names) name := by
  simp [flatten]

lemma flatten_withoutLeadingEmpty (names : List String) :
    flatten (withoutLeadingEmpty names) = flatten names := by
  induction names with
  | nil => rfl
  | cons name names ih =>
    rw [withoutLeadingEmpty, List.dropWhile_cons]
    split
    · next hempty =>
      obtain rfl : name = "" := String.isEmpty_iff.1 hempty
      exact ih
    · rfl

/-- The segments of a flattened path are the names behind the leading empty ones. -/
lemma segments_flatten (h : ∀ name ∈ names, '.' ∉ name.toList) :
    Path.segments (flatten names) = withoutLeadingEmpty names := by
  induction names using List.reverseRecOn with
  | nil => rfl
  | append_singleton names name ih =>
    have hinit := ih fun n hn => h n (List.mem_append_left _ hn)
    have hdot : '.' ∉ name.toList := h name (by simp)
    rw [flatten_concat, withoutLeadingEmpty, List.dropWhile_append]
    by_cases htop : flatten names = ""
    · have hnone : names.dropWhile (·.isEmpty) = [] := by
        rw [htop] at hinit
        exact hinit.symm
      rw [htop, hnone]
      by_cases hname : name = ""
      · subst hname
        rfl
      · rw [segments_joinPath hdot fun _ => hname]
        simp [Path.segments, hname]
    · have hsome : names.dropWhile (·.isEmpty) ≠ [] := by
        intro hnone
        exact Path.segments_ne_nil htop (hinit.trans hnone)
      rw [segments_joinPath hdot fun htop' => absurd htop' htop, hinit, withoutLeadingEmpty,
        if_neg (by simpa using hsome)]

/-- Names are flattened alike if they are the same behind the leading empty ones. -/
lemma flatten_eq_iff (h : ∀ name ∈ names, '.' ∉ name.toList)
    (h' : ∀ name ∈ others, '.' ∉ name.toList) :
    flatten names = flatten others ↔ withoutLeadingEmpty names = withoutLeadingEmpty others := by
  constructor
  · intro heq
    rw [← segments_flatten h, heq, segments_flatten h']
  · intro heq
    rw [← flatten_withoutLeadingEmpty, heq, flatten_withoutLeadingEmpty]

lemma withoutLeadingEmpty_eq_nil_iff :
    withoutLeadingEmpty names = [] ↔ ∀ name ∈ names, name = "" := by
  simp [withoutLeadingEmpty, List.dropWhile_eq_nil_iff]

lemma flatten_eq_empty_iff (h : ∀ name ∈ names, '.' ∉ name.toList) :
    flatten names = "" ↔ ∀ name ∈ names, name = "" := by
  have hroot : flatten names = flatten [] ↔ withoutLeadingEmpty names = [] :=
    flatten_eq_iff h nofun
  rw [← withoutLeadingEmpty_eq_nil_iff]
  exact hroot

/-! ## Changes between values -/

mutual

/-- Changes that fit a value change no field twice. -/
lemma wellFormed_of_fits {d : Diff} {x : Option Value} (h : Fits d x) : d.WellFormed := by
  cases h with
  | set v => trivial
  | removed => trivial
  | nested hall => exact wellFormed_of_fitsAll hall

lemma wellFormed_of_fitsAll {cs : List (String × Diff)} {fields : List (String × Value)}
    (h : FitsAll cs fields) : Fields.Distinct cs ∧ WellFormedChanges cs := by
  cases h with
  | nil => exact ⟨List.nodup_nil, trivial⟩
  | cons hdot hname hd hcs =>
    obtain ⟨hdistinct, hparts⟩ := wellFormed_of_fitsAll hcs
    exact ⟨List.nodup_cons.2 ⟨hname, hdistinct⟩, wellFormed_of_fits hd, hparts⟩

end

mutual

/-- In changes that fit a value no name of a leaf contains a dot. -/
lemma undotted_of_fits {d : Diff} {x : Option Value} (h : Fits d x) :
    ∀ names ∈ leafNames d, ∀ name ∈ names, '.' ∉ name.toList := by
  cases h with
  | set v => simp [leafNames]
  | removed => simp [leafNames]
  | nested hall => exact undotted_of_fitsAll hall

lemma undotted_of_fitsAll {cs : List (String × Diff)} {fields : List (String × Value)}
    (h : FitsAll cs fields) : ∀ names ∈ leafNamesOf cs, ∀ name ∈ names, '.' ∉ name.toList := by
  cases h with
  | nil => simp [leafNamesOf]
  | cons hdot hname hd hcs =>
    intro names hnames
    rcases List.mem_append.1 hnames with hmem | hmem
    · obtain ⟨more, hmore, rfl⟩ := List.mem_map.1 hmem
      exact List.forall_mem_cons.2 ⟨hdot, undotted_of_fits hd more hmore⟩
    · exact undotted_of_fitsAll hcs names hmem

end

lemma eq_set_of_isLeaf {new old : Value} (h : between? new old = some d) (hleaf : d.isLeaf = true) :
    d = set new := by
  by_cases hmaps : ∀ fs gs, new = .map fs → old ≠ .map gs
  · rw [between?_of_not_maps hmaps] at h
    exact (replacement?_eq_some_iff.1 h).2
  · push Not at hmaps
    obtain ⟨fs, gs, rfl, rfl⟩ := hmaps
    rw [eq_nested_of_between?_map h] at hleaf
    cases hleaf

/-- If nothing is changed under an empty name at the top, names of leaves have no empty ones in
front. -/
lemma withoutLeadingEmpty_of_leadsToLeaf (htop : d.change? "" = none) (h : d.LeadsToLeaf names) :
    withoutLeadingEmpty names = names := by
  cases names with
  | nil => rfl
  | cons name names =>
    obtain ⟨leaf, hat, -⟩ := h
    obtain ⟨c, hc, -⟩ := Option.bind_eq_some_iff.1 hat
    have hne : ¬ name.isEmpty = true := by
      intro hempty
      rw [String.isEmpty_iff.1 hempty, htop] at hc
      cases hc
    exact List.dropWhile_cons_of_neg hne

/-- Of changes between two values without dots in their names, two entries have the same path
exactly if the names that lead to their leaves are the same but for leading empty ones, and the
path of an entry is empty exactly if all its names are.  So if nothing is changed under an empty
name at the top, the paths are distinct, and the empty one is that of a new value in place of
the old one. -/
theorem paths_distinct_iff (new old : Value) (d : Diff) (hn : new.WellFormed)
    (ho : old.WellFormed) (hnew : new.Undotted) (hold : old.Undotted)
    (hd : between? new old = some d) :
    ((Fields.names d.entries).Nodup ↔
        ∀ names others, d.LeadsToLeaf names → d.LeadsToLeaf others →
          withoutLeadingEmpty names = withoutLeadingEmpty others → names = others) ∧
      ("" ∈ Fields.names d.entries ↔
        ∃ names, d.LeadsToLeaf names ∧ ∀ name ∈ names, name = "") ∧
      (d.change? "" = none → (Fields.names d.entries).Nodup ∧
        ("" ∈ Fields.names d.entries ↔ d = set new)) := by
  have hfits := fits_of_between? hn ho hnew hold hd
  have hwell := wellFormed_of_fits hfits
  have hdots := undotted_of_fits hfits
  have hdistinct : (Fields.names d.entries).Nodup ↔
      ∀ names others, d.LeadsToLeaf names → d.LeadsToLeaf others →
        withoutLeadingEmpty names = withoutLeadingEmpty others → names = others := by
    rw [names_entries, List.nodup_map_iff_inj_on (nodup_leafNames hwell)]
    simp only [← mem_leafNames_iff hwell]
    constructor
    · intro h names others hnames hothers heq
      refine h names hnames others hothers ?_
      exact (flatten_eq_iff (hdots names hnames) (hdots others hothers)).2 heq
    · intro h names hnames others hothers heq
      refine h names others hnames hothers ?_
      exact (flatten_eq_iff (hdots names hnames) (hdots others hothers)).1 heq
  have hempty : "" ∈ Fields.names d.entries ↔
      ∃ names, d.LeadsToLeaf names ∧ ∀ name ∈ names, name = "" := by
    rw [names_entries, List.mem_map]
    simp only [← mem_leafNames_iff hwell]
    refine exists_congr fun names => and_congr_right fun hnames => ?_
    exact flatten_eq_empty_iff (hdots names hnames)
  refine ⟨hdistinct, hempty, fun htop => ⟨?_, ?_⟩⟩
  · rw [hdistinct]
    intro names others hnames hothers heq
    rwa [withoutLeadingEmpty_of_leadsToLeaf htop hnames,
      withoutLeadingEmpty_of_leadsToLeaf htop hothers] at heq
  · rw [hempty]
    constructor
    · rintro ⟨names, hnames, hall⟩
      obtain rfl : names = [] := by
        rw [← withoutLeadingEmpty_of_leadsToLeaf htop hnames]
        exact withoutLeadingEmpty_eq_nil_iff.2 hall
      obtain ⟨leaf, hat, hleaf⟩ := hnames
      obtain rfl := Option.some.inj hat
      exact eq_set_of_isLeaf hd hleaf
    · rintro rfl
      exact ⟨[], ⟨_, rfl, rfl⟩, nofun⟩

/-- The paths of entries where a field with an empty name is changed, but not at the top. -/
theorem paths_distinct_iff_inside :
    let new : Value := .map [("a", .map [("", .null), ("b", .text "new")]), ("c", .list [])]
    let old : Value := .map [("c", .null), ("a", .map [("b", .text "old")])]
    let d := nested [("c", set (.list [])),
      ("a", nested [("", set .null), ("b", set (.text "new"))])]
    (new.WellFormed ∧ old.WellFormed ∧ new.Undotted ∧ old.Undotted ∧
        between? new old = some d ∧ d.change? "" = none) ∧
      Fields.names d.entries = ["c", "a.", "a.b"] ∧ (Fields.names d.entries).Nodup ∧
      ("" ∈ Fields.names d.entries ↔ d = set new) := by
  intro new old d
  have hn : new.WellFormed := by
    simp [new, Value.WellFormed, Value.WellFormedFields, Value.WellFormedItems, Fields.Distinct,
      Fields.names]
  have ho : old.WellFormed := by
    simp [old, Value.WellFormed, Value.WellFormedFields, Fields.Distinct, Fields.names]
  have hdots : new.Undotted ∧ old.Undotted := by decide
  have hd : between? new old = some d := by rfl
  obtain ⟨-, -, htop⟩ := paths_distinct_iff new old d hn ho hdots.1 hdots.2 hd
  exact ⟨⟨hn, ho, hdots.1, hdots.2, hd, rfl⟩, by decide, htop rfl⟩

/-- A field inside of one with an empty name has the path of the field beside it, and a field
with an empty name has the path of the whole value. -/
theorem paths_collide :
    let new : Value := .map [("", .map [("a", .null)]), ("a", .list [])]
    let old : Value := .map [("", .map [])]
    let d := nested [("a", set (.list [])), ("", nested [("a", set .null)])]
    let root : Value := .map [("", .null)]
    (new.WellFormed ∧ old.WellFormed ∧ root.WellFormed) ∧
      (new.Undotted ∧ old.Undotted ∧ root.Undotted) ∧
      (between? new old = some d ∧ Fields.names d.entries = ["a", "a"]) ∧
      between? root .emptyMap = some (nested [("", set .null)]) ∧
      Fields.names (nested [("", set .null)]).entries = [""] := by
  intro new old d root
  refine ⟨⟨?_, ?_, ?_⟩, by decide, ⟨by rfl, by decide⟩, by rfl, by decide⟩
  · simp [new, Value.WellFormed, Value.WellFormedFields, Value.WellFormedItems, Fields.Distinct,
      Fields.names]
  · simp [old, Value.WellFormed, Value.WellFormedFields, Fields.Distinct, Fields.names]
  · simp [root, Value.WellFormed, Value.WellFormedFields, Fields.Distinct, Fields.names]

end ViewKit.Diff
