/-
# Filling the placeholders of a phrase

The placeholders of a phrase are filled one field after the other, and each one looks at what
the fields before it left.  A text that is put in can therefore hold a placeholder, or make
one together with what stands beside it, and then the order of the fields matters
(`phrase_depends_on_order`).

A phrase is made of words and places (`Part`).  If neither the words nor the texts that are put
in have a mark that opens a place, and no two of them can make one side by side (`Settled`),
then filling in the fields in turn is filling all places at once (`fill_spell`).  That only
looks fields up, so their order does not matter (`phrase_filled_at_once`).
-/
import Mathlib.Data.List.Chain
import ViewKit.Locale
import ViewKit.Proofs.Fields

namespace ViewKit.Locale

open Text (replaceFirst)

variable {xs ys cs : List Char} {c : Char} {name other : String}

/-! ## Marks -/

/-- Two characters in a row open a place. -/
def Opens (a b : Char) : Prop := a = '%' ∧ b = '\x7b'

instance (a b : Char) : Decidable (Opens a b) := inferInstanceAs (Decidable (_ ∧ _))

/-- No place opens in a text. -/
def Unmarked (cs : List Char) : Prop := cs.IsChain fun a b => ¬ Opens a b

instance (cs : List Char) : Decidable (Unmarked cs) :=
  inferInstanceAs (Decidable (cs.IsChain _))

/-- No place opens with the last character of a text and the first one of another. -/
def Apart (xs ys : List Char) : Prop := ∀ a ∈ xs.getLast?, ∀ b ∈ ys.head?, ¬ Opens a b

lemma placeholder_append (name : String) (ys : List Char) :
    placeholder name ++ ys = '%' :: '\x7b' :: (name.toList ++ '\x7d' :: ys) := by
  simp [placeholder]

/-- A placeholder begins only where a place opens. -/
lemma not_begins_with_placeholder (h : ∀ b ∈ cs.head?, ¬ Opens c b) (name : String) :
    ¬ placeholder name <+: c :: cs := by
  rintro ⟨rest, hrest⟩
  rw [placeholder_append] at hrest
  obtain ⟨rfl, rfl⟩ := List.cons.inj hrest
  exact h _ rfl ⟨rfl, rfl⟩

/-- Replacing a placeholder leaves a text in which no place opens. -/
lemma replaceFirst_append (hx : Unmarked xs) (hapart : Apart xs ys) (name : String) :
    replaceFirst (placeholder name) cs (xs ++ ys) =
      xs ++ replaceFirst (placeholder name) cs ys := by
  induction xs with
  | nil => rfl
  | cons x xs ih =>
    obtain ⟨hhead, hrest⟩ := List.isChain_cons.1 hx
    have hopens : ∀ b ∈ (xs ++ ys).head?, ¬ Opens x b := by
      cases xs with
      | nil => exact hapart x rfl
      | cons d xs => exact hhead
    have hapart' : Apart xs ys := by
      cases xs with
      | nil => exact nofun
      | cons d xs => exact hapart
    rw [List.cons_append, Text.replaceFirst_cons (not_begins_with_placeholder hopens name),
      ih hrest hapart']
    rfl

/-- Of names without the closing mark only the one that stands in a placeholder fits it. -/
lemma eq_of_begins_with_placeholder (hname : '\x7d' ∉ name.toList) (hother : '\x7d' ∉ other.toList)
    (h : placeholder name <+: placeholder other ++ ys) : name = other := by
  obtain ⟨rest, hrest⟩ := h
  rw [placeholder_append, placeholder_append] at hrest
  have hsplit := congrArg (Text.splitAt '\x7d') (List.cons.inj (List.cons.inj hrest).2).2
  rw [Text.splitAt_append, Text.splitAt_append, Text.splitAt_of_not_mem hname,
    Text.splitAt_of_not_mem hother] at hsplit
  exact String.toList_inj.1 (List.cons.inj hsplit).1

/-- Replacing a placeholder leaves one of another name. -/
lemma replaceFirst_placeholder_of_ne (hne : other ≠ name) (hname : '\x7d' ∉ name.toList)
    (hother : '\x7d' ∉ other.toList) (hmarks : Unmarked other.toList) (ys : List Char) :
    replaceFirst (placeholder name) cs (placeholder other ++ ys) =
      placeholder other ++ replaceFirst (placeholder name) cs ys := by
  have hnot : ¬ placeholder name <+: placeholder other ++ ys :=
    fun h => hne (eq_of_begins_with_placeholder hname hother h).symm
  -- behind the mark that opens it no place opens before it is closed
  have htail : Unmarked ('\x7b' :: (other.toList ++ ['\x7d'])) := by
    refine List.isChain_cons.2 ⟨fun b _ h => absurd h.1 (by decide), ?_⟩
    refine List.isChain_append.2 ⟨hmarks, List.isChain_singleton _, ?_⟩
    rintro a - b hb ⟨-, rfl⟩
    exact absurd (Option.some.inj hb) (by decide)
  have hapart : Apart ('\x7b' :: (other.toList ++ ['\x7d'])) ys := by
    rintro a ha b - ⟨rfl, -⟩
    rw [← List.cons_append, List.getLast?_concat] at ha
    exact absurd (Option.some.inj ha) (by decide)
  have hspelled (zs : List Char) : placeholder other ++ zs =
      '%' :: ('\x7b' :: (other.toList ++ ['\x7d']) ++ zs) := by
    simp [placeholder]
  rw [hspelled] at hnot
  rw [hspelled, Text.replaceFirst_cons hnot, replaceFirst_append htail hapart, ← hspelled]

/-! ## Phrases made of parts -/

/-- A part of a phrase. -/
inductive Part where
  | words (cs : List Char)
  /-- The place of a field. -/
  | place (name : String)

/-- How a part is spelled. -/
def Part.spelled : Part → List Char
  | words cs => cs
  | place name => placeholder name

/-- The phrase that some parts make. -/
def spell (parts : List Part) : List Char := parts.flatMap Part.spelled

/-- The words among some parts. -/
def wordsOf : List Part → List (List Char)
  | [] => []
  | .words cs :: parts => cs :: wordsOf parts
  | .place _ :: parts => wordsOf parts

/-- The names of the places among some parts. -/
def placesOf : List Part → List String
  | [] => []
  | .words _ :: parts => placesOf parts
  | .place name :: parts => name :: placesOf parts

/-- Fills the first place of a name. -/
def fillFirst (name : String) (cs : List Char) : List Part → List Part
  | [] => []
  | .words w :: parts => .words w :: fillFirst name cs parts
  | .place n :: parts =>
    if n = name then .words cs :: parts else .place n :: fillFirst name cs parts

/-- Fills the first place of each name at once. -/
def filled (fields : List (String × Value)) : List Part → List Part
  | [] => []
  | .words w :: parts => .words w :: filled fields parts
  | .place n :: parts =>
    match Fields.get? n fields with
    | some v => .words v.display.toList :: filled (Fields.erase n fields) parts
    | none => .place n :: filled fields parts

/-- The texts that a phrase is made of when it is filled in. -/
def textsOf (fields : List (String × Value)) (parts : List Part) : List (List Char) :=
  wordsOf parts ++ fields.map fun p => p.2.display.toList

/-- Nothing but the places of a phrase can be taken for a placeholder, before and after they
are filled in: names do not close a place or open another one, the texts open none, and none of
them ends as if it did, unless all of them begin otherwise. -/
structure Settled (fields : List (String × Value)) (parts : List Part) : Prop where
  names : ∀ name ∈ Fields.names fields, '\x7d' ∉ name.toList
  places : ∀ name ∈ placesOf parts, '\x7d' ∉ name.toList ∧ Unmarked name.toList
  unmarked : ∀ cs ∈ textsOf fields parts, Unmarked cs
  seams : (∀ cs ∈ textsOf fields parts, cs.getLast? ≠ some '%') ∨
    ∀ cs ∈ textsOf fields parts, cs.head? ≠ some '\x7b'

variable {fields gs : List (String × Value)} {parts : List Part} {v : Value}

lemma settled_iff : Settled fields parts ↔
    (∀ name ∈ Fields.names fields, '\x7d' ∉ name.toList) ∧
      (∀ name ∈ placesOf parts, '\x7d' ∉ name.toList ∧ Unmarked name.toList) ∧
      (∀ cs ∈ textsOf fields parts, Unmarked cs) ∧
      ((∀ cs ∈ textsOf fields parts, cs.getLast? ≠ some '%') ∨
        ∀ cs ∈ textsOf fields parts, cs.head? ≠ some '\x7b') :=
  ⟨fun h => ⟨h.names, h.places, h.unmarked, h.seams⟩, fun h => ⟨h.1, h.2.1, h.2.2.1, h.2.2.2⟩⟩

instance (fields : List (String × Value)) (parts : List Part) : Decidable (Settled fields parts) :=
  decidable_of_iff _ settled_iff.symm

lemma Settled.of_subset {fields' : List (String × Value)} {parts' : List Part}
    (h : Settled fields parts) (hnames : Fields.names fields' ⊆ Fields.names fields)
    (hplaces : placesOf parts' ⊆ placesOf parts)
    (htexts : textsOf fields' parts' ⊆ textsOf fields parts) : Settled fields' parts' where
  names name hname := h.names name (hnames hname)
  places name hname := h.places name (hplaces hname)
  unmarked cs hcs := h.unmarked cs (htexts hcs)
  seams := h.seams.imp (fun hends cs hcs => hends cs (htexts hcs))
    fun hbegins cs hcs => hbegins cs (htexts hcs)

lemma wordsOf_subset_cons (p : Part) (parts : List Part) :
    wordsOf parts ⊆ wordsOf (p :: parts) := by
  cases p with
  | words cs => exact List.subset_cons_self cs _
  | place name => exact List.Subset.refl _

lemma placesOf_subset_cons (p : Part) (parts : List Part) :
    placesOf parts ⊆ placesOf (p :: parts) := by
  cases p with
  | words cs => exact List.Subset.refl _
  | place name => exact List.subset_cons_self name _

lemma Settled.tail {p : Part} (h : Settled fields (p :: parts)) : Settled fields parts := by
  refine h.of_subset (List.Subset.refl _) (placesOf_subset_cons p parts) ?_
  intro cs hcs
  rcases List.mem_append.1 hcs with hcs | hcs
  · exact List.mem_append_left _ (wordsOf_subset_cons p parts hcs)
  · exact List.mem_append_right _ hcs

/-- A phrase does not begin as if it went on with a mark, if none of its words does. -/
lemma head?_spell (h : ∀ cs ∈ wordsOf parts, cs.head? ≠ some '\x7b') :
    (spell parts).head? ≠ some '\x7b' := by
  induction parts with
  | nil => exact nofun
  | cons p parts ih =>
    have hrest := ih fun cs hcs => h cs (wordsOf_subset_cons p parts hcs)
    cases p with
    | place name => simp [spell, Part.spelled, placeholder]
    | words cs =>
      cases cs with
      | nil => exact hrest
      | cons c cs => exact h (c :: cs) List.mem_cons_self

lemma Settled.apart (h : Settled fields (.words cs :: parts)) : Apart cs (spell parts) := by
  rintro a ha b hb ⟨rfl, rfl⟩
  rcases h.seams with hends | hbegins
  · exact hends cs List.mem_cons_self ha
  · refine head?_spell (fun w hw => ?_) hb
    exact hbegins w (List.mem_cons_of_mem cs (List.mem_append_left _ hw))

/-- Replacing a placeholder fills the first place of its name. -/
lemma replaceFirst_spell (h : Settled fields parts) (hname : '\x7d' ∉ name.toList) :
    replaceFirst (placeholder name) cs (spell parts) = spell (fillFirst name cs parts) := by
  induction parts with
  | nil => rfl
  | cons p parts ih =>
    have hrest := ih h.tail
    cases p with
    | words w =>
      have hw : Unmarked w := h.unmarked w List.mem_cons_self
      exact (replaceFirst_append hw h.apart name).trans (congrArg (w ++ ·) hrest)
    | place n =>
      rw [fillFirst]
      split
      · next heq =>
        subst heq
        exact Text.replaceFirst_of_begins (List.cons_ne_nil _ _) (spell parts)
      · next hne =>
        obtain ⟨hclose, hmarks⟩ := h.places n List.mem_cons_self
        exact (replaceFirst_placeholder_of_ne hne hname hclose hmarks (spell parts)).trans
          (congrArg (placeholder n ++ ·) hrest)

/-! ## In turn and at once -/

lemma placesOf_fillFirst (name : String) (cs : List Char) (parts : List Part) :
    placesOf (fillFirst name cs parts) ⊆ placesOf parts := by
  induction parts with
  | nil => exact List.Subset.refl _
  | cons p parts ih =>
    cases p with
    | words w => exact ih
    | place n =>
      rw [fillFirst]
      split
      · exact List.subset_cons_self n _
      · exact List.cons_subset_cons n ih

lemma wordsOf_fillFirst (name : String) (cs : List Char) (parts : List Part) :
    wordsOf (fillFirst name cs parts) ⊆ cs :: wordsOf parts := by
  induction parts with
  | nil => exact List.nil_subset _
  | cons p parts ih =>
    cases p with
    | words w =>
      intro x hx
      rcases List.mem_cons.1 hx with rfl | hx
      · simp [wordsOf]
      · rcases List.mem_cons.1 (ih hx) with rfl | hx
        · exact List.mem_cons_self
        · exact List.mem_cons_of_mem _ (List.mem_cons_of_mem _ hx)
    | place n =>
      rw [fillFirst]
      split
      · exact List.Subset.refl _
      · exact ih

lemma Settled.fillFirst (h : Settled ((name, v) :: fields) parts) :
    Settled fields (fillFirst name v.display.toList parts) := by
  refine h.of_subset (List.subset_cons_self _ _) (placesOf_fillFirst name _ parts) ?_
  intro cs hcs
  rcases List.mem_append.1 hcs with hcs | hcs
  · rcases List.mem_cons.1 (wordsOf_fillFirst name _ parts hcs) with rfl | hcs
    · exact List.mem_append_right _ List.mem_cons_self
    · exact List.mem_append_left _ hcs
  · exact List.mem_append_right _ (List.mem_cons_of_mem _ hcs)

lemma filled_nil (parts : List Part) : filled [] parts = parts := by
  induction parts with
  | nil => rfl
  | cons p parts ih => cases p <;> simp [filled, Fields.get?, ih]

/-- A field may be filled in before the others. -/
lemma filled_cons (hname : name ∉ Fields.names fields) (v : Value) (parts : List Part) :
    filled ((name, v) :: fields) parts =
      filled fields (fillFirst name v.display.toList parts) := by
  induction parts generalizing fields with
  | nil => rfl
  | cons p parts ih =>
    cases p with
    | words w => rw [filled, fillFirst, filled, ih hname]
    | place n =>
      rw [filled, fillFirst, Fields.get?_cons, Fields.erase]
      by_cases hn : name = n
      · subst hn
        rw [if_pos rfl, if_pos rfl, if_pos rfl, filled]
      · rw [if_neg hn, if_neg (Ne.symm hn), if_neg hn, filled]
        cases Fields.get? n fields with
        | none => exact congrArg (_ :: ·) (ih hname)
        | some w =>
          have herase : name ∉ Fields.names (Fields.erase n fields) :=
            fun hmem => hname ((Fields.names_erase_sublist n fields).subset hmem)
          exact congrArg (_ :: ·) (ih herase)

/-- Filling in the fields in turn is filling all places at once. -/
theorem fill_spell (hd : Fields.Distinct fields) (h : Settled fields parts) :
    fill fields (spell parts) = spell (filled fields parts) := by
  induction fields generalizing parts with
  | nil => rw [filled_nil]; rfl
  | cons p fields ih =>
    obtain ⟨name, v⟩ := p
    obtain ⟨hname, hd⟩ := List.nodup_cons.1 hd
    have hclose := h.names name List.mem_cons_self
    calc fill ((name, v) :: fields) (spell parts)
        = fill fields (replaceFirst (placeholder name) v.display.toList (spell parts)) := rfl
      _ = fill fields (spell (fillFirst name v.display.toList parts)) := by
          rw [replaceFirst_spell h hclose]
      _ = spell (filled fields (fillFirst name v.display.toList parts)) := ih hd h.fillFirst
      _ = spell (filled ((name, v) :: fields) parts) := by rw [filled_cons hname]

/-- Filling all places at once only looks fields up. -/
lemma filled_congr (hf : Fields.Distinct fields) (hg : Fields.Distinct gs)
    (h : ∀ name, Fields.get? name fields = Fields.get? name gs) (parts : List Part) :
    filled fields parts = filled gs parts := by
  induction parts generalizing fields gs with
  | nil => rfl
  | cons p parts ih =>
    cases p with
    | words w => rw [filled, filled, ih hf hg h]
    | place n =>
      rw [filled, filled, h n]
      cases Fields.get? n gs with
      | none => exact congrArg (_ :: ·) (ih hf hg h)
      | some v =>
        refine congrArg (_ :: ·) (ih (hf.erase n) (hg.erase n) fun name => ?_)
        rw [hf.get?_erase, hg.get?_erase, h name]

lemma Settled.perm (h : Settled fields parts) (hperm : fields.Perm gs) : Settled gs parts := by
  refine h.of_subset (hperm.map _).symm.subset (List.Subset.refl _) fun cs hcs => ?_
  rcases List.mem_append.1 hcs with hcs | hcs
  · exact List.mem_append_left _ hcs
  · exact List.mem_append_right _ ((hperm.map _).mem_iff.2 hcs)

/-! ## Phrases of a locale -/

/-- The text of a phrase in the current language. -/
def phraseAt? (l : Locale) (path : String) : Option String :=
  ((l.locales?.bind fun locales => locales.field? l.language).bind
    fun texts => Path.get? texts path).bind phraseText?

lemma phrase_eq (l : Locale) (path : String) (fields : List (String × Value)) :
    l.phrase path (.map fields) =
      match l.phraseAt? path with
      | none => path
      | some text => String.ofList (fill fields text.toList) := rfl

/-- If only places can be taken for placeholders, in the phrase at a path and in the texts that
it is filled with, then the order of the fields does not matter: the phrase is filled in at all
places at once. -/
theorem phrase_filled_at_once (l : Locale) (path : String) (fs gs : List (String × Value))
    (hd : Fields.Distinct fs) (hperm : fs.Perm gs)
    (h : ∀ text, l.phraseAt? path = some text →
      ∃ parts, text.toList = spell parts ∧ Settled fs parts) :
    l.phrase path (.map fs) = l.phrase path (.map gs) ∧
      ∀ text parts, l.phraseAt? path = some text → text.toList = spell parts →
        Settled fs parts → l.phrase path (.map fs) = String.ofList (spell (filled fs parts)) := by
  have hg := hd.perm hperm
  have hfilled (text : String) (parts : List Part) (hspell : text.toList = spell parts)
      (hsettled : Settled fs parts) : fill fs text.toList = spell (filled fs parts) := by
    rw [hspell, fill_spell hd hsettled]
  constructor
  · rw [phrase_eq, phrase_eq]
    cases htext : l.phraseAt? path with
    | none => rfl
    | some text =>
      obtain ⟨parts, hspell, hsettled⟩ := h text htext
      have horder : filled fs parts = filled gs parts :=
        filled_congr hd hg (hd.get?_perm hperm) parts
      have hgs : fill gs text.toList = spell (filled gs parts) := by
        rw [hspell, fill_spell hg (hsettled.perm hperm)]
      exact congrArg String.ofList (by rw [hfilled text parts hspell hsettled, hgs, horder])
  · intro text parts htext hspell hsettled
    rw [phrase_eq, htext]
    exact congrArg String.ofList (hfilled text parts hspell hsettled)

/-- A locale with one phrase. -/
def withPhrase (text : String) : Locale :=
  build (.map [("locales", .map [("en", .map [("phrase", .text text)])])])

/-- A phrase with a place that occurs twice, and texts that begin or end like marks. -/
theorem phrase_filled_at_once_percent :
    let text := "%\x7bn\x7d%: %\x7bwho\x7d%\x7bn\x7d"
    let parts : List Part := [.place "n", .words "%: ".toList, .place "who", .place "n"]
    let fs := [("n", Value.bool true), ("who", .text "\x7dx%")]
    let gs := [("who", Value.text "\x7dx%"), ("n", .bool true)]
    (Fields.Distinct fs ∧ fs.Perm gs ∧ (withPhrase text).phraseAt? "phrase" = some text ∧
        text.toList = spell parts ∧ Settled fs parts) ∧
      (withPhrase text).phrase "phrase" (.map fs) = "true%: \x7dx%%\x7bn\x7d" ∧
      (withPhrase text).phrase "phrase" (.map gs) = "true%: \x7dx%%\x7bn\x7d" := by
  intro text parts fs gs
  have hd : Fields.Distinct fs := by simp [fs, Fields.Distinct, Fields.names]
  have hperm : fs.Perm gs := List.Perm.swap _ _ _
  have htext : (withPhrase text).phraseAt? "phrase" = some text := by decide +kernel
  have hspell : text.toList = spell parts := by decide
  have hsettled : Settled fs parts := by decide
  have hparts : ∀ t, (withPhrase text).phraseAt? "phrase" = some t →
      ∃ parts, t.toList = spell parts ∧ Settled fs parts := by
    intro t ht
    rw [htext] at ht
    obtain rfl := Option.some.inj ht
    exact ⟨parts, hspell, hsettled⟩
  obtain ⟨horder, hfilled⟩ :=
    phrase_filled_at_once (withPhrase text) "phrase" fs gs hd hperm hparts
  have hshown : String.ofList (spell (filled fs parts)) = "true%: \x7dx%%\x7bn\x7d" := by decide
  have hfs := (hfilled text parts htext hspell hsettled).trans hshown
  exact ⟨⟨hd, hperm, htext, hspell, hsettled⟩, hfs, horder.symm.trans hfs⟩

/-- A text that is put in holds a placeholder: whether it is filled in depends on the order of
the fields. -/
theorem phrase_depends_on_order :
    let l := withPhrase "%\x7ba\x7d%\x7bb\x7d"
    let fs := [("a", Value.text "%\x7bb\x7d"), ("b", .text "x")]
    let gs := [("b", Value.text "x"), ("a", .text "%\x7bb\x7d")]
    Fields.Distinct fs ∧ fs.Perm gs ∧ l.phrase "phrase" (.map fs) = "x%\x7bb\x7d" ∧
      l.phrase "phrase" (.map gs) = "%\x7bb\x7dx" := by
  intro l fs gs
  refine ⟨?_, List.Perm.swap _ _ _, ?_, ?_⟩
  · simp [fs, Fields.Distinct, Fields.names]
  · decide +kernel
  · decide +kernel

end ViewKit.Locale
