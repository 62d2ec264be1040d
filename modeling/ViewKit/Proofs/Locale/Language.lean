/-
# The language of a locale

A locale keeps its language as a field of a root that starts out as what its parameters say.
If that is a map, as it is when they say nothing, every request for a language takes effect:
the language is the one asked for if there are texts for it, else the fallback.  If it is
anything else, the root has no such field: each request fails and the language stays the
fallback.  `language_of_requests` says both of every sequence of requests;
`request_without_effect` is a locale of the second kind.
-/
import ViewKit.Locale
import ViewKit.Proofs.Path.Change
import ViewKit.Proofs.State.Write

namespace ViewKit.Locale

/-! ## What is asked for -/

/-- There are texts for a language. -/
def HasTexts (params : Value) (language : String) : Prop :=
  ∃ locales texts, params.field? "locales" = some locales ∧ locales.field? language = some texts

lemma hasTexts_iff {params : Value} {language : String} : HasTexts params language ↔
    ((params.field? "locales").any fun locales => (locales.field? language).isSome) = true := by
  rw [HasTexts]
  cases params.field? "locales" with
  | none => simp
  | some locales => simp [Option.isSome_iff_exists]

instance (params : Value) (language : String) : Decidable (HasTexts params language) :=
  decidable_of_iff _ hasTexts_iff.symm

/-- What a request for a language should come to: that language if there are texts for it. -/
def granted (params : Value) (language : String) : String :=
  if HasTexts params language then language else "en"

/-- The language that parameters ask for, if any. -/
def asked? (params : Value) : Option String := (params.field? "lang").bind Value.asText?

/-- The parameters let the root start out as a map: they say nothing about it, or a map. -/
def StartsAsMap (params : Value) : Prop :=
  ∀ root, params.field? "state" = some root → root = .null ∨ ∃ fields, root = .map fields

lemma resolveLanguage_eq (params : Value) (language : String) :
    resolveLanguage params language = granted params language := by
  rw [resolveLanguage, granted]
  simp only [hasTexts_iff]
  cases params.field? "locales" with
  | none => rfl
  | some locales => rfl

/-! ## One request -/

/-- The root of a locale is a map, and its parameters are the given ones. -/
structure Ready (params : Value) (l : Locale) : Prop where
  root : ∃ fields, l.state.root = .map fields
  params : l.state.params = params

/-- The root of a locale is no map. -/
def Barred (l : Locale) : Prop := ∀ fields, l.state.root ≠ .map fields

lemma segments_lang : Path.segments "lang" = [] ++ ["lang"] := rfl

lemma language_of_root {l : Locale} {fields : List (String × Value)}
    (h : l.state.root = .map fields) :
    l.language = ((Fields.get? "lang" fields).bind Value.asText?).getD "en" := by
  have hget : l.state.get? "lang" = Fields.get? "lang" fields :=
    Path.get?_field segments_lang (congrArg some h)
  rw [language, hget]
  rfl

variable (handlers : Handlers StateEvent) {l : Locale} {params : Value}

/-- Where the root is a map, a request succeeds and takes effect. -/
lemma Ready.setLanguage (h : Ready params l) (asked : String) :
    (l.setLanguage handlers asked).result.isOk = true ∧
      Ready params (l.setLanguage handlers asked).state ∧
      (l.setLanguage handlers asked).state.language = granted params asked := by
  obtain ⟨⟨fields, hroot⟩, rfl⟩ := h
  rw [Locale.setLanguage, resolveLanguage_eq,
    State.update_field handlers segments_lang (congrArg some hroot)]
  refine ⟨rfl, ⟨⟨_, rfl⟩, rfl⟩, ?_⟩
  rw [language_of_root rfl, Fields.get?_insert_self]
  rfl

lemma not_accepts_lang {v : Value} (h : ∀ fields, v ≠ .map fields) :
    Path.accepts "lang" v = false := by
  cases v with
  | map fields => exact absurd rfl (h fields)
  | _ => rfl

/-- Where the root is no map, a request fails and leaves everything as it is. -/
lemma Barred.setLanguage (h : Barred l) (asked : String) :
    (l.setLanguage handlers asked).result.isOk = false ∧
      (l.setLanguage handlers asked).state = l := by
  have haccepts : ¬ Path.accepts "lang" l.state.root = true := by
    rw [not_accepts_lang h]
    exact Bool.false_ne_true
  have hset (v : Value) : Path.set l.state.root "lang" v =
      (.error (Path.refusal "lang" "lang" l.state.root), l.state.root) := by
    rw [Path.set_eq_changeAt _ _ (by decide)]
    exact Path.changeAt_cons_of_not_accepts "lang" _ [] haccepts
  rw [Locale.setLanguage, State.update, if_neg (by decide), hset]
  exact ⟨rfl, rfl⟩

lemma Barred.language (h : Barred l) : l.language = "en" := by
  have hget : l.state.get? "lang" = l.state.root.child? "lang" :=
    Path.get?_eq_of_segments segments_lang
  rw [Locale.language, hget]
  cases hchild : l.state.root.child? "lang" with
  | none => rfl
  | some v =>
    have haccepts := Path.accepts_of_child? hchild
    rw [not_accepts_lang h] at haccepts
    cases haccepts

/-! ## Sequences of requests -/

/-- The locale after some requests for languages, whatever they come to. -/
def request (languages : List String) (l : Locale) : Locale :=
  languages.foldl (fun l asked => (l.setLanguage handlers asked).state) l

lemma Ready.request (h : Ready params l) (languages : List String) :
    Ready params (l.request handlers languages) := by
  induction languages generalizing l with
  | nil => exact h
  | cons asked languages ih => exact ih (h.setLanguage handlers asked).2.1

lemma Barred.request (h : Barred l) (languages : List String) :
    l.request handlers languages = l := by
  induction languages with
  | nil => rfl
  | cons asked languages ih =>
    rw [Locale.request, List.foldl_cons, (h.setLanguage handlers asked).2]
    exact ih

/-! ## Building -/

lemma field?_nonNull (params : Value) (name : String) :
    (State.nonNull params).field? name = params.field? name := by
  cases params <;> rfl

lemma build_eq (params : Value) : build params =
    (setLanguage .silent ((asked? params).getD "en") ⟨State.build params none []⟩).state := by
  have hasked : ((State.build params none []).params.field? "lang").bind Value.asText? =
      asked? params :=
    congrArg (·.bind Value.asText?) (field?_nonNull params "lang")
  rw [build, hasked]
  rfl

lemma root_build (params : Value) : (State.build params none []).root =
    State.nonNull (((params.field? "state").map State.nonNull).getD .emptyMap) := by
  rw [← field?_nonNull]
  have hroot : (State.build params none []).root =
      State.nonNull (State.defaultRoot (State.nonNull params)) := rfl
  rw [hroot, State.defaultRoot]
  cases (State.nonNull params).field? "state" <;> rfl

lemma nonNull_of_ne {v : Value} (h : v ≠ .null) : State.nonNull v = v := by
  cases v with
  | null => exact absurd rfl h
  | _ => rfl

lemma ready_of_startsAsMap (h : StartsAsMap params) :
    Ready (State.nonNull params) ⟨State.build params none []⟩ := by
  refine ⟨?_, rfl⟩
  rw [root_build]
  cases hstate : params.field? "state" with
  | none => exact ⟨[], rfl⟩
  | some root =>
    rcases h root hstate with rfl | ⟨fields, rfl⟩
    · exact ⟨[], rfl⟩
    · exact ⟨fields, rfl⟩

lemma barred_of_not_startsAsMap (h : ¬ StartsAsMap params) :
    Barred ⟨State.build params none []⟩ := by
  rw [StartsAsMap] at h
  push Not at h
  obtain ⟨root, hstate, hnull, hmap⟩ := h
  intro fields
  rw [root_build, hstate, Option.map_some, Option.getD_some, nonNull_of_ne hnull,
    nonNull_of_ne hnull]
  exact hmap fields

lemma granted_nonNull (params : Value) (asked : String) :
    granted (State.nonNull params) asked = granted params asked := by
  have h : HasTexts (State.nonNull params) asked ↔ HasTexts params asked := by
    simp only [HasTexts, field?_nonNull]
  exact if_congr h rfl rfl

lemma granted_fallback (params : Value) : granted params "en" = "en" := by
  rw [granted]
  split <;> rfl

/-- Where the parameters let the root start out as a map, the language is at first the one
they ask for, if they ask for one with texts, and every later request succeeds and leads to
the language asked for, if there are texts for it; otherwise it is the fallback.  Where they
do not, every request fails and the language is always the fallback. -/
theorem language_of_requests (handlers : Handlers StateEvent) (params : Value)
    (earlier : List String) (asked : String) :
    let l := build params
    let step := (l.request handlers earlier).setLanguage handlers asked
    (StartsAsMap params →
        l.language = (asked? params).elim "en" (granted params) ∧
          step.result.isOk = true ∧ step.state.language = granted params asked) ∧
      (¬ StartsAsMap params →
        l.language = "en" ∧ step.result.isOk = false ∧ step.state.language = "en") := by
  intro l step
  have hl : l = _ := build_eq params
  constructor
  · intro h
    have hfirst := (ready_of_startsAsMap h).setLanguage .silent ((asked? params).getD "en")
    rw [← hl] at hfirst
    obtain ⟨-, hready, hlanguage⟩ := hfirst
    have hstep := (hready.request handlers earlier).setLanguage handlers asked
    rw [granted_nonNull] at hlanguage hstep
    refine ⟨?_, hstep.1, hstep.2.2⟩
    rw [hlanguage]
    cases asked? params with
    | none => exact granted_fallback params
    | some first => rfl
  · intro h
    have hbarred := barred_of_not_startsAsMap h
    have hsame := (hbarred.setLanguage .silent ((asked? params).getD "en")).2
    rw [← hl] at hsame
    have hbarred' : Barred l := by rwa [hsame]
    have hstep := hbarred'.setLanguage handlers asked
    have hrequest : step = l.setLanguage handlers asked := by
      rw [← hbarred'.request handlers earlier]
    rw [hrequest, hstep.2]
    exact ⟨hbarred'.language, hstep.1, hbarred'.language⟩

/-- The parameters of a locale with texts in two languages that asks for the second one and
has something else to say about the root. -/
def twoLanguages (root : Value) : Value :=
  .map [("state", root), ("lang", .text "ru"),
    ("locales", .map [("en", .emptyMap), ("ru", .emptyMap)])]

/-- A locale whose root is a map with something else in place of the language, and one whose
root is a list. -/
theorem language_of_requests_by_root :
    let ready := twoLanguages (.map [("lang", .bool true)])
    let barred := twoLanguages (.list [])
    let later := ((build ready).request .silent ["ru", "de"]).setLanguage .silent "ru"
    let refused := ((build barred).request .silent ["de"]).setLanguage .silent "ru"
    (StartsAsMap ready ∧ (build ready).language = "ru" ∧ later.result.isOk = true ∧
        later.state.language = "ru") ∧
      ¬ StartsAsMap barred ∧ (build barred).language = "en" ∧ refused.result.isOk = false ∧
        refused.state.language = "en" := by
  intro ready barred later refused
  have hready : StartsAsMap ready := by
    rintro root h
    exact Or.inr ⟨_, (Option.some.inj h).symm⟩
  have hbarred : ¬ StartsAsMap barred := by
    intro h
    rcases h _ rfl with hnull | ⟨fields, hmap⟩
    · cases hnull
    · cases hmap
  obtain ⟨hfirst, hok, hlater⟩ := (language_of_requests .silent ready ["ru", "de"] "ru").1 hready
  exact ⟨⟨hready, hfirst, hok, hlater⟩, hbarred,
    (language_of_requests .silent barred ["de"] "ru").2 hbarred⟩

/-- A locale whose root is a text: the language that its parameters ask for has texts and does
not take effect, and asking for it later fails. -/
theorem request_without_effect :
    let params := twoLanguages (.text "x")
    asked? params = some "ru" ∧ HasTexts params "ru" ∧ (build params).language = "en" ∧
      ((build params).setLanguage .silent "ru").result =
        .error (.notAContainer "lang" "lang" "string") ∧
      ((build params).setLanguage .silent "ru").state.language = "en" := by
  intro params
  exact ⟨rfl, ⟨_, _, rfl, rfl⟩, rfl, rfl, rfl⟩

end ViewKit.Locale
