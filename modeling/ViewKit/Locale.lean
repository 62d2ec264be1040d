/-
# Locales

A locale finds the phrase of the current language for a path.  The languages and their texts
are parameters of a state whose root holds the name of the current language.
-/
import ViewKit.State
import ViewKit.Value.Display

namespace ViewKit

/-- A locale. -/
structure Locale where
  state : State

namespace Locale

/-- The language of a locale that has no other one. -/
def fallback : String := "en"

/-- The language that takes effect when another one is asked for: that one if there are texts
for it, else the fallback. -/
def resolveLanguage (params : Value) (language : String) : String :=
  match params.field? "locales" with
  | some locales => if (locales.field? language).isSome then language else fallback
  | none => fallback

/-- Changes the language. -/
def setLanguage (handlers : Handlers StateEvent) (language : String) (l : Locale) :
    Step Locale StateEvent :=
  let language := resolveLanguage l.state.params language
  let step := State.update handlers "lang" (.text language) l.state
  ⟨⟨step.state⟩, step.entries, step.result⟩

/-- Builds a locale from its parameters, which may name the first language.  Nobody is
subscribed yet when it takes effect. -/
def build (params : Value) : Locale :=
  let state := State.build params none []
  let language := ((state.params.field? "lang").bind Value.asText?).getD fallback
  (setLanguage .silent language ⟨state⟩).state

/-- The texts of all languages. -/
def locales? (l : Locale) : Option Value := l.state.params.field? "locales"

/-- The languages in the order of their declaration. -/
def languages (l : Locale) : List String :=
  ((l.locales?.bind Value.asMap?).map Fields.names).getD []

/-- The current language. -/
def language (l : Locale) : String := ((l.state.get? "lang").bind Value.asText?).getD fallback

/-- How the place of a field is marked in a text. -/
def placeholder (name : String) : List Char := ['%', '\x7b'] ++ name.toList ++ ['\x7d']

/-- Replaces the first placeholder of each field in turn by the text of what it holds. -/
def fill (fields : List (String × Value)) (text : List Char) : List Char :=
  fields.foldl
    (fun text (name, v) => Text.replaceFirst (placeholder name) v.display.toList text) text

/-- The text of a phrase: not the empty one, and only texts, numbers and truth values have
one. -/
def phraseText? : Value → Option String
  | .text s => if s.isEmpty then none else some s
  | .number x => some (Value.number x).display
  | .bool b => some (Value.bool b).display
  | _ => none

/-- The phrase at a path in the current language, with its placeholders filled in from data.
A path without a phrase stands for itself. -/
def phrase (l : Locale) (path : String) (data : Value) : String :=
  let found := (l.locales?.bind fun locales => locales.field? l.language).bind
    fun texts => Path.get? texts path
  match found.bind phraseText? with
  | none => path
  | some text => String.ofList (fill (data.asMap?.getD []) text.toList)

end Locale
end ViewKit
