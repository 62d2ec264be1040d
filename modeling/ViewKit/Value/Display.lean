/-
# Values as text

The text of a value where it is shown: the items of a list stand between commas, a null
among them as an empty cell, and a map has one text whatever it holds.
-/
import ViewKit.Text.Markup
import ViewKit.Text.Split
import ViewKit.Value.Basic

namespace ViewKit.Value

mutual

/-- The text of a value. -/
def display : Value → String
  | null => "null"
  | bool b => if b then "true" else "false"
  | number x => Number.display x
  | text s => s
  | date t => t.text
  | list items => Text.join "," (displayItems items)
  | map _ => "[object Object]"

/-- The text of each item of a list; a null among them is an empty cell. -/
def displayItems : List Value → List String
  | [] => []
  | v :: vs => (if v.isNull then "" else display v) :: displayItems vs

end

/-- The text that a value prints into markup: a null prints nothing. -/
def printed (v : Value) : String := if v.isNull then "" else v.display

/-- The text that a value prints into markup when it is to read as itself there. -/
def escaped (v : Value) : String :=
  if v.isNull then "" else String.ofList (Text.escape v.display.toList)

end ViewKit.Value
