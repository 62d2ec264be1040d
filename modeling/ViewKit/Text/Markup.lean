/-
# Text in markup

Four characters have a meaning of their own in markup and are written as entities.
-/

namespace ViewKit.Text

/-- How one character is written in markup. -/
def entity (c : Char) : List Char :=
  match c with
  | '&' => ['&', 'a', 'm', 'p', ';']
  | '<' => ['&', 'l', 't', ';']
  | '>' => ['&', 'g', 't', ';']
  | '"' => ['&', 'q', 'u', 'o', 't', ';']
  | c => [c]

/-- A text written in markup, so that it reads as itself. -/
def escape (cs : List Char) : List Char := cs.flatMap entity

end ViewKit.Text
