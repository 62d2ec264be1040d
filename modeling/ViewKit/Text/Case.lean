/-
# Upper and lower case

A text changes its case character by character, and one character may become several.  The
one rule that looks around is the lower case of the Greek capital sigma: it is the final
form at the end of a word, that is, behind a cased character and not in front of one.
-/
import ViewKit.Text.CaseTable

namespace ViewKit.Text

/-- Whether the run moves the character with this number. -/
def CaseRun.covers (r : CaseRun) (n : Nat) : Bool :=
  r.first ≤ n && n ≤ r.last && (n - r.first) % r.stride == 0

/-- The image of a character under runs and longer images; a character of neither stays. -/
def mapCase (runs : Array CaseRun) (long : List (Nat × List Nat)) (c : Char) : List Char :=
  match long.find? (·.1 == c.toNat) with
  | some (_, image) => image.map Char.ofNat
  | none =>
    match runs.find? (·.covers c.toNat) with
    | some r => [Char.ofNat (c.toNat + r.distance).toNat]
    | none => [c]

/-- One character in upper case. -/
def upperChar (c : Char) : List Char :=
  if c.toNat < 0x80 then [c.toUpper] else mapCase upperRuns upperLong c

/-- One character in lower case, away from its neighbours. -/
def lowerChar (c : Char) : List Char :=
  if c.toNat < 0x80 then [c.toLower] else mapCase lowerRuns lowerLong c

/-- A text in upper case. -/
def toUpper (cs : List Char) : List Char := cs.flatMap upperChar

/-- Whether the first character that is not passed over has a case. -/
def startsCased (cs : List Char) : Bool :=
  match cs.dropWhile caseIgnorable.contains with
  | c :: _ => cased.contains c
  | [] => false

/-- A text in lower case, with the characters before it in reverse. -/
def lowerFrom : List Char → List Char → List Char
  | _, [] => []
  | before, c :: cs =>
    let image :=
      if c == 'Σ' then if startsCased before && !startsCased cs then ['ς'] else ['σ']
      else lowerChar c
    image ++ lowerFrom (c :: before) cs

/-- A text in lower case. -/
def toLower (cs : List Char) : List Char := lowerFrom [] cs

end ViewKit.Text
