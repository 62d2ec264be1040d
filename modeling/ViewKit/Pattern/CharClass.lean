/-
# Classes of characters

A class is the test that its characters pass.  This file holds the classes that have a name
in patterns.
-/
import ViewKit.Text.Blank
import ViewKit.Text.Category
import ViewKit.Text.CharProperty
import ViewKit.Text.Fold

namespace ViewKit

/-- A class of characters. -/
abbrev CharClass := Char → Bool

namespace CharClass

/-- The characters from `low` to `high`. -/
def range (low high : Char) : CharClass := fun c => low ≤ c && c ≤ high

def single (x : Char) : CharClass := fun c => c == x

def nothing : CharClass := fun _ => false

def union (a b : CharClass) : CharClass := fun c => a c || b c

def intersection (a b : CharClass) : CharClass := fun c => a c && b c

def difference (a b : CharClass) : CharClass := fun c => a c && !b c

def symmetricDifference (a b : CharClass) : CharClass := fun c => a c != b c

/-- The class itself or all the other characters. -/
def negateIf (negated : Bool) (a : CharClass) : CharClass := fun c => a c != negated

/-- The characters with a case variant in the class. -/
def caseless (a : CharClass) : CharClass := fun c => a c || (Text.variants c).any a

/-- Closes a class under case variants where case does not matter. -/
def foldIf (ignoreCase : Bool) (a : CharClass) : CharClass := if ignoreCase then caseless a else a

/-! ## Classes with one letter -/

def digit : CharClass := fun c =>
  if c.toNat < 0x80 then c.isDigit
  else (Text.categoryTable.find? (·.1.contains "nd")).any fun (_, table) =>
    (Text.CharSet.ofTable table).contains c

def asciiWord : CharClass := fun c => c.isAlphanum || c == '_'

def word : CharClass := fun c => if c.toNat < 0x80 then asciiWord c else Text.wordSet.contains c

def asciiSpace : CharClass := fun c => c == ' ' || ('\t' ≤ c && c ≤ '\r')

def space : CharClass := Text.isBlank

/-! ## Classes of ASCII characters with a name -/

/-- The classes that are written as a name between colons. -/
def ascii? : String → Option CharClass
  | "alnum" => some Char.isAlphanum
  | "alpha" => some Char.isAlpha
  | "ascii" => some fun c => c.toNat < 0x80
  | "blank" => some fun c => c == ' ' || c == '\t'
  | "cntrl" => some fun c => c.toNat < 0x20 || c.toNat == 0x7f
  | "digit" => some Char.isDigit
  | "graph" => some fun c => 0x21 ≤ c.toNat && c.toNat ≤ 0x7e
  | "lower" => some Char.isLower
  | "print" => some fun c => 0x20 ≤ c.toNat && c.toNat ≤ 0x7e
  | "punct" => some fun c => 0x21 ≤ c.toNat && c.toNat ≤ 0x7e && !c.isAlphanum
  | "space" => some asciiSpace
  | "upper" => some Char.isUpper
  | "word" => some asciiWord
  | "xdigit" => some fun c => c.isDigit || ('a' ≤ c && c ≤ 'f') || ('A' ≤ c && c ≤ 'F')
  | _ => none

/-! ## Classes of Unicode characters with a name -/

/-- The names of properties are compared without case, separators and a leading `is`. -/
def normalName (name : String) : String :=
  let plain := name.toList.filterMap fun c =>
    if c == ' ' || c == '_' || c == '-' then none else some c.toLower
  match plain with
  | 'i' :: 's' :: rest =>
    if rest.isEmpty || plain == ['i', 's', 'c'] then String.ofList plain else String.ofList rest
  | _ => String.ofList plain

/-- The characters with one of the names in a table. -/
def inTable? (table : List (List String × String)) (name : String) : Option CharClass :=
  (table.find? (·.1.contains name)).map fun (_, ranges) =>
    let set := Text.CharSet.ofTable ranges
    set.contains

/-- The general categories that unite several others. -/
def categoryGroup? : String → Option (List String)
  | "l" | "letter" => some ["lu", "ll", "lt", "lm", "lo"]
  | "lc" | "casedletter" => some ["lu", "ll", "lt"]
  | "m" | "mark" | "combiningmark" => some ["mn", "mc", "me"]
  | "n" | "number" => some ["nd", "nl", "no"]
  | "p" | "punctuation" => some ["pc", "pd", "ps", "pe", "pi", "pf", "po"]
  | "s" | "symbol" => some ["sm", "sc", "sk", "so"]
  | "z" | "separator" => some ["zs", "zl", "zp"]
  | "c" | "other" => some ["cc", "cf", "co", "cn"]
  | "digit" => some ["nd"]
  | "cntrl" => some ["cc"]
  | "punct" => some ["pc", "pd", "ps", "pe", "pi", "pf", "po"]
  | _ => none

/-- A general category by its name. -/
def category? (name : String) : Option CharClass :=
  match name with
  | "any" => some fun _ => true
  | "ascii" => some fun c => c.toNat < 0x80
  | "assigned" => (inTable? Text.categoryTable "cn").map (negateIf true)
  | _ =>
    match categoryGroup? name with
    | some parts => some ((parts.filterMap (inTable? Text.categoryTable)).foldl union nothing)
    | none => inTable? Text.categoryTable name

/-- A property that a character has or has not, by its name. -/
def binaryProperty? : String → Option CharClass
  | "alphabetic" | "alpha" => some Text.alphabeticSet.contains
  | "lowercase" | "lower" => some Text.lowercaseSet.contains
  | "uppercase" | "upper" => some Text.uppercaseSet.contains
  | "whitespace" | "space" | "wspace" => some space
  | "cased" => some Text.cased.contains
  | "caseignorable" | "ci" => some Text.caseIgnorable.contains
  | "asciihexdigit" | "ahex" => ascii? "xdigit"
  | _ => none

/-- A class of Unicode characters by its name: a property, a general category or a script. -/
def unicode? (name : String) : Option CharClass :=
  let name := normalName name
  (binaryProperty? name).or ((category? name).or (inTable? Text.scriptTable name))

/-- A class of Unicode characters by a property and its value. -/
def unicodeValue? (property value : String) : Option CharClass :=
  let value := normalName value
  match normalName property with
  | "gc" | "generalcategory" | "category" => category? value
  | "sc" | "script" | "scx" | "scriptextensions" => inTable? Text.scriptTable value
  | _ => none

end CharClass
end ViewKit
