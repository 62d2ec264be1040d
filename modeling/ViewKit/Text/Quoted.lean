/-
# Quoted text

The form in which messages quote a text: in double quotes, with escapes for the quote, the
backslash, some controls, and every character that would not show or that would join the
one before it.
-/
import ViewKit.Text.CharProperty

namespace ViewKit.Text

/-- A number in hexadecimal digits. -/
def hexText (n : Nat) : String := String.ofList (Nat.toDigits 16 n)

/-- Whether a character shows on its own. -/
def isVisible (c : Char) : Bool :=
  if c.toNat < 0x7f then 0x20 ≤ c.toNat
  else !hiddenSet.contains c && !graphemeExtendSet.contains c

/-- How one character is written between double quotes. -/
def quotedChar (c : Char) : String :=
  match c with
  | '\x00' => "\\0"
  | '\t' => "\\t"
  | '\n' => "\\n"
  | '\r' => "\\r"
  | '"' => "\\\""
  | '\\' => "\\\\"
  | c => if isVisible c then String.singleton c else "\\u\x7b" ++ hexText c.toNat ++ "\x7d"

/-- A text in double quotes. -/
def quoted (s : String) : String :=
  "\"" ++ s.foldl (fun out c => out ++ quotedChar c) "" ++ "\""

end ViewKit.Text
