/-
# Tokens of the region language

The code in the regions of a template is made of names, key words, numbers, quoted texts,
operators and other symbols, and comments.  This file lists them with their written forms.
-/
import ViewKit.Number.Text

namespace ViewKit

/-- Brackets, operators and punctuation. -/
inductive Symbol where
  | roundOpen
  | roundClose
  | curlyOpen
  | curlyClose
  | squareOpen
  | squareClose
  | strictEqual
  | strictNotEqual
  | equal
  | notEqual
  | greaterOrEqual
  | greater
  | lessOrEqual
  | less
  | and
  | or
  | not
  | increment
  | decrement
  | addAssign
  | assign
  | minus
  | plus
  | asterisk
  | slash
  | percent
  | colon
  | semicolon
  | comma
  | dot
  | question
deriving DecidableEq

namespace Symbol

/-- The written form of a symbol. -/
def text : Symbol → List Char
  | roundOpen => ['(']
  | roundClose => [')']
  | curlyOpen => ['\x7b']
  | curlyClose => ['\x7d']
  | squareOpen => ['[']
  | squareClose => [']']
  | strictEqual => ['=', '=', '=']
  | strictNotEqual => ['!', '=', '=']
  | equal => ['=', '=']
  | notEqual => ['!', '=']
  | greaterOrEqual => ['>', '=']
  | greater => ['>']
  | lessOrEqual => ['<', '=']
  | less => ['<']
  | and => ['&', '&']
  | or => ['|', '|']
  | not => ['!']
  | increment => ['+', '+']
  | decrement => ['-', '-']
  | addAssign => ['+', '=']
  | assign => ['=']
  | minus => ['-']
  | plus => ['+']
  | asterisk => ['*']
  | slash => ['/']
  | percent => ['%']
  | colon => [':']
  | semicolon => [';']
  | comma => [',']
  | dot => ['.']
  | question => ['?']

/-- The brackets. -/
def brackets : List Symbol :=
  [roundOpen, roundClose, curlyOpen, curlyClose, squareOpen, squareClose]

/-- The other symbols, each one before those that it starts with. -/
def operators : List Symbol :=
  [strictEqual, strictNotEqual, equal, notEqual, greaterOrEqual, greater, lessOrEqual, less,
    and, or, not, increment, decrement, addAssign, assign, minus, plus, asterisk, slash,
    percent, colon, semicolon, comma, dot, question]

end Symbol

/-- The words that are no names. -/
inductive Keyword where
  | ifWord
  | elseWord
  | forWord
  | inWord
  | letWord
  | constWord
  | varWord
  | trueWord
  | falseWord
  | nullWord
  | undefinedWord
  | thisWord
  | typeofWord
deriving DecidableEq

namespace Keyword

/-- The written form of a key word. -/
def text : Keyword → String
  | ifWord => "if"
  | elseWord => "else"
  | forWord => "for"
  | inWord => "in"
  | letWord => "let"
  | constWord => "const"
  | varWord => "var"
  | trueWord => "true"
  | falseWord => "false"
  | nullWord => "null"
  | undefinedWord => "undefined"
  | thisWord => "this"
  | typeofWord => "typeof"

/-- All key words. -/
def all : List Keyword :=
  [ifWord, elseWord, forWord, inWord, letWord, constWord, varWord, trueWord, falseWord,
    nullWord, undefinedWord, thisWord, typeofWord]

end Keyword

/-- A token. -/
inductive Token where
  | symbol (s : Symbol)
  | keyword (k : Keyword)
  | name (s : String)
  | number (x : Float)
  /-- A quoted text, without its quotes and with its escapes decoded. -/
  | text (s : String)
  /-- A comment with its marks. -/
  | comment (s : String)
deriving DecidableEq

namespace Token

/-- The token of a word: a key word or a name. -/
def ofWord (word : String) : Token :=
  match Keyword.all.find? (·.text == word) with
  | some k => keyword k
  | none => name word

/-- The form in which messages mention a token. -/
def display : Token → String
  | symbol s => String.ofList s.text
  | keyword k => k.text
  | name s => s
  | number x => Number.shortestText x
  | text s => "'" ++ s ++ "'"
  | comment s => s

/-- Comments mean nothing to the grammar. -/
def isComment : Token → Bool
  | comment _ => true
  | _ => false

end Token
end ViewKit
