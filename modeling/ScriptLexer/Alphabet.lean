import ScriptLexer.CodePoint.Class

/-! The alphabet of the language: its operators and delimiters, and the classes into which it sorts
characters. All signs but four are one character that no other sign begins with; `=` and `!` also
begin a sign of two characters, so reading them takes a look at the character after. A character may
be both a letter and a digit, as the Roman numerals are: then it starts a word, but a number goes on
over it. -/
namespace ScriptLexer

inductive Sign where
  | assign
  | plus
  | minus
  | slash
  | asterisk
  | less
  | greater
  | bang
  | equal
  | notEqual
  | comma
  | semicolon
  | leftParen
  | rightParen
  | leftBrace
  | rightBrace
deriving DecidableEq

namespace Sign

/-- The characters that are a sign whatever follows them, with that sign. -/
def lone : List (Char × Sign) :=
  [('(', .leftParen), (')', .rightParen), (',', .comma), ('+', .plus), ('\x7b', .leftBrace),
   ('\x7d', .rightBrace), ('-', .minus), ('/', .slash), ('*', .asterisk), ('<', .less),
   ('>', .greater), (';', .semicolon)]

def ofLone? (c : Char) : Option Sign := lone.lookup c

/-- The longest sign that starts with `c`, given the character after `c` if there is one. -/
def starting? (c : Char) (after : Option Char) : Option Sign :=
  match ofLone? c with
  | some sign => some sign
  | none =>
    if c = '=' then some (if after = some '=' then equal else assign)
    else if c = '!' then some (if after = some '=' then notEqual else bang)
    else none

/-- The sign as it stands in a source. -/
def spelling : Sign → String
  | assign => "="
  | plus => "+"
  | minus => "-"
  | slash => "/"
  | asterisk => "*"
  | less => "<"
  | greater => ">"
  | bang => "!"
  | equal => "=="
  | notEqual => "!="
  | comma => ","
  | semicolon => ";"
  | leftParen => "("
  | rightParen => ")"
  | leftBrace => "\x7b"
  | rightBrace => "\x7d"

/-- How many characters the sign takes in a source. -/
def width : Sign → Nat
  | equal | notEqual => 2
  | _ => 1

/-- The name a token listing gives it. -/
def label : Sign → String
  | assign => "Assign"
  | plus => "Plus"
  | minus => "Minus"
  | slash => "Slash"
  | asterisk => "Asterisk"
  | less => "LessThan"
  | greater => "GreaterThan"
  | bang => "Bang"
  | equal => "Equal"
  | notEqual => "NotEqual"
  | comma => "Comma"
  | semicolon => "Semicolon"
  | leftParen => "LParen"
  | rightParen => "RParen"
  | leftBrace => "LBrace"
  | rightBrace => "RBrace"

theorem length_spelling (s : Sign) : s.spelling.toList.length = s.width := by cases s <;> decide

theorem width_pos (s : Sign) : 0 < s.width := by cases s <;> decide

theorem spelling_injective {s t : Sign} (h : s.spelling = t.spelling) : s = t := by
  revert h; cases s <;> cases t <;> decide

end Sign

namespace Alphabet

/-- The four characters that separate tokens and belong to none. -/
def isBlank (c : Char) : Bool := c == ' ' || c == '\t' || c == '\n' || c == '\r'

/-- The characters of words. -/
def isLetter (c : Char) : Bool := CodePoint.isAlphabetic c

/-- The characters of numbers. -/
def isDigit (c : Char) : Bool := CodePoint.isNumeric c

/-- Whether some sign starts with the character. -/
def startsSign (c : Char) : Bool := (Sign.starting? c none).isSome

/-- The characters that no token but `illegal` can start with, and that separate none. -/
def isIllegal (c : Char) : Bool := !(isBlank c || startsSign c || isLetter c || isDigit c)

end Alphabet
end ScriptLexer
