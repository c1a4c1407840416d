import ScriptLexer.CodePoint.Hidden

/-! Escaped text: characters that cannot be shown alone are written as a backslash and a name for
them. Which of the two quotes are escaped depends on what encloses the text, and is all that the
styles differ in. -/
namespace ScriptLexer.Text

/-- The quotes that an escaped text writes after a backslash. -/
structure Quotes where
  single : Bool
  double : Bool
deriving DecidableEq

namespace Quotes

/-- Inside single quotes. -/
def character : Quotes := ⟨true, false⟩

/-- Inside double quotes. -/
def string : Quotes := ⟨false, true⟩

/-- In running text, where either quote could be taken for an enclosing one. -/
def either : Quotes := ⟨true, true⟩

def escapes (q : Quotes) (c : Char) : Bool :=
  (c == '\x27' && q.single) || (c == '\x22' && q.double)

end Quotes

/-- The characters with an escape of two characters whatever encloses them, with its second one. -/
def shortEscape? : Char → Option Char
  | '\x00' => some '0'
  | '\t' => some 't'
  | '\n' => some 'n'
  | '\r' => some 'r'
  | '\\' => some '\\'
  | _ => none

/-- The halfwidth sound marks: letters that belong to the character before them and yet take a place
of their own. -/
def isHalfwidthSoundMark (c : Char) : Bool := c == '\uff9e' || c == '\uff9f'

/-- Whether the character shows nothing in a place of its own, and so is written by its number. -/
def isHidden (c : Char) : Bool :=
  (CodePoint.isGraphemeExtend c && !isHalfwidthSoundMark c) || CodePoint.isUnprintable c ||
    CodePoint.isDefaultIgnorable c

/-- A character by its number, in lower-case hexadecimal digits without leading zeros. -/
def numbered (c : Char) : List Char :=
  ['\\', 'u', '\x7b'] ++ Nat.toDigits 16 c.toNat ++ ['\x7d']

/-- One character as escaped text. -/
def escape (q : Quotes) (c : Char) : List Char :=
  match shortEscape? c with
  | some letter => ['\\', letter]
  | none => if q.escapes c then ['\\', c] else if isHidden c then numbered c else [c]

/-- A character between single quotes. -/
def quotedChar (c : Char) : String :=
  "'" ++ String.ofList (escape .character c) ++ "'"

/-- A text between double quotes. -/
def quotedString (s : String) : String :=
  "\"" ++ String.ofList (s.toList.flatMap (escape .string)) ++ "\""

end ScriptLexer.Text
