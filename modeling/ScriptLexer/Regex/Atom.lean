import ScriptLexer.Regex.Flags

/-! The smallest parts of regular expressions, alone or after a backslash, and where each may stand.
No tables of characters come with the expressions: letters in either case and the classes of
digits, white space and word characters are to be had for bytes only. Bytes beyond ASCII are no
text, so nothing may match one. -/
namespace ScriptLexer.Regex

inductive Atom where
  /-- A character; `byte` says that it is written as two hexadecimal digits. -/
  | literal (c : Char) (byte : Bool)
  /-- The digits, white space or the word characters, or what is not among them. -/
  | set (negated : Bool)
  /-- A position in the text, found by looking for words or not. -/
  | position (words : Bool)
deriving DecidableEq

namespace Atom

private def isASCII (c : Char) : Bool := c.toNat < 0x80

/-- Whether the atom may stand by itself. -/
def isAllowed (f : Flags) : Atom → Bool
  | literal c byte => if f.unicode then !f.ignoreCase else !byte || isASCII c
  | set negated => !f.unicode && !negated
  | position words => !words || !f.unicode

/-- Whether the atom may be a member of a bracketed class. -/
def isMember (f : Flags) : Atom → Bool
  | literal c byte => (literal c byte).isAllowed f && (f.unicode || isASCII c)
  | set negated => (set negated).isAllowed f
  | position _ => false

/-- The value of a hexadecimal digit. -/
private def digit? (c : Char) : Option Nat :=
  "0123456789abcdef".toList.idxOf? c.toLower

/-- The number that some hexadecimal digits stand for after the number read so far. -/
private def readDigits (f : Flags) : Nat → Nat → List Char → Option (Nat × List Char)
  | 0, value, cs => some (value, cs)
  | count + 1, value, cs =>
    match f.skipSpace cs with
    | [] => none
    | c :: rest => (digit? c).bind fun d => readDigits f count (16 * value + d) rest

/-- A character by so many digits of its number. -/
private def readNumber (f : Flags) (count : Nat) (cs : List Char) : Option (Atom × List Char) := do
  let (value, rest) ← readDigits f count 0 cs
  if value.isValidChar then some (literal (Char.ofNat value) (count == 2), rest) else none

/-- What stands after a backslash. Numbers that point back to a group are not known, nor are numbers
and properties of characters in braces. -/
def readEscaped (f : Flags) : List Char → Option (Atom × List Char)
  | [] => none
  | 'x' :: rest => readNumber f 2 rest
  | 'u' :: rest => readNumber f 4 rest
  | 'U' :: rest => readNumber f 8 rest
  | 'd' :: rest | 's' :: rest | 'w' :: rest => some (set false, rest)
  | 'D' :: rest | 'S' :: rest | 'W' :: rest => some (set true, rest)
  | 'A' :: rest | 'z' :: rest => some (position false, rest)
  | 'b' :: rest | 'B' :: rest | '<' :: rest | '>' :: rest => some (position true, rest)
  | 'a' :: rest => some (literal '\x07' false, rest)
  | 't' :: rest => some (literal '\t' false, rest)
  | 'n' :: rest => some (literal '\n' false, rest)
  | 'v' :: rest => some (literal '\x0b' false, rest)
  | 'f' :: rest => some (literal '\x0c' false, rest)
  | 'r' :: rest => some (literal '\r' false, rest)
  | c :: rest => if isASCII c && !c.isAlphanum then some (literal c false, rest) else none

end Atom
end ScriptLexer.Regex
