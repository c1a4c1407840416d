import ScriptLexer.CodePoint.Class

/-! The flags of regular expressions, as far as they decide whether an expression is well formed.
They hold from where they are set to the end of the group. -/
namespace ScriptLexer.Regex

structure Flags where
  /-- Letters match in either case. -/
  ignoreCase : Bool
  /-- What is matched are characters, and not bytes. -/
  unicode : Bool
  /-- White space and comments do not count. -/
  spaced : Bool
deriving DecidableEq

namespace Flags

/-- The flags that hold where none is set. -/
def initial : Flags := ⟨false, true, false⟩

/-- The letters of the flags. -/
def letters : List Char := ['i', 'm', 's', 'R', 'U', 'u', 'x']

/-- The flags with one of them set or reset, if it decides anything here. -/
def put (f : Flags) (on : Bool) : Char → Flags
  | 'i' => { f with ignoreCase := on }
  | 'u' => { f with unicode := on }
  | 'x' => { f with spaced := on }
  | _ => f

/-- The letters of flags up to a colon or a parenthesis, each at most once. Those after a hyphen are
reset; there is one hyphen at most, and a letter after it. `seen` holds what was read before. -/
def readLetters (f : Flags) (seen : List Char) :
    List Char → Option (Flags × List Char × Char × List Char)
  | [] => none
  | c :: rest =>
    if c == ':' || c == ')' then
      if seen.head? = some '-' then none else some (f, seen, c, rest)
    else if seen.contains c then none
    else if c == '-' then readLetters f (c :: seen) rest
    else if letters.contains c then readLetters (f.put (!seen.contains '-') c) (c :: seen) rest
    else none

/-- Drops white space and comments; `inside` says that a comment has begun. -/
private def dropSpace (inside : Bool) : List Char → List Char
  | [] => []
  | c :: rest =>
    if inside then dropSpace (c != '\n') rest
    else if CodePoint.isWhiteSpace c then dropSpace false rest
    else if c == '#' then dropSpace true rest
    else c :: rest

/-- What comes after white space and comments, where these do not count. -/
def skipSpace (f : Flags) (cs : List Char) : List Char :=
  if f.spaced then dropSpace false cs else cs

/-- The first character that is neither white space nor the first mark of a comment. -/
private def firstShown? (mark : Bool) : List Char → Option Char
  | [] => none
  | c :: rest =>
    if CodePoint.isWhiteSpace c then firstShown? mark rest
    else if c == '#' && !mark then firstShown? true rest
    else some c

/-- What seems to come next, of a comment only its mark being skipped. -/
def glimpse? (f : Flags) (cs : List Char) : Option Char :=
  if f.spaced then (firstShown? false cs).or cs.head? else cs.head?

end Flags
end ScriptLexer.Regex
