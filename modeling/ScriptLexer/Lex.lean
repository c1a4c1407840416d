import ScriptLexer.Diagnostic.Basic
import ScriptLexer.Session

/-! The two ways to lex a whole source. The lenient one keeps illegal characters as tokens; the
strict one gives up at the first of them and says which it is. -/
namespace ScriptLexer

/-- The lexemes of a source, the end token last. -/
def lexemes (source : String) : List Lexeme := (Stream.ofCursor (.ofString source)).toList

/-- The tokens of a source, the end token last. -/
def lex (source : String) : List Token := (lexemes source).map (·.token)

/-- What a strict reading of a source met: the lexemes it took, in order, and the illegal one that
ended it, if one did. -/
structure StrictReading where
  taken : List Lexeme
  refused : Option Lexeme
deriving DecidableEq

namespace StrictReading

/-- Reads up to the end token or the first illegal one. -/
def ofCursor (c : Cursor) : StrictReading :=
  if h : c.next.1.token = .eof then ⟨[c.next.1], none⟩
  else if c.next.1.token = .illegal then ⟨[], some c.next.1⟩
  else
    have : c.next.2.unread < c.unread := Cursor.unread_next_lt h
    let tail := ofCursor c.next.2
    ⟨c.next.1 :: tail.taken, tail.refused⟩
termination_by c.unread

def ofString (source : String) : StrictReading := ofCursor (.ofString source)

/-- Every lexeme read, the refused one included. -/
def lexemes (r : StrictReading) : List Lexeme := r.taken ++ r.refused.toList

end StrictReading

/-- The name of a source that no file holds. -/
def unnamedSource : String := "shell"

/-- The diagnostic of an illegal lexeme, which covers one character of the source. -/
def Diagnostic.ofIllegal (source : Array Char) (file : String) (l : Lexeme) : Diagnostic :=
  ⟨.illegalCharacter (source.getD l.start '\x00'), l.start, file⟩

/-- The tokens of a source without illegal characters, or what the first illegal one is. -/
def lexStrict (source : String) (file : Option String) : Except Diagnostic (List Token) :=
  let reading := StrictReading.ofString source
  match reading.refused with
  | some l => .error (.ofIllegal source.toList.toArray (file.getD unnamedSource) l)
  | none => .ok (reading.taken.map (·.token))

end ScriptLexer
