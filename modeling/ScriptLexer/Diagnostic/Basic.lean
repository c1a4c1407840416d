import ScriptLexer.Text.Escape

/-! Diagnostics: what is wrong with a source, where in it, and in which file. The wording stands
here and nowhere else. -/
namespace ScriptLexer

/-- What can be wrong with a source. -/
inductive Cause where
  /-- A character that starts no token. -/
  | illegalCharacter (character : Char)
deriving DecidableEq

structure Diagnostic where
  cause : Cause
  /-- The index of the offending character. -/
  position : Nat
  /-- The name of the source. -/
  file : String
deriving DecidableEq

namespace Cause

def title : Cause → String
  | illegalCharacter _ => "IllegalCharacter"

def character : Cause → Char
  | illegalCharacter c => c

def message : Cause → String
  | illegalCharacter c => "illegal character: " ++ Text.quotedChar c

/-- What a reader is told to look at. -/
def tip : Cause → String
  | illegalCharacter c =>
    "`" ++ String.ofList (Text.escape .either c) ++ "` does not start any token"

def dumped : Cause → String
  | illegalCharacter c => "IllegalCharacter \x7b character: " ++ Text.quotedChar c ++ " \x7d"

end Cause

namespace Diagnostic

def message (d : Diagnostic) : String :=
  d.cause.message ++ " at " ++ d.file ++ ":" ++ toString d.position

def dumped (d : Diagnostic) : String :=
  "Error \x7b internal_error: " ++ d.cause.dumped ++ ", position: Position(" ++
    toString d.position ++ ", " ++ Text.quotedString d.file ++ ") \x7d"

end Diagnostic
end ScriptLexer
