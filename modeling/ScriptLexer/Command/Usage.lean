import ScriptLexer.Command.Flag

/-! What can be wrong with a command line or with the variables that stand for flags, and the text
that says so. -/
namespace ScriptLexer.Command

/-- What a command line has used so far: a flag, or the FILE. -/
inductive Used where
  | flag (flag : Flag)
  | file
deriving DecidableEq

inductive UsageError where
  /-- A long flag that does not exist, with the similar one there is, and what was used before. -/
  | unknownName (name : String) (similar : Option Flag) (used : List Used)
  /-- A letter that is no flag. -/
  | unknownLetter (letter : Char)
  /-- A second FILE. -/
  | extraFile (text : String)
  | repeated (flag : Flag)
  /-- A value for a flag, which takes none, and what was used before. -/
  | unneededValue (flag : Flag) (value : String) (used : List Used)
  | emptyFile
  | emptyVariable (flag : Flag)
  /-- A variable that is neither true nor false, with the similar one of these. -/
  | invalidVariable (flag : Flag) (value : String) (similar : Option String)
deriving DecidableEq

namespace UsageError

open Terminal (Part Styled)

/-- How to hand over as a value what looks like a flag. -/
def asValueTip (text : String) : Styled :=
  ["to pass '", .invalid text, "' as a value, use '", .valid ("-- " ++ text), "'"]

/-- The first line, after the word that announces an error. -/
def headline : UsageError → Styled
  | unknownName name _ _ => ["unexpected argument '", .invalid ("--" ++ name), "' found"]
  | unknownLetter c => ["unexpected argument '", .invalid ("-" ++ c.toString), "' found"]
  | extraFile text => ["unexpected argument '", .invalid text, "' found"]
  | repeated f => ["the argument '", .invalid f.shown, "' cannot be used multiple times"]
  | unneededValue f value _ =>
    ["unexpected value '", .invalid value, "' for '", .literal f.shown,
      "' found; no more were expected"]
  | emptyFile => ["a value is required for '", .invalid "[FILE]", "' but none was supplied"]
  | emptyVariable f => ["a value is required for '", .invalid f.shown, "' but none was supplied"]
  | invalidVariable f value _ =>
    ["invalid value '", .invalid value, "' for '", .literal f.shown, "'"]

/-- The values that would have done, if the error is about one of a few. -/
def expected? : UsageError → Option Styled
  | emptyVariable _ | invalidVariable .. => some [.valid "true", ", ", .valid "false"]
  | _ => none

def tip? : UsageError → Option Styled
  | unknownName name none _ => some (asValueTip ("--" ++ name))
  | unknownName _ (some f) _ => some ["a similar argument exists: '", .valid f.shown, "'"]
  | unknownLetter c => some (asValueTip ("-" ++ c.toString))
  | invalidVariable _ _ (some value) => some ["a similar value exists: '", .valid value, "'"]
  | _ => none

private def flagsOf (used : List Used) : List Flag :=
  used.filterMap fun
    | .flag f => some f
    | .file => none

/-- The pattern shown, for the errors that show one. An unneeded value after something used shows
what could stand there; with nothing used it shows its flag alone. -/
def pattern? : UsageError → Option Pattern
  | unknownName _ similar used =>
    let flags := flagsOf used ++ similar.toList
    if flags.isEmpty && !used.contains .file then some .any
    else some (.ofUsed flags (used.contains .file))
  | unneededValue f _ used => some (if used.isEmpty then .parts [f] false else .oneOf [f])
  | unknownLetter _ | extraFile _ | repeated _ => some .any
  | _ => none

/-- The whole text of the error. -/
def message (e : UsageError) : Styled :=
  Styled.join [
    [.failure "error:", " "], e.headline, ["\n"],
    e.expected?.elim [] fun values => Styled.join [["  [possible values: "], values, ["]\n"]],
    e.tip?.elim [] fun tip => Styled.join [["\n  ", .valid "tip:", " "], tip, ["\n"]],
    e.pattern?.elim [] fun pattern => Styled.join [["\n"], pattern.line, ["\n"]],
    ["\nFor more information, try '", .literal "--help", "'.\n"]]

end UsageError
end ScriptLexer.Command
