import ScriptLexer.Terminal.Styled

/-! The flags of the command line, and the patterns of command lines as help and errors show them. Each
flag has a long name; three have a letter as well. -/
namespace ScriptLexer.Command

inductive Flag where
  | strict
  | verbose
  | noColor
  | help
  | version
deriving DecidableEq

namespace Flag

/-- All flags, in the order in which similar names are looked up. -/
def all : List Flag := [.strict, .verbose, .noColor, .help, .version]

def name : Flag → String
  | strict => "strict"
  | verbose => "verbose"
  | noColor => "no-color"
  | help => "help"
  | version => "version"

def letter? : Flag → Option Char
  | verbose => some 'v'
  | help => some 'h'
  | version => some 'V'
  | _ => none

/-- The flag as messages show it. -/
def shown (f : Flag) : String := "--" ++ f.name

/-- Whether the flag changes how a run goes; the others end it at once. -/
def isSetting : Flag → Bool
  | strict | verbose | noColor => true
  | help | version => false

def ofName? (name : String) : Option Flag := all.find? (·.name == name)

def ofLetter? (c : Char) : Option Flag := all.find? (·.letter? == some c)

theorem mem_all (f : Flag) : f ∈ all := by cases f <;> decide

@[simp] theorem ofName?_name (f : Flag) : ofName? f.name = some f := by cases f <;> decide

end Flag

/-- A pattern that command lines can have. -/
inductive Pattern where
  /-- Any flags and FILE. -/
  | any
  /-- Some flags, with the FILE if it must stand there. -/
  | parts (flags : List Flag) (file : Bool)
  /-- The flags that are no settings, and then one of the settings or the FILE. -/
  | oneOf (flags : List Flag)
deriving DecidableEq

namespace Pattern

/-- The pattern of a command line with some flags, each of them once. -/
def ofUsed (flags : List Flag) (file : Bool) : Pattern :=
  let distinct := flags.foldl (fun seen f => if seen.contains f then seen else seen ++ [f]) []
  parts distinct file

open Terminal (Part Styled)

private def shownFlags (flags : List Flag) : Styled :=
  flags.flatMap fun f => [" ", .literal f.shown]

/-- The choice between the FILE and the settings. -/
private def choice : String :=
  "<" ++ "|".intercalate ("FILE" :: (Flag.all.filter Flag.isSetting).map Flag.shown) ++ ">"

/-- The pattern as a line without its end. -/
def line (p : Pattern) : Styled :=
  let rest : Styled := match p with
    | any => [" [OPTIONS] [FILE]"]
    | parts flags file => Styled.join [shownFlags flags, [if file then " <FILE>" else " [FILE]"]]
    | oneOf flags => Styled.join [shownFlags (flags.filter (!·.isSetting)), [" ", choice]]
  Styled.join [[.heading "Usage:", " ", .literal "tokenize"], rest]

end Pattern

end ScriptLexer.Command
