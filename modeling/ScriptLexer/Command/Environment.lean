import ScriptLexer.Command.Arguments

/-! The variables a run looks at. Two of them stand for a flag that the command line does not give,
one sets the filter of the log, and two settle whether help and errors of usage have colours. -/
namespace ScriptLexer.Command

structure Environment where
  verbose : Option String
  noColor : Option String
  logFilter : Option String
  /-- Forbids colours in help and errors, unless it is empty. -/
  plain : Option String
  /-- Asks for colours in help and errors, unless it is empty; without it they have none. -/
  coloured : Option String
deriving DecidableEq

namespace Environment

def verboseName : String := "TOKENIZE_VERBOSE"

def noColorName : String := "TOKENIZE_NO_COLOR"

def logFilterName : String := "RUST_LOG"

def plainName : String := "NO_COLOR"

def colouredName : String := "CLICOLOR_FORCE"

/-- The variables as a look-up by name gives them. -/
def ofLookup (get : String → Option String) : Environment :=
  ⟨get verboseName, get noColorName, get logFilterName, get plainName, get colouredName⟩

private def isFilled (value : Option String) : Bool := value.any (· ≠ "")

/-- Whether help and errors of usage have colours; what forbids them wins. -/
def hasColour (env : Environment) : Bool := isFilled env.coloured && !isFilled env.plain

/-- What a variable says about a flag: exactly `true` or `false`. -/
def readSwitch (flag : Flag) (value : String) : Except UsageError Bool :=
  if value = "" then .error (.emptyVariable flag)
  else if value = "true" then .ok true
  else if value = "false" then .ok false
  else .error (.invalidVariable flag value (mostSimilar? id value ["true", "false"]))

/-- Whether a flag is set: by the command line, or else by its variable. -/
def resolve (given : List Flag) (flag : Flag) : Option String → Except UsageError Bool
  | none => .ok (given.contains flag)
  | some value => if given.contains flag then .ok true else readSwitch flag value

end Environment

/-- What a run is to do. -/
structure Settings where
  file : Option String
  strict : Bool
  verbose : Bool
  noColor : Bool
deriving DecidableEq

namespace Settings

/-- The settings of a command line and the variables; the variables are looked at after the line. -/
def resolve (file : Option String) (flags : List Flag) (env : Environment) :
    Except UsageError Settings := do
  let verbose ← env.verbose |> Environment.resolve flags .verbose
  let noColor ← env.noColor |> Environment.resolve flags .noColor
  return ⟨file, flags.contains .strict, verbose, noColor⟩

end Settings
end ScriptLexer.Command
