import ScriptLexer.Command.Directory
import ScriptLexer.Diagnostic.Render
import ScriptLexer.Lex
import ScriptLexer.Log.Event
import ScriptLexer.Log.Filter

/-! A whole run of the program as a function. Help and version are texts, and end it. Else a source is
lexed, and what is lexed does not depend on the log: a reading gives its result together with all its
events, and only then the filter and the style of the log come in. -/
namespace ScriptLexer.Command

open Terminal (Part Styled)

def versionText : Styled := ["tokenize 0.1.0\n"]

/-- A variable with its present value; a value of several lines goes on below its first. -/
def shownVariable (name : String) (value : Option String) : String :=
  let indent := String.ofList (List.replicate 18 ' ')
  let lines := ((value.getD "").toList.splitOn '\n').map String.ofList
  "[env: " ++ name ++ "=" ++ ("\n" ++ indent).intercalate lines ++ "]"

/-- What a flag is for. -/
def purpose (env : Environment) : Flag → String
  | .strict => "Stop with a diagnostic at the first illegal character"
  | .verbose =>
    "Enable verbose output " ++ shownVariable Environment.verboseName env.verbose
  | .noColor => "Disable color output " ++ shownVariable Environment.noColorName env.noColor
  | .help => "Print help"
  | .version => "Print version"

/-- The line about a flag: its letter, its name in columns as wide as the longest, its purpose. -/
def flagLine (env : Environment) (f : Flag) : Styled :=
  let width := (Flag.all.map (·.shown.length)).foldl max 0
  let gap := String.ofList (List.replicate (width - f.shown.length) ' ')
  let letter : Styled := f.letter?.elim ["    "] fun c => [.literal ("-" ++ c.toString), ", "]
  Styled.join [["  "], letter, [.literal f.shown, gap ++ "  " ++ purpose env f ++ "\n"]]

def helpText (env : Environment) : Styled :=
  Styled.join [
    ["Print the token stream of a source file\n", "\n"],
    Pattern.any.line, ["\n", "\n"],
    [.heading "Arguments:", "\n"],
    ["  [FILE]  Source file to tokenize (default: a built-in sample program)\n", "\n"],
    [.heading "Options:", "\n"],
    Flag.all.flatMap (flagLine env)]

/-- What a run leaves behind. -/
structure Outcome where
  exitCode : Nat
  stdout : String
  stderr : String
deriving DecidableEq

/-- A source read whole: its tokens, or why there are none, and the events on the way. -/
structure Reading where
  events : List Log.Event
  result : Except Diagnostic (List Token)

namespace Reading

def lenient (name source : String) : Reading :=
  let all := lexemes source
  let tokens := all.map (·.token)
  ⟨[.begun name false, .opened source.length] ++ all.map .read ++ [.finished tokens.length none],
    .ok tokens⟩

/-- The event that a strict reading ends with. -/
def strictEnd (name : String) : Except Diagnostic (List Token) → Log.Event
  | .ok tokens => .finished tokens.length (some name)
  | .error d => .refused d.position d.cause.character

def strict (name source : String) : Reading :=
  let all := (StrictReading.ofString source).lexemes
  let result := lexStrict source (some name)
  ⟨[.begun name true, .opened source.length] ++ all.map .read ++ [strictEnd name result], result⟩

def ofSource (isStrict : Bool) (name source : String) : Reading :=
  if isStrict then strict name source else lenient name source

end Reading

namespace Settings

/-- What the log shows: all up to debugging if that is asked for, and else what the filter says. -/
def filter (s : Settings) (setting : Option String) : Log.Filter :=
  if s.verbose then .upTo .debug else .ofSetting setting

/-- The lines of the log for some events. -/
def log (s : Settings) (time : String) (setting : Option String) (events : List Log.Event) :
    String :=
  let filter := s.filter setting
  String.join ((events.filter filter.shows).map (·.line ⟨time, !s.noColor⟩))

/-- The text for a file that cannot be read. -/
def unreadable (path : String) (fault : ReadFault) : String :=
  "Error: failed to read " ++ path ++ "\n\nCaused by:\n    " ++ fault.message ++ "\n"

/-- A run with settings that hold. -/
def run (s : Settings) (time : String) (setting : Option String)
    (readFile : String → Except ReadFault String) : Outcome :=
  match s.source readFile with
  | .error (path, fault) => ⟨1, "", unreadable path fault⟩
  | .ok (name, source) =>
    let reading := Reading.ofSource s.strict name source
    let log := s.log time setting reading.events
    match reading.result with
    | .ok tokens => ⟨0, Token.listing tokens, log⟩
    | .error d =>
      match d.render source with
      | .ok text => ⟨1, "", log ++ text⟩
      | .error fault => ⟨101, "", log ++ fault.message ++ "\n"⟩

end Settings

/-- A run of the program on its arguments, variables and files; the log bears the given time. -/
def run (time : String) (arguments : List String) (env : Environment)
    (readFile : String → Except ReadFault String) : Outcome :=
  match Arguments.read arguments with
  | .error e => ⟨2, "", e.message.render env.hasColour⟩
  | .ok .help => ⟨0, (helpText env).render env.hasColour, ""⟩
  | .ok .version => ⟨0, versionText.render env.hasColour, ""⟩
  | .ok (.run file flags) =>
    match Settings.resolve file flags env with
    | .error e => ⟨2, "", e.message.render env.hasColour⟩
    | .ok settings => settings.run time env.logFilter readFile

/-- The file that a run reads, if it comes to reading one. -/
def fileToRead? (arguments : List String) (env : Environment) : Option String :=
  match Arguments.read arguments with
  | .ok (.run file flags) => ((Settings.resolve file flags env).toOption.bind (·.file))
  | _ => none

end ScriptLexer.Command
