import ScriptLexer.Command.Run
import Std.Time.Format

/-! The program: it fetches what a run depends on, the arguments, the variables, the file and the
time, and puts out what the run leaves behind. -/
namespace ScriptLexer.Command

def faultOfError : IO.Error → ReadFault
  | .noFileOrDirectory .. => .missing
  | .inappropriateType _ code _ => if code = 21 then .directory else .notDirectory
  | .invalidArgument .. => .nameTooLong
  | .permissionDenied .. => .other "Permission denied (os error 13)"
  | error => .other (toString error)

/-- The text of a file of the system. -/
def readFile (path : String) : IO (Except ReadFault String) := do
  try
    let content ← IO.FS.readBinFile path
    return (String.fromUTF8? content).elim (.error .notText) .ok
  catch error => return .error (faultOfError error)

/-- The time of day as the log writes it. -/
def timeNow : IO String := do
  let now ← Std.Time.Timestamp.now
  return (Std.Time.DateTime.ofTimestampWithZone now .UTC).format "uuuu-MM-dd'T'HH:mm:ss.SSSSSS'Z'"

def environment : IO Environment := do
  return ⟨← IO.getEnv Environment.verboseName, ← IO.getEnv Environment.noColorName,
    ← IO.getEnv Environment.logFilterName, ← IO.getEnv Environment.plainName,
    ← IO.getEnv Environment.colouredName⟩

end ScriptLexer.Command

open ScriptLexer.Command in
def main (arguments : List String) : IO UInt32 := do
  let env ← environment
  let content ← match fileToRead? arguments env with
    | some path => readFile path
    | none => pure (.error .missing)
  let outcome := run (← timeNow) arguments env fun _ => content
  (← IO.getStdout).putStr outcome.stdout
  (← IO.getStderr).putStr outcome.stderr
  return outcome.exitCode.toUInt32
