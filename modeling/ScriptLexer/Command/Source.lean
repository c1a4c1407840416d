import ScriptLexer.Command.Environment

/-! What a run reads: the file that is named, or else a sample program. -/
namespace ScriptLexer.Command

/-- Why a file cannot be read. -/
inductive ReadFault where
  | missing
  | directory
  /-- A name below something that is no directory. -/
  | notDirectory
  | nameTooLong
  /-- The content is no UTF-8. -/
  | notText
  /-- What else a system may say. -/
  | other (reason : String)
deriving DecidableEq

namespace ReadFault

def message : ReadFault → String
  | missing => "No such file or directory (os error 2)"
  | directory => "Is a directory (os error 21)"
  | notDirectory => "Not a directory (os error 20)"
  | nameTooLong => "File name too long (os error 36)"
  | notText => "stream did not contain valid UTF-8"
  | other reason => reason

end ReadFault

/-- The name that stands for a file's. -/
def sampleName : String := "<sample>"

def sampleText : String :=
  "let five = 5;\n" ++
  "let ten = 10;\n" ++
  "\n" ++
  "if (five != ten) \x7b\n" ++
  "    return true;\n" ++
  "\x7d;\n" ++
  "\n" ++
  "if (five == ten) \x7b\n" ++
  "    return false;\n" ++
  "\x7d;\n"

namespace Settings

/-- The source to be read, with its name. -/
def source (s : Settings) (readFile : String → Except ReadFault String) :
    Except (String × ReadFault) (String × String) :=
  match s.file with
  | none => .ok (sampleName, sampleText)
  | some path =>
    match readFile path with
    | .ok text => .ok (path, text)
    | .error fault => .error (path, fault)

end Settings
end ScriptLexer.Command
