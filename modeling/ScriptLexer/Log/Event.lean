import ScriptLexer.Lexeme
import ScriptLexer.Log.Level
import ScriptLexer.Terminal.Styled
import ScriptLexer.Token.Listing

/-! What a run tells its log, as data: the beginning of the run, the opening of the source, each
lexeme read, and the end, which is either a count of tokens or an illegal character. An event becomes
a line: the time, the level flush right in five columns, the message and the fields. On a terminal
the time and the equals signs are dim, the names of the fields are slanted, and each level has its
colour. -/
namespace ScriptLexer.Log

inductive Event where
  | begun (file : String) (strict : Bool)
  | opened (characters : Nat)
  | read (lexeme : Lexeme)
  | refused (start : Nat) (character : Char)
  /-- All tokens are read; a strict reading names its file. -/
  | finished (count : Nat) (file : Option String)
deriving DecidableEq

namespace Event

def level : Event → Level
  | begun .. => .info
  | read _ => .trace
  | opened _ | refused .. | finished .. => .debug

/-- The part of the program that tells it, by the name under which a filter knows that part. -/
def target : Event → String
  | begun .. => "tokenize"
  | _ => "tokenizer::lexer::lexer"

def message : Event → String
  | begun .. => "tokenizing"
  | opened _ => "created lexer"
  | read l =>
    if l.token.isWord then "scanned word"
    else if l.token.isNumber then "scanned number"
    else "read token"
  | refused .. => "illegal character"
  | finished .. => "tokenized source"

/-- Names and values, in the order in which they are shown. -/
def fields : Event → List (String × String)
  | begun file strict => [("file", file), ("strict", toString strict)]
  | opened n => [("chars", toString n)]
  | read l => [("start", toString l.start), ("token", l.token.listed)]
  | refused start c => [("start", toString start), ("character", c.toString)]
  | finished n none => [("count", toString n)]
  | finished n (some file) => [("count", toString n), ("file", file)]

/-- Whether the event has something under the name; the message counts. -/
def hasField (e : Event) (name : String) : Bool :=
  name == "message" || e.fields.any (·.1 == name)

end Event

/-- How lines look: the time they all bear, and whether a terminal's colours are used. -/
structure Style where
  time : String
  colour : Bool
deriving DecidableEq

namespace Style

/-- The text in the rendition with the given number, then back to the plain one. -/
def paint (s : Style) (rendition : Nat) (text : String) : String :=
  if s.colour then Terminal.paint [rendition] text else text

def dim : Nat := 2

def slanted : Nat := 3

end Style

namespace Event

def paddedLevel (e : Event) : String :=
  String.ofList (e.level.label.toList.leftpad 5 ' ')

/-- The event as one line with its end. -/
def line (s : Style) (e : Event) : String :=
  let field := fun (name, value) =>
    " " ++ s.paint Style.slanted name ++ s.paint Style.dim "=" ++ value
  s.paint Style.dim s.time ++ " " ++ s.paint e.level.colour e.paddedLevel ++ " " ++ e.message ++
    String.join (e.fields.map field) ++ "\n"

end Event

end ScriptLexer.Log
