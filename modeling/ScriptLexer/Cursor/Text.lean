import ScriptLexer.Cursor.Basic
import ScriptLexer.Text.Escape

/-! The texts of a cursor: the part of the source that it has passed on the way to a later one, and its
two written forms, a line for a reader and the dump of its four parts. -/
namespace ScriptLexer.Cursor

/-- The text from the cursor up to a later one. -/
def textUntil (c d : Cursor) : String :=
  String.ofList (c.source.extract c.position d.position).toList

def sourceText (c : Cursor) : String := String.ofList c.source.toList

/-- The source, both indices and the character under the cursor, on one line. -/
def described (c : Cursor) : String :=
  "Lexer: input='" ++ c.sourceText ++ "', position=" ++ toString c.position ++
    ", readPosition=" ++ toString c.ahead ++ ", char=" ++
    (match c.current with
      | some ch => "'" ++ ch.toString ++ "'"
      | none => "<eof>")

/-- Each part under its name, the characters quoted. -/
def dumped (c : Cursor) : String :=
  "Lexer \x7b source: [" ++ ", ".intercalate (c.source.toList.map Text.quotedChar) ++
    "], position: " ++ toString c.position ++ ", read_position: " ++ toString c.ahead ++
    ", current: " ++
    (match c.current with
      | some ch => "Some(" ++ Text.quotedChar ch ++ ")"
      | none => "None") ++ " \x7d"

end ScriptLexer.Cursor
