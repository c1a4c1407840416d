import ScriptLexer.CodePoint.Class
import ScriptLexer.Diagnostic.Basic
import ScriptLexer.Line

/-! A diagnostic with the line it is about. Under a header stand a gutter row, the line without its
indentation and without white space at its end, and a row of dashes that ends in a caret below the
offending character. A position inside the indentation is marked at the first character shown; a
position outside the source gives the header alone. -/
namespace ScriptLexer

/-- Why a diagnostic cannot be rendered. -/
inductive RenderFault where
  /-- The row of dashes would be wider than a field can be. -/
  | underlineTooWide
deriving DecidableEq

namespace RenderFault

def message : RenderFault → String
  | underlineTooWide => "Formatting argument out of range"

end RenderFault

/-- The greatest width of a padded field. -/
def maxFieldWidth : Nat := 65535

namespace Diagnostic

/-- The number of spaces and tabs a line starts with. -/
def indentWidth (text : List Char) : Nat :=
  (text.takeWhile fun c => c == ' ' || c == '\t').length

/-- A line without the white space at its end. -/
def trimEnd (text : List Char) : List Char :=
  (text.reverse.dropWhile CodePoint.isWhiteSpace).reverse

def header (d : Diagnostic) : String :=
  "Error: " ++ d.cause.title ++ " (" ++ d.cause.tip ++ ")\n-> " ++ d.file ++ "\n"

/-- The text set flush right in a field of the given width. -/
def flushRight (width : Nat) (fill : Char) (text : String) : String :=
  String.ofList (text.toList.leftpad width fill)

/-- The part of a line that is shown: neither indentation nor white space at the end. -/
def shownText (text : List Char) : List Char := trimEnd (text.drop (indentWidth text))

/-- The width of the dashes with the caret that ends them. -/
def underlineWidth (spot : Spot) : Nat := spot.column - indentWidth spot.text + 1

/-- The three rows for a place in the source. -/
def rows (spot : Spot) : String :=
  let number := toString spot.line
  let gutter := flushRight (number.length + 2) ' ' "|"
  gutter ++ "\n" ++
    number ++ " | " ++ String.ofList (shownText spot.text) ++ "\n" ++
    gutter ++ " " ++ flushRight (underlineWidth spot) '-' "^" ++ "\n"

/-- The diagnostic as text, for the source it is about. -/
def render (d : Diagnostic) (source : String) : Except RenderFault String :=
  match Spot.locate? source d.position with
  | none => .ok d.header
  | some spot =>
    if maxFieldWidth < underlineWidth spot then .error .underlineTooWide
    else .ok (d.header ++ rows spot)

end Diagnostic
end ScriptLexer
