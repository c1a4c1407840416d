import ScriptLexer.Log.Event
import ScriptLexer.Regex.Basic

/-! What a directive of a filter asks of the fields: a name, and with an equals sign a value. A
value is a truth value, a number or a regular expression. -/
namespace ScriptLexer.Log

/-- A field asked for. -/
structure Field where
  name : String
  /-- The value that the field has to have in an enclosing span. -/
  value : Option String
deriving DecidableEq

namespace Field

/-- The decimal point and the digits after it, and then what else there is. -/
private def afterPoint (cs : List Char) : List Char × List Char :=
  match cs with
  | '.' :: rest => (rest.takeWhile Char.isDigit, rest.dropWhile Char.isDigit)
  | _ => ([], cs)

private def dropSign : List Char → List Char
  | '+' :: rest | '-' :: rest => rest
  | cs => cs

/-- Whether the text is empty or a power of ten. -/
private def isPower (cs : List Char) : Bool :=
  match cs with
  | [] => true
  | c :: rest =>
    let digits := dropSign rest
    c.toLower == 'e' && !digits.isEmpty && digits.all Char.isDigit

/-- Whether the text is a number in decimal digits, or the name of one that is none. -/
def isNumber (text : List Char) : Bool :=
  let size := dropSign text
  if ["inf", "infinity", "nan"].contains (String.ofList (size.map Char.toLower)) then true
  else
    let whole := size.takeWhile Char.isDigit
    let (parts, rest) := afterPoint (size.dropWhile Char.isDigit)
    !(whole.isEmpty && parts.isEmpty) && isPower rest

/-- Whether the text can be the value of a field. The truth values are regular expressions too. -/
def isValue (text : List Char) : Bool := isNumber text || Regex.isValid text

/-- Reads a name, and the value between the first equals sign and the next. -/
def parse? (text : List Char) : Option Field :=
  match text.splitOn '=' with
  | name :: value :: _ =>
    if isValue value then some ⟨String.ofList name, some (String.ofList value)⟩ else none
  | _ => some ⟨String.ofList text, none⟩

/-- Whether an event outside all spans fits. Values are compared in spans only. -/
def fits (f : Field) (e : Event) : Bool := f.value.isNone && e.hasField f.name

end Field
end ScriptLexer.Log
