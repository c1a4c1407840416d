import ScriptLexer.CodePoint.Class
import ScriptLexer.Log.Field

/-! Which events a log shows. A filter is a list of directives, written with commas between them; each
sets a threshold for the events it concerns, and of those that concern an event the most specific
decides. An event that no directive concerns is not shown. -/
namespace ScriptLexer.Log

/-- A threshold for the events of some targets. -/
structure Directive where
  /-- What the target has to start with. -/
  target : Option String
  /-- The span that has to enclose the event; since no event here lies in one, a directive that
  names one concerns none. -/
  span : Option String
  /-- The field that the event has to have. -/
  field : Option Field
  threshold : Threshold
deriving DecidableEq

namespace Directive

def ofThreshold (t : Threshold) : Directive := ⟨none, none, none, t⟩

def concerns (d : Directive) (e : Event) : Bool :=
  d.span.isNone && d.target.all (·.toList.isPrefixOf e.target.toList) && d.field.all (·.fits e)

/-- Whether `d` gives way to the later `e` where both concern an event: `e` names a longer target,
or as long a one and a field; of two fields the one later in the alphabet decides, and of two equal
directives the later. -/
def yields (d e : Directive) : Bool :=
  let size (x : Directive) := x.target.elim 0 String.length
  if size d ≠ size e then size d < size e
  else match d.field, e.field with
    | none, _ => true
    | some _, none => false
    | some f, some g => !(decide (g.name < f.name))

/-- What of a directive is still to be read, for finding where its parts begin and end. -/
structure Rest where
  /-- What is left, without the white space around the directive. -/
  shape : List Char
  /-- The number of bytes before it, that white space not counted. -/
  start : Nat

namespace Rest

def ofText (text : List Char) : Rest :=
  let inner := (text.dropWhile CodePoint.isWhiteSpace).reverse.dropWhile CodePoint.isWhiteSpace
  ⟨inner.reverse, 0⟩

/-- Past the given first characters, where `shape` is left. -/
def past (r : Rest) (cs shape : List Char) : Rest :=
  ⟨shape, r.start + (String.ofList cs).utf8ByteSize⟩

/-- Where the first character stands that ends a part, that character, and what follows it. -/
def find? (r : Rest) (ends : Char → Bool) : Option (Nat × Char × Rest) :=
  let part := r.shape.takeWhile (!ends ·)
  match r.shape.drop part.length with
  | [] => none
  | c :: shape =>
    let here := r.past part (c :: shape)
    some (here.start, c, here.past [c] shape)

end Rest

/-- Splits a text after so many bytes, if a character ends there. -/
def splitBytes? : Nat → List Char → Option (List Char × List Char)
  | 0, cs => some ([], cs)
  | _ + 1, [] => none
  | n + 1, c :: rest =>
    if c.utf8Size ≤ n + 1 then
      (splitBytes? (n + 1 - c.utf8Size) rest).map fun (first, last) => (c :: first, last)
    else none

/-- The bytes of a text from one number to another, if these are whole characters. What a part says
is cut out of the whole directive at the numbers found without the white space around it, so white
space in front shifts every part. -/
def slice? (text : List Char) (start stop : Nat) : Option (List Char) := do
  let (_, rest) ← splitBytes? start text
  let (part, _) ← splitBytes? (stop - start) rest
  return part

/-- The level written after an equals sign, where nothing stands for the finest one. -/
private def level? (text : List Char) (r : Rest) : Option Threshold := do
  let (_, level) ← splitBytes? r.start text
  if level.isEmpty then some (.upTo .trace) else Threshold.ofName? (String.ofList level)

/-- What may follow a closing bracket. -/
private def closing? (text : List Char) (d : Directive) (r : Rest) : Option Directive :=
  match r.shape with
  | [] => some d
  | '=' :: shape => (level? text (r.past ['='] shape)).map fun t => { d with threshold := t }
  | _ => none

/-- What stands in brackets after a target: a span, a field in braces, or both. -/
private def bracket? (text : List Char) (target : Option String) (r : Rest) :
    Option Directive := do
  let (stop, last, inner) ← r.find? fun c => c == ']' || c == '\x7b'
  let name ← slice? text r.start stop
  let span := String.ofList name
  if last == ']' then closing? text ⟨target, some span, none, .upTo .trace⟩ inner
  else
    let (stop, _, outer) ← inner.find? (· == '\x7d')
    let content ← slice? text inner.start stop
    if content.isEmpty then none
    else
      let field ← Field.parse? content
      let span := if name.isEmpty then none else some span
      match outer.shape with
      | ']' :: shape =>
        closing? text ⟨target, span, some field, .upTo .trace⟩ (outer.past [']'] shape)
      | _ => none

private def startsTarget (c : Char) : Bool :=
  c == '-' || c == ':' || c == '_' || CodePoint.isAlphabetic c || CodePoint.isNumeric c

/-- A word alone is a level if it names one, and otherwise a target with all its events. -/
private def ofWord (word : List Char) : Directive :=
  match Threshold.ofName? (String.ofList word) with
  | some t => ofThreshold t
  | none => ⟨some (String.ofList word), none, none, .upTo .trace⟩

/-- Reads one directive. -/
def parse? (text : List Char) : Option Directive := do
  let r := Rest.ofText text
  match r.shape with
  | [] => none
  | '[' :: shape => bracket? text none (r.past ['['] shape)
  | c :: _ =>
    if !startsTarget c then none
    else
      match r.find? fun c => c == '=' || c == '[' with
      | none => some (ofWord text)
      | some (stop, last, rest) =>
        let target := some (String.ofList (← slice? text r.start stop))
        if last == '[' then bracket? text target rest
        else (level? text rest).map fun t => ⟨target, none, none, t⟩

end Directive

/-- Directives in the order in which they are written. -/
abbrev Filter := List Directive

namespace Filter

/-- The directives of a text, none for an empty piece; a text with a malformed piece has no reading.
-/
def parse? (text : String) : Option Filter :=
  let pieces := (text.toList.splitOn ',').filter (!·.isEmpty)
  pieces.mapM Directive.parse?

def upTo (level : Level) : Filter := [.ofThreshold (.upTo level)]

/-- The filter that a setting asks for: warnings without one or for a malformed one, errors for one
without directives. -/
def ofSetting : Option String → Filter
  | none => upTo .warn
  | some text =>
    match parse? text with
    | none => upTo .warn
    | some [] => upTo .error
    | some directives => directives

/-- The directive that decides over an event. -/
def deciding? (f : Filter) (e : Event) : Option Directive :=
  (f.filter (·.concerns e)).foldl (fun best d =>
    match best with
    | none => some d
    | some b => if b.yields d then some d else some b) none

def shows (f : Filter) (e : Event) : Bool :=
  match f.deciding? e with
  | some d => d.threshold.allows e.level
  | none => false

end Filter

end ScriptLexer.Log
