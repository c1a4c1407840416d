import ScriptLexer.CodePoint.Class
import ScriptLexer.Regex.BracketClass

/-! Whether a text is a regular expression. The texts asked about have no closing brace, so that
whatever needs one is malformed here: a repetition with a count, and a number or property in braces.
-/
namespace ScriptLexer.Regex

/-- What a group is made of. -/
inductive Item where
  /-- Flags set for what follows. -/
  | flags
  /-- What can be repeated, with its depth. -/
  | operand (depth : Nat)
deriving DecidableEq

def Item.depth : Item → Nat
  | flags => 0
  | operand depth => depth

/-- A group read in part; the whole expression is one, too. -/
structure Group where
  /-- The depths of the alternatives before. -/
  branches : List Nat
  /-- The items of the present alternative, the last of them first. -/
  items : List Item
  /-- The flags that hold after the group. -/
  outside : Flags
deriving DecidableEq

namespace Group

def depth (g : Group) : Nat :=
  let last := sideBySide (g.items.map Item.depth)
  if g.branches.isEmpty then last else sideBySide (last :: g.branches)

def add (g : Group) (item : Item) : Group := { g with items := item :: g.items }

/-- Begins another alternative. -/
def divide (g : Group) : Group :=
  { g with branches := sideBySide (g.items.map Item.depth) :: g.branches, items := [] }

/-- Repeats the last item, if it can be repeated. -/
def repeated? (g : Group) : Option Group :=
  match g.items with
  | .operand depth :: items => some { g with items := .operand (depth + 1) :: items }
  | _ => none

end Group

/-- An expression read in part. -/
structure Progress where
  flags : Flags
  /-- The names of groups so far. -/
  names : List String
  inner : Group
  outer : List Group
deriving DecidableEq

namespace Progress

def initial : Progress := ⟨.initial, [], ⟨[], [], .initial⟩, []⟩

def add (p : Progress) (item : Item) : Progress := { p with inner := p.inner.add item }

/-- Opens a group in which the given flags hold. -/
def openGroup (p : Progress) (inside : Flags) : Progress :=
  { p with flags := inside, inner := ⟨[], [], p.flags⟩, outer := p.inner :: p.outer }

def closeGroup? (p : Progress) : Option Progress :=
  match p.outer with
  | [] => none
  | next :: others =>
    some { p with
      flags := p.inner.outside
      inner := next.add (.operand (p.inner.depth + 1))
      outer := others }

private def isNameStart (c : Char) : Bool := c == '_' || CodePoint.isAlphabetic c

private def isNamePart (c : Char) : Bool :=
  isNameStart c || CodePoint.isNumeric c || c == '.' || c == '[' || c == ']'

/-- Opens a group with a name that no other has, after the opening angle bracket. -/
def openNamed (p : Progress) (cs : List Char) : Option (Progress × List Char) :=
  let name := cs.takeWhile (· != '>')
  let text := String.ofList name
  match name, cs.drop name.length with
  | c :: others, '>' :: rest =>
    if isNameStart c && others.all isNamePart && !p.names.contains text then
      some ({ p.openGroup p.flags with names := text :: p.names }, rest)
    else none
  | _, _ => none

/-- What stands after an opening parenthesis: a name, flags, or the group itself. There is no
looking ahead or behind. -/
def readGroup (p : Progress) (cs : List Char) : Option (Progress × List Char) :=
  match p.flags.skipSpace cs with
  | '?' :: '=' :: _ | '?' :: '!' :: _ | '?' :: '<' :: '=' :: _ | '?' :: '<' :: '!' :: _ => none
  | '?' :: 'P' :: '<' :: rest | '?' :: '<' :: rest => p.openNamed rest
  | '?' :: rest => do
    let (flags, letters, last, rest) ← p.flags.readLetters [] rest
    if last == ':' then some (p.openGroup flags, rest)
    else if letters.isEmpty then none
    else some ({ p.add .flags with flags := flags }, rest)
  | cs => some (p.openGroup p.flags, cs)

def addAtom (p : Progress) (atom : Atom) (rest : List Char) : Option (Progress × List Char) :=
  if atom.isAllowed p.flags then some (p.add (.operand 0), rest) else none

/-- Repeats the last item; a question mark after that is part of the sign. -/
def addRepetition (p : Progress) (cs : List Char) : Option (Progress × List Char) :=
  p.inner.repeated?.map fun inner =>
    ({ p with inner := inner }, match cs with
      | '?' :: rest => rest
      | _ => cs)

/-- Reads on after the character given. -/
def step (p : Progress) (c : Char) (rest : List Char) : Option (Progress × List Char) :=
  match c with
  | '(' => p.readGroup rest
  | ')' => p.closeGroup?.map (·, rest)
  | '|' => some ({ p with inner := p.inner.divide }, rest)
  | '[' => (BracketClass.read p.flags rest).map fun (depth, rest) => (p.add (.operand depth), rest)
  | '?' | '*' | '+' => p.addRepetition rest
  | '\x7b' => none
  | '\\' => (Atom.readEscaped p.flags rest).bind fun (atom, rest) => p.addAtom atom rest
  | '.' => if p.flags.unicode then some (p.add (.operand 0), rest) else none
  | '^' | '$' => p.addAtom (.position false) rest
  | _ => p.addAtom (.literal c false) rest

/-- Reads to the end, in as many steps as are given. -/
def run (p : Progress) : Nat → List Char → Option Progress
  | 0, _ => none
  | steps + 1, cs =>
    match p.flags.skipSpace cs with
    | [] => some p
    | c :: rest => (p.step c rest).bind fun (p, rest) => p.run steps rest

end Progress

/-- Whether the text is a regular expression. Each step takes a character. -/
def isValid (text : List Char) : Bool :=
  match Progress.initial.run (text.length + 1) text with
  | none => false
  | some p => p.outer.isEmpty && p.inner.depth ≤ maxDepth

end ScriptLexer.Regex
