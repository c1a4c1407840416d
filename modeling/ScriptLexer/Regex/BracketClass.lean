import ScriptLexer.Regex.Atom

/-! Classes of characters in brackets: characters, ranges of them, named classes, and classes within
classes, which two signs between them can intersect or subtract. How deep they lie in one another
counts, as it does for all parts of an expression. -/
namespace ScriptLexer.Regex

/-- The greatest depth that is accepted. -/
def maxDepth : Nat := 250

/-- The depth of some parts side by side, by their own depths. -/
def sideBySide : List Nat → Nat
  | [] => 0
  | [depth] => depth
  | depths => depths.foldl max 0 + 1

/-- A class read in part, or one operand of it. -/
structure BracketClass where
  /-- The depth of the operands before, if there is one. -/
  before : Option Nat
  /-- The depths of the members so far. -/
  members : List Nat
  /-- Whether nothing but hyphens has come yet. -/
  fresh : Bool
deriving DecidableEq

namespace BracketClass

def initial : BracketClass := ⟨none, [], true⟩

/-- The depth of what stands in the brackets. -/
def depth (c : BracketClass) : Nat :=
  match c.before with
  | none => sideBySide c.members
  | some depth => max depth (sideBySide c.members) + 1

def add (c : BracketClass) (depth : Nat) : BracketClass :=
  { c with members := depth :: c.members, fresh := false }

/-- Begins another operand. -/
def divide (c : BracketClass) : BracketClass := ⟨some c.depth, [], false⟩

def names : List String :=
  ["alnum", "alpha", "ascii", "blank", "cntrl", "digit", "graph", "lower", "print", "punct",
    "space", "upper", "word", "xdigit"]

/-- A named class after its opening bracket: whether it is negated, and what follows it. -/
def named? (cs : List Char) : Option (Bool × List Char) :=
  match cs with
  | ':' :: rest =>
    let (negated, rest) := match rest with
      | '^' :: rest => (true, rest)
      | _ => (false, rest)
    let name := rest.takeWhile (· != ':')
    match rest.drop name.length with
    | ':' :: ']' :: rest =>
      if names.contains (String.ofList name) then some (negated, rest) else none
    | _ => none
  | _ => none

/-- What stands after an opening bracket, up to the first member. No class of bytes is negated, for
it would match bytes that are no text. -/
def opened? (f : Flags) (cs : List Char) : Option (List Char) :=
  match f.skipSpace cs with
  | '^' :: rest => if f.unicode then some rest else none
  | cs => some cs

/-- A member written as a character or after a backslash. -/
def readAtom (f : Flags) : List Char → Option (Atom × List Char)
  | [] => none
  | '\\' :: rest => Atom.readEscaped f rest
  | c :: rest => some (.literal c false, rest)

/-- A member or a range of them; a hyphen before a hyphen or before the end makes no range. -/
def readMember (f : Flags) (cs : List Char) : Option (List Char) := do
  let (first, rest) ← readAtom f cs
  let alone := if first.isMember f then some rest else none
  match f.skipSpace rest with
  | '-' :: after =>
    let next := f.glimpse? after
    if next = some ']' || next = some '-' then alone
    else
      let (last, rest) ← readAtom f (f.skipSpace after)
      match first, last with
      | .literal a _, .literal b _ =>
        if first.isMember f && last.isMember f && a ≤ b then some rest else none
      | _, _ => none
  | _ => alone

/-- A step in a class that lies in others: the classes open afterwards, or the depth of the whole,
and what follows. -/
def step (f : Flags) (inner : BracketClass) (outer : List BracketClass) (cs : List Char) :
    Option ((Nat ⊕ BracketClass × List BracketClass) × List Char) :=
  let literal (c : Char) (next : BracketClass) (rest : List Char) :=
    if (Atom.literal c false).isMember f then some (.inr (next, outer), rest) else none
  match inner.fresh, cs with
  | true, '-' :: rest => literal '-' { inner with members := 0 :: inner.members } rest
  | true, ']' :: rest =>
    if inner.members.isEmpty then literal ']' (inner.add 0) rest
    else close rest
  | _, ']' :: rest => close rest
  | _, '&' :: '&' :: rest | _, '-' :: '-' :: rest | _, '~' :: '~' :: rest =>
    some (.inr (inner.divide, outer), rest)
  | _, '[' :: rest =>
    match named? rest with
    | some (negated, rest) =>
      if if f.unicode then f.ignoreCase else negated then none
      else some (.inr (inner.add 0, outer), rest)
    | none => (opened? f rest).map fun rest => (.inr (initial, inner :: outer), rest)
  | _, cs => (readMember f cs).map fun rest => (.inr (inner.add 0, outer), rest)
where
  close (rest : List Char) :=
    some (match outer with
      | [] => .inl (inner.depth + 1)
      | next :: others => .inr (next.add (inner.depth + 1), others), rest)

/-- Reads on in a class that lies in others, in as many steps as are given. -/
def run (f : Flags) : Nat → BracketClass → List BracketClass → List Char → Option (Nat × List Char)
  | 0, _, _, _ => none
  | steps + 1, inner, outer, cs => do
    match ← step f inner outer (f.skipSpace cs) with
    | (.inl depth, rest) => return (depth, rest)
    | (.inr (inner, outer), rest) => run f steps inner outer rest

/-- Reads a class after its opening bracket: its depth, and what follows. Each step takes a
character. -/
def read (f : Flags) (cs : List Char) : Option (Nat × List Char) := do
  run f (cs.length + 1) initial [] (← opened? f cs)

end BracketClass

end ScriptLexer.Regex
