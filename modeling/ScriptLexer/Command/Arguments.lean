import ScriptLexer.Command.Usage

/-! Reading a command line. Arguments are taken from left to right and the first error ends it; help
and version end it as soon as they are met. A FILE is checked only when the next flag is taken or
the line ends, so an error that the argument after it makes comes before an error of its own. For a
flag that does not exist the most similar one is looked up, by the Jaro similarity of their names. -/
namespace ScriptLexer.Command

namespace Similarity

/-- The indices in `b` of the characters matched by those of `a`, in the order of `a`. -/
def matched (a b : List Char) : List (Char × Nat) :=
  let reach := max a.length b.length / 2 - 1
  a.zipIdx.foldl (fun found (c, i) =>
    let free := b.zipIdx.find? fun (d, j) =>
      d == c && i - reach ≤ j && j ≤ i + reach && !(found.any (·.2 == j))
    match free with
    | some (_, j) => found ++ [(c, j)]
    | none => found) []

/-- The similarity of two texts, from zero to one. -/
def jaro (a b : List Char) : Float :=
  if a.isEmpty && b.isEmpty then 1
  else
    let found := matched a b
    if found.isEmpty then 0
    else
      let inFirst := found.map (·.1)
      let inSecond := (b.zipIdx.filter fun (_, j) => found.any (·.2 == j)).map (·.1)
      let moved := ((inFirst.zip inSecond).filter fun (c, d) => c != d).length / 2
      let m := Float.ofNat found.length
      (m / Float.ofNat a.length + m / Float.ofNat b.length +
        Float.ofNat (found.length - moved) / m) / 3

/-- What is less similar than this is not suggested. -/
def least : Float := 0.7

end Similarity

/-- The candidate whose name is most similar to the text, the last of several; none if no name is
similar enough. -/
def mostSimilar? {α : Type} (name : α → String) (text : String) (candidates : List α) : Option α :=
  let scored := candidates.map fun a => (a, Similarity.jaro text.toList (name a).toList)
  let best := scored.foldl (fun best (a, score) =>
    if Similarity.least < score then
      match best with
      | none => some (a, score)
      | some (_, top) => if score < top then best else some (a, score)
    else best) none
  best.map (·.1)

/-- What a command line asks for by itself, without the variables. -/
inductive Request where
  | help
  | version
  | run (file : Option String) (flags : List Flag)
deriving DecidableEq

namespace Arguments

/-- A command line read in part. -/
structure Progress where
  /-- The FILE, if it was met. -/
  file : Option String
  /-- Whether the FILE is still to be checked. -/
  pending : Bool
  /-- The flags and the checked FILE, in the order in which they were met. -/
  used : List Used
deriving DecidableEq

namespace Progress

def initial : Progress := ⟨none, false, []⟩

/-- The flags met so far. -/
def flags (p : Progress) : List Flag :=
  p.used.filterMap fun
    | .flag f => some f
    | .file => none

/-- What an error shows as used when no check of its own comes before it. -/
def usedByNow (p : Progress) : List Used := if p.pending then p.used ++ [.file] else p.used

/-- Checks the FILE if that is still to be done: it must not be empty. -/
def settle (p : Progress) : Except UsageError Progress :=
  if !p.pending then .ok p
  else if p.file = some "" then .error .emptyFile
  else .ok { p with pending := false, used := p.used ++ [.file] }

/-- Takes a FILE, of which there may be one. -/
def takeFile (p : Progress) (text : String) : Except UsageError Progress :=
  if p.file.isSome then .error (.extraFile text)
  else .ok { p with file := some text, pending := true }

/-- Takes a flag that was not met before; two of them end the reading. -/
def takeFlag (p : Progress) (f : Flag) : Except UsageError (Progress ⊕ Request) := do
  let p ← p.settle
  match f with
  | .help => return .inr .help
  | .version => return .inr .version
  | _ =>
    if p.flags.contains f then throw (.repeated f)
    return .inl { p with used := p.used ++ [.flag f] }

/-- Takes a long flag, given what follows the dashes; a value may be written to it but none is
allowed. -/
def takeLong (p : Progress) (text : List Char) : Except UsageError (Progress ⊕ Request) :=
  let name := String.ofList (text.takeWhile (· != '='))
  match Flag.ofName? name, text.dropWhile (· != '=') with
  | none, _ => .error (.unknownName name (mostSimilar? Flag.name name Flag.all) p.usedByNow)
  | some f, [] => p.takeFlag f
  | some f, _ :: value => .error (.unneededValue f (String.ofList value) p.used)

/-- Takes the letters after one dash, each a flag. -/
def takeLetters (p : Progress) : List Char → Except UsageError (Progress ⊕ Request)
  | [] => .ok (.inl p)
  | c :: rest =>
    match Flag.ofLetter? c with
    | none => .error (.unknownLetter c)
    | some f => do
      match ← p.takeFlag f with
      | .inl q => takeLetters q rest
      | .inr request => return .inr request

/-- The line has ended. -/
def finish (p : Progress) : Except UsageError Request := do
  let p ← p.settle
  return .run p.file p.flags

/-- Every argument left is a FILE. -/
def takeFiles (p : Progress) : List String → Except UsageError Request
  | [] => p.finish
  | text :: rest => do takeFiles (← p.takeFile text) rest

def takeAll (p : Progress) : List String → Except UsageError Request
  | [] => p.finish
  | argument :: rest =>
    match argument.toList with
    | ['-', '-'] => p.takeFiles rest
    | '-' :: '-' :: text => do
      match ← p.takeLong text with
      | .inl q => q.takeAll rest
      | .inr request => return request
    | '-' :: c :: letters => do
      match ← p.takeLetters (c :: letters) with
      | .inl q => q.takeAll rest
      | .inr request => return request
    | _ => do (← p.takeFile argument).takeAll rest

end Progress

/-- Reads a command line. -/
def read (arguments : List String) : Except UsageError Request :=
  Progress.initial.takeAll arguments

end Arguments

end ScriptLexer.Command
