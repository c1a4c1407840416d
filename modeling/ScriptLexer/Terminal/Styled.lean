import ScriptLexer.Terminal.Sequence

/-! Texts whose parts look different on a terminal. A part says what it is; how it looks follows
from that alone. -/
namespace ScriptLexer.Terminal

/-- The text in the renditions with the given numbers, then back to the plain one. -/
def paint (renditions : List Nat) (text : String) : String :=
  String.join (renditions.map fun n => "\x1b[" ++ toString n ++ "m") ++ text ++ "\x1b[0m"

/-- What a part of a text is. -/
inductive Role where
  | text
  /-- The word that announces an error. -/
  | failure
  | heading
  /-- What is to be typed as it stands. -/
  | literal
  /-- What was given and is wrong. -/
  | invalid
  /-- What would be right. -/
  | valid
deriving DecidableEq

/-- The numbers of the renditions a part is shown in. -/
def Role.renditions : Role → List Nat
  | text => []
  | failure => [1, 31]
  | heading => [1, 4]
  | literal => [1]
  | invalid => [33]
  | valid => [32]

structure Part where
  role : Role
  text : String
deriving DecidableEq

namespace Part

instance : Coe String Part := ⟨fun text => ⟨.text, text⟩⟩

def failure (text : String) : Part := ⟨.failure, text⟩

def heading (text : String) : Part := ⟨.heading, text⟩

def literal (text : String) : Part := ⟨.literal, text⟩

def invalid (text : String) : Part := ⟨.invalid, text⟩

def valid (text : String) : Part := ⟨.valid, text⟩

/-- The part with its renditions. -/
def painted (p : Part) : String :=
  if p.role = .text then p.text else paint p.role.renditions p.text

end Part

/-- A text as its parts in order. -/
abbrev Styled := List Part

namespace Styled

def join (texts : List Styled) : Styled := texts.flatten

def painted (s : Styled) : String := String.join (s.map Part.painted)

/-- The text as it is put out. Without colour all control sequences are taken out, those in the
texts of the parts as well; with colour nothing is. -/
def render (s : Styled) (colour : Bool) : String :=
  if colour then s.painted else plain s.painted

end Styled
end ScriptLexer.Terminal
