/-! The reserved words. A run of letters is a keyword exactly if it is spelled like one; there is no
other way to write one. -/
namespace ScriptLexer

inductive Keyword where
  | function
  | binding
  | conditional
  | alternative
  | result
  | truth
  | falsehood
deriving DecidableEq

namespace Keyword

def all : List Keyword :=
  [.function, .binding, .conditional, .alternative, .result, .truth, .falsehood]

/-- The word as it stands in a source. -/
def spelling : Keyword → String
  | function => "fn"
  | binding => "let"
  | conditional => "if"
  | alternative => "else"
  | result => "return"
  | truth => "true"
  | falsehood => "false"

/-- The name a token listing gives it. -/
def label : Keyword → String
  | function => "Function"
  | binding => "Let"
  | conditional => "If"
  | alternative => "Else"
  | result => "Return"
  | truth => "True"
  | falsehood => "False"

def ofSpelling? (word : String) : Option Keyword := all.find? (·.spelling == word)

theorem mem_all (k : Keyword) : k ∈ all := by cases k <;> decide

theorem spelling_injective {k l : Keyword} (h : k.spelling = l.spelling) : k = l := by
  revert h; cases k <;> cases l <;> decide

@[simp] theorem ofSpelling?_spelling (k : Keyword) : ofSpelling? k.spelling = some k := by
  cases k <;> decide

theorem ofSpelling?_eq_some_iff {word : String} {k : Keyword} :
    ofSpelling? word = some k ↔ word = k.spelling := by
  constructor
  · intro h
    have := List.find?_some h
    simpa using (beq_iff_eq.mp this).symm
  · rintro rfl
    exact ofSpelling?_spelling k

end Keyword
end ScriptLexer
