import ScriptLexer.Alphabet
import ScriptLexer.Token.Keyword

/-! Tokens. Identifiers and numbers carry their text; every other token but `illegal` has one fixed
spelling, so a source can be rebuilt from its tokens up to blanks and illegal characters. -/
namespace ScriptLexer

inductive Token where
  | keyword (keyword : Keyword)
  | identifier (name : String)
  | number (digits : String)
  | sign (sign : Sign)
  /-- One character that starts no other token. -/
  | illegal
  /-- The end of the source. -/
  | eof
deriving DecidableEq

namespace Token

/-- The token of a run of letters: a keyword if it is spelled like one. -/
def ofWord (word : String) : Token :=
  match Keyword.ofSpelling? word with
  | some k => keyword k
  | none => identifier word

/-- The sign that the character alone always is. -/
def ofChar? (c : Char) : Option Token := (Sign.ofLone? c).map sign

def isKeyword : Token → Bool
  | keyword _ => true
  | _ => false

/-- Keywords and identifiers. -/
def isWord : Token → Bool
  | keyword _ | identifier _ => true
  | _ => false

def isNumber : Token → Bool
  | number _ => true
  | _ => false

/-- The text of the token in a source; an illegal character does not stand for a fixed one. -/
def spelling? : Token → Option String
  | keyword k => some k.spelling
  | identifier name => some name
  | number digits => some digits
  | sign s => some s.spelling
  | illegal => none
  | eof => some ""

/-- How many characters of a source the token covers. -/
def width : Token → Nat
  | keyword k => k.spelling.length
  | identifier name => name.length
  | number digits => digits.length
  | sign s => s.width
  | illegal => 1
  | eof => 0

/-- The token's name, without its text. -/
def label : Token → String
  | keyword k => k.label
  | identifier _ => "Identifier"
  | number _ => "Int"
  | sign s => s.label
  | illegal => "Illegal"
  | eof => "Eof"

/-- The text that an identifier or a number carries. -/
def payload? : Token → Option String
  | identifier name => some name
  | number digits => some digits
  | _ => none

/-- The first index at which two lists both have a token and these differ. -/
def firstDifference? (a b : List Token) : Option Nat :=
  (a.zip b).findIdx? fun (s, t) => s != t

@[simp] theorem ofWord_keyword (k : Keyword) : ofWord k.spelling = keyword k := by
  simp [ofWord]

theorem ofWord_eq_identifier_iff {word name : String} :
    ofWord word = identifier name ↔ word = name ∧ ∀ k : Keyword, k.spelling ≠ word := by
  unfold ofWord
  split
  next k hk =>
    simp only [reduceCtorEq, false_iff]
    rintro ⟨-, h⟩
    exact h k (Keyword.ofSpelling?_eq_some_iff.mp hk).symm
  next hk =>
    simp only [identifier.injEq, iff_self_and]
    rintro - k rfl
    simp at hk

theorem isWord_ofWord (word : String) : (ofWord word).isWord = true := by
  unfold ofWord; split <;> rfl

/-- Reading a word loses none of it. -/
@[simp] theorem spelling?_ofWord (word : String) : (ofWord word).spelling? = some word := by
  unfold ofWord
  split
  next k hk => simp [spelling?, Keyword.ofSpelling?_eq_some_iff.mp hk]
  next => rfl

theorem length_spelling {t : Token} {s : String} (h : t.spelling? = some s) :
    s.length = t.width := by
  cases t with
  | sign s' =>
    cases h
    rw [← String.length_toList]
    exact s'.length_spelling
  | illegal => cases h
  | _ => cases h; rfl

end Token
end ScriptLexer
