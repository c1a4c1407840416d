/-! Lines of a source and the place of a character among them. A line ends with its line feed, which
belongs to it, so the lines together are the source. -/
namespace ScriptLexer

/-- The lines of a source: a new one begins after each line feed. -/
def lines (source : List Char) : List (List Char) := source.splitBy fun c _ => c != '\n'

/-- The place of a character: its line, counted from one, the text of that line, and the index of
the character in it. -/
structure Spot where
  line : Nat
  text : List Char
  column : Nat
deriving DecidableEq

namespace Spot

/-- The character `n` characters into the given lines, of which the first has the given number. -/
def within? : (number : Nat) → List (List Char) → (n : Nat) → Option Spot
  | _, [], _ => none
  | number, l :: rest, n =>
    if n < l.length then some ⟨number, l, n⟩ else within? (number + 1) rest (n - l.length)

/-- The place of the character with the given index, if the source has so many. -/
def locate? (source : String) (position : Nat) : Option Spot :=
  within? 1 (lines source.toList) position

variable {l : List Char} {n : Nat}

theorem within?_append (h : n < l.length) (number : Nat) (before after : List (List Char)) :
    within? number (before ++ l :: after) (before.flatten.length + n) =
      some ⟨number + before.length, l, n⟩ := by
  induction before generalizing number with
  | nil => simp [within?, h]
  | cons m before ih =>
    have hge : ¬ m.length + before.flatten.length + n < m.length := by omega
    have hsub : m.length + before.flatten.length + n - m.length = before.flatten.length + n := by
      omega
    rw [List.cons_append, within?, List.flatten_cons, List.length_append, if_neg hge, hsub, ih,
      List.length_cons, Nat.add_right_comm, Nat.add_assoc]

/-- The place of a character of a line, by the lines in front of that line. -/
theorem locate?_of_lines {source : String} {before after : List (List Char)}
    (hlines : lines source.toList = before ++ l :: after) (hn : n < l.length) :
    locate? source (before.flatten.length + n) = some ⟨before.length + 1, l, n⟩ := by
  rw [locate?, hlines, within?_append hn, Nat.add_comm 1]

example : locate? "ab\ncd" 4 = some ⟨2, ['c', 'd'], 1⟩ := by decide +kernel

end Spot
end ScriptLexer
