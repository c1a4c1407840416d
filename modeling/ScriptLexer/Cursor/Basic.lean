import ScriptLexer.Alphabet

/-! A cursor over a source held as an array of characters. It keeps the character under it, so that
a test costs no access to the array, and the index of the one after. Once all is read it rests at
the length of the source with no character under it; `unread` counts what is still to come, and
every loop here ends because `advance` lowers it. -/
namespace ScriptLexer

structure Cursor where
  source : Array Char
  /-- The index of the character under the cursor. -/
  position : Nat
  /-- The index of the character after it. -/
  ahead : Nat
  /-- The character under the cursor. -/
  current : Option Char
deriving DecidableEq

namespace Cursor

/-- Moves on by one character, and stays at the end of the source. -/
def advance (c : Cursor) : Cursor :=
  let position := min c.ahead c.source.size
  ⟨c.source, position, position + 1, c.source[c.ahead]?⟩

/-- The cursor on the first character. -/
def start (source : Array Char) : Cursor := advance ⟨source, 0, 0, none⟩

def ofString (source : String) : Cursor := start source.toList.toArray

/-- The character after the one under the cursor. -/
def following (c : Cursor) : Option Char := c.source[c.ahead]?

def advanceBy : Nat → Cursor → Cursor
  | 0, c => c
  | n + 1, c => advanceBy n c.advance

/-- The number of characters not yet passed, the one under the cursor included. -/
def unread (c : Cursor) : Nat := (c.source.size - c.ahead) + (if c.current.isSome then 1 else 0)

theorem unread_advance_lt {c : Cursor} (h : c.current.isSome = true) :
    c.advance.unread < c.unread := by
  by_cases hlt : c.ahead < c.source.size
  · simp only [unread, advance, h, Array.getElem?_eq_getElem hlt, Option.isSome_some, if_true]
    omega
  · simp only [unread, advance, h, Array.getElem?_eq_none (Nat.le_of_not_lt hlt),
      Option.isSome_none, if_true]
    simp only [Bool.false_eq_true, if_false]
    omega

theorem unread_advance_le (c : Cursor) : c.advance.unread ≤ c.unread := by
  by_cases h : c.current.isSome = true
  · exact Nat.le_of_lt (unread_advance_lt h)
  · by_cases hlt : c.ahead < c.source.size
    · simp only [unread, advance, h, Array.getElem?_eq_getElem hlt, Option.isSome_some, if_true]
      simp only [Bool.false_eq_true, if_false]
      omega
    · simp only [unread, advance, h, Array.getElem?_eq_none (Nat.le_of_not_lt hlt),
        Option.isSome_none]
      simp only [Bool.false_eq_true, if_false]
      omega

theorem unread_advanceBy_le (n : Nat) (c : Cursor) : (c.advanceBy n).unread ≤ c.unread := by
  induction n generalizing c with
  | zero => exact Nat.le_refl _
  | succ n ih => exact Nat.le_trans (ih c.advance) c.unread_advance_le

theorem unread_advanceBy_lt {n : Nat} {c : Cursor} (hn : 0 < n) (h : c.current.isSome = true) :
    (c.advanceBy n).unread < c.unread := by
  obtain ⟨m, rfl⟩ := Nat.exists_eq_succ_of_ne_zero (Nat.ne_of_gt hn)
  exact Nat.lt_of_le_of_lt (unread_advanceBy_le m c.advance) (unread_advance_lt h)

theorem isSome_of_any {p : Char → Bool} {o : Option Char} (h : o.any p = true) :
    o.isSome = true := by
  cases o with
  | none => simp at h
  | some a => rfl

/-- Moves to the first character from here on that fails the test, or to the end. -/
def advanceWhile (p : Char → Bool) (c : Cursor) : Cursor :=
  if h : c.current.any p = true then
    have : c.advance.unread < c.unread := unread_advance_lt (isSome_of_any h)
    c.advance.advanceWhile p
  else c
termination_by c.unread

def skipBlanks (c : Cursor) : Cursor := c.advanceWhile Alphabet.isBlank

theorem unread_advanceWhile_le (p : Char → Bool) (c : Cursor) :
    (c.advanceWhile p).unread ≤ c.unread := by
  fun_induction advanceWhile p c with
  | case1 c h _ ih => exact Nat.le_trans ih c.unread_advance_le
  | case2 c h => exact Nat.le_refl _

theorem unread_advanceWhile_lt {p : Char → Bool} {c : Cursor} (h : c.current.any p = true) :
    (c.advanceWhile p).unread < c.unread := by
  rw [advanceWhile, dif_pos h]
  exact Nat.lt_of_le_of_lt (unread_advanceWhile_le p c.advance)
    (unread_advance_lt (isSome_of_any h))

end Cursor
end ScriptLexer
