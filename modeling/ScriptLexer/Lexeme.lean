import ScriptLexer.Cursor.Text
import ScriptLexer.Token.Basic

/-! Lexemes: tokens with the place they start at, and the step that reads one of them. A sign is the
longest that fits, and so are a word and a number. At the end of the source a step gives the end
token and changes nothing, so it can be repeated. -/
namespace ScriptLexer

structure Lexeme where
  /-- The index of its first character. -/
  start : Nat
  token : Token
deriving DecidableEq

namespace Lexeme

/-- The index after its last character. -/
def stop (l : Lexeme) : Nat := l.start + l.token.width

end Lexeme

namespace Cursor
open Alphabet

/-- The lexeme that starts under the cursor, which stands on no blank, and the cursor after it. -/
def lexeme (c : Cursor) : Lexeme × Cursor :=
  match c.current with
  | none => (⟨c.position, .eof⟩, c.advance)
  | some ch =>
    match Sign.starting? ch c.following with
    | some sign => (⟨c.position, .sign sign⟩, c.advanceBy sign.width)
    | none =>
      if isLetter ch then
        (⟨c.position, .ofWord (c.textUntil (c.advanceWhile isLetter))⟩, c.advanceWhile isLetter)
      else if isDigit ch then
        (⟨c.position, .number (c.textUntil (c.advanceWhile isDigit))⟩, c.advanceWhile isDigit)
      else (⟨c.position, .illegal⟩, c.advance)

/-- The next lexeme after any blanks, and the cursor after it. -/
def next (c : Cursor) : Lexeme × Cursor := c.skipBlanks.lexeme

/-- The cursor after `n` lexemes, the end token counted as often as it is given. -/
def after : Nat → Cursor → Cursor
  | 0, c => c
  | n + 1, c => after n c.next.2

theorem unread_lexeme_lt {c : Cursor} (h : c.lexeme.1.token ≠ .eof) :
    c.lexeme.2.unread < c.unread := by
  unfold lexeme at h ⊢
  split
  next hc => simp [hc] at h
  next ch hc =>
    have hsome : c.current.isSome = true := by simp [hc]
    split
    next sign _ => exact unread_advanceBy_lt sign.width_pos hsome
    next =>
      split
      next hl => exact unread_advanceWhile_lt (by simp [hc, hl])
      next =>
        split
        next hd => exact unread_advanceWhile_lt (by simp [hc, hd])
        next => exact unread_advance_lt hsome

/-- Every lexeme but the end takes at least one character. -/
theorem unread_next_lt {c : Cursor} (h : c.next.1.token ≠ .eof) : c.next.2.unread < c.unread :=
  Nat.lt_of_lt_of_le (unread_lexeme_lt h) (unread_advanceWhile_le _ c)

end Cursor
end ScriptLexer
