import ScriptLexer.Lexeme

/-! Reading on from a cursor. A stream gives its lexemes one after the other and the end token once,
even when the cursor it was made from had reached the end before, and then gives nothing for ever. A
session has a way back: it is a cursor with a pile of earlier ones, and going back takes the one that
was laid down last. Since a cursor has no memory but its own parts, reading from there gives the same
lexemes again. -/
namespace ScriptLexer

structure Stream where
  cursor : Cursor
  /-- Whether the end token has been given. -/
  finished : Bool
deriving DecidableEq

namespace Stream

def ofCursor (c : Cursor) : Stream := ⟨c, false⟩

def next (s : Stream) : Option Lexeme × Stream :=
  if s.finished then (none, s)
  else (some s.cursor.next.1, ⟨s.cursor.next.2, s.cursor.next.1.token == .eof⟩)

/-- A bound on the lexemes still to come. -/
def remaining (s : Stream) : Nat := if s.finished then 0 else s.cursor.unread + 1

theorem remaining_next_lt {s : Stream} {l : Lexeme} (h : s.next.1 = some l) :
    s.next.2.remaining < s.remaining := by
  unfold next at h ⊢
  split at h
  · cases h
  next hf =>
    have hpos : s.remaining = s.cursor.unread + 1 := by simp [remaining, hf]
    rw [if_neg hf, hpos]
    by_cases he : s.cursor.next.1.token = .eof
    · simp [remaining, he]
    · have := Cursor.unread_next_lt he
      simp only [remaining, beq_iff_eq, he, if_false]
      omega

/-- All lexemes still to come; the last is the end token. -/
def toList (s : Stream) : List Lexeme :=
  match h : s.next with
  | (none, _) => []
  | (some l, t) =>
    have : t.remaining < s.remaining := by simpa [h] using remaining_next_lt (s := s) (by rw [h])
    l :: t.toList
termination_by s.remaining

/-- What the next `n` requests give. -/
def pull : Nat → Stream → List (Option Lexeme)
  | 0, _ => []
  | n + 1, s => s.next.1 :: pull n s.next.2

theorem toList_of_finished {s : Stream} (h : s.finished = true) : s.toList = [] := by
  rw [toList]
  split
  next => rfl
  next l t hn => simp [next, h] at hn

theorem toList_ofCursor (c : Cursor) :
    (ofCursor c).toList =
      c.next.1 :: if c.next.1.token = .eof then [] else (ofCursor c.next.2).toList := by
  rw [toList]
  split
  next t hn => simp [next, ofCursor] at hn
  next l t hn =>
    simp only [next, ofCursor, Bool.false_eq_true, if_false, Prod.mk.injEq, Option.some.injEq] at hn
    obtain ⟨rfl, rfl⟩ := hn
    by_cases he : c.next.1.token = .eof
    · simp [he, toList_of_finished]
    · simp only [if_neg he, ofCursor, beq_eq_false_iff_ne.mpr he]

end Stream

structure Session where
  cursor : Cursor
  /-- The cursors laid down, the last one first. -/
  saved : List Cursor
deriving DecidableEq

namespace Session

def start (source : String) : Session := ⟨.ofString source, []⟩

def read (s : Session) : Lexeme × Session := (s.cursor.next.1, { s with cursor := s.cursor.next.2 })

def save (s : Session) : Session := { s with saved := s.cursor :: s.saved }

/-- Goes back to the cursor laid down last; `none` if there is none left. -/
def restore? (s : Session) : Option Session :=
  match s.saved with
  | [] => none
  | c :: rest => some ⟨c, rest⟩

/-- The lexemes from here on; the session stays where it is. -/
def rest (s : Session) : List Lexeme := (Stream.ofCursor s.cursor).toList

@[simp] theorem restore?_save (s : Session) : s.save.restore? = some s := rfl

end Session

end ScriptLexer
